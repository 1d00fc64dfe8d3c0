import LineShell.Text.Blank

/-!
# The words of a line

A line is read once, character by character. What a character means depends on the `Mode` it is read
in, and reading it leaves marks: characters that belong to words, and gaps where a word may end. The
words are the runs of characters between gaps, runs without characters left out.

```
mode            reads         leaves            goes on in
plain           a blank       a gap             plain
plain           \  '  "       nothing           escaped, single, double
plain           c             c                 plain
escaped         c             c                 plain
single          '             nothing           plain
single          c             c                 single
double          "             nothing           plain
double          \             nothing           doubleEscaped
double          c             c                 double
doubleEscaped   " or \        that character    double
doubleEscaped   c             \ and c           double
```

**Nothing is held back.** No mode leaves marks at the end of the line, so a quote that is still open
is closed there and a backslash without a character after it is dropped; and since marks are never
taken back, `marks_append` describes how a line grows.
-/

namespace LineShell

/-! ### Reading a line -/

/-- How the next character is to be understood. -/
inductive Mode
  /-- Outside quotes. -/
  | plain
  /-- After a backslash outside quotes. -/
  | escaped
  /-- Inside single quotes. -/
  | single
  /-- Inside double quotes. -/
  | double
  /-- After a backslash inside double quotes. -/
  | doubleEscaped
  deriving DecidableEq, Repr

/-- What reading leaves behind: a character of a word, or a place where a word may end. -/
inductive Mark
  | letter (c : Char)
  | gap
  deriving DecidableEq, Repr

namespace Mode

/-- The mode after a character. -/
def next : Mode → Char → Mode
  | plain, c =>
    if c = '\\' then escaped
    else if c = '\'' then single
    else if c = '"' then double
    else plain
  | escaped, _ => plain
  | single, c => if c = '\'' then plain else single
  | double, c => if c = '"' then plain else if c = '\\' then doubleEscaped else double
  | doubleEscaped, _ => double

/-- The marks that a character leaves. -/
def marksOf : Mode → Char → List Mark
  | plain, c =>
    if c = '\\' ∨ c = '\'' ∨ c = '"' then [] else if isBlank c then [.gap] else [.letter c]
  | escaped, c => [.letter c]
  | single, c => if c = '\'' then [] else [.letter c]
  | double, c => if c = '"' ∨ c = '\\' then [] else [.letter c]
  | doubleEscaped, c => if c = '"' ∨ c = '\\' then [.letter c] else [.letter '\\', .letter c]

/-- The mode that a text ends in. -/
def after (m : Mode) (t : Text) : Mode := t.foldl next m

/-- The marks that a text leaves. -/
def marks : Mode → Text → List Mark
  | _, [] => []
  | m, c :: rest => m.marksOf c ++ marks (m.next c) rest

@[simp] theorem after_nil (m : Mode) : m.after [] = m := rfl

@[simp] theorem after_cons (m : Mode) (c : Char) (t : Text) :
    m.after (c :: t) = (m.next c).after t := rfl

theorem after_append (m : Mode) (s t : Text) : m.after (s ++ t) = (m.after s).after t :=
  List.foldl_append

@[simp] theorem marks_nil (m : Mode) : m.marks [] = [] := rfl

@[simp] theorem marks_cons (m : Mode) (c : Char) (t : Text) :
    m.marks (c :: t) = m.marksOf c ++ (m.next c).marks t := rfl

/-- A longer line leaves **the marks of its beginning, and then those of the rest**, read in the
mode that the beginning ends in. -/
theorem marks_append (m : Mode) (s t : Text) :
    m.marks (s ++ t) = m.marks s ++ (m.after s).marks t := by
  induction s generalizing m with
  | nil => rfl
  | cons c s ih => simp [ih]

end Mode

/-! ### Gathering the marks -/

/-- The character that a mark stands for, if it stands for one. -/
def Mark.letter? : Mark → Option Char
  | letter c => some c
  | gap => none

/-- The runs of characters between gaps, those without characters left out. -/
def gather (ms : List Mark) : List Text :=
  ((ms.splitOn .gap).map (·.filterMap Mark.letter?)).filter (· ≠ [])

/-- The words of a line. -/
def words (line : Text) : List Text := gather (Mode.plain.marks line)

/-- Gathering never yields an empty word. -/
theorem ne_nil_of_mem_gather {ms : List Mark} {w : Text} (h : w ∈ gather ms) : w ≠ [] := by
  simpa using (List.mem_filter.1 h).2

/-- A gap **splits the gathering** into two that know nothing of each other. -/
theorem gather_append_gap (ms ns : List Mark) :
    gather (ms ++ .gap :: ns) = gather ms ++ gather ns := by
  simp [gather, List.splitOn, List.splitOnP_append_cons]

end LineShell
