import LineShell.Words

/-!
# What runs of characters leave

The marks of a line are those of its parts, each read in the mode that the part before it ends in.
`Mode.Reads` keeps both halves of that, the marks and the mode, together, so that parts are put
together by `Mode.Reads.append` alone and no later proof unfolds `marks` or `after`.

The parts are a character that stands for itself, a blank, a backslash with the character behind it,
and what stands between quotes. Between single quotes that is any text without a single quote;
between double quotes it is an `Enclosed` text, where every double quote has a backslash before it
and every backslash a character behind it, and such a text is read as its `unescape`.

**Gathering splits at gaps and nowhere else**: `gather_append_gap` beside its definition takes a
gathering apart, and `gather_letters` says what a part without gaps comes to.
-/

namespace LineShell

/-! ### Texts between quotes -/

/-- Outside quotes the character stands for itself: it is no blank, no backslash and no quote. -/
def IsPlain (c : Char) : Prop := isBlank c = false ∧ c ≠ '\\' ∧ c ≠ '\'' ∧ c ≠ '"'

instance : DecidablePred IsPlain := fun c ↦
  inferInstanceAs (Decidable (isBlank c = false ∧ c ≠ '\\' ∧ c ≠ '\'' ∧ c ≠ '"'))

/-- A blank is no character with a meaning of its own. -/
theorem ne_of_isBlank {c : Char} (h : isBlank c = true) : c ≠ '\\' ∧ c ≠ '\'' ∧ c ≠ '"' := by
  refine ⟨?_, ?_, ?_⟩ <;> rintro rfl <;> exact absurd h (by decide)

/-- The text may stand between double quotes: read from its beginning, each backslash takes the
character behind it along, and no double quote is left over. -/
inductive Enclosed : Text → Prop
  | nil : Enclosed []
  | char {c : Char} {t : Text} (hquote : c ≠ '"') (hslash : c ≠ '\\') (ht : Enclosed t) :
    Enclosed (c :: t)
  | pair (c : Char) {t : Text} (ht : Enclosed t) : Enclosed ('\\' :: c :: t)

/-- What a text between double quotes stands for: a backslash before a double quote or a backslash
is dropped, and every other backslash is kept. -/
def unescape : Text → Text
  | [] => []
  | '\\' :: c :: t => if c = '"' ∨ c = '\\' then c :: unescape t else '\\' :: c :: unescape t
  | c :: t => c :: unescape t

theorem unescape_pair (c : Char) (t : Text) :
    unescape ('\\' :: c :: t) =
      (if c = '"' ∨ c = '\\' then [c] else ['\\', c]) ++ unescape t := by
  rw [unescape]
  split <;> rfl

theorem unescape_cons {c : Char} (h : c ≠ '\\') (t : Text) :
    unescape (c :: t) = c :: unescape t := by
  rw [unescape]
  rintro d r rfl
  exact absurd rfl h

/-! ### Reading in parts -/

/-- A text as the marks of its characters. -/
def letters (t : Text) : List Mark := t.map .letter

@[simp] theorem letters_nil : letters [] = [] := rfl

@[simp] theorem letters_cons (c : Char) (t : Text) :
    letters (c :: t) = .letter c :: letters t := rfl

/-- A text as so many gaps. -/
def gaps (t : Text) : List Mark := t.map fun _ ↦ .gap

@[simp] theorem letters_append (s t : Text) : letters (s ++ t) = letters s ++ letters t :=
  List.map_append

namespace Mode

/-- Read in the mode `m`, the text leaves the marks `ms` and goes on in the mode `n`. -/
structure Reads (m : Mode) (t : Text) (ms : List Mark) (n : Mode) : Prop where
  marks_eq : m.marks t = ms
  after_eq : m.after t = n

namespace Reads

variable {m n k : Mode} {s t : Text} {ms ns : List Mark}

theorem nil (m : Mode) : m.Reads [] [] m := ⟨rfl, rfl⟩

/-- Texts are read **one after the other**. -/
theorem append (hs : m.Reads s ms n) (ht : n.Reads t ns k) : m.Reads (s ++ t) (ms ++ ns) k := by
  refine ⟨?_, ?_⟩
  · rw [marks_append, hs.marks_eq, hs.after_eq, ht.marks_eq]
  · rw [after_append, hs.after_eq, ht.after_eq]

/-- A single character is read as the table of the modes says. -/
theorem char {c : Char} (hmarks : m.marksOf c = ms) (hnext : m.next c = n) :
    m.Reads [c] ms n :=
  ⟨(List.append_nil _).trans hmarks, hnext⟩

/-- Parts that all lead from a mode back to it are read in any number. -/
theorem flatMap {α : Type} {l : List α} {written : α → Text} {left : α → List Mark}
    (h : ∀ a ∈ l, m.Reads (written a) (left a) m) :
    m.Reads (l.flatMap written) (l.flatMap left) m := by
  induction l with
  | nil => exact nil m
  | cons a l ih =>
    rw [List.flatMap_cons, List.flatMap_cons]
    exact (h a List.mem_cons_self).append (ih fun b hb ↦ h b (List.mem_cons_of_mem a hb))

end Reads

/-- Outside quotes a plain character leaves itself. -/
theorem reads_plain {c : Char} (h : IsPlain c) : plain.Reads [c] [.letter c] plain := by
  obtain ⟨hblank, hslash, hsingle, hdouble⟩ := h
  have hmarks : plain.marksOf c = [.letter c] := by
    simp [marksOf, hblank, hslash, hsingle, hdouble]
  have hnext : plain.next c = plain := by
    simp [next, hslash, hsingle, hdouble]
  exact Reads.char hmarks hnext

/-- Outside quotes a blank leaves a gap. -/
theorem reads_blank {c : Char} (h : isBlank c = true) : plain.Reads [c] [.gap] plain := by
  obtain ⟨hslash, hsingle, hdouble⟩ := ne_of_isBlank h
  have hmarks : plain.marksOf c = [.gap] := by simp [marksOf, h, hslash, hsingle, hdouble]
  have hnext : plain.next c = plain := by simp [next, hslash, hsingle, hdouble]
  exact Reads.char hmarks hnext

theorem reads_blanks {t : Text} (h : ∀ c ∈ t, isBlank c = true) : plain.Reads t (gaps t) plain := by
  induction t with
  | nil => exact Reads.nil plain
  | cons c t ih =>
    exact (reads_blank (h c List.mem_cons_self)).append
      (ih fun d hd ↦ h d (List.mem_cons_of_mem c hd))

/-- Outside quotes a backslash makes the next character a plain one. -/
theorem reads_pair (c : Char) : plain.Reads ['\\', c] [.letter c] plain := ⟨rfl, rfl⟩

/-- Between single quotes every character leaves itself. -/
theorem reads_single {t : Text} (h : '\'' ∉ t) : single.Reads t (letters t) single := by
  induction t with
  | nil => exact Reads.nil single
  | cons c t ih =>
    obtain ⟨hc, ht⟩ := not_or.1 (mt List.mem_cons.2 h)
    have hmarks : single.marksOf c = [.letter c] := by simp [marksOf, Ne.symm hc]
    have hnext : single.next c = single := by simp [next, Ne.symm hc]
    exact (Reads.char hmarks hnext).append (ih ht)

/-- Between double quotes an enclosed text leaves what it stands for. -/
theorem reads_double {t : Text} (h : Enclosed t) :
    double.Reads t (letters (unescape t)) double := by
  induction h with
  | nil => exact Reads.nil double
  | @char c t hquote hslash ht ih =>
    have hmarks : double.marksOf c = [.letter c] := by simp [marksOf, hquote, hslash]
    have hnext : double.next c = double := by simp [next, hquote, hslash]
    rw [unescape_cons hslash]
    exact (Reads.char hmarks hnext).append ih
  | pair c ht ih =>
    -- the two characters are read together, for after the backslash alone the mode is another one
    have hmarks : double.marks ['\\', c] =
        letters (if c = '"' ∨ c = '\\' then [c] else ['\\', c]) := by
      simp only [marks_cons, marks_nil, List.append_nil]
      by_cases hc : c = '"' ∨ c = '\\' <;> simp [marksOf, next, hc]
    rw [unescape_pair, letters_append]
    exact (Reads.mk hmarks rfl : double.Reads ['\\', c] _ double).append ih

/-- A single quote that is not closed leaves what stands behind it. -/
theorem reads_openSingle {t : Text} (h : '\'' ∉ t) : plain.Reads ('\'' :: t) (letters t) single :=
  have hopen : plain.Reads ['\''] [] single := ⟨rfl, rfl⟩
  hopen.append (reads_single h)

/-- So does a double quote. -/
theorem reads_openDouble {t : Text} (h : Enclosed t) :
    plain.Reads ('"' :: t) (letters (unescape t)) double :=
  have hopen : plain.Reads ['"'] [] double := ⟨rfl, rfl⟩
  hopen.append (reads_double h)

/-- A last backslash behind such a double quote leaves nothing yet. -/
theorem reads_openPending {t : Text} (h : Enclosed t) :
    plain.Reads ('"' :: (t ++ ['\\'])) (letters (unescape t)) doubleEscaped := by
  have hpending : double.Reads ['\\'] [] doubleEscaped := ⟨rfl, rfl⟩
  simpa using (reads_openDouble h).append hpending

end Mode

/-! ### Gathering -/

@[simp] theorem gather_nil : gather [] = [] := rfl

/-- A gap at the front belongs to no word. -/
@[simp] theorem gather_gap_cons (ms : List Mark) : gather (.gap :: ms) = gather ms := by
  simpa using gather_append_gap [] ms

@[simp] theorem gather_gaps_append (t : Text) (ms : List Mark) :
    gather (gaps t ++ ms) = gather ms := by
  induction t with
  | nil => rfl
  | cons c t ih =>
    rw [← ih]
    exact gather_gap_cons (gaps t ++ ms)

/-- Characters without a gap between them are **one word**, unless there are none. -/
theorem gather_letters (t : Text) : gather (letters t) = [t].filter (· ≠ []) := by
  have hsplit : (letters t).splitOn Mark.gap = [letters t] := by
    rw [List.splitOn_eq_splitOnP]
    refine List.splitOnP_eq_singleton fun m hm ↦ ?_
    obtain ⟨c, -, rfl⟩ := List.mem_map.1 hm
    rfl
  have hback : (letters t).filterMap Mark.letter? = t := by
    rw [letters, List.filterMap_map]
    exact List.filterMap_some
  rw [gather, hsplit, List.map_singleton, hback]

/-- Characters before a gap or the end of the line are a word, unless there are none. -/
theorem gather_letters_append (t : Text) {ms : List Mark} (h : ms = [] ∨ ∃ ns, ms = .gap :: ns) :
    gather (letters t ++ ms) = [t].filter (· ≠ []) ++ gather ms := by
  rcases h with rfl | ⟨ns, rfl⟩
  · rw [List.append_nil, gather_letters, gather_nil, List.append_nil]
  · rw [gather_append_gap, gather_letters, gather_gap_cons]

theorem gather_letters_append_of_ne_nil {t : Text} (ht : t ≠ []) {ms : List Mark}
    (h : ms = [] ∨ ∃ ns, ms = .gap :: ns) : gather (letters t ++ ms) = t :: gather ms := by
  have hword : [t].filter (· ≠ []) = [t] := List.filter_cons_of_pos (decide_eq_true ht)
  rw [gather_letters_append t h, hword]
  rfl

end LineShell
