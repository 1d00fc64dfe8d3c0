import LineShell.Proofs.Words.Grammar
import LineShell.Proofs.Words.Trim

/-!
# How the words of a line grow

A line may go on, and what the rest of it can do to its words is limited by two facts: marks are
never taken back (`Mode.marks_append`), and a word ends at a gap and nowhere else
(`gather_append_gap`).

* Going on **loses nothing**: all words of the line but the last stand in the longer line as they
  are, and the last is the beginning of the word in its place (`words_append_stable`). It makes no
  difference where the line is cut, be it between quotes or behind a backslash, for the mode at the
  cut only tells which marks the rest leaves. So this is a fact about marks alone (`goesOn_gather`).
* At a blank the line falls into two parts, each with words of its own, **just if it is cut outside
  quotes and not behind a backslash** (`words_append_blank_iff`). Anywhere else the blank is a
  character of a word, which shows where the line ends with it. There are rests that hide it.

The places of the second kind are told without modes, too: what stands before them is a sequence of
complete segments (`after_eq_plain_iff`).
-/

namespace LineShell

/-! ### Words that go on -/

/-- The words `after` go on from the words `before`. All words but the last are the same, and the
last is the beginning of the word in its place. -/
def GoesOn (before after : List Text) : Prop :=
  before = [] ∨ ∃ done last more later,
    before = done ++ [last] ∧ after = done ++ (last ++ more) :: later

/-- Words go on behind others as they do by themselves. -/
theorem GoesOn.append_left {before after : List Text} (h : GoesOn before after)
    (front : List Text) : GoesOn (front ++ before) (front ++ after) := by
  rcases h with rfl | ⟨done, last, more, later, rfl, rfl⟩
  · rcases List.eq_nil_or_concat front with rfl | ⟨done, last, rfl⟩
    · exact .inl rfl
    · -- the last word in front is the last of all, and what comes is behind it
      refine .inr ⟨done, last, [], after, ?_, ?_⟩
      · rw [List.append_nil, List.concat_eq_append]
      · rw [List.concat_eq_append, List.append_assoc, List.append_nil]
        rfl
  · refine .inr ⟨front ++ done, last, more, later, ?_, ?_⟩ <;> rw [List.append_assoc]

/-- Any marks begin with characters, behind which they end or have a gap. -/
theorem exists_eq_letters_append (ms : List Mark) :
    ∃ (t : Text) (rest : List Mark), ms = letters t ++ rest ∧
      (rest = [] ∨ ∃ ns, rest = .gap :: ns) := by
  induction ms with
  | nil => exact ⟨[], [], rfl, .inl rfl⟩
  | cons m ms ih =>
    cases m with
    | gap => exact ⟨[], .gap :: ms, rfl, .inr ⟨ms, rfl⟩⟩
    | letter c =>
      obtain ⟨t, rest, rfl, hrest⟩ := ih
      exact ⟨c :: t, rest, rfl, hrest⟩

/-- Any marks end with characters, before which they begin or have a gap. -/
theorem exists_eq_append_letters (ms : List Mark) :
    ∃ t : Text, ms = letters t ∨ ∃ front, ms = front ++ .gap :: letters t := by
  induction ms with
  | nil => exact ⟨[], .inl rfl⟩
  | cons m ms ih =>
    obtain ⟨t, rfl | ⟨front, rfl⟩⟩ := ih
    · cases m with
      | gap => exact ⟨t, .inr ⟨[], rfl⟩⟩
      | letter c => exact ⟨c :: t, .inl rfl⟩
    · exact ⟨t, .inr ⟨m :: front, rfl⟩⟩

/-- Characters without a gap go on as the beginning of a word. -/
theorem goesOn_gather_letters (t : Text) (ms : List Mark) :
    GoesOn (gather (letters t)) (gather (letters t ++ ms)) := by
  by_cases ht : t = []
  · rw [ht]
    exact .inl rfl
  · obtain ⟨more, rest, rfl, hrest⟩ := exists_eq_letters_append ms
    have hmore : t ++ more ≠ [] := List.append_ne_nil_of_left_ne_nil ht more
    have hbefore : gather (letters t) = [t] := by
      simpa using gather_letters_append_of_ne_nil ht (.inl rfl)
    have hafter : gather (letters t ++ (letters more ++ rest)) = (t ++ more) :: gather rest := by
      rw [← List.append_assoc, ← letters_append, gather_letters_append_of_ne_nil hmore hrest]
    exact .inr ⟨[], t, more, gather rest, hbefore, hafter⟩

/-- The words of some marks **go on with whatever marks come behind**. -/
theorem goesOn_gather (ms ns : List Mark) : GoesOn (gather ms) (gather (ms ++ ns)) := by
  obtain ⟨t, rfl | ⟨front, rfl⟩⟩ := exists_eq_append_letters ms
  · exact goesOn_gather_letters t ns
  · rw [List.append_assoc, List.cons_append, gather_append_gap, gather_append_gap]
    exact (goesOn_gather_letters t ns).append_left (gather front)

/-- A line that goes on **keeps its words**: all but the last as they are and in their places, and
the last as the beginning of the word in its place. All their characters stay, and what is added are
those that the rest leaves, read in the mode that the line ends in. -/
theorem words_append_stable (line rest : Text) :
    (words line = [] ∨ ∃ done last more later,
      words line = done ++ [last] ∧
        words (line ++ rest) = done ++ (last ++ more) :: later) ∧
    (words (line ++ rest)).flatten =
      (words line).flatten ++ ((Mode.plain.after line).marks rest).filterMap Mark.letter? := by
  rw [words, words, Mode.marks_append]
  refine ⟨goesOn_gather _ _, ?_⟩
  rw [flatten_gather, flatten_gather, List.filterMap_append]

/-- The cut is between a backslash inside double quotes and the character that decides about it. -/
example : words "a \"b\\".toList = ["a".toList, "b".toList] ∧
    words ("a \"b\\".toList ++ "n c\"d".toList) = ["a".toList, "b\\n cd".toList] := by decide

/-! ### Where a line may be cut -/

/-- A line ends outside quotes and not behind a backslash **just if it is made of complete
segments**. -/
theorem after_eq_plain_iff {line : Text} :
    Mode.plain.after line = .plain ↔
      ∃ ss : List Segment, (∀ s ∈ ss, s.Proper) ∧ line = ss.flatMap Segment.written := by
  constructor
  · intro hplain
    obtain ⟨ss, hss, -⟩ := existsUnique_segmented line
    refine ⟨ss, ?_⟩
    induction hss with
    | nil => exact ⟨by simp, rfl⟩
    | @segment s rest ss hs _ ih =>
      rw [Mode.after_append, (Segment.reads_written hs).after_eq] at hplain
      obtain ⟨hproper, hrest⟩ := ih hplain
      exact ⟨List.forall_mem_cons.2 ⟨hs, hproper⟩, by rw [List.flatMap_cons, ← hrest]⟩
    -- the other rules are for lines that end in another mode
    | backslash => exact absurd hplain (by decide)
    | openSingle ht =>
      have hopen := (Mode.reads_openSingle ht).after_eq
      exact absurd (hopen.symm.trans hplain) (by decide)
    | openDouble ht =>
      have hopen := (Mode.reads_openDouble ht).after_eq
      exact absurd (hopen.symm.trans hplain) (by decide)
    | openPending ht =>
      have hopen := (Mode.reads_openPending ht).after_eq
      exact absurd (hopen.symm.trans hplain) (by decide)
  · rintro ⟨ss, hproper, rfl⟩
    exact (Mode.Reads.flatMap fun s hs ↦ Segment.reads_written (hproper s hs)).after_eq

/-- A blank behind a line that ends outside quotes **separates it from the rest**. -/
theorem words_append_blank {line : Text} (hplain : Mode.plain.after line = .plain) {b : Char}
    (hb : isBlank b = true) (rest : Text) :
    words (line ++ b :: rest) = words line ++ words rest := by
  have hblank := Mode.reads_blank hb
  have hrest : Mode.plain.marks (b :: rest) = .gap :: Mode.plain.marks rest := by
    rw [← List.singleton_append, Mode.marks_append, hblank.marks_eq, hblank.after_eq]
    rfl
  rw [words, Mode.marks_append, hplain, hrest, gather_append_gap]
  rfl

/-- A blank separates a line from **whatever stands behind it** just if the line ends outside quotes
and not behind a backslash, which is to say that all its segments are complete. -/
theorem words_append_blank_iff (line : Text) {b : Char} (hb : isBlank b = true) :
    ((∀ rest, words (line ++ b :: rest) = words line ++ words rest) ↔
      Mode.plain.after line = .plain) ∧
    (Mode.plain.after line = .plain ↔
      ∃ ss : List Segment, (∀ s ∈ ss, s.Proper) ∧ line = ss.flatMap Segment.written) := by
  refine ⟨⟨fun h ↦ ?_, fun hplain rest ↦ words_append_blank hplain hb rest⟩, after_eq_plain_iff⟩
  by_contra hopen
  have hnothing : words (line ++ [b]) = words line := by
    rw [h [], show words [] = [] from rfl, List.append_nil]
  exact words_append_blank_ne [] hopen hb hnothing

/-- An ideographic space behind a quoted run, and one between quotes. -/
theorem words_append_blank_ideographic :
    isBlank '\u3000' = true ∧
      (∀ rest, words ("echo 'a b'".toList ++ '\u3000' :: rest) =
        ["echo".toList, "a b".toList] ++ words rest) ∧
      ¬ ∀ rest, words ("echo \"a b".toList ++ '\u3000' :: rest) =
        ["echo".toList, "a b".toList] ++ words rest := by
  have hblank : isBlank '\u3000' = true := by decide
  refine ⟨hblank, fun rest ↦ ?_, fun h ↦ ?_⟩
  · have hplain : Mode.plain.after "echo 'a b'".toList = .plain := by decide
    rw [((words_append_blank_iff "echo 'a b'".toList hblank).1.2 hplain) rest]
    rfl
  · have hopen := (words_append_blank_iff "echo \"a b".toList hblank).1.1 h
    exact absurd hopen (by decide)

/-- The blank in the middle is between quotes, and the words are the same as if it were not. -/
example : words "' ' ".toList = words "'".toList ++ words "' ".toList := by decide

end LineShell
