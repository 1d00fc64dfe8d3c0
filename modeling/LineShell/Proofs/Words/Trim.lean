import LineShell.Proofs.Session
import LineShell.Proofs.Words.Marks
import Mathlib.Data.List.DropRight

/-!
# What trimming takes away

The shell trims a line before it reads its words. Blanks in front of a line are gaps and nothing
else, so cutting them off changes no word. Blanks at the end are gaps only if the line without them
ends outside quotes and not behind a backslash: there they may be cut off, and everywhere else one
of them would have been a character of a word.

So there is **exactly one condition** for a line to have the words of its trimmed form,
`Text.TrimsFreely`: it does not end in a blank, or it ends in `Mode.plain` once its last blanks are
gone.

That the condition is needed is seen from the number of characters in all words together. It is the
number of characters among the marks (`flatten_gather`), marks are never taken back, and a blank
that is read in any other mode than `Mode.plain` leaves at least one
(`Mode.exists_letter_of_isBlank`).
-/

namespace LineShell

/-! ### Trimming -/

namespace Text

/-- What is trimmed off the front are blanks. -/
theorem exists_append_trimStart (t : Text) :
    ∃ blanks : Text, (∀ c ∈ blanks, isBlank c = true) ∧ t = blanks ++ t.trimStart :=
  ⟨t.takeWhile isBlank, fun _ hc ↦ List.mem_takeWhile_imp hc,
    List.takeWhile_append_dropWhile.symm⟩

/-- What is trimmed off the end are blanks. -/
theorem exists_trimEnd_append (t : Text) :
    ∃ blanks : Text, (∀ c ∈ blanks, isBlank c = true) ∧ t = t.trimEnd ++ blanks :=
  ⟨t.rtakeWhile isBlank, fun _ hc ↦ List.mem_rtakeWhile_imp hc,
    List.rdropWhile_append_rtakeWhile.symm⟩

/-- Nothing is trimmed off the end of a text just if it does not end in a blank. -/
theorem trimEnd_eq_self_iff {t : Text} :
    t.trimEnd = t ↔ ∀ c ∈ t.getLast?, isBlank c = false := by
  refine List.rdropWhile_eq_self_iff.trans ⟨fun h c hc ↦ ?_, fun h hne ↦ ?_⟩
  · obtain ⟨hne, rfl⟩ := List.mem_getLast?_eq_getLast hc
    simpa using h hne
  · simpa using h _ (List.getLast?_eq_some_getLast hne)

theorem trimEnd_cons (c : Char) (t : Text) :
    trimEnd (c :: t) = if trimEnd t = [] ∧ isBlank c then [] else c :: trimEnd t := by
  rw [trimEnd, List.reverse_cons, List.dropWhile_append]
  by_cases hempty : t.reverse.dropWhile isBlank = []
  · by_cases hc : isBlank c <;> simp [hempty, hc, trimEnd]
  · simp [hempty, trimEnd]

/-- It makes no difference which end is trimmed first. -/
theorem trim_eq_trimStart_trimEnd (t : Text) : t.trim = t.trimEnd.trimStart := by
  induction t with
  | nil => rfl
  | cons c t ih =>
    by_cases hc : isBlank c = true
    · have htrim : trim (c :: t) = trim t := by
        rw [trim, trimStart, List.dropWhile_cons_of_pos hc]
        rfl
      rw [htrim, ih, trimEnd_cons]
      split
      · next hall => rw [hall.1]
      · exact (List.dropWhile_cons_of_pos hc).symm
    · -- nothing is trimmed off the front, before or after
      have htrim : trim (c :: t) = trimEnd (c :: t) := by
        rw [trim, trimStart, List.dropWhile_cons_of_neg hc]
      rw [htrim, trimEnd_cons, if_neg fun hall ↦ hc hall.2]
      exact (List.dropWhile_cons_of_neg hc).symm

end Text

/-! ### What blanks leave -/

/-- In any other mode than the plain one, a blank is a character of a word. -/
theorem Mode.exists_letter_of_isBlank {m : Mode} (hm : m ≠ .plain) {b : Char}
    (hb : isBlank b = true) : ∃ c, Mark.letter c ∈ m.marksOf b := by
  obtain ⟨hslash, hsingle, hdouble⟩ := ne_of_isBlank hb
  cases m with
  | plain => exact absurd rfl hm
  | escaped => exact ⟨b, by simp [marksOf]⟩
  | single => exact ⟨b, by simp [marksOf, hsingle]⟩
  | double => exact ⟨b, by simp [marksOf, hdouble, hslash]⟩
  | doubleEscaped => exact ⟨b, by simp [marksOf, hdouble, hslash]⟩

/-- The words of some marks have **all characters of the marks and no others**. -/
theorem flatten_gather (ms : List Mark) : (gather ms).flatten = ms.filterMap Mark.letter? := by
  have hruns : ((ms.splitOn .gap).map (·.filterMap Mark.letter?)).flatten =
      ms.filterMap Mark.letter? := by
    induction ms with
    | nil => rfl
    | cons m ms ih =>
      rw [List.splitOn_cons_eq_if_modifyHead]
      obtain ⟨first, others, hsplit⟩ := List.exists_cons_of_ne_nil (List.splitOn_ne_nil .gap ms)
      rw [hsplit] at ih ⊢
      cases m with
      | gap =>
        rw [List.filterMap_cons_none (f := Mark.letter?) rfl, ← ih]
        simp
      | letter c => simpa [Mark.letter?] using ih
  rw [gather, List.flatten_filter_ne_nil, hruns]

/-- Gaps at the end belong to no word. -/
theorem gather_append_gaps (ms : List Mark) (t : Text) : gather (ms ++ gaps t) = gather ms := by
  cases t with
  | nil => rw [gaps, List.map_nil, List.append_nil]
  | cons c t =>
    have hgaps : gather (gaps t) = [] := by
      simpa using gather_gaps_append t []
    show gather (ms ++ .gap :: gaps t) = gather ms
    rw [gather_append_gap, hgaps, List.append_nil]

/-! ### Words of a trimmed line -/

/-- Blanks in front of a line belong to no word. -/
theorem words_trimStart (line : Text) : words line.trimStart = words line := by
  obtain ⟨blanks, hblanks, hline⟩ := line.exists_append_trimStart
  have hread := Mode.reads_blanks hblanks
  conv_rhs => rw [hline]
  rw [words, words, Mode.marks_append, hread.after_eq, hread.marks_eq, gather_gaps_append]

/-- Blanks behind a line **that ends outside quotes** belong to no word. -/
theorem words_append_blanks {line blanks : Text} (hplain : Mode.plain.after line = .plain)
    (hblanks : ∀ c ∈ blanks, isBlank c = true) : words (line ++ blanks) = words line := by
  rw [words, words, Mode.marks_append, hplain, (Mode.reads_blanks hblanks).marks_eq,
    gather_append_gaps]

/-- Behind any other line, the first blank **adds a character to the words**. -/
theorem words_append_blank_ne {line : Text} (blanks : Text) {b : Char}
    (hopen : Mode.plain.after line ≠ .plain) (hb : isBlank b = true) :
    words (line ++ b :: blanks) ≠ words line := by
  intro heq
  obtain ⟨c, hc⟩ := Mode.exists_letter_of_isBlank hopen hb
  have hletters : ((Mode.plain.after line).marks (b :: blanks)).filterMap Mark.letter? = [] := by
    have hflat := congrArg List.flatten heq
    rw [words, words, flatten_gather, flatten_gather, Mode.marks_append, List.filterMap_append]
      at hflat
    exact List.append_right_eq_self.1 hflat
  have hnone := List.filterMap_eq_nil_iff.1 hletters (.letter c) (by
    rw [Mode.marks_cons]
    exact List.mem_append_left _ hc)
  exact absurd hnone (Option.some_ne_none c)

/-- The line does not end in a blank, or reading it without the blanks at its end ends outside
quotes and not behind a backslash. -/
def Text.TrimsFreely (line : Text) : Prop :=
  (∀ c ∈ line.getLast?, isBlank c = false) ∨ Mode.plain.after line.trimEnd = .plain

-- the first instance is named, as there is also one that goes through all characters
instance : DecidablePred Text.TrimsFreely := fun line ↦
  @instDecidableOr _ _ (Option.decidableForallMem line.getLast?)
    (inferInstanceAs (Decidable (Mode.plain.after line.trimEnd = .plain)))

/-- A line **has the words of its trimmed form exactly if it trims freely**, and then evaluating it
is dispatching its words. -/
theorem words_trim_eq_iff (line : Text) :
    (words line.trim = words line ↔ line.TrimsFreely) ∧
      ∀ {σ : Type} (sh : Interpreter σ), line.TrimsFreely →
        sh.evalLine line = sh.dispatch (words line) := by
  have hwords : words line.trim = words line ↔ line.TrimsFreely := by
    rw [Text.trim_eq_trimStart_trimEnd, words_trimStart]
    obtain ⟨blanks, hblanks, hline⟩ := line.exists_trimEnd_append
    constructor
    · intro heq
      cases blanks with
      | nil =>
        left
        rw [List.append_nil] at hline
        exact Text.trimEnd_eq_self_iff.1 hline.symm
      | cons b blanks =>
        right
        by_contra hopen
        refine words_append_blank_ne blanks hopen (hblanks b List.mem_cons_self) ?_
        rw [← hline]
        exact heq.symm
    · rintro (hlast | hplain)
      · rw [Text.trimEnd_eq_self_iff.2 hlast]
      · conv_rhs => rw [hline]
        exact (words_append_blanks hplain hblanks).symm
  refine ⟨hwords, fun sh hfree ↦ ?_⟩
  rw [sh.evalLine_eq_dispatch, hwords.2 hfree]

/-- A blank that is lost because it stands behind a backslash, and a blank that may be lost because
the quote before it is closed. -/
theorem words_trim_twoLines :
    words (Text.trim "echo a\\ ".toList) ≠ words "echo a\\ ".toList ∧
      Text.TrimsFreely "echo 'b '\u3000 ".toList ∧
      ∀ {σ : Type} (sh : Interpreter σ), sh.evalLine "echo 'b '\u3000 ".toList =
        sh.dispatch ["echo".toList, "b ".toList] := by
  have hfree : Text.TrimsFreely "echo 'b '\u3000 ".toList := by decide
  refine ⟨fun heq ↦ ?_, hfree, fun sh ↦ ?_⟩
  · exact absurd ((words_trim_eq_iff "echo a\\ ".toList).1.1 heq) (by decide)
  · have hwords : words "echo 'b '\u3000 ".toList = ["echo".toList, "b ".toList] := by decide
    rw [(words_trim_eq_iff _).2 sh hfree, hwords]

end LineShell
