import LineShell.Proofs.Words.Marks
import Mathlib.Logic.ExistsUnique

/-!
# The grammar of a line

A line can be understood without reading it character by character: it is a sequence of segments,
and its words are what the segments between two separators stand for. This module says so without
mention of modes or marks, and shows that the words of a line are these.

A `Segment` is written in one way (`Segment.written`) and stands for a text (`Segment.value`). Only
the end of a line needs rules of its own, the last four of `Segmented`: a quote that is still open
is closed there, and a backslash that has no character behind it stands for nothing.

## What the main theorem rests on

* `existsUnique_segmented`: the rules leave no line out, and no line has two segmentations, which
  could give it different words. A segment is told by its first character, and a quoted run by the
  *first* place where it can end (`singleRun_unique`, `enclosed_unique`).
* `Segmented.marks_eq` ties segments to marks, one rule of the grammar at a time.
* `Segment.gather_flatMap_marks` ties runs of segments to the gathering of marks.
-/

namespace LineShell

/-! ### Segments -/

/-- A part of a line. -/
inductive Segment
  /-- A character outside quotes that stands for itself. -/
  | plain (c : Char)
  /-- A backslash outside quotes and the character behind it. -/
  | pair (c : Char)
  /-- A run between single quotes. -/
  | single (t : Text)
  /-- A run between double quotes. -/
  | double (t : Text)
  /-- A blank outside quotes. -/
  | separator (c : Char)
  deriving DecidableEq, Repr

namespace Segment

/-- How a segment is written. -/
def written : Segment → Text
  | plain c => [c]
  | pair c => ['\\', c]
  | single t => '\'' :: (t ++ ['\''])
  | double t => '"' :: (t ++ ['"'])
  | separator c => [c]

/-- What may stand in a segment of each sort. -/
def Proper : Segment → Prop
  | plain c => IsPlain c
  | pair _ => True
  | single t => '\'' ∉ t
  | double t => Enclosed t
  | separator c => isBlank c = true

/-- What a segment adds to its word. -/
def value : Segment → Text
  | plain c => [c]
  | pair c => [c]
  | single t => t
  | double t => unescape t
  | separator _ => []

/-- The segment separates words. -/
def isSeparator : Segment → Bool
  | separator _ => true
  | _ => false

/-- The words of a sequence of segments: the values of the runs between separators, the runs whose
value is empty left out. -/
def words (ss : List Segment) : List Text :=
  ((ss.splitOnP isSeparator).map (·.flatMap value)).filter (· ≠ [])

end Segment

/-- The line consists of the segments. -/
inductive Segmented : Text → List Segment → Prop
  | nil : Segmented [] []
  | segment {s : Segment} {line : Text} {ss : List Segment} (hs : s.Proper)
    (hline : Segmented line ss) : Segmented (s.written ++ line) (s :: ss)
  /-- A last backslash outside quotes. -/
  | backslash : Segmented ['\\'] []
  /-- A single quote that is still open. -/
  | openSingle {t : Text} (ht : '\'' ∉ t) : Segmented ('\'' :: t) [.single t]
  /-- A double quote that is still open. -/
  | openDouble {t : Text} (ht : Enclosed t) : Segmented ('"' :: t) [.double t]
  /-- A last backslash behind a double quote that is still open. -/
  | openPending {t : Text} (ht : Enclosed t) : Segmented ('"' :: (t ++ ['\\'])) [.double t]

/-! ### Where a quoted run ends -/

/-- What can be left of a line behind the text between single quotes: nothing, or the rest from the
closing quote on. -/
def EndsSingle (x : Text) : Prop := x = [] ∨ ∃ r, x = '\'' :: r

/-- What can be left of a line behind the text between double quotes: nothing, a last backslash, or
the rest from the closing quote on. -/
def EndsDouble (x : Text) : Prop := x = [] ∨ x = ['\\'] ∨ ∃ r, x = '"' :: r

/-- The text between single quotes is told by the line. -/
theorem singleRun_unique {t u x y : Text} (ht : '\'' ∉ t) (hu : '\'' ∉ u) (hx : EndsSingle x)
    (hy : EndsSingle y) (h : t ++ x = u ++ y) : t = u ∧ x = y := by
  induction t generalizing u with
  | nil =>
    cases u with
    | nil => exact ⟨rfl, h⟩
    | cons d u =>
      -- the run on the left is over here, so `d` would have to be the closing quote
      rcases hx with rfl | ⟨r, rfl⟩
      · simp at h
      · obtain rfl : '\'' = d := (List.cons.inj h).1
        exact absurd List.mem_cons_self hu
  | cons c t ih =>
    cases u with
    | nil =>
      rcases hy with rfl | ⟨r, rfl⟩
      · simp at h
      · obtain rfl : c = '\'' := (List.cons.inj h).1
        exact absurd List.mem_cons_self ht
    | cons d u =>
      obtain ⟨rfl, hrest⟩ := List.cons.inj h
      obtain ⟨rfl, rfl⟩ := ih (mt (List.mem_cons_of_mem c) ht) (mt (List.mem_cons_of_mem c) hu)
        hrest
      exact ⟨rfl, rfl⟩

/-- Where a line ends a run, no enclosed text begins but the empty one. -/
theorem Enclosed.eq_nil_of_ends {u x y : Text} (hu : Enclosed u) (hx : EndsDouble x)
    (h : x = u ++ y) : u = [] := by
  cases hu with
  | nil => rfl
  | char hquote hslash _ =>
    rcases hx with rfl | rfl | ⟨r, rfl⟩
    · simp at h
    · exact absurd (List.cons.inj h).1.symm hslash
    · exact absurd (List.cons.inj h).1.symm hquote
  | pair d _ =>
    rcases hx with rfl | rfl | ⟨r, rfl⟩ <;> simp at h

/-- The text between double quotes is told by the line. -/
theorem enclosed_unique {t u x y : Text} (ht : Enclosed t) (hu : Enclosed u) (hx : EndsDouble x)
    (hy : EndsDouble y) (h : t ++ x = u ++ y) : t = u ∧ x = y := by
  induction ht generalizing u with
  | nil =>
    obtain rfl := hu.eq_nil_of_ends hx h
    exact ⟨rfl, h⟩
  | @char c t hquote hslash ht ih =>
    cases hu with
    | nil => exact absurd ((Enclosed.char hquote hslash ht).eq_nil_of_ends hy h.symm) (by simp)
    | char _ _ hu =>
      obtain ⟨rfl, hrest⟩ := List.cons.inj h
      obtain ⟨rfl, rfl⟩ := ih hu hrest
      exact ⟨rfl, rfl⟩
    | pair d _ => exact absurd (List.cons.inj h).1 hslash
  | @pair c t ht ih =>
    cases hu with
    | nil => exact absurd ((Enclosed.pair c ht).eq_nil_of_ends hy h.symm) (by simp)
    | char _ hslash _ => exact absurd (List.cons.inj h).1.symm hslash
    | pair d hu =>
      obtain ⟨rfl, hrest⟩ := List.cons.inj (List.cons.inj h).2
      obtain ⟨rfl, rfl⟩ := ih hu hrest
      exact ⟨rfl, rfl⟩

/-- Every text is cut where a run between double quotes would end in it. -/
theorem exists_enclosed_append : ∀ t : Text, ∃ u x, Enclosed u ∧ EndsDouble x ∧ t = u ++ x
  | [] => ⟨[], [], .nil, .inl rfl, rfl⟩
  | [c] => by
    by_cases hquote : c = '"'
    · exact ⟨[], [c], .nil, .inr (.inr ⟨[], by rw [hquote]⟩), rfl⟩
    · by_cases hslash : c = '\\'
      · exact ⟨[], [c], .nil, .inr (.inl (by rw [hslash])), rfl⟩
      · exact ⟨[c], [], .char hquote hslash .nil, .inl rfl, rfl⟩
  | c :: d :: t => by
    by_cases hquote : c = '"'
    · exact ⟨[], c :: d :: t, .nil, .inr (.inr ⟨d :: t, by rw [hquote]⟩), rfl⟩
    · by_cases hslash : c = '\\'
      · obtain ⟨u, x, hu, hx, rfl⟩ := exists_enclosed_append t
        exact ⟨c :: d :: u, x, hslash ▸ .pair d hu, hx, rfl⟩
      · obtain ⟨u, x, hu, hx, hd⟩ := exists_enclosed_append (d :: t)
        exact ⟨c :: u, x, .char hquote hslash hu, hx, by rw [hd]; rfl⟩

/-- Every text is cut where a run between single quotes would end in it. -/
theorem exists_singleRun_append (t : Text) : ∃ u x, '\'' ∉ u ∧ EndsSingle x ∧ t = u ++ x := by
  induction t with
  | nil => exact ⟨[], [], by simp, .inl rfl, rfl⟩
  | cons c t ih =>
    by_cases hquote : c = '\''
    · exact ⟨[], c :: t, by simp, .inr ⟨t, by rw [hquote]⟩, rfl⟩
    · obtain ⟨u, x, hu, hx, rfl⟩ := ih
      refine ⟨c :: u, x, ?_, hx, rfl⟩
      rw [List.mem_cons, not_or]
      exact ⟨Ne.symm hquote, hu⟩

/-! ### The first segment of a line -/

theorem segmented_nil_iff {ss : List Segment} : Segmented [] ss ↔ ss = [] := by
  refine ⟨fun h ↦ ?_, fun h ↦ h ▸ .nil⟩
  generalize hl : ([] : Text) = l at h
  cases h with
  | nil => rfl
  | @segment s _ _ _ _ => cases s <;> simp [Segment.written] at hl
  | backslash | openSingle | openDouble | openPending => simp at hl

/-- A backslash outside quotes takes a character along if there is one. -/
theorem segmented_slash_iff {line : Text} {ss : List Segment} :
    Segmented ('\\' :: line) ss ↔
      line = [] ∧ ss = [] ∨
        ∃ c rest ss', line = c :: rest ∧ ss = .pair c :: ss' ∧ Segmented rest ss' := by
  constructor
  · intro h
    generalize hl : '\\' :: line = l at h
    cases h with
    | nil => simp at hl
    | @segment s rest ss' hs hrest =>
      cases s with
      | pair c => exact .inr ⟨c, rest, ss', by simpa [Segment.written] using hl, rfl, hrest⟩
      | plain c => exact absurd (List.cons.inj hl).1.symm hs.2.1
      | separator c => exact absurd (List.cons.inj hl).1.symm (ne_of_isBlank hs).1
      | single | double => simp [Segment.written] at hl
    | backslash => exact .inl ⟨by simpa using hl, rfl⟩
    | openSingle | openDouble | openPending => simp at hl
  · rintro (⟨rfl, rfl⟩ | ⟨c, rest, ss', rfl, rfl, hrest⟩)
    · exact .backslash
    · exact .segment (s := .pair c) trivial hrest

theorem segmented_pair_iff {c : Char} {line : Text} {ss : List Segment} :
    Segmented ('\\' :: c :: line) ss ↔ ∃ ss', ss = .pair c :: ss' ∧ Segmented line ss' := by
  rw [segmented_slash_iff]
  constructor
  · rintro (⟨h, -⟩ | ⟨d, rest, ss', h, rfl, hrest⟩)
    · exact absurd h (List.cons_ne_nil c line)
    · obtain ⟨rfl, rfl⟩ := List.cons.inj h
      exact ⟨ss', rfl, hrest⟩
  · rintro ⟨ss', rfl, hrest⟩
    exact .inr ⟨c, line, ss', rfl, rfl, hrest⟩

/-- A single quote takes along what stands before the next one, or all of the line. -/
theorem segmented_single_iff {t x : Text} {ss : List Segment} (ht : '\'' ∉ t)
    (hx : EndsSingle x) :
    Segmented ('\'' :: (t ++ x)) ss ↔ ∃ ss', ss = .single t :: ss' ∧ Segmented x.tail ss' := by
  constructor
  · intro h
    generalize hl : '\'' :: (t ++ x) = l at h
    cases h with
    | nil => simp at hl
    | @segment s rest ss' hs hrest =>
      cases s with
      | single u =>
        have hrun : t ++ x = u ++ '\'' :: rest := by simpa [Segment.written] using hl
        obtain ⟨rfl, rfl⟩ := singleRun_unique ht hs hx (.inr ⟨rest, rfl⟩) hrun
        exact ⟨ss', rfl, hrest⟩
      | plain c => exact absurd (List.cons.inj hl).1.symm hs.2.2.1
      | separator c => exact absurd (List.cons.inj hl).1.symm (ne_of_isBlank hs).2.1
      | pair | double => simp [Segment.written] at hl
    | @openSingle u hu =>
      have hrun : t ++ x = u ++ [] := by simpa using hl
      obtain ⟨rfl, rfl⟩ := singleRun_unique ht hu hx (.inl rfl) hrun
      exact ⟨[], rfl, .nil⟩
    | backslash | openDouble | openPending => simp at hl
  · rintro ⟨ss', rfl, hrest⟩
    rcases hx with rfl | ⟨r, rfl⟩
    · obtain rfl := segmented_nil_iff.1 hrest
      rw [List.append_nil]
      exact .openSingle ht
    · simpa [Segment.written] using Segmented.segment (s := .single t) ht hrest

/-- A double quote takes along what stands before the next one that has no backslash to itself, or
all of the line but a last backslash. -/
theorem segmented_double_iff {t x : Text} {ss : List Segment} (ht : Enclosed t)
    (hx : EndsDouble x) :
    Segmented ('"' :: (t ++ x)) ss ↔ ∃ ss', ss = .double t :: ss' ∧ Segmented x.tail ss' := by
  constructor
  · intro h
    generalize hl : '"' :: (t ++ x) = l at h
    cases h with
    | nil => simp at hl
    | @segment s rest ss' hs hrest =>
      cases s with
      | double u =>
        have hrun : t ++ x = u ++ '"' :: rest := by simpa [Segment.written] using hl
        obtain ⟨rfl, rfl⟩ := enclosed_unique ht hs hx (.inr (.inr ⟨rest, rfl⟩)) hrun
        exact ⟨ss', rfl, hrest⟩
      | plain c => exact absurd (List.cons.inj hl).1.symm hs.2.2.2
      | separator c => exact absurd (List.cons.inj hl).1.symm (ne_of_isBlank hs).2.2
      | pair | single => simp [Segment.written] at hl
    | @openDouble u hu =>
      have hrun : t ++ x = u ++ [] := by simpa using hl
      obtain ⟨rfl, rfl⟩ := enclosed_unique ht hu hx (.inl rfl) hrun
      exact ⟨[], rfl, .nil⟩
    | @openPending u hu =>
      have hrun : t ++ x = u ++ ['\\'] := by simpa using hl
      obtain ⟨rfl, rfl⟩ := enclosed_unique ht hu hx (.inr (.inl rfl)) hrun
      exact ⟨[], rfl, .nil⟩
    | backslash | openSingle => simp at hl
  · rintro ⟨ss', rfl, hrest⟩
    rcases hx with rfl | rfl | ⟨r, rfl⟩
    · obtain rfl := segmented_nil_iff.1 hrest
      rw [List.append_nil]
      exact .openDouble ht
    · obtain rfl := segmented_nil_iff.1 hrest
      exact .openPending ht
    · simpa [Segment.written] using Segmented.segment (s := .double t) ht hrest

/-- Any other character is a segment of its own. -/
theorem segmented_cons_iff {c : Char} {line : Text} {ss : List Segment} (hslash : c ≠ '\\')
    (hsingle : c ≠ '\'') (hdouble : c ≠ '"') :
    Segmented (c :: line) ss ↔
      ∃ ss', ss = (if isBlank c then .separator c else .plain c) :: ss' ∧ Segmented line ss' := by
  constructor
  · intro h
    generalize hl : c :: line = l at h
    cases h with
    | nil => simp at hl
    | @segment s rest ss' hs hrest =>
      cases s with
      | plain d =>
        obtain ⟨rfl, rfl⟩ := List.cons.inj hl
        exact ⟨ss', by rw [if_neg (by simp [hs.1])], hrest⟩
      | separator d =>
        obtain ⟨rfl, rfl⟩ := List.cons.inj hl
        exact ⟨ss', (if_pos (show isBlank c = true from hs)).symm ▸ rfl, hrest⟩
      | pair => exact absurd (List.cons.inj hl).1 hslash
      | single => exact absurd (List.cons.inj hl).1 hsingle
      | double => exact absurd (List.cons.inj hl).1 hdouble
    | backslash => exact absurd (List.cons.inj hl).1 hslash
    | openSingle => exact absurd (List.cons.inj hl).1 hsingle
    | openDouble | openPending => exact absurd (List.cons.inj hl).1 hdouble
  · rintro ⟨ss', rfl, hrest⟩
    split
    · next hblank => exact .segment (s := .separator c) hblank hrest
    · next hblank =>
      have hplain : IsPlain c := ⟨by simpa using hblank, hslash, hsingle, hdouble⟩
      exact .segment (s := .plain c) hplain hrest

/-! ### One segmentation of every line -/

/-- A line whose first segment is settled has one segmentation if the rest of it has. -/
theorem existsUnique_segmented_of_iff {s : Segment} {line rest : Text}
    (h : ∀ ss, Segmented line ss ↔ ∃ ss', ss = s :: ss' ∧ Segmented rest ss')
    (hrest : ∃! ss, Segmented rest ss) : ∃! ss, Segmented line ss := by
  obtain ⟨ss, hss, hunique⟩ := hrest
  refine ⟨s :: ss, (h _).2 ⟨ss, rfl, hss⟩, fun ts hts ↦ ?_⟩
  obtain ⟨ts', rfl, hts'⟩ := (h _).1 hts
  rw [hunique ts' hts']

/-- Every line has **exactly one segmentation**. -/
theorem existsUnique_segmented : ∀ line : Text, ∃! ss, Segmented line ss
  | [] => ⟨[], .nil, fun _ h ↦ segmented_nil_iff.1 h⟩
  | c :: line => by
    by_cases hslash : c = '\\'
    · subst hslash
      cases line with
      | nil => exact ⟨[], .backslash, fun ss h ↦ by simpa [segmented_slash_iff] using h⟩
      | cons d line =>
        exact existsUnique_segmented_of_iff (fun ss ↦ segmented_pair_iff)
          (existsUnique_segmented line)
    · by_cases hsingle : c = '\''
      · subst hsingle
        obtain ⟨t, x, ht, hx, hline⟩ := exists_singleRun_append line
        -- what is left behind the run is no longer than the line, as the recursion needs
        have hlt : x.length ≤ line.length := by rw [hline, List.length_append]; omega
        refine existsUnique_segmented_of_iff (s := .single t) (fun ss ↦ ?_)
          (existsUnique_segmented x.tail)
        rw [hline]
        exact segmented_single_iff ht hx
      · by_cases hdouble : c = '"'
        · subst hdouble
          obtain ⟨t, x, ht, hx, hline⟩ := exists_enclosed_append line
          have hlt : x.length ≤ line.length := by rw [hline, List.length_append]; omega
          refine existsUnique_segmented_of_iff (s := .double t) (fun ss ↦ ?_)
            (existsUnique_segmented x.tail)
          rw [hline]
          exact segmented_double_iff ht hx
        · exact existsUnique_segmented_of_iff
            (fun ss ↦ segmented_cons_iff hslash hsingle hdouble) (existsUnique_segmented line)
  termination_by line => line.length
  decreasing_by all_goals simp only [List.length_cons, List.length_tail]; omega

/-! ### What the segments leave -/

namespace Segment

/-- The marks of a segment. -/
def marks : Segment → List Mark
  | separator _ => [.gap]
  | s => letters s.value

/-- A segment is read from outside quotes to outside quotes. -/
theorem reads_written {s : Segment} (h : s.Proper) : Mode.plain.Reads s.written s.marks .plain := by
  cases s with
  | plain c => exact Mode.reads_plain h
  | pair c => exact Mode.reads_pair c
  | separator c => exact Mode.reads_blank h
  | single t =>
    have hclose : Mode.single.Reads ['\''] [] .plain := ⟨rfl, rfl⟩
    simpa [written, marks, value] using (Mode.reads_openSingle h).append hclose
  | double t =>
    have hclose : Mode.double.Reads ['"'] [] .plain := ⟨rfl, rfl⟩
    simpa [written, marks, value] using (Mode.reads_openDouble h).append hclose

/-- A run without separators leaves its value. -/
theorem flatMap_marks {run : List Segment} (h : ∀ s ∈ run, s.isSeparator = false) :
    run.flatMap marks = letters (run.flatMap value) := by
  induction run with
  | nil => rfl
  | cons s run ih =>
    have hs : s.marks = letters s.value := by
      cases s with
      | separator c => exact absurd (h _ List.mem_cons_self) (by simp [isSeparator])
      | _ => rfl
    rw [List.flatMap_cons, List.flatMap_cons, letters_append, hs,
      ih fun r hr ↦ h r (List.mem_cons_of_mem s hr)]

/-- The words of a run without separators are its value, unless that is empty. -/
theorem words_of_forall_not_isSeparator {run : List Segment}
    (h : ∀ s ∈ run, s.isSeparator = false) :
    words run = [run.flatMap value].filter (· ≠ []) := by
  rw [words, List.splitOnP_eq_singleton h, List.map_singleton]

/-- A separator **splits the words** as a gap splits the gathering. -/
theorem words_append_separator (run ss : List Segment) (c : Char) :
    words (run ++ .separator c :: ss) = words run ++ words ss := by
  rw [words, List.splitOnP_append_cons run ss rfl, List.map_append, List.filter_append]
  rfl

/-- Gathering the marks of segments gives their words. The run that is still going on is kept apart
from the segments to come, which the induction goes through. -/
theorem gather_flatMap_marks (run ss : List Segment) (h : ∀ s ∈ run, s.isSeparator = false) :
    gather ((run ++ ss).flatMap marks) = words (run ++ ss) := by
  induction ss generalizing run with
  | nil =>
    rw [List.append_nil, flatMap_marks h, gather_letters, words_of_forall_not_isSeparator h]
  | cons s ss ih =>
    by_cases hs : s.isSeparator = true
    · obtain ⟨c, rfl⟩ : ∃ c, s = .separator c := by
        cases s <;> simp_all [isSeparator]
      have hrest := ih [] (by simp)
      have hrun := gather_letters (run.flatMap value)
      rw [← flatMap_marks h, ← words_of_forall_not_isSeparator h] at hrun
      rw [words_append_separator, List.flatMap_append, List.flatMap_cons]
      show gather (run.flatMap marks ++ .gap :: ss.flatMap marks) = _
      rw [gather_append_gap, hrun]
      exact congrArg _ hrest
    · have hrun : ∀ r ∈ run ++ [s], r.isSeparator = false := by
        intro r hr
        rcases List.mem_append.1 hr with hr | hr
        · exact h r hr
        · rw [List.mem_singleton.1 hr]
          simpa using hs
      simpa using ih (run ++ [s]) hrun

end Segment

/-- A line leaves **the marks of its segments**, one rule of the grammar at a time. -/
theorem Segmented.marks_eq {line : Text} {ss : List Segment} (h : Segmented line ss) :
    Mode.plain.marks line = ss.flatMap Segment.marks := by
  induction h with
  | nil => rfl
  | segment hs _ ih =>
    have hread := Segment.reads_written hs
    rw [Mode.marks_append, hread.marks_eq, hread.after_eq, ih, List.flatMap_cons]
  | backslash => rfl
  | openSingle ht =>
    rw [(Mode.reads_openSingle ht).marks_eq, List.flatMap_singleton]
    rfl
  | openDouble ht =>
    rw [(Mode.reads_openDouble ht).marks_eq, List.flatMap_singleton]
    rfl
  | openPending ht =>
    rw [(Mode.reads_openPending ht).marks_eq, List.flatMap_singleton]
    rfl

/-- The words of a line are those of its segments. -/
theorem Segmented.words_eq {line : Text} {ss : List Segment} (h : Segmented line ss) :
    words line = Segment.words ss := by
  rw [words, h.marks_eq]
  exact Segment.gather_flatMap_marks [] ss (by simp)

/-- **The words of a line are those of its only segmentation**, and no word is empty. -/
theorem words_eq_segment_words (line : Text) :
    ∃ ss, (∀ ts, Segmented line ts ↔ ts = ss) ∧ words line = Segment.words ss ∧
      ∀ w ∈ words line, w ≠ [] := by
  obtain ⟨ss, hss, hunique⟩ := existsUnique_segmented line
  refine ⟨ss, fun ts ↦ ⟨hunique ts, fun h ↦ h ▸ hss⟩, hss.words_eq, fun w hw ↦ ?_⟩
  exact ne_nil_of_mem_gather hw

end LineShell
