import LineShell.Proofs.Words.Grammar

/-!
# Quoting

A word is quoted by writing it in pieces, each in a style of its own: raw, with a backslash before
every character, between single quotes, or between double quotes. Raw pieces and single quotes do
not suit every text, and a `Piece` of these styles carries the proof that its text is suitable; the
other two styles suit every text. A pair of quotes with nothing between them is a piece too, and
adds nothing to its word.

**Whatever is quoted is read back**, `words_flatMap_written`: the styles may change within a word,
any blanks may stand between words, before the first and behind the last, and what comes back is the
list of words, in order and nothing else. The proof needs no look at the words themselves: a piece
leaves the characters of its text (`Piece.reads_written`), and between two words there is a gap.
-/

namespace LineShell

/-! ### Pieces -/

/-- A part of a word in one style of quoting. -/
inductive Piece
  /-- Characters as they are. -/
  | raw (t : Text) (h : ∀ c ∈ t, IsPlain c)
  /-- Each character with a backslash before it. -/
  | escaped (t : Text)
  /-- Characters between single quotes. -/
  | single (t : Text) (h : '\'' ∉ t)
  /-- Characters between double quotes, with a backslash where one is needed. -/
  | double (t : Text)

/-- A character as it is written between double quotes. -/
def guarded (c : Char) : Text := if c = '"' ∨ c = '\\' then ['\\', c] else [c]

namespace Piece

/-- The part of the word. -/
def text : Piece → Text
  | raw t _ => t
  | escaped t => t
  | single t _ => t
  | double t => t

/-- What is written for it. -/
def written : Piece → Text
  | raw t _ => t
  | escaped t => t.flatMap fun c ↦ ['\\', c]
  | single t _ => '\'' :: (t ++ ['\''])
  | double t => '"' :: (t.flatMap guarded ++ ['"'])

end Piece

/-- With a backslash where one is needed, any text may stand between double quotes. -/
theorem enclosed_flatMap_guarded (t : Text) : Enclosed (t.flatMap guarded) := by
  induction t with
  | nil => exact .nil
  | cons c t ih =>
    rw [List.flatMap_cons, guarded]
    split
    · exact .pair c ih
    · next h => exact .char (not_or.1 h).1 (not_or.1 h).2 ih

/-- The backslashes that were put in are the ones that are dropped. -/
theorem unescape_flatMap_guarded (t : Text) : unescape (t.flatMap guarded) = t := by
  induction t with
  | nil => rfl
  | cons c t ih =>
    rw [List.flatMap_cons, guarded]
    split
    · next h =>
      show unescape ('\\' :: c :: t.flatMap guarded) = c :: t
      rw [unescape_pair, if_pos h, ih]
      rfl
    · next h =>
      show unescape (c :: t.flatMap guarded) = c :: t
      rw [unescape_cons (not_or.1 h).2, ih]

/-- A piece leaves **the characters of its text**. -/
theorem Piece.reads_written (p : Piece) : Mode.plain.Reads p.written (letters p.text) .plain := by
  cases p with
  | raw t h =>
    have hread := Mode.Reads.flatMap fun c hc ↦ Mode.reads_plain (h c hc)
    rwa [List.flatMap_singleton', ← List.map_eq_flatMap] at hread
  | escaped t =>
    have hread := Mode.Reads.flatMap (l := t) fun c _ ↦ Mode.reads_pair c
    rwa [← List.map_eq_flatMap] at hread
  | single t h => exact Segment.reads_written (s := .single t) h
  | double t =>
    have hread : Mode.plain.Reads _ (letters (unescape (t.flatMap guarded))) .plain :=
      Segment.reads_written (s := .double _) (enclosed_flatMap_guarded t)
    rwa [unescape_flatMap_guarded] at hread

/-! ### Words in a line -/

/-- A word in its pieces, with the blanks before it. -/
structure Quoted where
  before : Text
  pieces : List Piece
  before_blank : ∀ c ∈ before, isBlank c = true
  text_ne_nil : pieces.flatMap Piece.text ≠ []

namespace Quoted

/-- The word. -/
def text (q : Quoted) : Text := q.pieces.flatMap Piece.text

/-- What is written for it. -/
def written (q : Quoted) : Text := q.before ++ q.pieces.flatMap Piece.written

/-- A quoted word leaves gaps and then its characters. -/
theorem reads_written (q : Quoted) :
    Mode.plain.Reads q.written (gaps q.before ++ letters q.text) .plain := by
  have hpieces := Mode.Reads.flatMap (l := q.pieces) fun p _ ↦ p.reads_written
  rw [text, letters, List.map_flatMap]
  exact (Mode.reads_blanks q.before_blank).append hpieces

/-- Gaps and characters in turn are gathered to the words, if there is a gap before each word but
the first. -/
theorem gather_flatMap {qs : List Quoted} (hbetween : ∀ q ∈ qs.tail, q.before ≠ [])
    (behind : Text) :
    gather (qs.flatMap (fun q ↦ gaps q.before ++ letters q.text) ++ gaps behind) =
      qs.map Quoted.text := by
  induction qs with
  | nil => simpa using gather_gaps_append behind []
  | cons q qs ih =>
    -- behind the word the line ends, or goes on with a gap
    have hrest : ∀ ms, ms = qs.flatMap (fun q ↦ gaps q.before ++ letters q.text) ++ gaps behind →
        ms = [] ∨ ∃ ns, ms = .gap :: ns := by
      rintro ms rfl
      cases qs with
      | nil =>
        cases behind with
        | nil => exact .inl rfl
        | cons c behind => exact .inr ⟨_, rfl⟩
      | cons r qs =>
        obtain ⟨c, before, hr⟩ := List.exists_cons_of_ne_nil (hbetween r List.mem_cons_self)
        rw [List.flatMap_cons, hr]
        exact .inr ⟨_, rfl⟩
    have hword : q.text ≠ [] := q.text_ne_nil
    rw [List.flatMap_cons, List.append_assoc, List.append_assoc, gather_gaps_append,
      gather_letters_append_of_ne_nil hword (hrest _ rfl), List.map_cons,
      ih fun r hr ↦ hbetween r (List.mem_of_mem_tail hr)]

end Quoted

/-- **Quoting is undone**: words that are written in pieces, with blanks between them, are read back
as they were. -/
theorem words_flatMap_written (qs : List Quoted) (behind : Text)
    (hbetween : ∀ q ∈ qs.tail, q.before ≠ []) (hbehind : ∀ c ∈ behind, isBlank c = true) :
    words (qs.flatMap Quoted.written ++ behind) = qs.map Quoted.text := by
  have hqs := Mode.Reads.flatMap (l := qs) fun q _ ↦ q.reads_written
  have hline := hqs.append (Mode.reads_blanks hbehind)
  rw [words, hline.marks_eq]
  exact Quoted.gather_flatMap hbetween behind

/-- Two words with blanks and quotes of their own, in all four styles. -/
def mixedStyles : List Quoted :=
  [⟨[], [.double ['i', 't'], .escaped ['\''], .raw ['s'] (List.forall_mem_singleton.2 (by decide))],
      by simp, by decide⟩,
    ⟨['\t'], [.single [] (by decide), .double ['a', ' ', '"'], .single ['\\'] (by decide)],
      List.forall_mem_singleton.2 (by decide), by decide⟩]

theorem words_mixedStyles :
    (∀ q ∈ mixedStyles.tail, q.before ≠ []) ∧ (∀ c ∈ [' '], isBlank c = true) ∧
      words "\"it\"\\'s\t''\"a \\\"\"'\\' ".toList = ["it's".toList, "a \"\\".toList] :=
  have hbehind : ∀ c ∈ [' '], isBlank c = true := List.forall_mem_singleton.2 (by decide)
  ⟨by decide, hbehind, words_flatMap_written mixedStyles [' '] (by decide) hbehind⟩

end LineShell
