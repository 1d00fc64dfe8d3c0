import LineShell.Lookup
import LineShell.Proofs.Path.Normal

/-!
# Names of one component

A name is searched for along the search path if it is a single component and does not begin at the
root. Separators and dots behind a component are no components themselves, so this is not the same
as having no separator: `Path.isSearched_iff` says that the names that are searched for are those
with a first piece that is not empty and **nothing but empty pieces and dots behind it**, such as
`x`, `x/` and `x/./`.

A name of this kind that has a separator in it is `Path.IsTrailed`. It ends in a separator or in a
dot behind one (`Path.IsTrailed.suffix`), and it does so as seen from any directory
(`Path.suffix_join`).
-/

namespace LineShell

/-! ### Pieces -/

theorem Component.ofPiece?_eq_none_iff {piece : Text} :
    ofPiece? piece = none ↔ piece = [] ∨ piece = ['.'] := by
  constructor
  · intro h
    unfold ofPiece? at h
    split at h
    · assumption
    · split at h <;> exact absurd h (by simp)
  · exact fun h ↦ if_pos h

namespace Path

/-- The pieces of a path in written order make up the path. -/
theorem text_eq_intercalate (p : Path) : p.text = ['/'].intercalate p.pieces :=
  (List.intercalate_splitOn '/').symm

/-- A path with more pieces than one ends in its last piece, behind a separator. -/
theorem exists_text_eq_append {p : Path} {front : List Text} {last : Text} (hfront : front ≠ [])
    (hpieces : p.pieces = front ++ [last]) : ∃ s, p.text = s ++ '/' :: last := by
  obtain ⟨first, others, rfl⟩ := List.exists_cons_of_ne_nil hfront
  have hne : p.pieces ≠ [] := List.splitOn_ne_nil '/' p.text
  have htext := separator_cons_intercalate hne
  rw [← text_eq_intercalate, hpieces, List.flatMap_append, List.flatMap_cons,
    List.flatMap_singleton, List.cons_append, List.cons_append] at htext
  exact ⟨_, (List.cons.inj htext).2⟩

/-- A path without a separator is its only piece. -/
theorem pieces_eq_singleton_iff {p : Path} : p.pieces = [p.text] ↔ '/' ∉ p.text := by
  refine ⟨fun h ↦ ?_, List.splitOn_eq_singleton⟩
  exact not_mem_of_mem_splitOn (t := p.text) (by
    rw [← pieces, h]
    exact List.mem_cons_self)

/-- The first piece of a path is empty if the path begins at the root, and of the other paths only
for the empty one. -/
theorem head?_pieces_eq_nil_iff {p : Path} :
    p.pieces.head? = some [] ↔ p.isAbsolute = true ∨ p.text = [] := by
  obtain ⟨text⟩ := p
  cases text with
  | nil => simp [pieces]
  | cons c t =>
    by_cases hc : c = '/'
    · simp [pieces, isAbsolute, hc, List.splitOn_cons_eq_if_modifyHead]
    · obtain ⟨first, others, hsplit⟩ := List.exists_cons_of_ne_nil (List.splitOn_ne_nil '/' t)
      simp [pieces, isAbsolute, hc, List.splitOn_cons_eq_if_modifyHead, hsplit]

/-! ### What is searched for -/

/-- The first piece of a relative path is a component, whatever it is, unless it is empty. -/
theorem exists_components_eq {p : Path} (hp : p.isAbsolute = false) {first : Text}
    {others : List Text} (hpieces : p.pieces = first :: others) (hfirst : first ≠ []) :
    ∃ c, p.components = c :: others.filterMap Component.ofPiece? := by
  rw [components, hp, hpieces, List.head?_cons]
  by_cases hdot : first = ['.']
  · subst hdot
    exact ⟨.current, by rw [List.filterMap_cons_none rfl]; rfl⟩
  · cases hc : Component.ofPiece? first with
    | none => exact absurd (Component.ofPiece?_eq_none_iff.1 hc) (not_or.2 ⟨hfirst, hdot⟩)
    | some c => exact ⟨c, by simp [hdot, hc]⟩

/-- A name is searched for just if its first piece is not empty and **all others are empty or
dots**. -/
theorem isSearched_iff {p : Path} :
    p.isSearched = true ↔ ∃ n others, p.pieces = n :: others ∧ n ≠ [] ∧
      ∀ q ∈ others, q = [] ∨ q = ['.'] := by
  obtain ⟨first, others, hpieces⟩ := List.exists_cons_of_ne_nil (List.splitOn_ne_nil '/' p.text)
  replace hpieces : p.pieces = first :: others := hpieces
  have hhead := head?_pieces_eq_nil_iff (p := p)
  rw [hpieces, List.head?_cons, Option.some_inj] at hhead
  by_cases hfirst : first = []
  · -- a path that begins at the root is not searched for, and the empty path has no components
    have hleft : p.isSearched = false := by
      rcases hhead.1 hfirst with hp | hempty
      · simp [isSearched, hp]
      · obtain ⟨text⟩ := p
        obtain rfl : text = [] := hempty
        rfl
    refine iff_of_false (by simp [hleft]) ?_
    rintro ⟨n, rest, h, hn, -⟩
    rw [hpieces] at h
    exact hn ((List.cons.inj h).1.symm.trans hfirst)
  · have hp : p.isAbsolute = false := by
      simpa using fun hp ↦ hfirst (hhead.2 (.inl hp))
    obtain ⟨c, hcomponents⟩ := exists_components_eq hp hpieces hfirst
    have hsearched : p.isSearched = true ↔ others.filterMap Component.ofPiece? = [] := by
      simp [isSearched, hcomponents, hp]
    rw [hsearched, List.filterMap_eq_nil_iff]
    simp only [Component.ofPiece?_eq_none_iff]
    constructor
    · exact fun h ↦ ⟨first, others, hpieces, hfirst, h⟩
    · rintro ⟨n, rest, h, -, hrest⟩
      rw [hpieces] at h
      rwa [(List.cons.inj h).2]

/-- Only the empty path has no components. -/
theorem components_eq_nil_iff {p : Path} : p.components = [] ↔ p.text = [] := by
  constructor
  · intro hnil
    obtain ⟨first, others, hpieces⟩ := List.exists_cons_of_ne_nil (List.splitOn_ne_nil '/' p.text)
    by_cases hp : p.isAbsolute = true
    · rw [components_of_isAbsolute hp] at hnil
      exact absurd hnil (List.cons_ne_nil _ _)
    · by_cases hfirst : first = []
      · have hhead : p.pieces.head? = some [] := by
          rw [pieces, hpieces, hfirst]
          rfl
        exact (head?_pieces_eq_nil_iff.1 hhead).resolve_left hp
      · obtain ⟨c, hc⟩ := exists_components_eq (Bool.not_eq_true _ ▸ hp) hpieces hfirst
        exact absurd (hc.symm.trans hnil) (List.cons_ne_nil _ _)
  · obtain ⟨text⟩ := p
    rintro rfl
    rfl

/-- A name that begins at the root is not searched for. -/
theorem isAbsolute_eq_false_of_isSearched {p : Path} (h : p.isSearched = true) :
    p.isAbsolute = false := by
  simpa using (Bool.and_eq_true_iff.1 h).2

/-- An ordinary name is searched for. -/
theorem isSearched_of_isOrdinary {n : Text} (hn : IsOrdinary n) : isSearched ⟨n⟩ = true :=
  isSearched_iff.2 ⟨n, [], pieces_eq_singleton_iff.2 hn.2.1, hn.1, by simp⟩

/-- A single component with separators behind it, and dots between them if anything, such as `x/`
and `x/./`. -/
def IsTrailed (p : Path) : Prop :=
  ∃ n others, p.pieces = n :: others ∧ n ≠ [] ∧ others ≠ [] ∧ ∀ q ∈ others, q = [] ∨ q = ['.']

theorem IsTrailed.isSearched {p : Path} (h : p.IsTrailed) : p.isSearched = true := by
  obtain ⟨n, others, hpieces, hn, -, hothers⟩ := h
  exact isSearched_iff.2 ⟨n, others, hpieces, hn, hothers⟩

/-- Of the names with a separator in them, **those with nothing behind it** are searched for. -/
theorem isSearched_iff_isTrailed {p : Path} (hsep : '/' ∈ p.text) :
    p.isSearched = true ↔ p.IsTrailed := by
  refine ⟨fun h ↦ ?_, IsTrailed.isSearched⟩
  obtain ⟨n, others, hpieces, hn, hothers⟩ := isSearched_iff.1 h
  refine ⟨n, others, hpieces, hn, ?_, hothers⟩
  rintro rfl
  have htext : p.text = n := by
    rw [text_eq_intercalate, hpieces, List.intercalate_singleton]
  exact pieces_eq_singleton_iff.1 (hpieces.trans (congrArg (fun t ↦ [t]) htext.symm)) hsep

instance : DecidablePred IsTrailed := fun p ↦
  match hpieces : p.pieces with
  | [] => isFalse (absurd hpieces (List.splitOn_ne_nil '/' p.text))
  | n :: others =>
    decidable_of_iff (n ≠ [] ∧ others ≠ [] ∧ ∀ q ∈ others, q = [] ∨ q = ['.'])
      ⟨fun h ↦ ⟨n, others, hpieces, h⟩, fun ⟨_, _, h, hothers⟩ ↦ by
        rw [hpieces] at h
        obtain ⟨rfl, rfl⟩ := List.cons.inj h
        exact hothers⟩

/-- Such a name ends in a separator, or in a dot behind one. -/
theorem IsTrailed.suffix {p : Path} (h : p.IsTrailed) :
    ['/'] <:+ p.text ∨ ['/', '.'] <:+ p.text := by
  obtain ⟨n, others, hpieces, -, hne, hothers⟩ := h
  obtain ⟨front, last, rfl⟩ := (List.eq_nil_or_concat others).resolve_left hne
  rw [List.concat_eq_append] at hpieces hothers
  obtain ⟨s, hs⟩ := exists_text_eq_append (List.cons_ne_nil n front) hpieces
  rcases hothers last (by simp) with rfl | rfl
  · exact .inl ⟨s, hs.symm⟩
  · exact .inr ⟨s, hs.symm⟩

/-! ### Seen from a directory -/

/-- A relative path stands at the end of itself as seen from a directory. -/
theorem suffix_join (dir : Path) {p : Path} (hp : p.isAbsolute = false) :
    p.text <:+ (dir.join p).text := by
  rw [join, if_neg (by simp [hp])]
  split
  · exact List.suffix_append dir.text p.text
  · exact (List.suffix_cons '/' p.text).trans (List.suffix_append dir.text ('/' :: p.text))

/-- If the directory has a path to be written before it, it stands behind a separator there. -/
theorem separator_suffix_join {dir p : Path} (hdir : dir.text ≠ []) (hp : p.isAbsolute = false) :
    '/' :: p.text <:+ (dir.join p).text := by
  rw [join, if_neg (by simp [hp])]
  split
  · next hend =>
    obtain ⟨front, hfront⟩ := List.getLast?_eq_some_iff.1 (hend.resolve_left hdir)
    refine ⟨front, ?_⟩
    show front ++ '/' :: p.text = dir.text ++ p.text
    rw [hfront, List.append_assoc]
    rfl
  · exact List.suffix_append dir.text ('/' :: p.text)

end Path

end LineShell
