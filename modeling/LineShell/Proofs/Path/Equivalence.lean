import LineShell.Proofs.Path.Tree
import Mathlib.Data.Set.Finite.List

/-!
# Which paths are the same

Two absolute paths have the same normal form **just if no tree of files tells them apart**
(`Path.normalize_eq_normalize_iff`): wherever both of them lead to something, it is the same thing.
So normal forms neither take paths for the same that can be different, nor keep paths apart that
never are.

* That the same normal form leads to the same place is known of every tree
  (`FileTree.resolve_normalize`).
* For the converse there is one tree for every two paths in which both lead somewhere: all their
  names are entries of all directories, down to a depth that no walk along the two paths can exceed
  (`FileTree.full`). A walk along pieces that are entries everywhere can fail for no other reason
  than that it gets too deep (`FileTree.exists_walk_full`). And where a path leads in any tree is
  told by its route (`FileTree.route_of_resolve`), so two paths that lead to one place have the same
  route, and with it the same normal form.

Such a tree is finite and its entries have ordinary names (`FileTree.IsTame`), so it takes no odd
trees to tell paths apart.
-/

namespace LineShell

namespace FileTree

/-- If the two paths both lead somewhere in the tree, they lead to the same place. -/
def Identifies (T : FileTree) (p q : Path) : Prop :=
  ∀ a b, T.resolve [] p = some a → T.resolve [] q = some b → a = b

/-- The tree is nothing odd: it has finitely many places, and all names in it are ordinary. -/
structure IsTame (T : FileTree) : Prop where
  finite_places : {place | (T.kind? place).isSome}.Finite
  isOrdinary : ∀ {place}, (T.kind? place).isSome → ∀ n ∈ place, IsOrdinary n

/-! ### A tree with everything in it -/

/-- The tree of directories in which every directory has an entry under each of the names, down to
a depth. -/
def full (names : List Text) (depth : Nat) : FileTree where
  kind? place :=
    if place.length ≤ depth ∧ ∀ n ∈ place, n ∈ names then some .directory else none
  kind?_root := by simp
  kind?_tail := by
    intro n place h
    obtain ⟨hlength, hnames⟩ := Option.isSome_ite.1 h
    refine if_pos ⟨?_, fun m hm ↦ hnames m (List.mem_cons_of_mem n hm)⟩
    exact (Nat.le_succ place.length).trans hlength

section

variable {names : List Text} {depth : Nat}

/-- There is something at a place of this tree just if it is not too deep and made of the names. -/
theorem isSome_kind?_full_iff {place : List Text} :
    ((full names depth).kind? place).isSome ↔ place.length ≤ depth ∧ ∀ n ∈ place, n ∈ names :=
  Option.isSome_ite

theorem isTame_full (hnames : ∀ n ∈ names, IsOrdinary n) : (full names depth).IsTame where
  finite_places := by
    have hshort := List.finite_length_le {n // n ∈ names} depth
    refine (hshort.image (List.map Subtype.val)).subset fun place hplace ↦ ?_
    obtain ⟨hlength, hmem⟩ := isSome_kind?_full_iff.1 hplace
    exact ⟨place.attachWith _ hmem, by simpa using hlength, by simp⟩
  isOrdinary hplace n hn := hnames n ((isSome_kind?_full_iff.1 hplace).2 n hn)

/-- A step in this tree fails only if it is to a name that is not among the names, or too deep. -/
theorem exists_step_full {place : List Text} {piece : Text} (hlength : place.length < depth)
    (hplace : ∀ n ∈ place, n ∈ names) (hpiece : IsOrdinary piece → piece ∈ names)
    (hsep : '/' ∉ piece) :
    ∃ next : List Text, (full names depth).step place piece = some next ∧
      next.length ≤ place.length + 1 ∧ ∀ n ∈ next, n ∈ names := by
  have hdir : (full names depth).kind? place = some .directory := if_pos ⟨hlength.le, hplace⟩
  by_cases hdot : piece = [] ∨ piece = ['.']
  · exact ⟨place, by rw [step, if_pos hdir, if_pos hdot], Nat.le_succ _, hplace⟩
  by_cases hdots : piece = ['.', '.']
  · refine ⟨place.tail, by rw [step, if_pos hdir, if_neg hdot, if_pos hdots], ?_, ?_⟩
    · rw [List.length_tail]
      omega
    · exact fun n hn ↦ hplace n (List.mem_of_mem_tail hn)
  · -- any other piece is an ordinary name, under which there is an entry
    obtain ⟨hne, hcurrent⟩ := not_or.1 hdot
    have hnext : ∀ n ∈ piece :: place, n ∈ names :=
      List.forall_mem_cons.2 ⟨hpiece ⟨hne, hsep, hcurrent, hdots⟩, hplace⟩
    have hthere : ((full names depth).kind? (piece :: place)).isSome :=
      isSome_kind?_full_iff.2 ⟨hlength, hnext⟩
    refine ⟨piece :: place, ?_, le_rfl, hnext⟩
    rw [step, if_pos hdir, if_neg hdot, if_neg hdots, if_pos hthere]

/-- A walk along few enough of the names **leads somewhere**. -/
theorem exists_walk_full {place : List Text} {pieces : List Text}
    (hlength : place.length + pieces.length ≤ depth) (hplace : ∀ n ∈ place, n ∈ names)
    (hpieces : ∀ piece ∈ pieces, '/' ∉ piece ∧ (IsOrdinary piece → piece ∈ names)) :
    ∃ last, (full names depth).walk place pieces = some last := by
  induction pieces generalizing place with
  | nil => exact ⟨place, rfl⟩
  | cons piece pieces ih =>
    obtain ⟨⟨hsep, hpiece⟩, hrest⟩ := List.forall_mem_cons.1 hpieces
    rw [List.length_cons] at hlength
    have hroom : place.length < depth := by omega
    obtain ⟨next, hstep, hdepth, hnext⟩ := exists_step_full hroom hplace hpiece hsep
    have hleft : next.length + pieces.length ≤ depth := by omega
    obtain ⟨last, hlast⟩ := ih hleft hnext hrest
    exact ⟨last, by rw [walk, hstep, Option.bind_some, hlast]⟩

/-- So does an absolute path that is not too long. -/
theorem exists_resolve_full {p : Path} (hp : p.isAbsolute = true)
    (hlength : p.pieces.length ≤ depth)
    (hnames : ∀ piece ∈ p.pieces, IsOrdinary piece → piece ∈ names) :
    ∃ last, (full names depth).resolve [] p = some last := by
  rw [resolve_of_isAbsolute hp]
  refine exists_walk_full (by simpa using hlength) (by simp) fun piece hpiece ↦ ?_
  exact ⟨not_mem_of_mem_splitOn hpiece, hnames piece hpiece⟩

end

end FileTree

namespace Path

/-- For every two absolute paths there is a tree **in which both lead somewhere**. -/
theorem exists_tree_resolve {p q : Path} (hp : p.isAbsolute = true) (hq : q.isAbsolute = true) :
    ∃ T : FileTree, T.IsTame ∧ ∃ a b, T.resolve [] p = some a ∧ T.resolve [] q = some b := by
  let names := (p.pieces ++ q.pieces).filter IsOrdinary
  let depth := p.pieces.length + q.pieces.length
  have hordinary : ∀ n ∈ names, IsOrdinary n := fun n hn ↦
    of_decide_eq_true (List.mem_filter.1 hn).2
  have hnames : ∀ piece ∈ p.pieces ++ q.pieces, IsOrdinary piece → piece ∈ names :=
    fun piece hpiece h ↦ List.mem_filter.2 ⟨hpiece, decide_eq_true h⟩
  obtain ⟨a, ha⟩ : ∃ a, (FileTree.full names depth).resolve [] p = some a :=
    FileTree.exists_resolve_full hp (Nat.le_add_right _ _) fun piece h ↦
      hnames piece (List.mem_append_left _ h)
  obtain ⟨b, hb⟩ : ∃ b, (FileTree.full names depth).resolve [] q = some b :=
    FileTree.exists_resolve_full hq (Nat.le_add_left _ _) fun piece h ↦
      hnames piece (List.mem_append_right _ h)
  exact ⟨.full names depth, FileTree.isTame_full hordinary, a, b, ha, hb⟩

/-- **Two absolute paths have the same normal form just if no tree tells them apart.** And where
their normal forms differ, a tame tree does so. -/
theorem normalize_eq_normalize_iff {p q : Path} (hp : p.isAbsolute = true)
    (hq : q.isAbsolute = true) :
    (p.normalize = q.normalize ↔ ∀ T : FileTree, T.Identifies p q) ∧
    (p.normalize ≠ q.normalize → ∃ T : FileTree, T.IsTame ∧
      ∃ a b, T.resolve [] p = some a ∧ T.resolve [] q = some b ∧ a ≠ b) := by
  have hsame : ∀ {T : FileTree} {a : List Text}, T.resolve [] p = some a →
      T.resolve [] q = some a → p.normalize = q.normalize := by
    intro T a ha hb
    have hroute := FileTree.route_of_resolve hp ha
    exact normalize_congr (hroute.trans (FileTree.route_of_resolve hq hb).symm)
  obtain ⟨T, hT, a, b, ha, hb⟩ := exists_tree_resolve hp hq
  refine ⟨⟨fun heq T a b ha hb ↦ ?_, fun hall ↦ ?_⟩, fun hne ↦ ⟨T, hT, a, b, ha, hb, ?_⟩⟩
  · have ha' := FileTree.resolve_normalize hp ha
    rw [heq, FileTree.resolve_normalize hq hb] at ha'
    exact (Option.some.inj ha').symm
  · obtain rfl := hall T a b ha hb
    exact hsame ha hb
  · rintro rfl
    exact hne (hsame ha hb)

/-- Two ways to write one path, and one to another. -/
theorem normalize_eq_normalize_iff_tmp :
    let p : Path := ⟨"/x/..//tmp/./".toList⟩
    let q : Path := ⟨"/../tmp".toList⟩
    let r : Path := ⟨"/tmp/..".toList⟩
    p.isAbsolute = true ∧ q.isAbsolute = true ∧ r.isAbsolute = true ∧
      (∀ T : FileTree, T.Identifies p q) ∧ (¬ ∀ T : FileTree, T.Identifies p r) ∧
      ∃ T : FileTree, T.IsTame ∧
        ∃ a b, T.resolve [] p = some a ∧ T.resolve [] r = some b ∧ a ≠ b := by
  intro p q r
  have hp : p.isAbsolute = true := by decide
  have hq : q.isAbsolute = true := by decide
  have hr : r.isAbsolute = true := by decide
  have hpr : p.normalize ≠ r.normalize := by decide
  refine ⟨hp, hq, hr, (normalize_eq_normalize_iff hp hq).1.1 (by decide), ?_, ?_⟩
  · exact mt (normalize_eq_normalize_iff hp hr).1.2 hpr
  · exact (normalize_eq_normalize_iff hp hr).2 hpr

end Path

end LineShell
