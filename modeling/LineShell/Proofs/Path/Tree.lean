import LineShell.Proofs.Path.Join

/-!
# Paths in a tree of files

Where a path leads is found by walking it piece by piece through the tree: every piece needs a
directory to start from, an empty piece or a dot stays there, two dots go to the parent, which the
root is of itself, and any other piece goes to the entry of that name if there is one
(`FileTree.step`). An empty piece is what stands behind a separator at the end, so a path that ends
in one needs a directory there. There are no links, so a place in the tree is the same thing as the
names that lead to it from the root. The empty path is taken to stay where one is; a system that
refuses it follows fewer paths, and what is said here of those it follows holds all the same.

The normal form of a path is found without a look at the tree. **It leads where the path leads**,
`FileTree.resolve_normalize`: all that may be lost by taking names back is the demand that they are
there. The converse fails, as `x/..` has a normal form even where there is no `x`.

What carries this is that a walk from the root keeps its place in the same form as a route keeps its
names, and moves it alike (`FileTree.foldl_step_of_walk`).
-/

namespace LineShell

/-- A tree of directories and files. Its places are the lists of names that lead to them from the
root, the last name first. -/
structure FileTree where
  /-- What there is at a place. -/
  kind? : List Text → Option FileKind
  kind?_root : kind? [] = some .directory
  /-- Every entry lies in a directory. -/
  kind?_tail : ∀ {n place}, (kind? (n :: place)).isSome → kind? place = some .directory

namespace FileTree

variable (T : FileTree)

/-- Where one piece of a path leads from a place. -/
def step (place : List Text) (piece : Text) : Option (List Text) :=
  if T.kind? place = some .directory then
    if piece = [] ∨ piece = ['.'] then some place
    else if piece = ['.', '.'] then some place.tail
    else if (T.kind? (piece :: place)).isSome then some (piece :: place)
    else none
  else none

/-- Where some pieces of a path lead from a place. -/
def walk : List Text → List Text → Option (List Text)
  | place, [] => some place
  | place, piece :: rest => (T.step place piece).bind (walk · rest)

/-- Where a path leads for one who stands at a place. -/
def resolve (here : List Text) (p : Path) : Option (List Text) :=
  T.walk (if p.isAbsolute then [] else here) p.pieces

variable {T}

/-! ### Steps and walks -/

/-- A step stays, goes to the parent, or goes to an entry under an ordinary name; it starts from a
directory in any case. -/
theorem step_cases {place next : List Text} {piece : Text} (h : T.step place piece = some next) :
    T.kind? place = some .directory ∧
      (Component.ofPiece? piece = none ∧ next = place ∨
        Component.ofPiece? piece = some .parent ∧ next = place.tail ∨
        Component.ofPiece? piece = some (.name piece) ∧ next = piece :: place ∧
          (T.kind? next).isSome) := by
  unfold step at h
  split at h
  · next hdir =>
    refine ⟨hdir, ?_⟩
    split at h
    · next hdot => exact .inl ⟨if_pos hdot, (Option.some.inj h).symm⟩
    · next hdot =>
      split at h
      · next hdots =>
        exact .inr (.inl ⟨by rw [Component.ofPiece?, if_neg hdot, if_pos hdots],
          (Option.some.inj h).symm⟩)
      · next hdots =>
        split at h
        · next hthere =>
          obtain rfl := Option.some.inj h
          exact .inr (.inr ⟨by rw [Component.ofPiece?, if_neg hdot, if_neg hdots], rfl, hthere⟩)
        · exact absurd h (by simp)
  · exact absurd h (by simp)

/-- The parent of a directory is a directory. -/
theorem kind?_parent {place : List Text} (h : T.kind? place = some .directory) :
    T.kind? place.tail = some .directory := by
  cases place with
  | nil => exact T.kind?_root
  | cons n place => exact T.kind?_tail (Option.isSome_of_eq_some h)

theorem walk_append (place : List Text) (xs ys : List Text) :
    T.walk place (xs ++ ys) = (T.walk place xs).bind (T.walk · ys) := by
  induction xs generalizing place with
  | nil => rfl
  | cons piece xs ih =>
    rw [List.cons_append, walk, walk, Option.bind_assoc]
    exact congrArg (T.step place piece).bind (funext ih)

/-- A walk ends where there is something, if it begins there. -/
theorem isSome_kind?_of_walk {place last : List Text} {pieces : List Text}
    (hplace : (T.kind? place).isSome) (h : T.walk place pieces = some last) :
    (T.kind? last).isSome := by
  induction pieces generalizing place with
  | nil =>
    obtain rfl := Option.some.inj h
    exact hplace
  | cons piece pieces ih =>
    obtain ⟨next, hnext, hrest⟩ := Option.bind_eq_some_iff.1 h
    refine ih ?_ hrest
    obtain ⟨hdir, ⟨-, rfl⟩ | ⟨-, rfl⟩ | ⟨-, -, hthere⟩⟩ := step_cases hnext
    · exact Option.isSome_of_eq_some hdir
    · exact Option.isSome_of_eq_some (kind?_parent hdir)
    · exact hthere

/-- A walk and a route that start alike **come to the same names**. -/
theorem foldl_step_of_walk {place last : List Text} {pieces : List Text}
    (h : T.walk place pieces = some last) :
    (pieces.filterMap Component.ofPiece?).foldl Route.step ⟨true, 0, place⟩ = ⟨true, 0, last⟩ := by
  induction pieces generalizing place with
  | nil =>
    obtain rfl := Option.some.inj h
    rfl
  | cons piece pieces ih =>
    obtain ⟨next, hnext, hrest⟩ := Option.bind_eq_some_iff.1 h
    obtain ⟨-, ⟨hpiece, rfl⟩ | ⟨hpiece, rfl⟩ | ⟨hpiece, rfl, -⟩⟩ := step_cases hnext
    · rw [List.filterMap_cons_none hpiece]
      exact ih hrest
    · have hup : Route.step ⟨true, 0, place⟩ .parent = ⟨true, 0, place.tail⟩ := by
        cases place <;> rfl
      rw [List.filterMap_cons_some hpiece, List.foldl_cons, hup]
      exact ih hrest
    · rw [List.filterMap_cons_some hpiece, List.foldl_cons]
      exact ih hrest

/-- The names on the way to a place lead there. -/
theorem walk_reverse {place : List Text} (hthere : (T.kind? place).isSome)
    (hnames : ∀ n ∈ place, IsOrdinary n) : T.walk [] place.reverse = some place := by
  induction place with
  | nil => rfl
  | cons n place ih =>
    have hdir : T.kind? place = some .directory := T.kind?_tail hthere
    have hfront : T.walk [] place.reverse = some place :=
      ih (Option.isSome_of_eq_some hdir) fun m hm ↦ hnames m (List.mem_cons_of_mem n hm)
    obtain ⟨hne, -, hdot, hdots⟩ := hnames n List.mem_cons_self
    have hlast : T.step place n = some (n :: place) := by
      rw [step, if_pos hdir, if_neg (not_or.2 ⟨hne, hdot⟩), if_neg hdots, if_pos hthere]
    rw [List.reverse_cons, walk_append, hfront, Option.bind_some, walk, hlast]
    rfl

/-! ### Paths -/

theorem resolve_of_isAbsolute {p : Path} (h : p.isAbsolute = true) (here : List Text) :
    T.resolve here p = T.walk [] p.pieces := by
  rw [resolve, if_pos h]

theorem resolve_of_not_isAbsolute {p : Path} (h : ¬ p.isAbsolute = true) (here : List Text) :
    T.resolve here p = T.walk here p.pieces := by
  rw [resolve, if_neg h]

/-- Where a path leads from a directory, there it leads as seen from that directory's path. -/
theorem resolve_join {dir p : Path} (hdir : dir.isAbsolute = true) {here last : List Text}
    (hhere : T.resolve [] dir = some here) (h : T.resolve here p = some last) :
    T.resolve [] (dir.join p) = some last := by
  rw [resolve_of_isAbsolute hdir] at hhere
  by_cases hp : p.isAbsolute = true
  · rw [Path.join_of_isAbsolute hp, resolve_of_isAbsolute hp]
    rwa [resolve_of_isAbsolute hp] at h
  rw [resolve_of_not_isAbsolute hp] at h
  have hne : dir.text ≠ [] := by
    intro hnil
    simp [Path.isAbsolute, hnil] at hdir
  obtain ⟨front, hfront, hjoined⟩ := Path.exists_pieces_join hne (by simpa using hp)
  have hwalk : T.walk [] front = some here := by
    rcases hfront with hfront | hfront
    · rwa [← hfront]
    · -- an empty piece behind the last separator stays where it is
      rw [hfront, walk_append] at hhere
      obtain ⟨place, hplace, hlast⟩ := Option.bind_eq_some_iff.1 hhere
      obtain ⟨next, hnext, hend⟩ := Option.bind_eq_some_iff.1 hlast
      obtain rfl := Option.some.inj hend
      obtain ⟨-, ⟨-, rfl⟩ | ⟨hpiece, -⟩ | ⟨hpiece, -⟩⟩ := step_cases hnext
      · exact hplace
      · exact absurd hpiece (by decide)
      · exact absurd hpiece (by decide)
  rw [resolve_of_isAbsolute (Path.isAbsolute_join hdir), hjoined, walk_append, hwalk]
  exact h

/-- The written form of a place leads there. -/
theorem resolve_path {place : List Text} (hthere : (T.kind? place).isSome)
    (hnames : ∀ n ∈ place, IsOrdinary n) :
    T.resolve [] (Route.path ⟨true, 0, place⟩) = some place := by
  have hwalk := walk_reverse hthere hnames
  have hpieces : Path.pieces (Route.path ⟨true, 0, place⟩) =
      [] :: (['/'].intercalate place.reverse).splitOn '/' :=
    List.splitOn_append_cons_self [] (['/'].intercalate place.reverse)
  have hroot : T.step [] [] = some [] := by
    rw [step, if_pos T.kind?_root]
    rfl
  rw [resolve_of_isAbsolute (Route.isAbsolute_path_of_rooted rfl), hpieces, walk, hroot,
    Option.bind_some]
  cases place with
  | nil =>
    show T.walk [] [[]] = some []
    rw [walk, hroot]
    rfl
  | cons n place =>
    rw [List.splitOn_intercalate]
    · exact hwalk
    · intro m hm
      exact (hnames m (List.mem_reverse.1 hm)).2.1
    · simp

/-- An absolute path leads to the names of its route, if it leads anywhere. -/
theorem route_of_resolve {p : Path} (hp : p.isAbsolute = true) {last : List Text}
    (h : T.resolve [] p = some last) : p.route = ⟨true, 0, last⟩ := by
  rw [resolve_of_isAbsolute hp] at h
  rw [Path.route, Path.components_of_isAbsolute hp]
  exact foldl_step_of_walk h

/-- The normal form of an absolute path **leads where the path leads**. -/
theorem resolve_normalize {p : Path} (hp : p.isAbsolute = true) {last : List Text}
    (h : T.resolve [] p = some last) : T.resolve [] p.normalize = some last := by
  have hroute := route_of_resolve hp h
  have hnames := p.sound_route.isOrdinary
  rw [hroute] at hnames
  rw [resolve_of_isAbsolute hp] at h
  rw [Path.normalize, hroute]
  exact resolve_path (isSome_kind?_of_walk (Option.isSome_of_eq_some T.kind?_root) h) hnames

end FileTree

end LineShell
