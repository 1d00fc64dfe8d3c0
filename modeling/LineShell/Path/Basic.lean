import LineShell.Text.Basic

/-!
# Paths

A path is its text. Its components are read off the text: separators that follow each other count as
one, one at the end counts for nothing, and so does a dot between others; only a dot that a relative
path begins with is a component, because it makes `./x` a path where `x` is a bare name.
-/

namespace LineShell

/-- A path, as it is written. -/
@[ext] structure Path where
  text : Text
  deriving DecidableEq, Repr

/-- One step of a path. -/
inductive Component
  | root
  | current
  | parent
  | name (n : Text)
  deriving DecidableEq, Repr

/-- The component that stands between two separators, if one does. -/
def Component.ofPiece? (piece : Text) : Option Component :=
  if piece = [] ∨ piece = ['.'] then none
  else if piece = ['.', '.'] then some .parent
  else some (.name piece)

namespace Path

/-- The path begins at the root. -/
def isAbsolute (p : Path) : Bool := p.text.head? == some '/'

/-- The texts between the separators of a path. -/
def pieces (p : Path) : List Text := p.text.splitOn '/'

/-- The components of a path. -/
def components (p : Path) : List Component :=
  let rest := p.pieces.filterMap Component.ofPiece?
  if p.isAbsolute then .root :: rest
  else if p.pieces.head? = some ['.'] then .current :: rest
  else rest

/-- What `q` is as seen from `p`: an absolute `q` stands for itself, any other is written behind
`p`, with a separator between them unless `p` is empty or ends in one. -/
def join (p q : Path) : Path :=
  if q.isAbsolute then q
  else if p.text = [] ∨ p.text.getLast? = some '/' then ⟨p.text ++ q.text⟩
  else ⟨p.text ++ '/' :: q.text⟩

/-- The root directory. -/
def root : Path := ⟨['/']⟩

theorem join_of_isAbsolute {p q : Path} (h : q.isAbsolute) : p.join q = q := by
  simp [join, h]

/-- What is seen from an absolute path is absolute. -/
theorem isAbsolute_join {p q : Path} (h : p.isAbsolute) : (p.join q).isAbsolute := by
  obtain ⟨t⟩ := p
  cases t with
  | nil => simp [isAbsolute] at h
  | cons c r =>
    unfold join
    split
    · assumption
    · split <;> simpa [isAbsolute] using h

end Path

end LineShell
