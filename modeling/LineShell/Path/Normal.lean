import LineShell.Path.Basic

/-!
# Normal form of a path

The normal form of a path is found from its text alone: no file is looked at, so links are kept as
written. It goes through a `Route`, which is what the components come to: whether they begin at the
root, how many steps lead above the starting point, and the names that lead down from there. A step
to the parent takes back the last name; where there is none, it is lost at the root and counted
elsewhere.

The text of a route has no doubled or trailing separator and no dot, except that the route which
leads nowhere is written as a single dot.
-/

namespace LineShell

/-- What a path comes to when its components are followed one by one. -/
@[ext] structure Route where
  /-- The path begins at the root. -/
  rooted : Bool
  /-- The steps to a parent that no name was there to take back. -/
  ups : Nat
  /-- The names that lead down, the last one first. -/
  names : List Text
  deriving DecidableEq, Repr

namespace Route

/-- The route of the empty path. -/
def start : Route := ⟨false, 0, []⟩

/-- One step towards the root. -/
def up (r : Route) : Route :=
  match r.names with
  | _ :: names => { r with names }
  | [] => if r.rooted then r else { r with ups := r.ups + 1 }

/-- The route after one more component. -/
def step (r : Route) : Component → Route
  | .root => ⟨true, 0, []⟩
  | .current => r
  | .parent => r.up
  | .name n => { r with names := n :: r.names }

/-- The names and parent steps of a route in written order. -/
def parts (r : Route) : List Text := List.replicate r.ups ['.', '.'] ++ r.names.reverse

/-- The path that a route is written as. -/
def path (r : Route) : Path :=
  if r.rooted then ⟨'/' :: ['/'].intercalate r.parts⟩
  else if r.parts = [] then ⟨['.']⟩
  else ⟨['/'].intercalate r.parts⟩

/-- The written route of a rooted route is absolute. -/
theorem isAbsolute_path_of_rooted {r : Route} (h : r.rooted) : r.path.isAbsolute := by
  simp [path, h, Path.isAbsolute]

end Route

namespace Path

/-- The route that the components of a path follow. -/
def route (p : Path) : Route := p.components.foldl Route.step .start

/-- The normal form of a path. -/
def normalize (p : Path) : Path := p.route.path

end Path

end LineShell
