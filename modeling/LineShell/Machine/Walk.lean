import LineShell.Machine.Errno
import LineShell.Machine.Files

/-!
# Following paths

A path is followed by walking its steps. Every step needs a directory to start from, a separator at
the end of a path counts as a step that stays, the parent of the root is the root, and a link is
replaced by the steps of its target, at most `linkLimit` times on one walk. Names and paths have a
length limit.
-/

namespace LineShell

/-- The steps of a raw path, as they are walked one by one. -/
def Raw.steps (path : Raw) : List Component :=
  (path.splitOn '/').filterMap (fun piece ↦
    if piece = [] then none
    else if piece = ['.'] then some .current
    else if piece = ['.', '.'] then some .parent
    else some (.name piece)) ++
  if path.getLast? = some '/' then [.current] else []

/-- The path begins at the root. -/
def Raw.isRooted (path : Raw) : Bool := path.head? == some '/'

/-- The steps of a path, as they are walked one by one. -/
def Path.steps (p : Path) : List Component := p.text.raw.steps

namespace Files

/-- How many links one walk may follow. -/
def linkLimit : Nat := 40

/-- How long a name may be. -/
def nameLimit : Nat := 255

/-- How long a path may be. -/
def pathLimit : Nat := 4095

/-- The place of a name in a directory, if it can be one. -/
def child (place : Place) (name : Raw) : Except Errno Place :=
  if name.length ≤ nameLimit then .ok (name :: place) else .error .nameTooLong

/-- Walk some steps from a place. What to do with the steps that a link leads to is left to
`follow`. -/
def walkWith (fs : Files) (follow : Place → List Component → Except Errno Place) :
    Place → List Component → Except Errno Place
  | place, [] => .ok place
  | place, step :: rest =>
    if fs.isDirectory place then
      match step with
      | .root => fs.walkWith follow [] rest
      | .current => fs.walkWith follow place rest
      | .parent => fs.walkWith follow place.tail rest
      | .name n =>
        if n.length ≤ nameLimit then
          match fs.entryAt? (n :: place) with
          | none => .error .noEntry
          | some (.link target) =>
            follow (if target.isRooted then [] else place) (target.steps ++ rest)
          | some _ => fs.walkWith follow (n :: place) rest
        else .error .nameTooLong
    else .error .notDirectory

/-- Walk some steps from a place, following at most so many links. -/
def walkWithin (fs : Files) : Nat → Place → List Component → Except Errno Place
  | 0 => fs.walkWith fun _ _ ↦ .error .tooManyLevels
  | links + 1 => fs.walkWith (fs.walkWithin links)

/-- Walk some steps from a place. -/
def walk (fs : Files) (place : Place) (steps : List Component) : Except Errno Place :=
  fs.walkWithin linkLimit place steps

/-- Where the walk of a path begins, for a process that stands at `here`. -/
def start (here : Place) (path : Raw) : Place := if path.isRooted then [] else here

/-- A path that can be walked at all. -/
def checked (path : Raw) : Except Errno Raw :=
  if path = [] then .error .noEntry
  else if path.length ≤ pathLimit then .ok path
  else .error .nameTooLong

/-- The place that a path leads to, for a process that stands at `here`. -/
def resolve (fs : Files) (here : Place) (path : Raw) : Except Errno Place := do
  let path ← checked path
  fs.walk (start here path) path.steps

/-- What a path leads to, for a process that stands at `here`. -/
def find (fs : Files) (here : Place) (path : Raw) : Except Errno Entry := do
  let place ← fs.resolve here path
  match fs.entryAt? place with
  | some entry => .ok entry
  | none => .error .noEntry

/-- What a path leads to if a link at its end is not followed. -/
def findLink (fs : Files) (here : Place) (path : Raw) : Except Errno Entry := do
  let path ← checked path
  match path.steps.reverse with
  | .name n :: parents =>
    let place ← fs.walk (start here path) parents.reverse
    if fs.isDirectory place then
      match fs.entryAt? (← child place n) with
      | some entry => .ok entry
      | none => .error .noEntry
    else .error .notDirectory
  | _ => fs.find here path

/-- What kind of thing a path leads to, for a process that stands at `here`. -/
def kind? (fs : Files) (here : Place) (path : Raw) : Option FileKind :=
  match fs.find here path with
  | .error _ => none
  | .ok (.file mode _) => some (.file (mode &&& 0o111 ≠ 0))
  | .ok (.device _) => some .special
  | .ok _ => some .directory

/-- The place at which a file is found or made at the end of some steps: links at the end are
followed too, even if nothing is there yet. At most so many links are followed at the end. -/
def placeFor (fs : Files) : Nat → Place → List Component → Except Errno Place
  | 0, _, _ => .error .tooManyLevels
  | links + 1, place, steps =>
    match steps.reverse with
    | .name n :: parents => do
      let parent ← fs.walk place parents.reverse
      if !fs.isDirectory parent then .error .notDirectory
      else
        let place ← child parent n
        match fs.entryAt? place with
        | some (.link target) =>
          fs.placeFor links (if target.isRooted then [] else parent) target.steps
        | some _ => .ok place
        | none => if parent.isUnlinked then .error .noEntry else .ok place
    | _ =>
      match fs.walk place steps with
      | .ok place => .ok place
      | .error .noEntry => .error .isDirectory
      | .error e => .error e

/-- The place at which a path finds a file or has one made, for a process that stands at `here`. -/
def resolveNew (fs : Files) (here : Place) (path : Raw) : Except Errno Place := do
  let path ← checked path
  fs.placeFor (linkLimit + 1) (start here path) path.steps

end Files

end LineShell
