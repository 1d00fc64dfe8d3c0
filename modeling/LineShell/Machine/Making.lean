import LineShell.Machine.Basic

/-!
# Making and removing files

How files, directories and links come to be on a machine before and between the commands of a
shell. Directories that are missing on the way are made.
-/

namespace LineShell

namespace Files

/-- Make the directories that are missing on a walk, and say where the walk ends. -/
def makeDirectories (fs : Files) (start : Place) (steps : List Component) :
    Files × Option Place :=
  steps.foldl
    (fun (fs, place?) step ↦
      match place? with
      | none => (fs, none)
      | some place =>
        match fs.walk place [step], step with
        | .ok next, _ => (fs, some next)
        | .error _, .name n =>
          if fs.isDirectory place ∧ fs.entryAt? (n :: place) = none then
            (fs.put (n :: place) (.directory 0o755), some (n :: place))
          else (fs, none)
        | .error _, _ => (fs, none))
    (fs, some start)

/-- Write a file: a new one, or the one that is there, or the one that a link there leads to. At
most so many links are followed. -/
def writeThrough (fs : Files) (mode : Nat) (content : Bytes) :
    Nat → Place → List Component → Files
  | 0, _, _ => fs
  | links + 1, start, steps =>
    match steps.reverse with
    | .name n :: parents =>
      match fs.makeDirectories start parents.reverse with
      | (fs, none) => fs
      | (fs, some parent) =>
        match fs.entryAt? (n :: parent) with
        | some (.directory _) | some (.device _) => fs
        | some (.link target) =>
          fs.writeThrough mode content links (if target.isRooted then [] else parent) target.steps
        | _ => fs.put (n :: parent) (.file mode (.bytes content))
    | _ => fs

/-- Make a directory and those that lead to it, and give it a mode. -/
def makeDirectory (fs : Files) (start : Place) (steps : List Component) (mode : Nat) : Files :=
  match fs.makeDirectories start steps with
  | (fs, some place) => if fs.isDirectory place then fs.put place (.directory mode) else fs
  | (fs, none) => fs

end Files

namespace Machine

variable (m : Machine) (start : Place) (steps : List Component)

/-- Make a directory and those that lead to it, and give it a mode. -/
def makeDirectory (mode : Nat) : Machine :=
  { m with files := m.files.makeDirectory start steps mode }

/-- Write a file at the end of some steps, links followed. -/
def writeFile (mode : Nat) (content : Bytes) : Machine :=
  { m with files := m.files.writeThrough mode content (Files.linkLimit + 1) start steps }

/-- Make a link, in place of what was there. -/
def makeLink (target : Path) : Machine :=
  match steps.reverse with
  | .name n :: parents =>
    match m.files.makeDirectories start parents.reverse with
    | (files, none) => { m with files }
    | (files, some parent) =>
      let m := { m with files }.removeAll (n :: parent)
      { m with files := m.files.put (n :: parent) (.link target.text.raw) }
  | _ => m

/-- Remove what some steps lead to, and everything below it; a link at the end is removed itself. -/
def remove : Machine :=
  match steps.reverse with
  | .name n :: parents =>
    match m.files.walk start parents.reverse with
    | .ok parent => m.removeAll (n :: parent)
    | .error _ => m
  | _ => m

/-- The bytes of the file that some steps lead to. -/
def contents? : Option Bytes :=
  (m.files.walk start steps).toOption.bind m.files.bytes?

end Machine

end LineShell
