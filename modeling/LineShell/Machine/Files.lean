import LineShell.Host
import LineShell.Text.Raw

/-!
# A file system in memory

Files are kept flat: every entry is listed with its *place*, the names that lead to it from the
root, the innermost first. So the place of a parent is a tail, and the place of an entry in a
directory is one name in front of the directory's. The root has the empty place and is always a
directory. Names are raw text, as bytes are what the kernel compares and counts.

A directory that is removed while a process stands in it stays where it was for that process alone:
it goes on under a name with a separator in it, to which no path can lead (`Place.afterRemoval`).
-/

namespace LineShell

/-- The names that lead from the root to an entry, the innermost first. -/
abbrev Place := List Raw

/-- A program that a machine is delivered with. -/
inductive Tool
  /-- The program that runs scripts. -/
  | scriptRunner
  /-- A program that waits and does nothing. -/
  | sleeper
  deriving DecidableEq, Repr

/-- What a regular file holds. -/
inductive Content
  | bytes (b : Bytes)
  | tool (t : Tool)
  deriving DecidableEq, Repr

/-- What there can be at a place. -/
inductive Entry
  | directory (mode : Nat)
  | file (mode : Nat) (content : Content)
  | link (target : Raw)
  /-- A device that gives nothing, and takes everything unless it has no room. -/
  | device (room : Bool)
  deriving DecidableEq, Repr

/-- A file system. -/
structure Files where
  entries : List (Place × Entry)
  deriving Repr

namespace Place

/-- The path of a place. -/
def path (place : Place) : Raw := '/' :: ['/'].intercalate place.reverse

/-- A name under which a removed directory goes on: no part of a path is like it. -/
def unlinkedName (n : Raw) : Raw := if n.contains '/' then n else n ++ ['/']

/-- The place is that of a directory that has been removed. -/
def isUnlinked (place : Place) : Bool := place.head?.any (·.contains '/')

/-- The place under which a process finds its directory after an entry has been removed with
everything below it. -/
def afterRemoval (place removed : Place) : Place :=
  if removed ≠ [] ∧ removed.isSuffixOf place then
    (place.take (place.length + 1 - removed.length)).map unlinkedName ++ removed.tail
  else place

end Place

namespace Files

/-- What there is at a place. -/
def entryAt? (fs : Files) (place : Place) : Option Entry :=
  if place = [] then some (.directory 0o755)
  else (fs.entries.find? (·.1 = place)).map (·.2)

/-- There is a directory at a place. -/
def isDirectory (fs : Files) (place : Place) : Bool :=
  match fs.entryAt? place with
  | some (.directory _) => true
  | _ => false

/-- The names of the entries of a directory. -/
def names (fs : Files) (place : Place) : List Raw :=
  fs.entries.filterMap fun e ↦
    match e.1 with
    | n :: parent => if parent = place ∧ !n.contains '/' then some n else none
    | [] => none

/-- Put an entry at a place, in place of what was there. -/
def put (fs : Files) (place : Place) (entry : Entry) : Files :=
  ⟨(place, entry) :: fs.entries.filter (·.1 ≠ place)⟩

/-- Remove what is at a place and everything below it. -/
def removeAll (fs : Files) (place : Place) : Files :=
  ⟨fs.entries.filter fun e ↦ !place.isSuffixOf e.1⟩

/-- Remove what is at a place and everything below it, and keep what a process that stands at `here`
needs to stand there: its directory, and those that lead to it from what is left. -/
def removeAround (fs : Files) (here place : Place) : Files :=
  let after := here.afterRemoval place
  if after = here then fs.removeAll place
  else
    let kept := (List.range (here.length + 1 - place.length)).map after.drop
    kept.foldl (·.put · (.directory 0o755)) (fs.removeAll place)

/-- The bytes that can be read at a place. -/
def bytes? (fs : Files) (place : Place) : Option Bytes :=
  match fs.entryAt? place with
  | some (.file _ (.bytes b)) => some b
  | some (.file _ (.tool _)) => some [0x7f, 0x45, 0x4c, 0x46]
  | some (.device _) => some []
  | _ => none

/-- The directories and programs that a machine is delivered with. The directories for programs and
libraries at the root are links to those under `usr`. -/
def delivered : Files :=
  let place (names : List String) : Place := names.reverse.map String.toList
  let directories := [["usr"], ["usr", "bin"], ["usr", "sbin"], ["usr", "lib"], ["usr", "share"],
    ["usr", "local"], ["usr", "local", "bin"], ["var"], ["var", "tmp"], ["etc"], ["home"], ["root"],
    ["opt"], ["mnt"], ["srv"], ["run"], ["dev"], ["proc"], ["sys"]]
  let links := ["bin", "sbin", "lib"]
  ⟨(place ["usr", "bin", "sh"], .file 0o755 (.tool .scriptRunner)) ::
    (place ["usr", "bin", "sleep"], .file 0o755 (.tool .sleeper)) ::
    (place ["dev", "null"], .device true) ::
    (place ["dev", "full"], .device false) ::
    (place ["tmp"], .directory 0o1777) ::
    (links.map fun name ↦ (place [name], .link ("usr/" ++ name).toList)) ++
    directories.map fun names ↦ (place names, .directory 0o755)⟩

end Files

end LineShell
