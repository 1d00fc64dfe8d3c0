import LineShell.Script.Meaning
import LineShell.Script.Options
import LineShell.Script.Variables

/-!
# Built-in commands for the names of commands

Aliases, the programs that have been found, and what a name stands for.
-/

namespace LineShell

namespace Script

namespace Utility

open Run

/-- The place of a name in a table of some size. Tables are listed in the order of the places. -/
def slot (size : Nat) (name : Raw) : Nat :=
  (name.foldl (fun n c ↦ n + c.toNat) ((name.head?.elim 0 Char.toNat) * 16)) % size

/-- Entries in the order of a table of some size. -/
def inTableOrder {α : Type} (size : Nat) (name : α → Raw) (entries : List α) : List α :=
  entries.mergeSort fun a b ↦ slot size (name a) ≤ slot size (name b)

/-! ### Aliases -/

/-- Print an alias as it would be set. -/
def printAlias (a : Raw × Raw) : Run Unit :=
  printLine (a.1 ++ '=' :: quoted a.2)

/-- Set aliases or print them. -/
def setAliases (args : List Raw) : Run Nat := do
  if args = [] then
    (inTableOrder 39 Prod.fst (← get).aliases).forM printAlias
    return 0
  else
    args.foldlM (fun status t ↦ do
      let known := (← get).aliases
      let later := (t.drop 1).takeWhile (· ≠ '=')
      let name := t.take 1 ++ later
      match t.drop name.length with
      | '=' :: text =>
        let isOld := known.any (·.1 = name)
        let aliases :=
          if isOld then known.map fun a ↦ if a.1 = name then (name, text) else a
          else known ++ [(name, text)]
        modify ({ · with aliases })
        return status
      | _ =>
        match known.find? (·.1 = t) with
        | some known =>
          printAlias known
          return status
        | none =>
          printError ("alias: ".toList ++ t ++ " not found\n".toList)
          return 1) 0

/-- Remove aliases. -/
def removeAliases (args : List Raw) : Run Nat := do
  let o ← options "a" "" args
  if o.given ≠ [] then
    modify ({ · with aliases := [] })
    return 0
  else
    o.rest.foldlM (fun status name ↦ do
      let known := (← get).aliases
      if known.any (·.1 = name) then
        modify ({ · with aliases := known.filter (·.1 ≠ name) })
        return status
      else
        printError ("unalias: ".toList ++ name ++ " not found\n".toList)
        return 1) 0

/-! ### Programs that have been found -/

/-- The path at a position on a search path. -/
def pathAt (searchPath : Raw) (position : Nat) (name : Raw) : Raw :=
  (candidates searchPath name).getD position name

/-- List the programs that have been found, or look for programs, or forget them all. -/
def hash (args : List Raw) : Run Nat := do
  let o ← options "r" "" args
  if o.given ≠ [] then
    modify ({ · with found := [] })
    return 0
  else if o.rest = [] then
    let path ← searchPath
    (inTableOrder 31 Finding.name (← get).found.reverse).forM fun f ↦
      printLine (pathAt path f.position f.name ++ if f.stale then ['*'] else [])
    return 0
  else
    o.rest.foldlM (fun status name ↦ do
      modify fun s ↦ { s with found := s.found.filter (·.name ≠ name) }
      match ← meaningOf false none name with
      | .ok _ => return status
      | .error e =>
        warn (name ++ ": ".toList ++ programMessage e)
        return 1) 0

/-! ### What a name stands for -/

/-- Tell what a name stands for, in words or as it would be called. -/
def describe (inWords : Bool) (other : Option Raw) (name : Raw) : Run Nat := do
  let tell (words brief : Raw) : Run Nat := do
    printLine (if inWords then name ++ words else brief)
    return 0
  let s ← get
  if keywords.contains (String.ofList name) then tell " is a shell keyword".toList name
  else
    match s.aliases.find? (·.1 = name) with
    | some (_, text) =>
      tell (" is an alias for ".toList ++ text)
        ("alias ".toList ++ name ++ '=' :: quoted text)
    | none =>
      let path := other.getD (← searchPath)
      let tracked := if other.isSome then none else s.found.find? (·.name = name)
      match tracked with
      | some f =>
        let path := pathAt path f.position name
        tell (" is a tracked alias for ".toList ++ path) path
      | none =>
        let isMissing := name.contains '/' &&
          (s.world.machine.files.resolve s.here name).toOption.isNone
        match isMissing, ← meaningOf false other name with
        | _, .ok (.function _) => tell " is a shell function".toList name
        | _, .ok .builtin =>
          tell (" is a ".toList ++ (if isSpecialCommand name then "special ".toList else []) ++
            "shell builtin".toList) name
        | false, .ok (.program position) =>
          let path := if name.contains '/' then name else pathAt path position name
          tell (" is ".toList ++ path) path
        | _, _ =>
          if inWords then printLine (name ++ ": not found".toList)
          return 127

/-- Tell what names stand for. -/
def describeAll (args : List Raw) : Run Nat := do
  let statuses ← args.mapM (describe true none)
  return statuses.foldl (· ||| ·) 0

/-- Tell what a name stands for, if that is asked for. -/
def command (args : List Raw) : Run Nat := do
  let o ← options "pvV" "" args
  let other := if o.given.any (·.1 = 'p') then some standardSearchPath else none
  match o.rest with
  | name :: _ =>
    if o.given.any (·.1 = 'V') then describe true other name
    else if o.given.any (·.1 = 'v') then describe false other name
    else return 0
  | [] => return 0

end Utility

end Script

end LineShell
