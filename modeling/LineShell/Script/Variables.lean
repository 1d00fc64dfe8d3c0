import LineShell.Bindings
import LineShell.Script.Streams

/-!
# The variables of a script

Variables have values, may be marked as part of the environment of other programs, and may be
protected. A function can have variables of its own: what they hide is put back at its end.
-/

namespace LineShell

namespace Script

/-- The rest of a text between quotes, which are double ones where single quotes have to be
quoted. -/
def quoteFrom (inDouble : Bool) : Raw → Raw
  | [] => [if inDouble then '"' else '\'']
  | c :: rest =>
    if c = '\'' then
      (if inDouble then ['\''] else ['\'', '"', '\'']) ++ quoteFrom true rest
    else (if inDouble then ['"', '\'', c] else [c]) ++ quoteFrom false rest

/-- A text between quotes, so that it would be read as it is. -/
def quoted (t : Raw) : Raw := '\'' :: quoteFrom false t

/-- Texts in ascending order. -/
def sorted {α : Type} (key : α → Raw) (xs : List α) : List α :=
  xs.mergeSort fun a b ↦ !Text.precedes (key b) (key a)

namespace Run

/-- A variable, if there is one of that name. -/
def variableOf? (name : Raw) : Run (Option Variable) := do
  return ((← get).vars.find? (·.1 = name)).map (·.2)

/-- The value of a variable. -/
def value? (name : Raw) : Run (Option Raw) := do
  return (← variableOf? name).bind (·.value)

/-- Put a variable in the place of the one of that name. -/
def putVariable (name : Raw) (v : Option Variable) : Run Unit := modify fun s ↦
  let others := s.vars.filter (·.1 ≠ name)
  { s with vars := v.toList.map (fun v ↦ (name, v)) ++ others }

/-- What follows from a new value: programs have to be looked for again, or options to be read
again. -/
def afterSetting (name : Raw) : Run Unit := do
  if name = "PATH".toList then modify ({ · with found := [] })
  if name = "OPTIND".toList then
    let index ← count ((← value? name).getD [])
    modify ({ · with progress := ⟨max index 1, none⟩ })

/-- Set a variable, or only mark it if no value is given. -/
def assign (name : Raw) (value : Option Raw) (exported : Bool) : Run Unit := do
  if !isName name then fail (name ++ ": bad variable name".toList)
  let old := (← variableOf? name).getD {}
  if old.readOnly then fail (name ++ ": is read only".toList)
  let exported := exported || old.exported || (← isOn .allexport)
  putVariable name (some { old with value, exported })
  afterSetting name

/-- Set a variable. -/
def setVariable (name value : Raw) : Run Unit := assign name (some value) false

/-- Remove a variable. -/
def unset (name : Raw) : Run Unit := do
  if !isName name then fail (name ++ ": bad variable name".toList)
  match ← variableOf? name with
  | some v =>
    if v.readOnly then fail (name ++ ": is read only".toList)
    putVariable name none
    afterSetting name
  | none => pure ()

/-- Note what comes back with the end of the innermost function. -/
def hide (h : Hidden) : Run Unit := modify fun s ↦
  match s.locals with
  | frame :: outer => { s with locals := (h :: frame) :: outer }
  | [] => s

/-- Give the innermost function a variable of its own. Without a new value it keeps the one there
is. -/
def makeLocal (name : Raw) (value : Option Raw) (exported : Bool) : Run Unit := do
  let old ← variableOf? name
  if value.isSome then assign name value exported
  else if old.isNone then
    if !isName name then fail (name ++ ": bad variable name".toList)
    putVariable name (some { exported })
  hide (.variable name old)

/-- Bring back what was hidden. -/
def uncover : Hidden → Run Unit
  | .variable name old => do
    putVariable name old
    afterSetting name
  | .flags old => modify ({ · with flags := old })

/-- Run something with variables of its own, if it is to have any. -/
def withLocals {α : Type} (hasOwn : Bool) (action : Run α) : Run α := do
  if hasOwn then
    modify fun s ↦ { s with locals := [] :: s.locals }
    ensuring action do
      match (← get).locals with
      | frame :: outer =>
        modify ({ · with locals := outer })
        frame.forM uncover
      | [] => pure ()
  else action

/-- The variables of programs that the script starts, each as one text. -/
def environment : Run (List Raw) := do
  return (← get).vars.filterMap fun (name, v) ↦
    match v.exported, v.value with
    | true, some value => some (name ++ '=' :: value)
    | _, _ => none

/-- Print the variables of some kind as they would be set, behind a word. -/
def listVariables (word : Raw) (wanted : Variable → Bool) : Run Unit := do
  let chosen := (← get).vars.filter fun (_, v) ↦ wanted v
  (sorted (·.1) chosen).forM fun (name, v) ↦
    printLine (word ++ (if word = [] then [] else [' ']) ++ name ++
      v.value.elim [] ('=' :: quoted ·))

/-- The characters at which values are split. -/
def separators : Run Raw := do
  return (← value? "IFS".toList).getD " \t\n".toList

end Run

end Script

end LineShell
