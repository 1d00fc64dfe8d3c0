import LineShell.Script.Options
import LineShell.Script.Startup

/-!
# Built-in commands for variables and arguments

The commands that mark, hide, remove and list variables, that deal with the arguments of a script,
and that read a line of input into variables.
-/

namespace LineShell

namespace Script

namespace Utility

open Run

/-- A name and a value with an equals sign between them; there need be no value. -/
def nameAndValue (t : Raw) : Raw × Option Raw :=
  let name := t.takeWhile (· ≠ '=')
  (name, if t.length = name.length then none else some (t.drop (name.length + 1)))

/-! ### Marks -/

/-- Mark variables, which may be given values, or list the ones that are marked. -/
def mark (word : String) (wanted : Variable → Bool) (marked : Variable → Variable)
    (args : List Raw) : Run Nat := do
  let o ← options "p" "" args
  match o.given, o.rest with
  | [], first :: others =>
    (first :: others).forM fun t ↦ do
      let (name, value) := nameAndValue t
      let old ← variableOf? name
      if value.isSome ∨ old.isNone then assign name value false
      putVariable name ((← variableOf? name).map marked)
  | _, _ => listVariables word.toList wanted
  return 0

/-- Mark variables as part of the environment of programs. -/
def exportVariables (args : List Raw) : Run Nat :=
  mark "export" (·.exported) ({ · with exported := true }) args

/-- Protect variables. -/
def protectVariables (args : List Raw) : Run Nat :=
  mark "readonly" (·.readOnly) ({ · with readOnly := true }) args

/-- Give the function that is running variables of its own, or flags. -/
def localVariables (args : List Raw) : Run Nat := do
  if (← get).locals = [] then fail "not in a function".toList
  args.forM fun t ↦ do
    if t = ['-'] then hide (.flags (← get).flags)
    else
      let (name, value) := nameAndValue t
      makeLocal name value false
  return 0

/-- Remove variables or functions. -/
def unsetNames (args : List Raw) : Run Nat := do
  let o ← options "vf" "" args
  o.rest.forM fun t ↦ do
    if o.given.getLast?.any (·.1 = 'f') then
      modify fun s ↦ { s with functions := s.functions.filter (·.1 ≠ t) }
    else unset (nameAndValue t).1
  return 0

/-! ### Arguments -/

/-- Replace the arguments of the script. -/
def setArguments (args : List Raw) : Run Unit := modify ({ · with args, progress := {} })

/-- List the variables, or switch flags and replace the arguments. -/
def setAll (args : List Raw) : Run Nat := do
  if args = [] then listVariables [] (·.value.isSome)
  else
    let asked ← settings false args.length {} args
    refuseJobControl
    if asked.rest ≠ [] ∨ asked.replaces then setArguments asked.rest
  return 0

/-- Drop arguments at the front. -/
def shift (args : List Raw) : Run Nat := do
  let n ← args.head?.elim (pure 1) count
  let own := (← get).args
  if n > own.length then fail "can't shift that many".toList
  setArguments (own.drop n)
  return 0

/-- What follows the letter of an option in a list of them. A colon belongs to the letter before. -/
def behindLetter? (c : Char) : Raw → Option Raw
  | [] => none
  | d :: rest =>
    if d = c then some rest
    else
      match rest with
      | ':' :: rest => behindLetter? c rest
      | rest => behindLetter? c rest

/-- Where the next option is: the rest of its argument, from the letter on, and the index of the
argument after that. If there is no option, what matters is the index alone. -/
def nextLetter (args : List Raw) (progress : OptionProgress) : Raw × Nat :=
  let inWord :=
    match progress.offset with
    | some offset =>
      if progress.index ≤ 1 then [] else (args.getD (progress.index - 2) []).drop offset
    | none => []
  if inWord ≠ [] then (inWord, progress.index)
  else
    match args.drop (progress.index - 1) with
    | ['-', '-'] :: _ => ([], progress.index + 1)
    | ('-' :: c :: cs) :: _ => (c :: cs, progress.index + 1)
    | _ => ([], progress.index)

/-- Take the next option apart: set a variable to its letter, and another one to its value. -/
def takeOption (known variableName : Raw) (args : List Raw) : Run Nat := do
  let progress := (← get).progress
  let progress := if progress.index > args.length + 1 then {} else progress
  modify ({ · with progress := {} })
  let isQuiet := known.head? = some ':'
  let answer (letter : Char) (index : Nat) (rest : Raw) (status : Nat) : Run Nat := do
    preset "OPTIND" (Text.decimal index)
    setVariable variableName [letter]
    let word := args.getD (index - 2) []
    let offset := if rest = [] then none else some (word.length - rest.length)
    modify ({ · with progress := ⟨index, offset⟩ })
    return status
  let refuse (letter marker : Char) (message : Raw) (index : Nat) (rest : Raw) : Run Nat := do
    if isQuiet then
      setVariable "OPTARG".toList [letter]
      answer marker index rest 0
    else
      printError (message ++ ['\n'])
      unset "OPTARG".toList
      answer '?' index rest 0
  match nextLetter args progress with
  | ([], index) => answer '?' index [] 1
  | (c :: rest, index) =>
    match behindLetter? c known with
    | none => refuse c '?' ("Illegal option -".toList ++ [c]) index rest
    | some (':' :: _) =>
      match rest, args.drop (index - 1) with
      | [], [] => refuse c ':' ("No arg for -".toList ++ [c] ++ " option".toList) index []
      | [], value :: _ =>
        setVariable "OPTARG".toList value
        answer c (index + 1) [] 0
      | value, _ =>
        setVariable "OPTARG".toList value
        answer c index [] 0
    | some _ =>
      setVariable "OPTARG".toList []
      answer c index rest 0

/-- Take the next option of the script apart, or of other arguments. -/
def getOption (args : List Raw) : Run Nat := do
  match (← options "" "" args).rest with
  | [known, variableName] => takeOption known variableName (← get).args
  | known :: variableName :: args => takeOption known variableName args
  | _ => fail "Usage: getopts optstring var [arg...]".toList

/-! ### Input -/

/-- A line in the making. -/
structure InputLine where
  /-- The segments, the last one first. A character behind a backslash is one of its own. -/
  segments : List Segment := []
  /-- The text of the next segment, its last character first. -/
  text : Raw := []
  /-- A backslash has just been read. -/
  escaped : Bool := false

/-- The segments of a line. -/
def InputLine.all (l : InputLine) : List Segment :=
  (⟨.atSeparators, pieces l.text.reverse false⟩ :: l.segments).reverse

/-- Read a line from the input, and whether its end was met. A backslash takes away the meaning of
the next character, and joins lines. -/
def readLine (isRaw : Bool) : Run (List Segment × Bool) :=
  iterate (fun (l : InputLine) ↦ do
    match ← readChar 0 with
    | .error _ | .ok none => return .error (l.all, false)
    | .ok (some c) =>
      if c = '\x00' then return .ok l
      else if l.escaped then
        let text : Segment := ⟨.atSeparators, pieces l.text.reverse false⟩
        let segments :=
          if c = '\n' then text :: l.segments
          else ⟨.never, pieces [c] false⟩ :: text :: l.segments
        return .ok { segments }
      else if c = '\\' ∧ !isRaw then return .ok { l with escaped := true }
      else if c = '\n' then return .error (l.all, true)
      else return .ok { l with text := c :: l.text }) {}

/-- Read a line into variables: each gets a field, and the last one what is left. -/
def read (args : List Raw) : Run Nat := do
  let o ← options "r" "p" args
  if o.rest = [] then fail "arg count".toList
  let (segments, complete) ← readLine (o.given.any (·.1 = 'r'))
  let fields := split (← separators) (some o.rest.length) segments
  let values := fields.map Field.text ++ List.replicate o.rest.length []
  (o.rest.zip values).forM fun (name, value) ↦ setVariable name value
  return if complete then 0 else 1

end Utility

end Script

end LineShell
