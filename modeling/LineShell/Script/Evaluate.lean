import LineShell.Script.Utilities

/-!
# Running commands

How each kind of command is run. Commands hold other commands, functions call themselves, and texts
are read while they run; all of this goes through an `Evaluator`, which bounds how deep it can go.
A process that goes deeper ends as one that has used up its stack.
-/

namespace LineShell

namespace Script

namespace Run

/-! ### Redirections -/

/-- The change that a redirection makes, its target being expanded. -/
def aim (ev : Evaluator) : Redirection → Run StreamChange
  | .file stream mode target => return .file stream mode (← expandText ev { tilde := true } target)
  | .document stream number => return .document stream number
  | .duplicate stream source => do
    let t ← expandText ev { tilde := true } source
    match t, t.all Char.isDigit with
    | ['-'], _ => return .duplicate stream none
    | [c], true => return .duplicate stream (some (c.toNat - '0'.toNat))
    | _, _ =>
      modify fun s ↦ { s with line := s.lineRead }
      fail "Syntax error: Bad fd number".toList

/-- The text of a document. -/
def documentText (ev : Evaluator) (number : Nat) : Run Raw := do
  match (← get).documents.find? (·.1 = number) with
  | some (_, d) =>
    if d.expands then expandText ev { quoted := true } d.text else return d.text.unquoted
  | none => return []

/-- Make changes of streams; if one of them fails, the process goes on, and the answer is
`false`. -/
def redirect (ev : Evaluator) (changes : List StreamChange) : Run Bool := do
  match ← attempt (changes.forM (change (documentText ev) true)) with
  | .ok () => return true
  | .error .error => return false
  | .error stop => throw stop

/-- Run something with changed streams. The status is 2 if they cannot be changed. -/
def redirecting (ev : Evaluator) (redirections : List Redirection) (action : Run Unit) :
    Run Unit := do
  let changes ← redirections.mapM (aim ev)
  let saved ← bindings changes
  let changed : Run Unit := do
    if ← redirect ev changes then action else setStatus 2
  ensuring changed (restore saved)

/-! ### Calls -/

/-- A call of a command, as far as its words have been expanded. -/
structure Call where
  /-- The fields before the name of the command. -/
  before : List Raw := []
  /-- The name of the command and its arguments. -/
  fields : List Raw := []
  /-- The words that are still to be expanded. -/
  words : List Word
  skipsFunctions : Bool := false
  searchPath : Option Raw := none
  /-- The first built-in command among the names is a special one. -/
  isSpecial? : Option Bool := none
  /-- What the name stands for, if that is clear without a search. -/
  meaning : Option Meaning := none

/-- Expand words until there is a field. -/
def nextFields (ev : Evaluator) : List Word → Run (List Raw × List Word)
  | [] => return ([], [])
  | word :: rest => do
    match ← expandFields ev word with
    | [] => nextFields ev rest
    | fields => return (fields, rest)

/-- What the arguments of the command `command` come to. -/
inductive Passage
  /-- They call another command, which may be searched for on another path. -/
  | through (fields : List Raw) (searchPath : Option Raw)
  /-- That cannot be said without more of them. -/
  | open
  /-- They call nothing. -/
  | none

/-- What the arguments of the command `command` come to. -/
def passage (searchPath : Option Raw) : List Raw → Passage
  | [] => .open
  | ['-', '-'] :: rest => if rest = [] then .open else .through rest searchPath
  | ('-' :: c :: cs) :: rest =>
    if (c :: cs).all (· == 'p') then passage (some standardSearchPath) rest else .none
  | fields => .through fields searchPath

/-- Expand the words of a call until it is clear whether they call a function or a built-in command,
through the command `command` if they begin with it. -/
def begun (ev : Evaluator) (words : List Word) : Run Call :=
  iterate (fun (call : Call) ↦ do
    let needsMore : Run (Except Call Call) := do
      let (fields, words) ← nextFields ev call.words
      if fields = [] then return .error { call with words }
      else return .ok { call with fields := call.fields ++ fields, words }
    match call.fields with
    | [] => needsMore
    | name :: args =>
      let function? := (← get).functions.find? fun f ↦ !call.skipsFunctions && f.1 = name
      match function? with
      | some (_, f) => return .error { call with meaning := some (.function f) }
      | none =>
        if !isBuiltinCommand name then return .error { call with meaning := none }
        else
          let isSpecial? := call.isSpecial? <|> some (isSpecialCommand name)
          let known := { call with meaning := some .builtin, isSpecial? }
          if name ≠ "command".toList then return .error known
          else
            match passage call.searchPath args with
            | .none => return .error known
            | .open =>
              match ← needsMore with
              | .ok call => return .ok call
              | .error call =>
                return .error { call with meaning := some .builtin, isSpecial? }
            | .through fields searchPath =>
              let before := call.before ++ call.fields.take (call.fields.length - fields.length)
              return .ok
                { known with before, fields, searchPath, skipsFunctions := true }) { words }

/-- Expand the words of a call. -/
def called (ev : Evaluator) (words : List Word) : Run Call := do
  let call ← begun ev words
  let assigns : Bool :=
    match call.meaning, call.fields with
    | some .builtin, name :: _ => takesAssignments name
    | _, _ => false
  let more ← call.words.mapM fun word ↦ do
    if assigns && (Word.assignment? word).isSome then
      return [← expandText ev { assigns := true } word]
    else expandFields ev word
  return { call with fields := call.fields ++ more.flatten, words := [] }

/-! ### Traces -/

/-- What stands before the trace of a command. -/
def tracePrefix (ev : Evaluator) : Run Raw := do
  let text := (← value? "PS4".toList).getD []
  if !text.any fun c ↦ c = '$' ∨ c = '\\' ∨ c = '\x60' then return text
  else
    let g := grammar (text.length + 2)
    let mark : AnnouncedDocument := ⟨0, ['\n'], false, true⟩
    match Read.documentText (g.list .optional) (Read.token g) mark { rest := text } with
    | .ok () r =>
      match r.documents with
      | (_, d) :: _ => expandText ev { quoted := true } d.text
      | [] => return text
    | .error _ _ => return text

/-- Show a command before it runs, on the error stream as it was before the command changed it. -/
def trace (ev : Evaluator) (saved : List (Nat × Option Nat)) (fields : List Raw) : Run Unit := do
  let flags := (← get).flags
  if flags.contains .xtrace then
    modify ({ · with flags := flags.filter (· ≠ .xtrace) })
    let front ← tracePrefix ev
    modify ({ · with flags })
    let own := (← get).streams.find? (·.1 = 2) |>.map (·.2)
    match saved.find? (·.1 = 2) with
    | some (_, old) => setStream 2 old
    | none => pure ()
    printError (front ++ [' '].intercalate fields ++ ['\n'])
    setStream 2 own

/-! ### Simple commands -/

/-- How many calls of functions may be running. -/
def maxCalls : Nat := 1000

/-- Call a function. A call too many is never counted back. -/
def callFunction (ev : Evaluator) (f : Function) (args : List Raw) (tested : Bool) :
    Run Unit := do
  let s ← get
  modify ({ · with calls := s.calls + 1 })
  if s.calls ≥ maxCalls then
    fail ("Maximum function recursion depth (".toList ++ Text.decimal maxCalls ++
      ") reached".toList)
  modify ({ · with args, progress := {}, loops := 0 })
  let body : Run Unit := do
    match ← attempt (ev.run f.body tested false) with
    | .ok _ | .error (.leap (.returning _)) => pure ()
    | .error stop => throw stop
  ensuring body (modify fun now ↦
    { now with args := s.args, progress := s.progress, loops := s.loops, calls := now.calls - 1 })

/-- Run what a call stands for, and set the status. -/
def dispatch (ev : Evaluator) (call : Call) (tested last : Bool) : Run Unit := do
  match call.fields with
  | [] => setStatus (← get).wordStatus
  | name :: args =>
    let meaning ←
      match call.meaning with
      | some meaning => pure (.ok meaning)
      | none => meaningOf call.skipsFunctions call.searchPath name
    match meaning with
    | .ok .builtin =>
      match ← attempt (runBuiltin ev tested name args) with
      | .ok status => setStatus status
      | .error .error => if call.isSpecial? = some true then throw .error
      | .error stop => throw stop
    | .ok (.function f) => callFunction ev f args tested
    | .ok (.program position) =>
      let path ← call.searchPath.elim searchPath pure
      let program := become ev path position (name :: args)
      if last ∧ !(← hasTraps) then program else setStatus (← inCopy ev program)
    | .error e =>
      warn (name ++ ": ".toList ++ programMessage e)
      setStatus 127

/-- Make the assignments before a command, and give them as texts. -/
def assignments (ev : Evaluator) (isLocal exported : Bool) (words : List Word) :
    Run (List Raw) :=
  words.mapM fun word ↦ do
    let t ← expandText ev { assigns := true } word
    match assignment? t with
    | some (name, value) =>
      if isLocal then makeLocal name (some value) true else assign name (some value) exported
    | none => pure ()
    return t

/-- Run a simple command. -/
def runSimple (ev : Evaluator) (assigned words : List Word) (redirections : List Redirection)
    (tested last : Bool) : Run Unit := do
  modify ({ · with wordStatus := 0 })
  let call ← called ev words
  let isExec := call.fields.head? = some "exec".toList && call.meaning matches some .builtin
  let isLocal := call.fields ≠ [] && call.isSpecial? ≠ some true
  withLocals isLocal do
    let changes ← redirections.mapM (aim ev)
    let saved ← bindings changes
    let action : Run Bool := do
      if ← redirect ev changes then
        let made ← assignments ev isLocal (isExec && call.fields.length > 1) assigned
        trace ev saved (made ++ call.before ++ call.fields)
        dispatch ev call tested last
        return isExec
      else
        setStatus 2
        if call.isSpecial? = some true then throw .error
        return false
    match ← attempt action with
    | .ok keepsStreams => if !keepsStreams then restore saved
    | .error stop =>
      restore saved
      throw stop

/-! ### Compound commands -/

/-- What a loop does about a leap out of it: it goes on, ends, or passes the leap on. -/
def loopLeap : Leap → Except Leap Bool
  | .breaking (n + 2) => .error (.breaking (n + 1))
  | .breaking _ => .ok false
  | .continuing (n + 2) => .error (.continuing (n + 1))
  | .continuing _ => .ok true
  | .returning givesStatus => .error (.returning givesStatus)

/-- Run a command of a loop, and say whether the loop goes on. -/
def inLoop (action : Run Unit) : Run (Option Bool) := do
  match ← attempt action with
  | .ok () => return none
  | .error (.leap l) =>
    match loopLeap l with
    | .ok goesOn => return some goesOn
    | .error l => throw (.leap l)
  | .error stop => throw stop

/-- Run something as a loop. -/
def asLoop (action : Run Unit) : Run Unit := do
  let loops := (← get).loops
  modify ({ · with loops := loops + 1 })
  ensuring action (modify ({ · with loops }))

/-- Run a command again and again, as a test says. -/
def runLoop (ev : Evaluator) (isUntil : Bool) (test body : Node) (tested : Bool) : Run Unit :=
  asLoop do
    let status ← iterate (fun status ↦ do
      let testing : Run Unit := do
        match ← attempt (ev.run test true false) with
        | .error (.leap (.returning false)) =>
          setStatus status
          throw (.leap (.returning false))
        | .error stop => throw stop
        | .ok () => pure ()
      match ← inLoop testing with
      | some true => return .ok status
      | some false => return .error status
      | none =>
        if ((← get).status = 0) = isUntil then return .error status
        else
          let goesOn ← inLoop (ev.run body tested false)
          let status := (← get).status
          return if goesOn = some false then .error status else .ok status) 0
    setStatus status

/-- Run a command once for each item. -/
def runEach (ev : Evaluator) (name : Raw) (body : Node) (tested : Bool) :
    Nat → List Raw → Run Nat
  | status, [] => return status
  | _, item :: rest => do
    setVariable name item
    let goesOn ← inLoop (ev.run body tested false)
    let status := (← get).status
    if goesOn = some false then return status else runEach ev name body tested status rest

/-- The command of the first branch with a pattern that matches a text. -/
def chosen (ev : Evaluator) (subject : Raw) : List (List Word × Node) → Run (Option Node)
  | [] => return none
  | (patterns, body) :: rest => do
    let fits ← patterns.anyM fun word ↦ return Pattern.isMatch (← expandPattern ev word) subject
    if fits then return some body else chosen ev subject rest

/-- Note the line of a command. -/
def setLine (line : Nat) : Run Unit := modify ({ · with line })

/-- Run a command and set the status. -/
def runBody (ev : Evaluator) (node : Node) (tested last : Bool) : Run Unit := do
  match node with
  | .nothing => pure ()
  | .simple line assigned words redirections =>
    setLine line
    runSimple ev assigned words redirections tested last
  | .pipeline commands false => setStatus (← runPipeline ev tested none commands)
  | .pipeline commands true =>
    launch (.pipeline commands false)
    setStatus 0
  | .redirected line body redirections =>
    setLine line
    redirecting ev redirections (ev.run body tested false)
  | .background line body redirections =>
    setLine line
    launch (.subshell line body redirections)
    setStatus 0
  | .subshell line body redirections =>
    setLine line
    let changes ← redirections.mapM (aim ev)
    let inside : Run Unit := do
      changes.forM (change (documentText ev) false)
      ev.run body tested true
    if last ∧ !(← hasTraps) then
      inside
      throw .exit
    else setStatus (← inCopy ev inside)
  | .both first second =>
    ev.run first true false
    if (← get).status = 0 then ev.run second tested last
  | .either first second =>
    ev.run first true false
    if (← get).status ≠ 0 then ev.run second tested last
  | .sequence commands =>
    commands.dropLast.forM (ev.run · tested false)
    match commands.getLast? with
    | some command => ev.run command tested last
    | none => pure ()
  | .inverted body =>
    ev.run body true false
    setStatus (if (← get).status = 0 then 1 else 0)
  | .choice test positive negative =>
    ev.run test true false
    if (← get).status = 0 then ev.run positive tested last
    else
      match negative with
      | .nothing => setStatus 0
      | negative => ev.run negative tested last
  | .loop isUntil test body => runLoop ev isUntil test body tested
  | .each line name items body =>
    setLine line
    let fields ← items.mapM (expandFields ev)
    asLoop do setStatus (← runEach ev name body tested 0 fields.flatten)
  | .select line subject branches =>
    setLine line
    let subject ← expandText ev { tilde := true } subject
    match ← chosen ev subject branches with
    | none | some .nothing => setStatus 0
    | some body => ev.run body tested last
  | .define line name body =>
    modify fun s ↦
      { s with
        functions := (name, ⟨line, body⟩) :: s.functions.filter (·.1 ≠ name)
        found := s.found.filter (·.name ≠ name) }
    setStatus 0

/-- The failure of a command of this kind can end the script. -/
def isChecked : Node → Bool
  | .simple .. | .subshell .. | .background .. | .pipeline .. | .redirected .. => true
  | _ => false

/-- Run a command. Traps are sprung before and after it, and its failure ends the script if that is
asked for and the failure is not tested. -/
def runNode (ev : Evaluator) (node : Node) (tested last : Bool) : Run Unit := do
  if !(← isOn .noexec) then
    springTraps ev
    let fails : Run Bool := do
      let s ← get
      return s.flags.contains .errexit && isChecked node && !tested && s.status ≠ 0
    match ← attempt (runBody ev node tested last) with
    | .ok () => pure ()
    | .error (.leap l) => if ← fails then throw .exit else throw (.leap l)
    | .error stop => throw stop
    springTraps ev
    if ← fails then throw .exit

/-- The output of a command in a word. -/
def output (ev : Evaluator) (node : Node) : Run Raw := do
  match node with
  | .nothing => return []
  | node =>
    let (readEnd, writeEnd) ← addPipe []
    let status ← inCopy ev do
      setStream 1 (some writeEnd)
      ev.run node false true
    modify ({ · with wordStatus := status })
    return (← contentOf readEnd).filter (· ≠ '\x00')

end Run

/-- The evaluator that goes so many levels deep. -/
def evaluator : Nat → Evaluator
  | 0 =>
    { run := fun _ _ _ ↦ throw Run.givenUp
      output := fun _ ↦ throw Run.givenUp
      expand := fun _ _ ↦ throw Run.givenUp
      settle := pure () }
  | n + 1 =>
    let ev := evaluator n
    { run := Run.runNode ev
      output := Run.output ev
      expand := Run.expand ev
      settle := Run.finishJobs ev }

/-- How many levels a process has room for. -/
def depth : Nat := 12000

end Script

end LineShell
