import LineShell.Script.Expand
import LineShell.Script.Grammar

/-!
# Running texts

A text is run one complete command at a time, each of which is read only when the one before has
run. Texts come from files, from arguments, and from traps, which are sprung between commands. A
process runs its texts to the end, and the trap for the end after that (`Run.toEnd`).
-/

namespace LineShell

namespace Script

namespace Reader

/-- What has not been read, the texts of aliases left aside. -/
def unread (r : Reader) : Raw := r.outer.getLast?.elim r.rest (·.rest)

/-- The end of the text has been met. -/
def isSpent (r : Reader) : Bool := r.again && r.token = .endOfInput

end Reader

namespace Run

/-! ### Texts -/

/-- The lines that have been looked into between two positions in a text. -/
def linesBetween (before after : Raw) : Raw :=
  let read := before.take (before.length - after.length)
  if read = [] ∨ read.getLast? = some '\n' then read
  else read ++ after.takeWhile (· ≠ '\n') ++ if after.contains '\n' then ['\n'] else []

/-- Read the next command of a text. The lines of a file may have to be shown as they are read. -/
def nextCommand (isFile : Bool) (r : Reader) : Run (Option Node × Reader) := do
  let s ← get
  let showing := isFile && s.flags.contains .verbose
  let r := { r with aliases := s.aliases, documents := [], nextDocument := s.nextDocument }
  match Read.completeCommand r with
  | .ok command after =>
    if showing then printError (linesBetween r.unread after.unread)
    modify fun s ↦
      { s with
        documents := after.documents ++ s.documents, nextDocument := after.nextDocument
        lineRead := after.line }
    return (command, after)
  | .error e after =>
    if showing then printError (linesBetween r.unread after.unread)
    modify ({ · with line := e.line })
    fail ("Syntax error: ".toList ++ e.message)

/-- Run the commands of a text one by one. The result is the status of the last one. -/
def runCommands (ev : Evaluator) (isFile : Bool) (text : Raw) (tested last : Bool) : Run Nat := do
  let lineRead := (← get).lineRead
  let status ← iterate (fun (r, status) ↦ do
    match ← nextCommand isFile r with
    | (none, _) => return .error status
    | (some command, r) =>
      ev.run command tested (last && r.isSpent)
      match command with
      | .nothing => return .ok (r, status)
      | _ => return .ok (r, (← get).status)) ({ rest := text : Reader }, 0)
  modify ({ · with lineRead })
  return status

/-- Run a text. -/
def runText (ev : Evaluator) (text : Raw) (tested last : Bool) : Run Nat :=
  runCommands ev false text tested last

/-- Run the contents of a file, up to its end or to a command that returns from it. -/
def runFile (ev : Evaluator) (content : Raw) : Run Nat := do
  match ← attempt (runCommands ev true (content.filter (· ≠ '\x00')) false false) with
  | .ok status => return status
  | .error (.leap (.returning _)) => return (← get).status
  | .error stop => throw stop

/-! ### Signals and ends -/

/-- The trap for a signal. -/
def trap? (signal : Nat) : Run (Option Raw) :=
  return ((← get).traps.find? (·.1 = signal)).map (·.2)

/-- Some trap is set that does something. -/
def hasTraps : Run Bool := return (← get).traps.any (·.2 ≠ [])

/-- Let a signal arrive at this process. -/
def receive (signal : Nat) : Run Unit := do
  let s ← get
  match ← trap? signal with
  | some [] => pure ()
  | trap =>
    if !Signal.isFinal signal ∧ s.ignored.contains signal then pure ()
    else if !Signal.isFinal signal ∧ trap.isSome then
      modify ({ · with arrived := signal :: s.arrived.filter (· ≠ signal) })
    else if !Signal.isHarmless signal then throw (.gone (.killed signal (Signal.dumps signal)))

/-- Let all signals arrive that were sent to this process. -/
def receiveAll : Run Unit := do
  let own := (← get).process
  let (mine, others) := (← get).world.sent.partition (·.1 = own)
  modifyWorld ({ · with sent := others })
  mine.forM fun (_, signal) ↦ receive signal

/-- Spring the trap for one signal that has arrived. The status is the same afterwards, unless the
trap returns from a function with a status of its own. -/
def spring (ev : Evaluator) (status : Nat) (text : Raw) : Run Unit := do
  match ← attempt (runText ev text false false) with
  | .ok _ => setStatus status
  | .error (.leap (.returning true)) => throw (.leap (.returning true))
  | .error (.leap l) =>
    setStatus status
    throw (.leap l)
  | .error stop => throw stop

/-- Spring the traps for the signals that have arrived, in the order of their numbers. While a trap
runs, an exit keeps the status from before. -/
def springTraps (ev : Evaluator) : Run Unit := do
  let s ← get
  if s.arrived ≠ [] then
    let status := s.trapStatus.getD s.status
    modify ({ · with trapStatus := some status })
    let springAll : Run Unit := (List.range (Signal.last + 1)).forM fun signal ↦ do
      if (← get).arrived.contains signal then
        modify fun s ↦ { s with arrived := s.arrived.filter (· ≠ signal) }
        match ← trap? signal with
        | some text => spring ev status text
        | none => pure ()
    ensuring springAll (modify ({ · with trapStatus := s.trapStatus }))

/-- Spring the trap for the end of the process. It keeps the status, unless it ends the process
itself. -/
def springLast (ev : Evaluator) : Run Unit := do
  let status := (← get).status
  modify ({ · with trapStatus := some status })
  match ← trap? 0 with
  | some text =>
    modify fun s ↦ { s with traps := s.traps.filter (·.1 ≠ 0) }
    match ← attempt (runText ev text false false) with
    | .ok _ | .error (.leap _) => setStatus status
    | .error (.gone ending) => throw (.gone ending)
    | .error _ => pure ()
  | none => pure ()

/-- Run a process to its end: an action, the trap for the end, and what is left in the
background. -/
def toEnd (ev : Evaluator) (action : Run Unit) : Run ChildEnd := do
  let finish : Run Unit := do
    match ← attempt action with
    | .error (.gone ending) => throw (.gone ending)
    | _ =>
      modify ({ · with loops := 0 })
      springLast ev
  let ending ←
    match ← attempt finish with
    | .error (.gone ending) => pure ending
    | _ => pure (.exited (UInt8.ofNat (← get).status))
  discard (attempt ev.settle)
  return ending

end Run

end Script

end LineShell
