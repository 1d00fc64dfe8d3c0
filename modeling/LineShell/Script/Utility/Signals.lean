import LineShell.Script.Options
import LineShell.Script.Processes

/-!
# Built-in commands for signals and processes

Setting traps, sending signals, waiting for processes in the background, and the limits of a
process.
-/

namespace LineShell

namespace Script

namespace Utility

open Run

/-! ### Traps -/

/-- Set the trap for a signal, or take it away. -/
def setTrap (signal : Nat) (text : Option Raw) : Run Unit := modify fun s ↦
  let others := s.traps.filter (·.1 ≠ signal)
  { s with traps := text.toList.map (fun text ↦ (signal, text)) ++ others }

/-- Set the traps for some signals one by one, up to a name that is none. -/
def setTraps (text : Option Raw) : List Raw → Run Nat
  | [] => return 0
  | name :: rest => do
    match Signal.ofText? 0 name with
    | some signal =>
      setTrap signal text
      setTraps text rest
    | none =>
      printError ("trap: ".toList ++ name ++ ": bad trap\n".toList)
      return 1

/-- List the traps, or set the ones for some signals. -/
def trap (args : List Raw) : Run Nat := do
  match (← options "" "" args).rest with
  | [] =>
    let s ← get
    (List.range (Signal.last + 1)).forM fun signal ↦
      match s.traps.find? (·.1 = signal) with
      | some (_, text) =>
        printLine ("trap -- ".toList ++ quoted text ++ ' ' :: Signal.name signal)
      | none => pure ()
    return 0
  | [name] => setTraps none [name]
  | text :: names =>
    let isNumber := text ≠ [] && text.all Char.isDigit && (Signal.ofText? 0 text).isSome
    if isNumber then setTraps none (text :: names)
    else setTraps (if text = ['-'] then none else some text) names

/-! ### Processes in the background -/

/-- The process in the background that a text names. -/
def jobOf (t : Raw) : Run Job := do
  let jobs := (← get).jobs
  let found :=
    match t with
    | ['%'] | ['%', '%'] | ['%', '+'] => jobs.head?
    | ['%', '-'] => jobs.tail.head?
    | '%' :: digits => (Number.count? digits).bind fun n ↦ jobs.find? (·.slot = n)
    | _ => none
  match found, t with
  | some job, _ => return job
  | none, ['%'] | none, ['%', '%'] | none, ['%', '+'] => fail "No current job".toList
  | none, ['%', '-'] => fail "No previous job".toList
  | none, _ => fail ("No such job: ".toList ++ t)

/-- Wait for processes in the background. -/
def wait (ev : Evaluator) (args : List Raw) : Run Nat := do
  match (← options "" "" args).rest with
  | [] =>
    finishJobs ev
    return 0
  | names =>
    names.foldlM (fun _ name ↦ do
      let job? ←
        if name.head? = some '%' then some <$> jobOf name
        else do
          let number ← count name
          pure ((← get).jobs.find? (·.start.process = number))
      match job? with
      | none => return 127
      | some job =>
        let ending ← finishJob ev job
        reap ending) 127

/-- How a process in the background is getting on. -/
def jobState (job : Job) : Raw :=
  match job.ending with
  | none => "Running".toList
  | some (.exited code) =>
    if code = 0 then "Done".toList else "Done(".toList ++ Text.decimal code.toNat ++ [')']
  | some (.killed signal _) => Signal.story signal

/-- List the processes in the background. The ones that have ended are forgotten then. -/
def listJobs (args : List Raw) : Run Nat := do
  let o ← options "lp" "" args
  let jobs := (← get).jobs
  let onlyNumbers := o.given.getLast?.any (·.1 = 'p')
  let withNumbers := o.given.getLast?.any (·.1 = 'l')
  jobs.zipIdx.forM fun (job, n) ↦ do
    let number := Text.decimal job.start.process
    if onlyNumbers then printLine number
    else
      let sign := if n = 0 then '+' else if n = 1 then '-' else ' '
      let front := '[' :: Text.decimal job.slot ++ [']', ' ', sign, ' '] ++
        (if withNumbers then number ++ [' '] else []) ++ jobState job
      printLine (front ++ List.replicate (33 - front.length) ' ')
  modify fun s ↦ { s with jobs := s.jobs.filter (·.ending.isNone) }
  return 0

/-- A process in the background cannot be taken out of there, as jobs are not controlled. -/
def resume (args : List Raw) : Run Nat := do
  let name? := (← options "" "" args).rest.head?
  discard (jobOf (name?.getD ['%']))
  fail ("job ".toList ++ name?.getD "(null)".toList ++ " not created under job control".toList)

/-! ### Sending signals -/

/-- The answer to a wrong use of the command. -/
def killUsage {α : Type} : Run α :=
  fail ("Usage: kill [-s sigspec | -signum | -sigspec] [pid | job]... or\n".toList ++
    "kill -l [exitstatus]".toList)

/-- Send a signal to a process in the background that has not been waited for: it ends before it has
done anything, unless it ignores the signal. -/
def killJob (signal : Nat) (job : Job) : Run Unit := do
  let ignores := !Signal.isFinal signal && job.start.ignored.contains signal
  if job.ending.isNone ∧ !ignores ∧ !Signal.isHarmless signal then
    let ending := some (ChildEnd.killed signal (Signal.dumps signal))
    modify fun s ↦
      let update (j : Job) : Job := if j.slot = job.slot then { j with ending } else j
      { s with jobs := s.jobs.map update }

/-- Send a signal to a process, and say whether there is one. -/
def send (signal process : Nat) : Run Bool := do
  let s ← get
  if process = 0 ∨ process = s.process then
    receive signal
    return true
  match s.jobs.find? (·.start.process = process) with
  | some job =>
    killJob signal job
    return true
  | none =>
    if s.world.alive.contains process then
      modifyWorld fun w ↦ { w with sent := w.sent ++ [(process, signal)] }
      return true
    else return false

/-- Send a signal to processes; the status says whether there are all of them. -/
def sendAll (signal : Nat) (names : List Raw) : Run Nat :=
  names.foldlM (fun status name ↦ do
    let isThere ←
      match name with
      | '%' :: _ => do
        killJob signal (← jobOf name)
        pure true
      | '-' :: number => do
        discard (count number)
        pure false
      | number => do send signal (← count number)
    if isThere then return status
    else
      warn (Errno.noProcess.message ++ ['\n'])
      return 1) 0

/-- List the signals, or tell which one a status stands for. -/
def listSignals : List Raw → Run Nat
  | [] => do
    printLine ['0']
    (Signal.names.drop 1).forM printLine
    return 0
  | t :: _ => do
    let n ← count t
    let n := if n > 128 then n - 128 else n
    if n = 0 ∨ n > Signal.last then
      fail ("invalid signal number or exit status: ".toList ++ t)
    printLine (Signal.name n)
    return 0

/-- Send a signal to processes, or list the signals. -/
def kill (args : List Raw) : Run Nat := do
  match args with
  | [] => killUsage
  | ('-' :: name) :: rest =>
    match Signal.ofText? 1 name with
    | some signal => if rest = [] then killUsage else sendAll signal rest
    | none =>
      let o ← options "l" "s" args
      let signal? ← o.given.foldlM (fun (signal? : Option Nat) (letter, name) ↦ do
        if letter = 's' then
          match Signal.ofText? 1 name with
          | some signal => return some signal
          | none => fail ("invalid signal number or name: ".toList ++ name)
        else return signal?) none
      let lists := o.given.any (·.1 = 'l')
      match lists, signal?, o.rest with
      | true, none, rest => listSignals rest
      | true, some _, [] => listSignals []
      | true, some _, _ :: _ => killUsage
      | false, _, [] => killUsage
      | false, signal?, rest => sendAll (signal?.getD 15) rest
  | args => sendAll 15 args

/-! ### Times and limits -/

/-- Print how much time has been used: next to none. -/
def times (_args : List Raw) : Run Nat := do
  let line := "0m0.000000s 0m0.000000s".toList
  printLine line
  printLine line
  return 0

/-- The limits of a process: the letter of each, what it is called, and what it is. -/
def limits : List (Char × String × String) :=
  [('t', "time(seconds)", "unlimited"), ('f', "file(blocks)", "unlimited"),
    ('d', "data(kbytes)", "unlimited"), ('s', "stack(kbytes)", "8192"),
    ('c', "coredump(blocks)", "0"), ('m', "memory(kbytes)", "unlimited"),
    ('l', "locked memory(kbytes)", "8192"), ('p', "process", "unlimited"),
    ('n', "nofiles", "1048576"), ('v', "vmemory(kbytes)", "unlimited"),
    ('w', "locks", "unlimited"), ('r', "rtprio", "0")]

/-- Print a limit of the process. A new limit is taken without effect. -/
def limit (args : List Raw) : Run Nat := do
  let o ← options "HSatfdscmlpnvwr" "" args
  let letters := (o.given.map (·.1)).filter fun c ↦ c ≠ 'H' ∧ c ≠ 'S'
  let isAll := letters.contains 'a'
  match o.rest with
  | [] =>
    if isAll then
      limits.forM fun (_, name, value) ↦ do
        let padding := List.replicate (20 - name.length) ' '
        printLine (name.toList ++ padding ++ ' ' :: value.toList)
    else
      match limits.find? (·.1 = letters.getLastD 'f') with
      | some (_, _, value) => printLine value.toList
      | none => pure ()
    return 0
  | [value] =>
    if isAll then fail "too many arguments".toList
    if value ≠ "unlimited".toList ∧ !value.all Char.isDigit then fail "bad number".toList
    return 0
  | _ => fail "too many arguments".toList

end Utility

end Script

end LineShell
