import LineShell.Script.Startup

/-!
# Processes of a script

How a script starts other processes: copies of its own, for the commands that are to leave it as it
is, and programs, which it has to find first. A process that it waits for runs to its end at once. A
process in the background runs when it is waited for, or else when the script has ended.
-/

namespace LineShell

namespace Script

/-- The frame of a program that is run in the place of a process. -/
def Frame.renewed (f : Frame) : Frame :=
  { name := "sh".toList, streams := f.streams, here := f.here, mask := f.mask
    process := f.process, rootProcess := f.process, parent := f.parent
    ignored := f.ignored ++ (f.traps.filter (·.2 = [])).map (·.1) }

/-- The frame of a process that begins as a copy of another one. Its traps are not set any more. -/
def Frame.copied (f : Frame) (process : Nat) : Frame :=
  { f with process, parent := f.process, held := [], arrived := []
           traps := f.traps.filter (·.2 = []) }

namespace Run

/-! ### Finding programs -/

/-- The search path. -/
def searchPath : Run Raw := return (← value? "PATH".toList).getD []

/-- The paths at which a program of some name may be. -/
def candidates (searchPath name : Raw) : List Raw :=
  (searchPath.splitOn ':').map fun dir ↦ if dir = [] then name else dir ++ '/' :: name

/-- The position of the first path that a program is at, or why there is none. -/
def findFirst (fs : Files) (here : Place) : Errno → Nat → List Raw → Except Errno Nat
  | e, _, [] => .error e
  | e, n, path :: rest =>
    match fs.find here path with
    | .ok (.file mode _) =>
      if mode &&& 0o111 ≠ 0 then .ok n else findFirst fs here .denied (n + 1) rest
    | .ok _ => findFirst fs here .denied (n + 1) rest
    | .error .noEntry | .error .notDirectory => findFirst fs here e (n + 1) rest
    | .error e => findFirst fs here e (n + 1) rest

/-- What is said about a program that cannot be run. -/
def programMessage : Errno → Raw
  | .noEntry | .notDirectory => "not found".toList
  | e => e.message

/-- The position of a program on the search path. What was found there once is not searched for
again, until the process has gone to another directory. -/
def locate (name : Raw) : Run (Except Errno Nat) := do
  let s ← get
  match s.found.find? (·.name = name) with
  | some ⟨_, position, false⟩ => return .ok position
  | _ =>
    let answer :=
      findFirst s.world.machine.files s.here .noEntry 0 (candidates (← searchPath) name)
    match answer with
    | .ok position =>
      let known := s.found.any (·.name = name)
      let update (f : Finding) : Finding := if f.name = name then ⟨name, position, false⟩ else f
      modify fun s ↦
        { s with found := if known then s.found.map update else ⟨name, position, false⟩ :: s.found }
    | .error _ => modify fun s ↦ { s with found := s.found.filter (·.name ≠ name) }
    return answer

/-- The position of a program on a search path, which is the script's own if no other one is
given. -/
def locateOn (other : Option Raw) (name : Raw) : Run (Except Errno Nat) := do
  match other with
  | none => locate name
  | some path =>
    let s ← get
    return findFirst s.world.machine.files s.here .noEntry 0 (candidates path name)

/-- What runs if a program is executed: a path, or a name that is tried along the search path from
some position on. -/
def load (searchPath : Raw) (position : Nat) (argv : List Raw) : Run (Except Errno Image) := do
  let s ← get
  let vars ← environment
  let attempt (path : Raw) : Except Errno Image :=
    Image.executeOrRun s.world.machine.files s.here vars path argv
  let name := argv.headD []
  if name.contains '/' then return attempt name
  else
    let step (answer : Except Errno Image) (path : Raw) : Except Errno Image :=
      match answer with
      | .ok image => .ok image
      | .error e =>
        match attempt path with
        | .error .noEntry | .error .notDirectory => .error e
        | answer => answer
    return ((candidates searchPath name).drop position).foldl step (.error .noEntry)

/-! ### Running programs -/

/-- A number of seconds that a program can wait for. -/
def isDuration (t : Raw) : Bool :=
  let digits := if t.getLast?.any fun c ↦ "smhd".toList.contains c then t.dropLast else t
  digits.any Char.isDigit && digits.all (fun c ↦ c.isDigit || c == '.') && digits.count '.' ≤ 1

/-- Run the program that waits. -/
def sleep (argv : List Raw) : Run ChildEnd := do
  let hint := "Try 'sleep --help' for more information.\n".toList
  let refuse (message : Raw) : Run ChildEnd := do
    printError ("sleep: ".toList ++ message ++ '\n' :: hint)
    return .exited 1
  match argv.drop 1, (argv.drop 1).find? (!isDuration ·) with
  | [], _ => refuse "missing operand".toList
  | _, some t => refuse ("invalid time interval '".toList ++ t ++ ['\''])
  | _, none => return .exited 0

/-- Run a program with the streams and the place of a process, up to its end. -/
def runImage (ev : Evaluator) (image : Image) (vars : List Raw) : Run ChildEnd := do
  let s ← get
  set { s.toFrame.renewed with world := s.world, jobs := [] : Shell }
  let ending ←
    match image.tool with
    | .scriptRunner => toEnd ev (begin ev image.argv vars)
    | .sleeper => sleep image.argv
  modify fun after ↦ { s with world := after.world }
  return ending

/-- Run a program in the place of this process. If that cannot be done, the process ends. -/
def become (ev : Evaluator) (searchPath : Raw) (position : Nat) (argv : List Raw) : Run Unit := do
  match ← load searchPath position argv with
  | .ok image => throw (.gone (← runImage ev image (← environment)))
  | .error e =>
    let isMissing := [Errno.noEntry, .notDirectory, .tooManyLevels, .nameTooLong].contains e
    setStatus (if isMissing then 127 else 126)
    warn (argv.headD [] ++ ": ".toList ++ programMessage e)
    throw .exit

/-! ### Copies of the process -/

/-- The number of a new process. -/
def newProcess : Run Nat := do
  let number := (← get).world.nextProcess
  modifyWorld fun w ↦ { w with nextProcess := number + 1, alive := number :: w.alive }
  return number

/-- Run a process that begins with some frame, up to its end. -/
def runProcess (ev : Evaluator) (frame : Frame) (action : Run Unit) : Run ChildEnd := do
  let s ← get
  set { frame with world := s.world, jobs := [] : Shell }
  let ending ← toEnd ev action
  modify fun after ↦
    let alive := after.world.alive.filter (· ≠ frame.process)
    { s with world := { after.world with alive } }
  return ending

/-- The end of a process has been met: its status. The end of one that was killed is told, unless it
was killed in one of the two ordinary ways. -/
def reap (ending : ChildEnd) : Run Nat := do
  if (← trap? 17).any (· ≠ []) then receive 17
  match ending with
  | .exited code => return code.toNat
  | .killed signal _ =>
    if signal ≠ 2 ∧ signal ≠ 13 then printError (Signal.story signal ++ ['\n'])
    return 128 + signal

/-- Run something in a copy of the process, and wait for it. -/
def inCopy (ev : Evaluator) (action : Run Unit) : Run Nat := do
  let number ← newProcess
  let ending ← runProcess ev ((← get).toFrame.copied number) action
  let status ← reap ending
  receiveAll
  return status

/-- Run commands side by side, the output of each of them being the input of the next. The status is
that of the last one. -/
def runPipeline (ev : Evaluator) (tested : Bool) : Option Nat → List Node → Run Nat
  | _, [] => return 0
  | source, command :: rest => do
    let pipe? ← if rest = [] then pure none else some <$> addPipe []
    let status ← inCopy ev do
      if source.isSome then setStream 0 source
      match pipe? with
      | some (_, writeEnd) => setStream 1 (some writeEnd)
      | none => pure ()
      ev.run command tested true
    match rest with
    | [] => return status
    | rest => runPipeline ev tested (pipe?.map (·.1)) rest

/-! ### Processes in the background -/

/-- Open the device that gives nothing as a stream, or close the stream if there is no such
device. -/
def openNothing (stream : Nat) : Run Unit := do
  setStream stream (← openPath "/dev/null".toList .read).toOption

/-- Start a process in the background. It ignores the signals of the keyboard, and is given no
input. -/
def launch (body : Node) : Run Unit := do
  let number ← newProcess
  let s ← get
  let start := s.toFrame.copied number
  let slot := (List.range (s.jobs.length + 1)).find? fun n ↦ !s.jobs.any (·.slot = n + 1)
  let job : Job :=
    { slot := slot.getD 0 + 1, start := { start with ignored := 2 :: 3 :: start.ignored }, body }
  set { s with jobs := job :: s.jobs, lastBackground := some number }

/-- Let a process in the background come to its end. -/
def finishJob (ev : Evaluator) (job : Job) : Run ChildEnd := do
  match job.ending with
  | some ending => return ending
  | none =>
    let ending ← runProcess ev job.start do
      openNothing 0
      ev.run job.body false true
    modify fun s ↦
      let update (j : Job) : Job := if j.slot = job.slot then { j with ending } else j
      { s with jobs := s.jobs.map update }
    if (← trap? 17).any (· ≠ []) then receive 17
    receiveAll
    return ending

/-- Let all processes in the background come to their ends, in the order of their start. -/
def finishJobs (ev : Evaluator) : Run Unit := do
  (← get).jobs.reverse.forM fun job ↦ discard (finishJob ev job)

end Run

end Script

end LineShell
