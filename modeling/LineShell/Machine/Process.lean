import LineShell.Output
import LineShell.Program
import LineShell.Script.Evaluate

/-!
# Processes of a machine

Starting a program on a machine in memory. The kernel refuses what it cannot pass on or cannot run:
a NUL character anywhere in what the program is started with, a directory that is none, a file that
is not there, may not be executed, or has no form that it knows (`Machine.imageFor`). What it runs
is one of the programs of the machine (`Machine.execute`).

`Machine.host` is the machine as the shell sees it, and `Machine.console` the same with the standard
output that the shell shares with its children.
-/

namespace LineShell

/-- The refusal of text that contains a NUL character. -/
def IoError.nulFound : IoError := ⟨"nul byte found in provided data".toList⟩

namespace Machine

/-! ### Finding out what runs -/

/-- A text that the kernel cannot be given. -/
def hasNul (t : Text) : Bool := t.contains '\x00'

/-- Nothing in a request contains a NUL character. -/
def isPassable (request : SpawnRequest) : Bool :=
  !(hasNul request.program.text || hasNul request.dir.text || request.argv.any hasNul ||
    request.vars.entries.any fun (key, value) ↦ hasNul key || hasNul value)

/-- Where a bare program name is searched for if there is no search path. -/
def defaultSearchPath : Raw := "/bin:/usr/bin".toList

/-- The variables of a request, as a program is given them. -/
def passedVars (request : SpawnRequest) : List Raw :=
  request.vars.entries.map fun (key, value) ↦ key.raw ++ '=' :: value.raw

/-- What runs for a request in a directory. A name without a slash is searched for along the search
path of the new process. -/
def imageFor (m : Machine) (request : SpawnRequest) (here : Place) : Except Errno Image :=
  let path := request.program.text.raw
  let vars := passedVars request
  let argv := request.argv.map Text.raw
  if path.contains '/' then Image.execute m.files here vars path argv
  else if path.length > Files.nameLimit then .error .nameTooLong
  else
    let searchPath := ((request.vars.get? "PATH".toList).map Text.raw).getD defaultSearchPath
    let attempt (path : Raw) : Except Errno Image :=
      if request.runsFormless then Image.executeOrRun m.files here vars path argv
      else Image.execute m.files here vars path argv
    Image.searching attempt .noEntry (Image.searched searchPath path)

/-! ### Running it -/

/-- What a process leaves behind. -/
structure Ended where
  ending : ChildEnd
  machine : Machine
  /-- What it wrote to the standard output. -/
  printed : Bytes

/-- Run a program to its end. -/
def runImage (m : Machine) (here : Place) (image : Image) (vars : List Raw) : Ended :=
  let start : Script.Shell := { name := [], here, world := { machine := m } }
  match Script.Run.runImage (Script.evaluator Script.depth) image vars start with
  | .ok ending after =>
    ⟨ending, after.world.machine, Raw.bytes after.world.printed.reverse.flatten⟩
  | .error _ after => ⟨.killed 11 true, after.world.machine, []⟩

/-- Start a program and run it to its end. -/
def execute (m : Machine) (request : SpawnRequest) : Except IoError Ended :=
  if !isPassable request then .error .nulFound
  else
    match m.files.resolve m.here request.dir.text.raw with
    | .error e => .error e.ioError
    | .ok here =>
      if !m.files.isDirectory here then .error Errno.notDirectory.ioError
      else
        match m.imageFor request here with
        | .error e => .error e.ioError
        | .ok image => .ok (m.runImage here image (passedVars request))

/-! ### The machine as a host -/

/-- The machine as the shell sees it. -/
def host : Host Machine where
  kind? m p := if hasNul p.text then none else m.files.kind? m.here p.text.raw
  vars m := m.vars
  dir? m := m.dir?
  accountHome? m := m.accountHome
  spawn request m :=
    match m.execute request with
    | .error e => (.error e, m)
    | .ok ended => (.ok ended.ending.word, ended.machine)
  input m := (m.input, { m with input := [] })

/-- What the program that a request starts prints. -/
def printed (request : SpawnRequest) (m : Machine) : Bytes :=
  match m.execute request with
  | .error _ => []
  | .ok ended => ended.printed

/-- The machine with a standard output. -/
def console : Host (Machine × Output) := host.withOutput printed

/-- Call the shell as a program on a machine with a standard output: the exit code, and both of them
afterwards. -/
def runShell (arguments : List Text) (w : Machine × Output) : Nat × Machine × Output :=
  let start := ({ w.1 with outputFull := w.2.full }, w.2)
  let (ending, after, output) := Program.run console standardOutput arguments start
  (ending.code, { after with errors := after.errors ++ Text.utf8 ending.complaint }, output)

end Machine

end LineShell
