import LineShell.ReadLoop

/-!
# The program

The shell as a program: it is called with arguments, evaluates a single line or runs the read loop,
and ends with an exit code. The code does not depend on the statuses of the commands; it is 0 unless
the arguments are refused or the session ends with a fault.
-/

namespace LineShell

/-! ### Arguments -/

/-- What the program is called for. -/
inductive Invocation
  /-- Evaluate one line. -/
  | evaluate (line : Text)
  /-- Read lines until told to stop. -/
  | interact
  /-- Say how the program is used. -/
  | usage
  deriving DecidableEq, Repr

/-- Why arguments are refused. -/
inductive BadArguments
  | unrecognized (argument : Text)
  | noValue (option : Text)
  | duplicate (option value : Text)
  | afterHelp
  deriving DecidableEq, Repr

/-- What the program says about refused arguments. -/
def BadArguments.message : BadArguments → Text
  | unrecognized argument => "Unrecognized argument: ".toList ++ argument ++ ['\n']
  | noValue option => "No value provided for option '".toList ++ option ++ "'.\n".toList
  | duplicate option value =>
    "Error parsing option '".toList ++ option ++ "' with value '".toList ++ value ++
      "': duplicate values provided\n".toList
  | afterHelp => "Trailing arguments are not allowed after \x60help\x60.".toList

/-- What the arguments up to some point have asked for. -/
structure Arguments where
  /-- The line to be evaluated. -/
  line : Option Text := none
  /-- Help was asked for. -/
  help : Bool := false
  /-- Options have come to an end. -/
  optionsEnded : Bool := false

/-- Read the arguments one by one. An option takes the next one as its value, whatever that is. -/
def Arguments.read (seen : Arguments) : List Text → Except BadArguments Arguments
  | [] => .ok seen
  | argument :: rest =>
    if seen.optionsEnded then .error (.unrecognized argument)
    else if argument = "--help".toList ∨ argument = "help".toList then
      read { seen with help := true } rest
    else if argument.head? ≠ some '-' then .error (.unrecognized argument)
    else if argument = "--".toList then read { seen with optionsEnded := true } rest
    else if seen.help then .error .afterHelp
    else if argument = "-c".toList ∨ argument = "--command".toList then
      match rest with
      | [] => .error (.noValue argument)
      | value :: rest =>
        if seen.line.isSome then .error (.duplicate argument value)
        else read { seen with line := some value } rest
    else .error (.unrecognized argument)

/-- What the arguments ask for. Help goes before everything else. -/
def Invocation.ofArguments (arguments : List Text) : Except BadArguments Invocation :=
  (Arguments.read {} arguments).map fun seen ↦
    if seen.help then usage
    else
      match seen.line with
      | some line => evaluate line
      | none => interact

/-- How the program is used. -/
def usageText : Text :=
  ("Usage: quill-shell [-c <command>]\n\n" ++
    "Interactive command interpreter with a few built-ins (exit, echo, type, pwd, cd). " ++
    "Set RUST_LOG=debug to trace command resolution on stderr.\n\n" ++
    "Options:\n" ++
    "  -c, --command     evaluate a single line instead of starting the interactive\n" ++
    "                    loop\n" ++
    "  --help, help      display usage information\n").toList

/-! ### Running the program -/

/-- How the program ends: its exit code and what it says on the error stream. -/
structure Exit where
  code : Nat
  complaint : Text := []
  deriving DecidableEq, Repr

namespace Program

variable {σ : Type} (host : Host σ) (out : Sink σ)

/-- Evaluate one line, from the environment that the process starts in. -/
def evaluate (line : Text) (w : σ) : Exit × σ :=
  let o := (Interpreter.default host).evalLine line out (.initial (host.dir? w)) w
  match o.result with
  | .ok _ => ({ code := 0 }, o.world)
  | .error f => ({ code := 1, complaint := f.message ++ ['\n'] }, o.world)

/-- Read lines, from the environment that the process starts in. -/
def interact (w : σ) : Exit × σ :=
  let (bytes, w) := host.input w
  let o := (Interpreter.default host).loop (inputLines bytes) out (.initial (host.dir? w)) w
  match o.result with
  | .ok _ => ({ code := 0 }, o.world)
  | .error f => ({ code := 1, complaint := "Error: ".toList ++ f.headline ++ ['\n'] }, o.world)

/-- Run the program with its arguments. -/
def run (arguments : List Text) (w : σ) : Exit × σ :=
  match Invocation.ofArguments arguments with
  | .error bad =>
    let hint := "\nRun quill-shell --help for more information.\n".toList
    ({ code := 1, complaint := bad.message ++ hint }, w)
  | .ok .usage => ({ code := 0 }, (out.writeLine usageText w).2)
  | .ok (.evaluate line) => evaluate host out line w
  | .ok .interact => interact host out w

end Program

end LineShell
