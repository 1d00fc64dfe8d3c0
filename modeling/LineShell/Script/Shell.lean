import LineShell.Machine.Basic
import LineShell.Machine.Image
import LineShell.Script.Number
import LineShell.Script.Signal
import LineShell.Script.Syntax

/-!
# The state of a running script

A script runs in a process. What belongs to the process alone is its `Frame`; what it shares with
other processes is the `World`: the machine, the open files and pipes, and the signals on their way.
A `Shell` is both, with the processes in the background that it has not yet waited for.

A subshell is a process that begins with a copy of the frame. So it can change nothing in the frame
of the one that started it, and everything in the world.
-/

namespace LineShell

namespace Script

/-! ### Streams -/

/-- Where the bytes of an open file come from or go to. -/
inductive Channel
  /-- The input of the machine. -/
  | input
  /-- The standard output. -/
  | output
  /-- The error stream of the machine. -/
  | errors
  | device (room : Bool)
  | pipe (number : Nat)
  | file (place : Place) (appends : Bool)
  | directory
  deriving DecidableEq

/-- An open file. All streams that are names of it share its offset. -/
structure OpenFile where
  channel : Channel
  readable : Bool
  writable : Bool
  offset : Nat := 0

/-- What is in a pipe. -/
structure Pipe where
  /-- What can be read at once. -/
  ready : Raw := []
  /-- What has been written after that, the last piece first. -/
  added : List Raw := []
  /-- How much has been written in all. -/
  size : Nat := 0

namespace Pipe

/-- All that is in the pipe. -/
def content (p : Pipe) : Raw := p.ready ++ p.added.reverse.flatten

/-- Write to the pipe. -/
def add (p : Pipe) (t : Raw) : Pipe := { p with added := t :: p.added, size := p.size + t.length }

/-- Read one character. -/
def next (p : Pipe) : Option Char × Pipe :=
  match (if p.ready = [] then p.content else p.ready), p.ready with
  | [], _ => (none, p)
  | c :: rest, [] => (some c, { p with ready := rest, added := [] })
  | c :: rest, _ => (some c, { p with ready := rest })

/-- How much a writer may write to a pipe that nobody reads from in the meantime. -/
def patience : Nat := 1048576

end Pipe

/-- What processes share. -/
structure World where
  machine : Machine
  /-- What has arrived on the standard output, the last piece first. -/
  printed : List Raw := []
  /-- The open files, by number. -/
  files : Array OpenFile :=
    #[⟨.input, true, false, 0⟩, ⟨.output, false, true, 0⟩, ⟨.errors, false, true, 0⟩]
  /-- The pipes, by number. -/
  pipes : Array Pipe := #[]
  /-- The number of the next process. -/
  nextProcess : Nat := 4243
  /-- The processes that there are, among them the ones that scripts cannot see the start of. -/
  alive : List Nat := [1, 4241, 4242]
  /-- Signals that have been sent to processes other than the one that runs: the process and the
  signal. -/
  sent : List (Nat × Nat) := []

/-! ### Frames -/

/-- A variable. It may be marked before it has a value. -/
structure Variable where
  value : Option Raw := none
  exported : Bool := false
  readOnly : Bool := false

/-- What can be switched on and off. -/
inductive Flag
  | errexit | noglob | ignoreeof | interactive | monitor | noexec | stdin | xtrace | verbose | vi
  | emacs | noclobber | allexport | notify | nounset | privileged | nolog | debug
  deriving DecidableEq

namespace Flag

/-- All flags. -/
def all : List Flag :=
  [errexit, noglob, ignoreeof, interactive, monitor, noexec, stdin, xtrace, verbose, vi, emacs,
    noclobber, allexport, notify, nounset, privileged, nolog, debug]

/-- The name of a flag, and its letter if it has one. -/
def spelling : Flag → String × Option Char
  | errexit => ("errexit", some 'e')
  | noglob => ("noglob", some 'f')
  | ignoreeof => ("ignoreeof", some 'I')
  | interactive => ("interactive", some 'i')
  | monitor => ("monitor", some 'm')
  | noexec => ("noexec", some 'n')
  | stdin => ("stdin", some 's')
  | xtrace => ("xtrace", some 'x')
  | verbose => ("verbose", some 'v')
  | vi => ("vi", some 'V')
  | emacs => ("emacs", some 'E')
  | noclobber => ("noclobber", some 'C')
  | allexport => ("allexport", some 'a')
  | notify => ("notify", some 'b')
  | nounset => ("nounset", some 'u')
  | privileged => ("privileged", some 'p')
  | nolog => ("nolog", none)
  | debug => ("debug", none)

/-- The flag of a letter. -/
def ofLetter? (c : Char) : Option Flag := all.find? (·.spelling.2 = some c)

/-- The flag of a name. -/
def ofName? (t : Raw) : Option Flag := all.find? (·.spelling.1.toList = t)

end Flag

/-- A function of a script: its body, and the line it was defined on. -/
structure Function where
  line : Nat
  body : Node

/-- How far the options in the arguments have been taken apart: the index of the next argument, and
how many characters of the one before have been taken. -/
structure OptionProgress where
  index : Nat := 1
  offset : Option Nat := none

/-- What something local hides, and what comes back with the end of the function. -/
inductive Hidden
  | variable (name : Raw) (old : Option Variable)
  | flags (old : List Flag)

/-- Where a program was found: its position on the search path. The finding is stale if the process
has gone to another directory since. -/
structure Finding where
  name : Raw
  position : Nat
  stale : Bool := false

/-- What belongs to one process that runs a script. -/
structure Frame where
  vars : List (Raw × Variable) := []
  /-- What to put back when the functions that are running end, the innermost first. -/
  locals : List (List Hidden) := []
  functions : List (Raw × Function) := []
  aliases : List (Raw × Raw) := []
  /-- The name that the script goes by. -/
  name : Raw
  args : List Raw := []
  progress : OptionProgress := {}
  flags : List Flag := []
  /-- What to do about signals. An empty text means to ignore them. -/
  traps : List (Nat × Raw) := []
  /-- The signals that were ignored from the start. -/
  ignored : List Nat := []
  /-- Signals that have arrived and have not been dealt with. -/
  arrived : List Nat := []
  /-- The open file of each stream. -/
  streams : List (Nat × Nat) := [(0, 0), (1, 1), (2, 2)]
  here : Place
  /-- The path of the directory it stands in, which may lead there through links. -/
  dir : Raw := []
  /-- The status of the last command. -/
  status : Nat := 0
  /-- The status of the last command in a word. -/
  wordStatus : Nat := 0
  /-- The status before a trap was sprung. -/
  trapStatus : Option Nat := none
  /-- The numbers of the process, of the one that the script was started in, and of the one that
  started that. -/
  process : Nat := 4242
  rootProcess : Nat := 4242
  parent : Nat := 4241
  lastBackground : Option Nat := none
  /-- The line of the last command, and the one up to which the text has been read. -/
  line : Nat := 0
  lineRead : Nat := 0
  /-- The built-in command that is running. -/
  command : Option Raw := none
  /-- The loops that are running, and the calls of functions. -/
  loops : Nat := 0
  calls : Nat := 0
  /-- Output of the running command that has not been passed on. -/
  held : Raw := []
  documents : List (Nat × Document) := []
  nextDocument : Nat := 0
  /-- The programs that have been found, the last one first. -/
  found : List Finding := []
  /-- The permission bits that new files do not get. -/
  mask : Nat := 0o022

/-- A process in the background: it runs when it is waited for. -/
structure Job where
  /-- The number that it goes by in the script. -/
  slot : Nat
  start : Frame
  body : Node
  /-- How it ended, once it has. -/
  ending : Option ChildEnd := none

/-- A process that runs a script, and the world around it. -/
structure Shell extends Frame where
  world : World
  jobs : List Job := []

/-! ### Running -/

/-- A way to leave commands before their end. -/
inductive Leap
  | breaking (loops : Nat)
  | continuing (loops : Nat)
  /-- Back from a function or a file. The status may have been given with it. -/
  | returning (givesStatus : Bool)

/-- What keeps the next command from running. -/
inductive Stop
  /-- The process ends, with the status that is set. -/
  | exit
  /-- As before, but because something went wrong. -/
  | error
  /-- The process is gone: it was killed, or another program has run in its place. -/
  | gone (ending : ChildEnd)
  | leap (l : Leap)

/-- Running. -/
abbrev Run := EStateM Stop Shell

namespace Run

/-- Run something up to its end or to where it stops. -/
def attempt {α : Type} (action : Run α) : Run (Except Stop α) := fun s ↦
  match action s with
  | .ok a s => .ok (.ok a) s
  | .error e s => .ok (.error e) s

/-- Do something in the end in any case. -/
def ensuring {α : Type} (action : Run α) (last : Run Unit) : Run α := do
  match ← attempt action with
  | .ok a =>
    last
    return a
  | .error stop =>
    last
    throw stop

/-- How often a loop is repeated before the process is given up. -/
def patience : Nat := 1000000

/-- The end of a process that is given up: it takes more room than there is. -/
def givenUp : Stop := .gone (.killed 11 true)

/-- Repeat a step at most so many times. -/
def iterateWithin {α β : Type} (step : α → Run (Except β α)) : Nat → α → Run β
  | 0, _ => throw givenUp
  | n + 1, a => do
    match ← step a with
    | .error b => pure b
    | .ok a => iterateWithin step n a

/-- Repeat a step until it gives its result as an error. -/
def iterate {α β : Type} (step : α → Run (Except β α)) (a : α) : Run β :=
  iterateWithin step patience a

/-- Set the status. -/
def setStatus (status : Nat) : Run Unit := modify ({ · with status })

/-- A flag is on. -/
def isOn (flag : Flag) : Run Bool := return (← get).flags.contains flag

end Run

end Script

end LineShell
