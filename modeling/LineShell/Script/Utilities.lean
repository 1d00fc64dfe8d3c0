import LineShell.Script.Utility.Control
import LineShell.Script.Utility.Names
import LineShell.Script.Utility.Places
import LineShell.Script.Utility.Signals
import LineShell.Script.Utility.Texts
import LineShell.Script.Utility.Values

/-!
# The built-in commands of scripts

Every built-in command gets its arguments and gives its status. What it prints is passed on when it
has ended.
-/

namespace LineShell

namespace Script

namespace Run

open Utility

/-- What a built-in command does, its failure being tested or not. -/
def builtinAction (ev : Evaluator) (tested : Bool) (name : String) (args : List Raw) : Run Nat :=
  match name with
  | "." => source ev args
  | "break" => leaveLoops .breaking args
  | "continue" => leaveLoops .continuing args
  | "eval" => eval ev tested args
  | "exec" => exec ev args
  | "exit" => exit args
  | "return" => leave args
  | "export" => exportVariables args
  | "readonly" => protectVariables args
  | "local" => localVariables args
  | "set" => setAll args
  | "shift" => shift args
  | "unset" => unsetNames args
  | "getopts" => getOption args
  | "read" => Utility.read args
  | "trap" => trap args
  | "kill" => kill args
  | "wait" => wait ev args
  | "jobs" => listJobs args
  | "fg" | "bg" => resume args
  | "times" => times args
  | "ulimit" => limit args
  | "cd" | "chdir" => changeDir args
  | "pwd" => printDir args
  | "umask" => changeMask args
  | "alias" => setAliases args
  | "unalias" => removeAliases args
  | "hash" => hash args
  | "type" => describeAll args
  | "command" => command args
  | "echo" => echo args
  | "printf" => printf args
  | "test" => test args
  | "[" => bracketedTest args
  | "false" => return 1
  | _ => return 0

/-- The assignments among the arguments of a command are expanded as such. -/
def takesAssignments (name : Raw) : Bool :=
  ["alias", "export", "local", "readonly"].contains (String.ofList name)

/-- Run a built-in command, and pass on what it prints. -/
def runBuiltin (ev : Evaluator) (tested : Bool) (name : Raw) (args : List Raw) : Run Nat := do
  let outer := (← get).command
  modify ({ · with command := some name })
  let action : Run Nat := do
    let status ← builtinAction ev tested (String.ofList name) args
    if ← flush then return status
    else
      warn (name ++ ": I/O error".toList)
      return status ||| 1
  ensuring action (modify ({ · with command := outer, held := [] }))

end Run

end Script

end LineShell
