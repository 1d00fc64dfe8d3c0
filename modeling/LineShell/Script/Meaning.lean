import LineShell.Script.Processes

/-!
# What the name of a command stands for

A name stands for a function, a built-in command, or a program on the search path, in this order. A
name with a slash in it is the path of a program.
-/

namespace LineShell

namespace Script

/-- What the name of a command stands for. -/
inductive Meaning
  | function (f : Function)
  | builtin
  /-- A program at some position on the search path. -/
  | program (position : Nat)

/-- The built-in commands that are not among the special ones. -/
def ordinaryCommands : List String :=
  ["[", "alias", "bg", "cd", "chdir", "command", "echo", "false", "fg", "getopts", "hash", "jobs",
    "kill", "printf", "pwd", "read", "test", "true", "type", "ulimit", "umask", "unalias", "wait"]

/-- A built-in command that ends a script if it is used wrongly. -/
def isSpecialCommand (name : Raw) : Bool := specialCommands.contains (String.ofList name)

/-- There is a built-in command of that name. -/
def isBuiltinCommand (name : Raw) : Bool :=
  (specialCommands ++ ordinaryCommands).contains (String.ofList name)

/-- What a name stands for, functions being left aside if that is asked for. A search path can be
given in place of the script's own. -/
def Run.meaningOf (skipsFunctions : Bool) (searchPath : Option Raw) (name : Raw) :
    Run (Except Errno Meaning) := do
  if name.contains '/' then return .ok (.program 0)
  let function? := (← get).functions.find? fun f ↦ !skipsFunctions && f.1 = name
  match function? with
  | some (_, f) => return .ok (.function f)
  | none =>
    if isBuiltinCommand name then return .ok .builtin
    else return (← locateOn searchPath name).map .program

end Script

end LineShell
