import LineShell.Script.Escapes
import LineShell.Script.Options
import LineShell.Script.Printf
import LineShell.Script.Test

/-!
# Built-in commands that write and compare texts

The commands `echo`, `printf` and `test`.
-/

namespace LineShell

namespace Script

namespace Utility

open Run

/-- The arguments with a blank between them and escapes resolved, and whether all output ends
there. -/
def echoed : List Raw → Raw × Bool
  | [] => ([], false)
  | [t] => Escapes.resolve 0 t
  | t :: rest =>
    match Escapes.resolve 0 t with
    | (shown, true) => (shown, true)
    | (shown, false) =>
      let (more, stops) := echoed rest
      (shown ++ ' ' :: more, stops)

/-- Write the arguments on a line, which is not ended if that is asked for. -/
def echo (args : List Raw) : Run Nat := do
  let (ends, args) :=
    match args with
    | ['-', 'n'] :: rest => (false, rest)
    | args => (true, args)
  let (shown, stops) := echoed args
  print shown
  if ends && !stops then print ['\n']
  return 0

/-- Write arguments as a format says. -/
def printf (args : List Raw) : Run Nat := do
  match (← options "" "" args).rest with
  | [] => fail "usage: printf format [arg ...]".toList
  | format :: args =>
    let formatted := Formatted.of format args
    formatted.warnings.forM warn
    print formatted.output.flatten
    match formatted.failure with
    | some message => fail message
    | none => return if formatted.warnings = [] then 0 else 1

/-- Answer a condition. -/
def test (args : List Raw) : Run Nat := Condition.status false args

/-- Answer a condition in brackets, the first of which is the name of the command. -/
def bracketedTest (args : List Raw) : Run Nat := do
  match args.getLast? with
  | some (']' :: _) => Condition.status false args.dropLast
  | _ => fail "missing ]".toList

end Utility

end Script

end LineShell
