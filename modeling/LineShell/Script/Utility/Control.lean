import LineShell.Script.Options
import LineShell.Script.Processes

/-!
# Built-in commands that run texts and leave commands

Leaving loops, functions, files and the process, and running texts, files and programs.
-/

namespace LineShell

namespace Script

namespace Utility

open Run

/-! ### Leaving -/

/-- Leave loops, of which there may be fewer than is asked for. -/
def leaveLoops (leap : Nat → Leap) (args : List Raw) : Run Nat := do
  let n ← args.head?.elim (pure 1) count
  if n = 0 then failNumber (args.headD [])
  let loops := min n (← get).loops
  if loops > 0 then
    setStatus 0
    throw (.leap (leap loops))
  return 0

/-- Leave a function or a file. -/
def leave (args : List Raw) : Run Nat := do
  match args with
  | t :: _ =>
    setStatus (← count t)
    throw (.leap (.returning true))
  | [] => throw (.leap (.returning false))

/-- End the process. In a trap the status is the one from before, unless another one is given. -/
def exit (args : List Raw) : Run Nat := do
  match args with
  | t :: _ => setStatus (← count t)
  | [] =>
    let s ← get
    setStatus (s.trapStatus.getD s.status)
  throw .exit

/-! ### Running -/

/-- Run the arguments as a text. -/
def eval (ev : Evaluator) (tested : Bool) (args : List Raw) : Run Nat :=
  if args = [] then return 0 else runText ev ([' '].intercalate args) tested false

/-- Run a program in the place of the process. -/
def exec (ev : Evaluator) (args : List Raw) : Run Nat := do
  if args ≠ [] then become ev (← searchPath) 0 args
  return 0

/-- The path of a file that is to be run: a bare name is searched for. -/
def findFile (name : Raw) : Run Raw := do
  if name.contains '/' then return name
  let s ← get
  let isFile (path : Raw) : Bool :=
    match s.world.machine.files.find s.here path with
    | .ok (.file _ _) => true
    | _ => false
  match (candidates (← searchPath) name).find? isFile with
  | some path => return path
  | none => fail (name ++ ": not found".toList)

/-- Run a file in this process. -/
def source (ev : Evaluator) (args : List Raw) : Run Nat := do
  match (← options "" "" args).rest with
  | [] => return 0
  | name :: _ =>
    let path ← findFile name
    let content ← readFile path
    modify ({ · with command := some path })
    runFile ev content

end Utility

end Script

end LineShell
