import LineShell.Command.Basic
import LineShell.Lookup

/-!
# Built-in commands

Five commands that the shell carries out itself. None of them starts a program, and only `exit` and
`cd` change the environment. A built-in that ends with a fault reports it on its own sink and
answers with status 1 (`Builtin.factory`).
-/

namespace LineShell

/-- The commands that the shell carries out itself. -/
inductive Builtin
  | exit | echo | type | pwd | cd
  deriving DecidableEq, Repr

namespace Builtin

/-- All built-ins. -/
def all : List Builtin := [exit, echo, type, pwd, cd]

/-- The word that calls a built-in. -/
def name : Builtin → Text
  | exit => "exit".toList
  | echo => "echo".toList
  | type => "type".toList
  | pwd => "pwd".toList
  | cd => "cd".toList

/-- Every built-in is listed. -/
theorem mem_all (b : Builtin) : b ∈ all := by cases b <;> decide

/-- Two built-ins are not called by one word. -/
theorem name_injective {a b : Builtin} (h : a.name = b.name) : a = b := by
  revert h
  cases a <;> cases b <;> decide

end Builtin

/-- The word calls a built-in. -/
def isBuiltin (word : Text) : Bool := Builtin.all.any (·.name = word)

/-- The target of a change of directory: the first argument, or the home directory if there is none
or it is a tilde. -/
def cdTarget? (env : Environment) (ambient : Bindings) (account : Option Path) :
    List Text → Option Text
  | [] => (env.home? ambient account).map (·.text)
  | target :: _ =>
    if target = ['~'] then (env.home? ambient account).map (·.text) else some target

namespace Builtin

variable {σ : Type} (host : Host σ)

/-- Stop the shell. The arguments are of no interest. -/
def runExit : Command σ := fun _ env w ↦ ⟨.ok 0, { env with exiting := true }, w⟩

/-- Write the arguments with single spaces between them. -/
def runEcho (args : List Text) : Command σ := Command.report ([' '].intercalate args) 0

/-- Say what the first argument stands for: a built-in, a program, or nothing. -/
def runType (args : List Text) : Command σ := fun out env w ↦
  match args with
  | [] => Command.finish 0 out env w
  | target :: _ =>
    if isBuiltin target then
      Command.report (target ++ " is a shell builtin".toList) 0 out env w
    else
      match host.find? w env target with
      | some p => Command.report (target ++ " is ".toList ++ p.text) 0 out env w
      | none => Command.report (target ++ ": not found".toList) .notFound out env w

/-- Write the working directory. -/
def runPwd : Command σ := fun out env w ↦ Command.report env.dir.text 0 out env w

/-- Change the working directory to the target if it is a directory, seen from the present one. -/
def runCd (args : List Text) : Command σ := fun out env w ↦
  match cdTarget? env (host.vars w) (host.accountHome? w) args with
  | none => Command.fail (.shell .homeNotSet) out env w
  | some target =>
    let dir := env.absolutize ⟨target⟩
    if host.isDirectory w dir then ⟨.ok 0, { env with dir }, w⟩
    else Command.fail (.shell (.noSuchDirectory target)) out env w

/-- Carry out a built-in. -/
def run : Builtin → List Text → Command σ
  | exit, _ => runExit
  | echo, args => runEcho args
  | type, args => runType host args
  | pwd, _ => runPwd
  | cd, args => runCd host args

/-- The factory of one built-in: it answers to the built-in's word and to no other. -/
def factory (b : Builtin) : Factory σ where
  create? _ _ word args := if word = b.name then some (b.run host args).reportingFaults else none

end Builtin

end LineShell
