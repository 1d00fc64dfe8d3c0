import LineShell.Command.Builtin
import LineShell.Command.External
import LineShell.Words

/-!
# The interpreter

A line is trimmed, split into words, and dispatched: its first word names a command, and the first
factory that answers to the name makes it. Two failures are reported here, on the sink of the
command: that no factory answers, and that a program could not be started. Every other fault is
handed on, and a built-in hands none on but the refusal of the sink, so what comes out of `evalLine`
with the default factories is a failure to write.
-/

namespace LineShell

/-- Factories, to be asked in order. -/
structure Interpreter (σ : Type) where
  factories : List (Factory σ)

namespace Interpreter

variable {σ : Type}

/-- The interpreter that the shell comes with: the built-ins first, and then the programs of the
host. -/
def default (host : Host σ) : Interpreter σ :=
  ⟨Builtin.all.map (Builtin.factory host) ++ [External.factory host]⟩

variable (sh : Interpreter σ)

/-- The command of the first factory that has one. -/
def create? (env : Environment) (w : σ) (name : Text) (args : List Text) : Option (Command σ) :=
  sh.factories.findSome? (·.create? env w name args)

/-- Report a failed start of a program and end with status 126; leave any other outcome as it is. -/
def settle (out : Sink σ) (o : Outcome σ) : Outcome σ :=
  match o.result with
  | .ok _ => o
  | .error f =>
    match f.spawnFailure? with
    | some e => Command.report e.message .notExecutable out o.env o.world
    | none => o

/-- Run the command that a name stands for, or report that it stands for none. -/
def run (name : Text) (args : List Text) : Command σ := fun out env w ↦
  match sh.create? env w name args with
  | some command => settle out (command out env w)
  | none => Command.report (ShellError.commandNotFound name).message .notFound out env w

/-- Run a list of words, the first of them as the name. No words do nothing. -/
def dispatch : List Text → Command σ
  | [] => Command.finish 0
  | name :: args => sh.run name args

/-- Run a line. A blank line does nothing. -/
def evalLine (line : Text) : Command σ :=
  if line.trim = [] then Command.finish 0 else sh.dispatch (words line.trim)

/-- Settling touches the environment no further than the command did. -/
@[simp] theorem env_settle (out : Sink σ) (o : Outcome σ) : (settle out o).env = o.env := by
  unfold settle
  split
  · rfl
  · split <;> simp

end Interpreter

end LineShell
