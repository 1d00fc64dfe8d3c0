import LineShell.Environment
import LineShell.Sink
import LineShell.Status

/-!
# Commands

A command writes to a sink, acts on the environment and on the world, and ends with a status or with
a fault. Whatever it has done by then stays done, so an `Outcome` has an environment and a world in
either case.

A `Factory` makes a command of a name and arguments, or declines to. It may look at the environment
and at the world for that, and changes neither.
-/

namespace LineShell

/-- What a command leaves behind. -/
@[ext] structure Outcome (σ : Type) where
  /-- The status, or what ended the command early. -/
  result : Except Fault Status
  env : Environment
  world : σ

/-- A command, ready to run. -/
abbrev Command (σ : Type) := Sink σ → Environment → σ → Outcome σ

/-- A maker of commands. -/
structure Factory (σ : Type) where
  /-- The command for a name and arguments, if this factory has one. -/
  create? : Environment → σ → Text → List Text → Option (Command σ)

namespace Command

variable {σ : Type}

/-- End with a status and do nothing. -/
def finish (status : Status) : Command σ := fun _ env w ↦ ⟨.ok status, env, w⟩

/-- End with a fault and do nothing. -/
def fail (f : Fault) : Command σ := fun _ env w ↦ ⟨.error f, env, w⟩

/-- Write a line and end with a status, or with the refusal of the sink. -/
def report (line : Text) (status : Status) : Command σ := fun out env w ↦
  match out.writeLine line w with
  | (.ok (), after) => ⟨.ok status, env, after⟩
  | (.error e, after) => ⟨.error (.io e), env, after⟩

/-- Run a command; if it ends with a fault, write the fault's own text and end with status 1. -/
def reportingFaults (command : Command σ) : Command σ := fun out env w ↦
  let o := command out env w
  match o.result with
  | .ok _ => o
  | .error f => report f.headline 1 out o.env o.world

@[simp] theorem env_report (line : Text) (status : Status) (out : Sink σ) (env : Environment)
    (w : σ) : (report line status out env w).env = env := by
  unfold report
  split <;> rfl

/-- Reporting a fault touches the environment no further than the command did. -/
@[simp] theorem env_reportingFaults (command : Command σ) (out : Sink σ) (env : Environment)
    (w : σ) : (command.reportingFaults out env w).env = (command out env w).env := by
  simp only [reportingFaults]
  split <;> simp

end Command

end LineShell
