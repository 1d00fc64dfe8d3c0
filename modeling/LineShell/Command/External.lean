import LineShell.Command.Basic
import LineShell.Lookup

/-!
# External commands

A name that stands for a program is run as a child: what the sink holds back is passed on first, so
that it comes before the output of the child, and then one request goes to the host. The child is
called by the name as it was typed, with the arguments as they are, in the working directory of the
shell, and sees the variables that the shell sees.
-/

namespace LineShell

variable {σ : Type} (host : Host σ)

namespace External

/-- What the host is asked for. A program without a slash in its path is searched for once more; if
the search path is a variable of the shell's own, that is done in the way of the system's library,
which runs files that have no form of their own as scripts. -/
def request (ambient : Bindings) (env : Environment) (program : Path) (name : Text)
    (args : List Text) : SpawnRequest where
  program
  argv := name :: args
  vars := env.childVars ambient
  dir := env.dir
  runsFormless := !program.text.contains '/' && (env.vars.get? "PATH".toList).isSome

/-- Start a program and wait for it. -/
def run (program : Path) (name : Text) (args : List Text) : Command σ := fun out env w ↦
  match out.flush w with
  | (.error e, after) => ⟨.error (.io e), env, after⟩
  | (.ok (), flushed) =>
    match host.spawn (request (host.vars flushed) env program name args) flushed with
    | (.ok word, after) => ⟨.ok word.status, env, after⟩
    | (.error cause, after) => ⟨.error (.shell (.spawnFailed name cause)), env, after⟩

/-- The factory of external commands: it answers to the names that stand for a program. -/
def factory : Factory σ where
  create? env w name args := (host.find? w env name).map fun program ↦ run host program name args

/-- An external command leaves the environment as it is. -/
@[simp] theorem env_run (program : Path) (name : Text) (args : List Text) (out : Sink σ)
    (env : Environment) (w : σ) : (run host program name args out env w).env = env := by
  unfold run
  split
  · rfl
  · split <;> rfl

end External

end LineShell
