import LineShell.Proofs.Dispatch

/-!
# What a command does to the environment

Of all that the shell can run, `exit` and `cd` alone leave an environment other than the one they
found, and `cd` only if it succeeds. `Effect` lists the three cases with all that is known in each,
and `effect_run_default` says that every run is one of them, **whatever the sink does** and however
the run ends. What later proofs need to know of the environment after a run they take from there.
-/

namespace LineShell

variable {σ : Type} (host : Host σ)

/-- What a run from the environment `env` and the world `w` may have done to the environment. -/
inductive Effect (name : Text) (env : Environment) (w : σ) (o : Outcome σ) : Prop
  /-- The shell is to stop. -/
  | stop (hname : name = "exit".toList) (hresult : o.result = .ok 0)
    (henv : o.env = { env with exiting := true })
  /-- The working directory is another one, which is a directory. -/
  | move (hname : name = "cd".toList) (hresult : o.result = .ok 0) (target : Path)
    (hdir : host.isDirectory w (env.absolutize target) = true)
    (henv : o.env = { env with dir := env.absolutize target })
  /-- Nothing has changed. -/
  | stay (hexit : name ≠ "exit".toList) (hcd : name = "cd".toList → o.result ≠ .ok 0)
    (henv : o.env = env)

variable {host} {out : Sink σ} {env : Environment} {w : σ} {args : List Text}

/-- A command that keeps the environment still does so when its faults are reported. -/
theorem Effect.stay_of_env_eq {name : Text} {o : Outcome σ} (hexit : name ≠ "exit".toList)
    (hcd : name ≠ "cd".toList) (henv : o.env = env) : Effect host name env w o :=
  .stay hexit (fun h ↦ absurd h hcd) henv

/-- A `cd` that is reported leaves everything as it was. -/
theorem Effect.stay_of_report (line : Text) :
    Effect host "cd".toList env w (Command.report line 1 out env w) :=
  .stay (by decide) (fun _ ↦ Command.result_report_ne line 1 out env w (by decide))
    (Command.env_report line 1 out env w)

theorem effect_cd :
    Effect host "cd".toList env w
      ((Interpreter.default host).run "cd".toList args out env w) := by
  cases htarget : cdTarget? env (host.vars w) (host.accountHome? w) args with
  | none =>
    rw [Interpreter.run_default_cd_of_none host env w args out htarget]
    exact .stay_of_report _
  | some target =>
    rw [Interpreter.run_default_cd host env w args out htarget]
    by_cases hdir : host.isDirectory w (env.absolutize ⟨target⟩) = true
    · rw [if_pos hdir]
      exact .move rfl rfl ⟨target⟩ hdir rfl
    · rw [if_neg hdir]
      exact .stay_of_report _

/-- The three built-ins that only write leave the environment alone. -/
theorem env_run_of_ne {b : Builtin} (hexit : b ≠ .exit) (hcd : b ≠ .cd) :
    (b.run host args out env w).env = env := by
  cases b with
  | exit => exact absurd rfl hexit
  | cd => exact absurd rfl hcd
  | echo => exact Command.env_report _ _ _ _ _
  | pwd => exact Command.env_report _ _ _ _ _
  | type =>
    cases args with
    | nil => rfl
    | cons target rest =>
      simp only [Builtin.run, Builtin.runType]
      split
      · exact Command.env_report _ _ _ _ _
      · split <;> exact Command.env_report _ _ _ _ _

/-- Every run of the shell's own commands **stops the shell, moves it, or leaves the environment as
it was**. -/
theorem effect_run_default (name : Text) :
    Effect host name env w ((Interpreter.default host).run name args out env w) := by
  by_cases hname : isBuiltin name = true
  · obtain ⟨b, rfl⟩ := isBuiltin_iff.1 hname
    cases b with
    | exit =>
      rw [Interpreter.run_default_name]
      exact .stop rfl rfl rfl
    | cd => exact effect_cd
    | echo | type | pwd =>
      refine .stay_of_env_eq (by decide) (by decide) ?_
      rw [Interpreter.run_default_name, Command.env_reportingFaults]
      exact env_run_of_ne (by decide) (by decide)
  · rw [Bool.not_eq_true] at hname
    have hexit : name ≠ "exit".toList := by rintro rfl; exact absurd hname (by decide)
    have hcd : name ≠ "cd".toList := by rintro rfl; exact absurd hname (by decide)
    refine .stay_of_env_eq hexit hcd ?_
    cases hp : host.find? w env name with
    | some p =>
      rw [Interpreter.run_default_of_find?_eq_some host env w args out hname hp,
        Interpreter.env_settle, External.env_run]
    | none =>
      rw [Interpreter.run_default_of_find?_eq_none host env w args out hname hp,
        Command.env_report]

/-- So does every line, under the name that its first word is; a line without words is one of those
that change nothing. -/
theorem exists_effect_evalLine (line : Text) :
    ∃ name, Effect host name env w ((Interpreter.default host).evalLine line out env w) := by
  have hnothing : Effect host [] env w (Command.finish 0 out env w) :=
    .stay (by decide) (fun h ↦ absurd h (by decide)) rfl
  rw [Interpreter.evalLine]
  split
  · exact ⟨[], hnothing⟩
  · cases words line.trim with
    | nil => exact ⟨[], hnothing⟩
    | cons name args => exact ⟨name, effect_run_default name⟩

end LineShell
