import LineShell.Interpreter

/-!
# What a name is dispatched to

With the factories that the shell comes with, a name is dispatched in one of three ways, and which
one is decided by two questions: whether the name is a built-in's, and what it is found as.

* `run_default_name`: a built-in's name runs the built-in. Files and variables have no say.
* `run_default_of_find?_eq_some`: any other name that is found runs the program as a child.
* `run_default_of_find?_eq_none`: a name that is neither is reported.

Nothing else of this library unfolds the list of factories. A built-in settles its own faults, so
the dispatcher has nothing left to settle (`settle_reportingFaults`); only a child leaves it a
failed start.
-/

namespace LineShell

variable {σ : Type}

/-! ### Reports -/

namespace Command

variable (line : Text) (status : Status) (out : Sink σ) (env : Environment) (w : σ)

/-- A report ends with its status, or with the refusal of the sink. -/
theorem result_report :
    (report line status out env w).result =
      match (out.writeLine line w).1 with
      | .ok () => .ok status
      | .error e => .error (.io e) := by
  unfold report
  split <;> next h => rw [h]

/-- A report does not end with another status than its own. -/
theorem result_report_ne {other : Status} (h : status ≠ other) :
    (report line status out env w).result ≠ .ok other := by
  rw [result_report]
  cases (out.writeLine line w).1 with
  | ok u => exact fun hok ↦ h (Except.ok.inj hok)
  | error e => exact fun hok ↦ nomatch hok

/-- A report leaves the world as writing its line does. -/
@[simp] theorem world_report :
    (report line status out env w).world = (out.writeLine line w).2 := by
  unfold report
  split <;> next h => rw [h]

/-- No fault of a report is a failed start of a program. -/
theorem spawnFailure?_of_report {f : Fault}
    (h : (report line status out env w).result = .error f) : f.spawnFailure? = none := by
  rw [result_report] at h
  cases hw : (out.writeLine line w).1 with
  | ok u => simp [hw] at h
  | error e =>
    obtain rfl : .io e = f := by simpa [hw] using h
    rfl

end Command

namespace Interpreter

/-- Where no program failed to start, there is nothing to settle. -/
theorem settle_eq_self {out : Sink σ} {o : Outcome σ}
    (h : ∀ f, o.result = .error f → f.spawnFailure? = none) : settle out o = o := by
  unfold settle
  split
  · rfl
  · next f hf => rw [h f hf]

/-- A command that reports its own faults leaves **nothing to settle**. -/
theorem settle_reportingFaults (command : Command σ) (out : Sink σ) (env : Environment) (w : σ) :
    settle out (command.reportingFaults out env w) = command.reportingFaults out env w := by
  refine settle_eq_self fun f hf ↦ ?_
  simp only [Command.reportingFaults] at hf
  split at hf
  · next status hok => exact absurd (hok.symm.trans hf) (by simp)
  · exact Command.spawnFailure?_of_report _ _ _ _ _ hf

end Interpreter

/-! ### Which names are built-ins -/

/-- A word calls a built-in exactly when it is the name of one. -/
theorem isBuiltin_iff {word : Text} : isBuiltin word = true ↔ ∃ b : Builtin, b.name = word := by
  rw [isBuiltin, List.any_eq_true]
  constructor
  · rintro ⟨b, -, hb⟩
    exact ⟨b, of_decide_eq_true hb⟩
  · rintro ⟨b, hb⟩
    exact ⟨b, b.mem_all, decide_eq_true hb⟩

@[simp] theorem isBuiltin_name (b : Builtin) : isBuiltin b.name = true := isBuiltin_iff.2 ⟨b, rfl⟩

/-! ### The three ways -/

namespace Interpreter

variable (host : Host σ) (env : Environment) (w : σ) {name : Text} (args : List Text)

/-- The factories of the built-ins have a command for the names of the built-ins only, and it is the
built-in of that name. -/
theorem findSome?_builtins :
    (Builtin.all.map (Builtin.factory host)).findSome? (·.create? env w name args) =
      (Builtin.all.find? (·.name = name)).map fun b ↦ (b.run host args).reportingFaults := by
  rw [List.findSome?_map]
  generalize Builtin.all = bs
  induction bs with
  | nil => rfl
  | cons b bs ih =>
    rw [List.findSome?_cons, List.find?_cons]
    by_cases h : b.name = name
    · simp [Builtin.factory, h]
    · simpa [Builtin.factory, h, Ne.symm h] using ih

theorem create?_default_name (b : Builtin) :
    (default host).create? env w b.name args = some (b.run host args).reportingFaults := by
  have hfind : Builtin.all.find? (·.name = b.name) = some b := by
    cases b <;> decide
  rw [create?, default, List.findSome?_append, findSome?_builtins, hfind]
  rfl

theorem create?_default_of_not_isBuiltin (h : isBuiltin name = false) :
    (default host).create? env w name args =
      (host.find? w env name).map fun p ↦ External.run host p name args := by
  have hfind : Builtin.all.find? (·.name = name) = none := by
    rw [List.find?_eq_none]
    intro b hb hname
    exact absurd (isBuiltin_iff.2 ⟨b, of_decide_eq_true hname⟩) (by simp [h])
  rw [create?, default, List.findSome?_append, findSome?_builtins, hfind, Option.map_none,
    Option.none_or, List.findSome?_singleton]
  rfl

variable (out : Sink σ)

/-- A built-in's name **runs the built-in**, whatever there is under that name elsewhere. -/
theorem run_default_name (b : Builtin) :
    (default host).run b.name args out env w = (b.run host args).reportingFaults out env w := by
  rw [run, create?_default_name]
  exact settle_reportingFaults _ out env w

/-- Any other name that is found **runs a child**, whose failed start is reported. -/
theorem run_default_of_find?_eq_some (h : isBuiltin name = false) {p : Path}
    (hp : host.find? w env name = some p) :
    (default host).run name args out env w =
      settle out (External.run host p name args out env w) := by
  rw [run, create?_default_of_not_isBuiltin host env w args h, hp]
  rfl

/-- A name that is neither a built-in's nor found is **reported**. -/
theorem run_default_of_find?_eq_none (h : isBuiltin name = false)
    (hp : host.find? w env name = none) :
    (default host).run name args out env w =
      Command.report (ShellError.commandNotFound name).message .notFound out env w := by
  rw [run, create?_default_of_not_isBuiltin host env w args h, hp]
  rfl

/-! ### Changing directory -/

/-- `cd` **without a target** reports that there is no home directory. -/
theorem run_default_cd_of_none
    (htarget : cdTarget? env (host.vars w) (host.accountHome? w) args = none) :
    (default host).run "cd".toList args out env w =
      Command.report ShellError.homeNotSet.message 1 out env w := by
  rw [show "cd".toList = Builtin.cd.name from rfl, run_default_name]
  simp only [Command.reportingFaults, Builtin.run, Builtin.runCd, htarget]
  rfl

/-- `cd` **goes to its target** if that is a directory, and reports it if it is none. -/
theorem run_default_cd {target : Text}
    (htarget : cdTarget? env (host.vars w) (host.accountHome? w) args = some target) :
    (default host).run "cd".toList args out env w =
      if host.isDirectory w (env.absolutize ⟨target⟩) = true then
        ⟨.ok 0, { env with dir := env.absolutize ⟨target⟩ }, w⟩
      else Command.report (ShellError.noSuchDirectory target).message 1 out env w := by
  rw [show "cd".toList = Builtin.cd.name from rfl, run_default_name]
  simp only [Command.reportingFaults, Builtin.run, Builtin.runCd, htarget]
  by_cases hdir : host.isDirectory w (env.absolutize ⟨target⟩) = true
  · rw [if_pos hdir, if_pos hdir]
  · rw [if_neg hdir, if_neg hdir]
    rfl

end Interpreter

end LineShell
