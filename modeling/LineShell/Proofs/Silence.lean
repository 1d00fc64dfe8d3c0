import LineShell.Proofs.Limit

/-!
# Lines to which the shell says nothing

To most lines the shell has something to say: the output of a built-in, or a failure in its own
words. To a few it has nothing to say, and these are listed by `IsSilent`: a blank line, `exit`,
`type` without an argument, a `cd` to a directory, and a program that is started, whatever the
program itself prints. **The list is made of questions to the host**; no sink and no run has a part
in it.

That the list is right is shown once for all sinks. A run is nothing but one report, which is empty
exactly on the listed lines (`Interpreter.isReport_evalLine`), and at most the start of a program
comes before it. What becomes of a line on one sink or another is a matter of reports then. A sink
that takes everything keeps nothing exactly if the line is silent (`Interpreter.said_eq_nil_iff`).
-/

namespace LineShell

variable {σ : Type}

/-! ### The silent lines -/

/-- A built-in has nothing to say. -/
def Builtin.IsSilent (host : Host σ) (env : Environment) (w : σ) (args : List Text) :
    Builtin → Prop
  | exit => True
  | echo | pwd => False
  | type => args = []
  | cd =>
    ∃ target ∈ cdTarget? env (host.vars w) (host.accountHome? w) args,
      host.isDirectory w (env.absolutize ⟨target⟩) = true

/-- The shell has nothing to say to the words of a line: there are none, the built-in that they call
has nothing to say, or they start a program. -/
def IsSilent (host : Host σ) (env : Environment) (w : σ) : List Text → Prop
  | [] => True
  | name :: args =>
    (∃ b : Builtin, name = b.name ∧ b.IsSilent host env w args) ∨
      isBuiltin name = false ∧ ∃ p ∈ host.find? w env name, ∃ word,
        (host.spawn (External.request (host.vars w) env p name args) w).1 = .ok word

section

variable {host : Host σ} {env : Environment} {w : σ} {name : Text} {args : List Text}

theorem isSilent_name_iff {b : Builtin} :
    IsSilent host env w (b.name :: args) ↔ b.IsSilent host env w args := by
  constructor
  · rintro (⟨b', hname, hsilent⟩ | ⟨hname, -⟩)
    · rwa [Builtin.name_injective hname]
    · exact absurd (isBuiltin_name b) (by simp [hname])
  · intro hsilent
    exact .inl ⟨b, rfl, hsilent⟩

theorem isSilent_iff_of_not_isBuiltin (hname : isBuiltin name = false) :
    IsSilent host env w (name :: args) ↔ ∃ p ∈ host.find? w env name, ∃ word,
      (host.spawn (External.request (host.vars w) env p name args) w).1 = .ok word := by
  constructor
  · rintro (⟨b, rfl, -⟩ | ⟨-, hstarted⟩)
    · exact absurd (isBuiltin_name b) (by simp [hname])
    · exact hstarted
  · intro hstarted
    exact .inr ⟨hname, hstarted⟩

end

/-! ### Runs that are one report -/

/-- The outcome of a run from the world `w` is that of one report, which is empty exactly if
`silent` holds. Before it one program may have been asked for, and nothing else was done. -/
def Outcome.IsReport (o : Outcome σ) (host : Host σ) (out : Sink σ) (w : σ) (silent : Prop) :
    Prop :=
  ∃ (env : Environment) (w' : σ) (r : Report),
    (w' = w ∨ ∃ request, w' = (host.spawn request w).2) ∧ (r.bytes = [] ↔ silent) ∧
      o = r.command out env w'

section

variable (host : Host σ) (env : Environment) (w : σ) (args : List Text) (out : Sink σ)

theorem Report.isReport_command (r : Report) {silent : Prop} (h : r.bytes = [] ↔ silent) :
    (r.command out env w).IsReport host out w silent :=
  ⟨env, w, r, .inl rfl, h, rfl⟩

/-- `type` is silent if it is not told a name. -/
theorem Builtin.isReport_type :
    ((runType host args).reportingFaults out env w).IsReport host out w (args = []) := by
  cases args with
  | nil => exact (Report.silent 0).isReport_command host env w out (iff_of_true rfl rfl)
  | cons target rest =>
    have hreport : ∃ line status,
        runType host (target :: rest) out env w = Command.report line status out env w := by
      simp only [runType]
      split
      · exact ⟨_, _, rfl⟩
      · split <;> exact ⟨_, _, rfl⟩
    obtain ⟨line, status, hrun⟩ := hreport
    have hsame : (runType host (target :: rest)).reportingFaults out env w =
        (Report.output line status).command out env w := by
      simp only [Report.command, Command.reportingFaults, hrun]
    rw [hsame]
    exact Report.isReport_command host env w out _
      (iff_of_false (Text.utf8_line_ne_nil line) (List.cons_ne_nil target rest))

/-- `cd` is silent if its target is a directory. -/
theorem Interpreter.isReport_cd :
    ((default host).run "cd".toList args out env w).IsReport host out w
      (Builtin.cd.IsSilent host env w args) := by
  have hfailure : ∀ e : ShellError, ¬ Builtin.cd.IsSilent host env w args →
      (Command.report e.message 1 out env w).IsReport host out w
        (Builtin.cd.IsSilent host env w args) := fun e hloud ↦
    (Report.failure e 1).isReport_command host env w out
      (iff_of_false (Text.utf8_line_ne_nil e.message) hloud)
  cases htarget : cdTarget? env (host.vars w) (host.accountHome? w) args with
  | none =>
    rw [run_default_cd_of_none host env w args out htarget]
    exact hfailure .homeNotSet (by simp [Builtin.IsSilent, htarget])
  | some target =>
    rw [run_default_cd host env w args out htarget]
    by_cases hdir : host.isDirectory w (env.absolutize ⟨target⟩) = true
    · rw [if_pos hdir]
      exact (Report.silent 0).isReport_command host _ w out
        (iff_of_true rfl ⟨target, htarget, hdir⟩)
    · rw [if_neg hdir]
      exact hfailure (.noSuchDirectory target) (by simp [Builtin.IsSilent, htarget, hdir])

theorem Interpreter.isReport_run_name (b : Builtin) :
    ((default host).run b.name args out env w).IsReport host out w
      (b.IsSilent host env w args) := by
  cases b with
  | cd => exact isReport_cd host env w args out
  | exit =>
    rw [run_default_name]
    exact (Report.silent 0).isReport_command host { env with exiting := true } w out
      (iff_of_true rfl trivial)
  | type =>
    rw [run_default_name]
    exact Builtin.isReport_type host env w args out
  | echo =>
    rw [run_default_name]
    exact (Report.output ([' '].intercalate args) 0).isReport_command host env w out
      (iff_of_false (Text.utf8_line_ne_nil _) id)
  | pwd =>
    rw [run_default_name]
    exact (Report.output env.dir.text 0).isReport_command host env w out
      (iff_of_false (Text.utf8_line_ne_nil _) id)

variable {out} (hflush : out.flush w = (.ok (), w))

include hflush

/-- A program is silent if it is started: what it prints is not said by the shell. -/
theorem External.isReport_run (p : Path) (name : Text) :
    (Interpreter.settle out (run host p name args out env w)).IsReport host out w
      (∃ word, (host.spawn (request (host.vars w) env p name args) w).1 = .ok word) := by
  rcases hspawn : host.spawn (request (host.vars w) env p name args) w with ⟨answer, after⟩
  have hafter : after = (host.spawn (request (host.vars w) env p name args) w).2 := by
    rw [hspawn]
  cases answer with
  | ok word =>
    refine ⟨env, after, .silent word.status, .inr ⟨_, hafter⟩, iff_of_true rfl ⟨word, rfl⟩, ?_⟩
    simp only [run, hflush, hspawn]
    rfl
  | error cause =>
    refine ⟨env, after, .failure (.spawnFailed name cause) .notExecutable, .inr ⟨_, hafter⟩,
      iff_of_false (Text.utf8_line_ne_nil _) (by simp), ?_⟩
    simp only [run, hflush, hspawn]
    rfl

theorem Interpreter.isReport_run (name : Text) :
    ((default host).run name args out env w).IsReport host out w
      (IsSilent host env w (name :: args)) := by
  by_cases hname : isBuiltin name = true
  · obtain ⟨b, rfl⟩ := isBuiltin_iff.1 hname
    rw [isSilent_name_iff]
    exact isReport_run_name host env w args out b
  · rw [Bool.not_eq_true] at hname
    rw [isSilent_iff_of_not_isBuiltin hname]
    cases hp : host.find? w env name with
    | some p =>
      rw [run_default_of_find?_eq_some host env w args out hname hp]
      simpa using External.isReport_run host env w args hflush p name
    | none =>
      rw [run_default_of_find?_eq_none host env w args out hname hp]
      exact (Report.failure (.commandNotFound name) .notFound).isReport_command host env w out
        (iff_of_false (Text.utf8_line_ne_nil _) (by simp))

/-- **A line is one report, empty exactly if the line is silent**, on every sink that holds nothing
back. -/
theorem Interpreter.isReport_evalLine (line : Text) :
    ((default host).evalLine line out env w).IsReport host out w
      (IsSilent host env w (words line.trim)) := by
  rw [evalLine_eq_dispatch]
  cases words line.trim with
  | nil => exact (Report.silent 0).isReport_command host env w out (iff_of_true rfl trivial)
  | cons name args => exact isReport_run host env w args hflush name

end

/-! ### What is said -/

/-- What the shell itself writes for a line, where every write succeeds. -/
def Interpreter.said (host : Host σ) (env : Environment) (w : σ) (line : Text) : Bytes :=
  ((default host.onFst).evalLine line Sink.collecting.onSnd env (w, [])).world.2

/-- A sink that takes everything keeps what a report says. -/
theorem Report.command_collecting (r : Report) (env : Environment) (kept : Bytes) :
    r.command Sink.collecting env kept = ⟨.ok r.status, env, kept ++ r.bytes⟩ := by
  obtain ⟨after, hcommand, hafter⟩ := command_of_fits (Sink.limitedBy_collecting .writeZero) env
    (x := kept) r (by simp [Sink.Limited.Fits])
  have htaken : after = kept ++ r.bytes := congrArg Sink.Limited.taken hafter
  rw [hcommand, htaken]

/-- The shell **says nothing exactly on the silent lines**. -/
theorem Interpreter.said_eq_nil_iff {host : Host σ} {env : Environment} {w : σ} {line : Text} :
    said host env w line = [] ↔ IsSilent host env w (words line.trim) := by
  have hflush : (Sink.collecting.onSnd (σ := σ)).flush (w, []) = (.ok (), w, []) := rfl
  obtain ⟨env', ⟨w', kept⟩, r, hworld, hbytes, hrun⟩ :=
    isReport_evalLine host.onFst env (w, []) hflush line
  have hkept : kept = [] := by
    rcases hworld with h | ⟨request, h⟩
    · exact congrArg Prod.snd h
    · exact congrArg Prod.snd h
  have hsaid : said host env w line = r.bytes := by
    rw [said, hrun, Report.command_onSnd, Report.command_collecting, hkept]
    rfl
  rw [hsaid]
  exact hbytes

end LineShell
