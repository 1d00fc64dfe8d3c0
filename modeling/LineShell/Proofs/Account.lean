import LineShell.Proofs.Alike
import LineShell.Proofs.Session

/-!
# What a run comes to

A run on a host and a sink that know nothing of each other falls into two parts. First all is done
that concerns the host and the environment; what is left then is one `Report`, and only this goes to
the sink: nothing, the output of a built-in, or a failure in the shell's own words. So the run is
told in full by its `Account`, which does not depend on the sink, and **the sink has its say in one
place only** (`Interpreter.exists_account_evalLine`).

The two kinds of line that a report can consist of differ in what becomes of their refusal. The
output of a built-in is reported by the built-in, which tries once more and tells what went wrong; a
failure is not (`Report.command`). Which kind it is can be read off the first word of the line
(`Report.Suits`).

A child is started between two looks at the sink: what the sink holds back is passed on before, so
that nothing is started if that fails, and the failed start is reported after (`Account.on`).
-/

namespace LineShell

variable {σ ω : Type}

/-! ### Reports and accounts -/

/-- What a run has to say in the end. -/
inductive Report
  /-- Nothing; there is only a status. -/
  | silent (status : Status)
  /-- The output of a built-in. -/
  | output (line : Text) (status : Status)
  /-- A failure in the shell's own words. -/
  | failure (e : ShellError) (status : Status)

namespace Report

/-- Saying it on a sink. -/
def command : Report → Command ω
  | silent status => Command.finish status
  | output line status => (Command.report line status).reportingFaults
  | failure e status => Command.report e.message status

end Report

/-- The word, if there is one, calls a built-in that answers with output of its own. -/
def IsSpeaking (word? : Option Text) : Prop :=
  ∃ b ∈ [Builtin.echo, .type, .pwd], word? = some b.name

/-- Output comes from the built-ins that answer with it, and failures come from other words. -/
def Report.Suits (word? : Option Text) : Report → Prop
  | silent _ => True
  | output _ _ => IsSpeaking word?
  | failure _ _ => ¬ IsSpeaking word?

/-- What a run comes to apart from its sink. -/
structure Account (σ : Type) where
  /-- What the sink holds back is to be passed on before all else. -/
  flushes : Bool
  env : Environment
  world : σ
  report : Report

/-- An outcome with a world beside its own. -/
def Outcome.beside (o : Outcome ω) (w : σ) : Outcome (σ × ω) := ⟨o.result, o.env, w, o.world⟩

/-- The run from `env` and `w` that has this account, on a sink of its own. If what the sink holds
back does not get through, nothing is done. -/
def Account.on (account : Account σ) (out : Sink ω) (env : Environment) (w : σ) (x : ω) :
    Outcome (σ × ω) :=
  match if account.flushes then out.flush x else (.ok (), x) with
  | (.error e, after) => ⟨.error (.io e), env, w, after⟩
  | (.ok (), after) => (account.report.command out account.env after).beside account.world

/-! ### A sink beside the host -/

section

variable (host : Host σ) (w : σ) (x : ω)

@[simp] theorem Host.vars_onFst : host.onFst.vars (w, x) = host.vars w := rfl

@[simp] theorem Host.accountHome?_onFst :
    host.onFst.accountHome? (w, x) = host.accountHome? w := rfl

@[simp] theorem Host.isDirectory_onFst (p : Path) :
    host.onFst.isDirectory (w, x) p = host.isDirectory w p := rfl

@[simp] theorem Host.find?_onFst (env : Environment) (name : Text) :
    host.onFst.find? (w, x) env name = host.find? w env name := rfl

@[simp] theorem Host.spawn_onFst (request : SpawnRequest) :
    host.onFst.spawn request (w, x) =
      ((host.spawn request w).1, (host.spawn request w).2, x) := rfl

end

section

variable (out : Sink ω) (env : Environment) (w : σ) (x : ω)

theorem Sink.writeLine_onSnd (line : Text) :
    out.onSnd.writeLine line (w, x) = ((out.writeLine line x).1, w, (out.writeLine line x).2) := by
  have halike : out.onSnd.Alike (fun v y ↦ v = (w, y)) out := by
    constructor
    · rintro - y bytes - rfl
      exact ⟨rfl, rfl⟩
    · rintro - y rfl
      exact ⟨rfl, rfl⟩
  obtain ⟨hanswer, hafter⟩ := halike.writeLine line (v := (w, x)) rfl
  exact Prod.ext hanswer hafter

theorem Command.report_onSnd (line : Text) (status : Status) :
    report line status out.onSnd env (w, x) = (report line status out env x).beside w := by
  refine Outcome.ext ?_ ?_ ?_
  · rw [Outcome.beside, result_report, result_report, out.writeLine_onSnd]
  · rw [Outcome.beside, env_report, env_report]
  · rw [Outcome.beside, world_report, world_report, out.writeLine_onSnd]

/-- A report acts on the sink alone. -/
theorem Report.command_onSnd (r : Report) :
    r.command out.onSnd env (w, x) = (r.command out env x).beside w := by
  cases r with
  | silent status => rfl
  | failure e status => exact Command.report_onSnd out env w x e.message status
  | output line status =>
    simp only [command, Command.reportingFaults, Command.report_onSnd]
    have hresult : ((Command.report line status out env x).beside w).result =
        (Command.report line status out env x).result := rfl
    rw [hresult]
    cases (Command.report line status out env x).result with
    | ok status => rfl
    | error f => exact Command.report_onSnd out _ w _ f.headline 1

end

/-- The run comes to the account, whatever the sink is. -/
def Account.Covers (account : Account σ) (env : Environment) (w : σ)
    (run : ∀ ω : Type, Command (σ × ω)) : Prop :=
  ∀ (ω : Type) (out : Sink ω) (x : ω), run ω out.onSnd env (w, x) = account.on out env w x

/-- A run that only reports comes to what it does to the environment before, and to its report. -/
theorem Account.covers_of_report {env env' : Environment} {w : σ} {r : Report}
    {run : ∀ ω : Type, Command (σ × ω)}
    (h : ∀ (ω : Type) (out : Sink ω) (x : ω),
      run ω out.onSnd env (w, x) = r.command out.onSnd env' (w, x)) :
    (⟨false, env', w, r⟩ : Account σ).Covers env w run := by
  intro ω out x
  rw [h, Report.command_onSnd]
  rfl

/-! ### The accounts of the shell's commands -/

section

variable (host : Host σ) (env : Environment) (w : σ) (args : List Text)

/-- `type` gives its answer as output. -/
theorem Builtin.exists_account_type :
    ∃ account : Account σ, account.report.Suits (some Builtin.type.name) ∧
      account.Covers env w fun _ ↦ (runType host.onFst args).reportingFaults := by
  have hspeaking : IsSpeaking (some Builtin.type.name) := ⟨.type, by simp, rfl⟩
  cases args with
  | nil => exact ⟨⟨false, env, w, .silent 0⟩, trivial, Account.covers_of_report fun _ out x ↦ rfl⟩
  | cons target rest =>
    -- in each of the three cases one line is reported
    have hreport : ∀ line status, (∀ (ω : Type) (out : Sink ω) (x : ω),
        runType host.onFst (target :: rest) out.onSnd env (w, x) =
          Command.report line status out.onSnd env (w, x)) →
        ∃ account : Account σ, account.report.Suits (some Builtin.type.name) ∧
          account.Covers env w fun _ ↦ (runType host.onFst (target :: rest)).reportingFaults := by
      intro line status hrun
      refine ⟨⟨false, env, w, .output line status⟩, hspeaking, Account.covers_of_report ?_⟩
      intro ω out x
      simp only [Report.command, Command.reportingFaults, hrun]
    by_cases hbuiltin : isBuiltin target = true
    · refine hreport (target ++ " is a shell builtin".toList) 0 fun _ out x ↦ ?_
      simp only [runType, hbuiltin, if_true]
    · cases hp : host.find? w env target with
      | some p =>
        refine hreport (target ++ " is ".toList ++ p.text) 0 fun _ out x ↦ ?_
        simp only [runType, hbuiltin, Host.find?_onFst, hp, if_false, Bool.false_eq_true]
      | none =>
        refine hreport (target ++ ": not found".toList) .notFound fun _ out x ↦ ?_
        simp only [runType, hbuiltin, Host.find?_onFst, hp, if_false, Bool.false_eq_true]

/-- `cd` is silent or reports a failure. -/
theorem Builtin.exists_account_cd :
    ∃ account : Account σ, account.report.Suits (some Builtin.cd.name) ∧
      account.Covers env w fun _ ↦ (runCd host.onFst args).reportingFaults := by
  have hsilent : ¬ IsSpeaking (some Builtin.cd.name) := by
    rintro ⟨b, hb, hname⟩
    obtain rfl := name_injective (Option.some.inj hname)
    exact absurd hb (by decide)
  have hfailure : ∀ e : ShellError, (∀ (ω : Type) (out : Sink ω) (x : ω),
      runCd host.onFst args out.onSnd env (w, x) =
        Command.fail (.shell e) out.onSnd env (w, x)) →
      ∃ account : Account σ, account.report.Suits (some Builtin.cd.name) ∧
        account.Covers env w fun _ ↦ (runCd host.onFst args).reportingFaults := by
    intro e hrun
    refine ⟨⟨false, env, w, .failure e 1⟩, hsilent, Account.covers_of_report ?_⟩
    intro ω out x
    simp only [Command.reportingFaults, hrun]
    rfl
  cases htarget : cdTarget? env (host.vars w) (host.accountHome? w) args with
  | none =>
    refine hfailure .homeNotSet fun _ out x ↦ ?_
    simp only [runCd, Host.vars_onFst, Host.accountHome?_onFst, htarget]
  | some target =>
    by_cases hdir : host.isDirectory w (env.absolutize ⟨target⟩) = true
    · refine ⟨⟨false, { env with dir := env.absolutize ⟨target⟩ }, w, .silent 0⟩, trivial,
        Account.covers_of_report ?_⟩
      intro ω out x
      simp only [Command.reportingFaults, runCd, Host.vars_onFst, Host.accountHome?_onFst, htarget,
        Host.isDirectory_onFst, hdir, if_true]
      rfl
    · refine hfailure (.noSuchDirectory target) fun _ out x ↦ ?_
      simp only [runCd, Host.vars_onFst, Host.accountHome?_onFst, htarget, Host.isDirectory_onFst,
        hdir, if_false, Bool.false_eq_true]

theorem Builtin.exists_account (b : Builtin) :
    ∃ account : Account σ, account.report.Suits (some b.name) ∧
      account.Covers env w fun _ ↦ (b.run host.onFst args).reportingFaults := by
  cases b with
  | type => exact exists_account_type host env w args
  | cd => exact exists_account_cd host env w args
  | exit =>
    exact ⟨⟨false, { env with exiting := true }, w, .silent 0⟩, trivial,
      Account.covers_of_report fun _ out x ↦ rfl⟩
  | echo =>
    exact ⟨⟨false, env, w, .output ([' '].intercalate args) 0⟩, ⟨.echo, by simp, rfl⟩,
      Account.covers_of_report fun _ out x ↦ rfl⟩
  | pwd =>
    exact ⟨⟨false, env, w, .output env.dir.text 0⟩, ⟨.pwd, by simp, rfl⟩,
      Account.covers_of_report fun _ out x ↦ rfl⟩

/-- What comes of the start of a program is known when what the sink held back is through: a status,
or a failure to be reported. -/
theorem External.exists_account (p : Path) (name : Text) (hname : ¬ IsSpeaking (some name)) :
    ∃ account : Account σ, account.report.Suits (some name) ∧
      account.Covers env w fun _ out env w ↦
        Interpreter.settle out (run host.onFst p name args out env w) := by
  rcases hspawn : host.spawn (request (host.vars w) env p name args) w with ⟨answer, after⟩
  -- the outcome before it is settled, for a sink that holds nothing back any more
  have hrun : ∀ {ω : Type} {out : Sink ω} {x ready : ω}, out.flush x = (.ok (), ready) →
      run host.onFst p name args out.onSnd env (w, x) =
        match answer with
        | .ok word => ⟨.ok word.status, env, after, ready⟩
        | .error cause => ⟨.error (.shell (.spawnFailed name cause)), env, after, ready⟩ := by
    intro ω out x ready hflush
    simp only [run, Sink.onSnd, hflush, Host.vars_onFst, Host.spawn_onFst, hspawn]
    cases answer <;> rfl
  -- if what it holds back does not get through, nothing is started
  have hrefused : ∀ {ω : Type} {out : Sink ω} {x ready : ω} {e : IoError} {r : Report},
      out.flush x = (.error e, ready) →
        Interpreter.settle out.onSnd (run host.onFst p name args out.onSnd env (w, x)) =
          Account.on ⟨true, env, after, r⟩ out env w x := by
    intro ω out x ready e r hflush
    simp only [run, Sink.onSnd, hflush, Account.on, if_true]
    rfl
  cases answer with
  | ok word =>
    refine ⟨⟨true, env, after, .silent word.status⟩, trivial, fun ω out x ↦ ?_⟩
    rcases hflush : out.flush x with ⟨e | u, ready⟩
    · exact hrefused hflush
    · show Interpreter.settle out.onSnd (run host.onFst p name args out.onSnd env (w, x)) = _
      rw [hrun hflush]
      simp only [Account.on, if_true, hflush]
      rfl
  | error cause =>
    refine ⟨⟨true, env, after, .failure (.spawnFailed name cause) .notExecutable⟩, hname,
      fun ω out x ↦ ?_⟩
    rcases hflush : out.flush x with ⟨e | u, ready⟩
    · exact hrefused hflush
    · show Interpreter.settle out.onSnd (run host.onFst p name args out.onSnd env (w, x)) = _
      rw [hrun hflush]
      simp only [Account.on, if_true, hflush, Report.command, ← Command.report_onSnd]
      rfl

/-! ### The account of a line -/

theorem Interpreter.exists_account_run (name : Text) :
    ∃ account : Account σ, account.report.Suits (some name) ∧
      account.Covers env w fun _ ↦ (default host.onFst).run name args := by
  by_cases hname : isBuiltin name = true
  · obtain ⟨b, rfl⟩ := isBuiltin_iff.1 hname
    obtain ⟨account, hsuits, hcovers⟩ := Builtin.exists_account host env w args b
    refine ⟨account, hsuits, fun ω out x ↦ ?_⟩
    rw [← hcovers ω out x]
    exact run_default_name host.onFst env (w, x) args out.onSnd b
  · rw [Bool.not_eq_true] at hname
    have hsilent : ¬ IsSpeaking (some name) := by
      rintro ⟨b, -, hb⟩
      exact absurd (isBuiltin_iff.2 ⟨b, (Option.some.inj hb).symm⟩) (by simp [hname])
    cases hp : host.find? w env name with
    | some p =>
      obtain ⟨account, hsuits, hcovers⟩ := External.exists_account host env w args p name hsilent
      refine ⟨account, hsuits, fun ω out x ↦ ?_⟩
      rw [← hcovers ω out x]
      exact run_default_of_find?_eq_some host.onFst env (w, x) args out.onSnd hname hp
    | none =>
      refine ⟨⟨false, env, w, .failure (.commandNotFound name) .notFound⟩, hsilent,
        Account.covers_of_report fun _ out x ↦ ?_⟩
      exact run_default_of_find?_eq_none host.onFst env (w, x) args out.onSnd hname hp

/-- **Every line comes to an account**, whose report suits its first word. -/
theorem Interpreter.exists_account_evalLine (line : Text) :
    ∃ account : Account σ, account.report.Suits (words line.trim).head? ∧
      account.Covers env w fun _ ↦ (default host.onFst).evalLine line := by
  cases hwords : words line.trim with
  | nil =>
    refine ⟨⟨false, env, w, .silent 0⟩, trivial, Account.covers_of_report fun _ out x ↦ ?_⟩
    rw [evalLine_eq_dispatch, hwords]
    rfl
  | cons name args =>
    obtain ⟨account, hsuits, hcovers⟩ := exists_account_run host env w args name
    refine ⟨account, hsuits, fun ω out x ↦ ?_⟩
    show (default host.onFst).evalLine line out.onSnd env (w, x) = account.on out env w x
    rw [evalLine_eq_dispatch, hwords]
    exact hcovers ω out x

end

end LineShell
