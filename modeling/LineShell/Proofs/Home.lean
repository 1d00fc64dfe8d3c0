import LineShell.Proofs.Referent
import LineShell.Proofs.Session

/-!
# Going home

Home is asked for by `cd` alone and by `cd ~`, and where the variable `HOME` gives it, its value can
be typed as well. **These are forms of one call**, `cd_forms`: whatever the value is, be it empty,
relative, no directory at all, or a tilde itself, they leave the same trace and end alike.

There is no case for each of the forms. All that a list of arguments has a say in is its *target*
(`AsksFor`), and the target decides everything (`tracedRun_cd`): made absolute it is the directory
to go to, and as it stands it is shown if there is no such directory. The forms agree because the
target of each is the value of `HOME`, so what is shown can be no other text than what is looked
for.
-/

namespace LineShell

variable {σ : Type}

/-! ### Targets -/

/-- With the home directory at `home`, a `cd` with these arguments is to go to the target. Only the
first argument counts. -/
inductive AsksFor (home : Text) : List Text → Text → Prop
  | nothing : AsksFor home [] home
  | tilde (ignored : List Text) : AsksFor home (['~'] :: ignored) home
  | typed {target : Text} (htarget : target ≠ ['~']) (ignored : List Text) :
    AsksFor home (target :: ignored) target

namespace AsksFor

/-- Home **may be typed**, even if it is a tilde. -/
theorem home_cons (home : Text) (ignored : List Text) : AsksFor home (home :: ignored) home := by
  by_cases htilde : home = ['~']
  · subst htilde
    exact .tilde ignored
  · exact .typed htilde ignored

/-- Whatever the arguments are, they ask for one thing and no other. -/
theorem exists_iff_eq (home : Text) (args : List Text) :
    ∃ target, ∀ t, AsksFor home args t ↔ t = target := by
  cases args with
  | nil =>
    refine ⟨home, fun t ↦ ⟨fun h ↦ ?_, fun h ↦ h ▸ .nothing⟩⟩
    cases h with
    | nothing => rfl
  | cons first ignored =>
    by_cases htilde : first = ['~']
    · subst htilde
      refine ⟨home, fun t ↦ ⟨fun h ↦ ?_, fun h ↦ h ▸ .tilde ignored⟩⟩
      cases h with
      | tilde => rfl
      | typed htarget => exact absurd rfl htarget
    · refine ⟨first, fun t ↦ ⟨fun h ↦ ?_, fun h ↦ h.symm ▸ .typed htilde ignored⟩⟩
      cases h with
      | tilde => exact absurd rfl htilde
      | typed => rfl

variable {home : Text} {args : List Text} {target : Text} {env : Environment}

theorem cdTarget?_eq_some (h : AsksFor home args target) {ambient : Bindings}
    {account : Option Path} (hhome : env.home? ambient account = some ⟨home⟩) :
    cdTarget? env ambient account args = some target := by
  cases h with
  | nothing =>
    rw [cdTarget?, hhome]
    rfl
  | tilde ignored =>
    rw [cdTarget?, if_pos rfl, hhome]
    rfl
  | typed htarget ignored => rw [cdTarget?, if_neg htarget]

end AsksFor

/-- A value of `HOME` is the home directory, also if it is empty. -/
theorem Environment.home?_of_value? {env : Environment} {ambient : Bindings} {home : Text}
    (h : env.value? ambient "HOME".toList = some home) (account : Option Path) :
    env.home? ambient account = some ⟨home⟩ := by
  rw [home?, h]

/-! ### What becomes of a target -/

section

variable {host : Host σ} {out : Sink σ} {env : Environment} {w : σ} {home : Text}
  {args : List Text} {target : Text}

/-- A `cd` is decided by its target: it goes there **if that is a directory**, seen from the working
directory, and reports it if it is none. -/
theorem tracedRun_cd (h : AsksFor home args target)
    (hhome : env.home? (host.vars w) (host.accountHome? w) = some ⟨home⟩) :
    tracedRun host out env w "cd".toList args =
      if host.isDirectory w (env.absolutize ⟨target⟩) = true then
        ⟨.ok 0, { env with dir := env.absolutize ⟨target⟩ }, w, []⟩
      else
        Command.report (ShellError.noSuchDirectory target).message 1 out.traced env (w, []) :=
  Interpreter.run_default_cd host.traced env (w, []) args out.traced (h.cdTarget?_eq_some hhome)

/-- Two calls with one target **are one call**, whatever the sink does. -/
theorem tracedRun_cd_congr {args' : List Text} (h : AsksFor home args target)
    (h' : AsksFor home args' target)
    (hhome : env.home? (host.vars w) (host.accountHome? w) = some ⟨home⟩) :
    tracedRun host out env w "cd".toList args = tracedRun host out env w "cd".toList args' := by
  rw [tracedRun_cd h hhome, tracedRun_cd h' hhome]

/-- A target that is a directory is gone to **without a word**. -/
theorem tracedRun_cd_of_isDirectory (h : AsksFor home args target)
    (hhome : env.home? (host.vars w) (host.accountHome? w) = some ⟨home⟩)
    (hdir : host.isDirectory w (env.absolutize ⟨target⟩) = true) :
    tracedRun host out env w "cd".toList args =
      ⟨.ok 0, { env with dir := env.absolutize ⟨target⟩ }, w, []⟩ := by
  rw [tracedRun_cd h hhome, if_pos hdir]

/-- Any other target is **shown as it stands**, and nothing else happens. -/
theorem showsLine_cd (hout : out.Reliable) (h : AsksFor home args target)
    (hhome : env.home? (host.vars w) (host.accountHome? w) = some ⟨home⟩)
    (hdir : host.isDirectory w (env.absolutize ⟨target⟩) = false) :
    ShowsLine ("cd: ".toList ++ target ++ ": No such file or directory".toList) 1 out env w
      (tracedRun host out env w "cd".toList args) := by
  have hmissing : ¬ host.isDirectory w (env.absolutize ⟨target⟩) = true := by
    rw [hdir]
    exact Bool.false_ne_true
  rw [tracedRun_cd h hhome, if_neg hmissing]
  exact Command.showsLine_report hout _ 1 env w

end

/-- **The forms of `cd` agree.** Where the variable `HOME` has a value, to go home with no argument,
with a tilde, or with that value comes to the same, whatever further arguments there are. And any
`cd` succeeds without output just if its target, made absolute, is a directory, which is then the
working directory; otherwise it ends with status 1, shows its target as it was typed or else the
value of `HOME`, and leaves the environment as it was. -/
theorem cd_forms (host : Host σ) {out : Sink σ} (hout : out.Reliable) {env : Environment} {w : σ}
    {home : Text} (hhome : env.value? (host.vars w) "HOME".toList = some home) :
    let change := tracedRun host out env w "cd".toList
    (∀ ignored, change (['~'] :: ignored) = change []) ∧
    (∀ ignored, change (home :: ignored) = change []) ∧
    ∀ args, ∃ target, (∀ t, AsksFor home args t ↔ t = target) ∧
      let o := change args
      let dir := env.absolutize ⟨target⟩
      (o.result = .ok 0 ∧ Trace.output o.world.2 = [] ↔ host.isDirectory w dir = true) ∧
      (host.isDirectory w dir = true → o.env = { env with dir }) ∧
      (host.isDirectory w dir = false →
        o.result = .ok 1 ∧ o.env = env ∧ Trace.output o.world.2 =
          Text.utf8 ("cd: ".toList ++ target ++ ": No such file or directory\n".toList)) := by
  intro change
  have hhome' := Environment.home?_of_value? hhome (host.accountHome? w)
  refine ⟨fun ignored ↦ ?_, fun ignored ↦ ?_, fun args ↦ ?_⟩
  · exact tracedRun_cd_congr (.tilde ignored) .nothing hhome'
  · exact tracedRun_cd_congr (.home_cons home ignored) .nothing hhome'
  · obtain ⟨target, hasks⟩ := AsksFor.exists_iff_eq home args
    have htarget : AsksFor home args target := (hasks target).2 rfl
    refine ⟨target, hasks, ?_⟩
    intro o dir
    cases hdir : host.isDirectory w dir with
    | true =>
      have ho : o = ⟨.ok 0, { env with dir }, w, []⟩ :=
        tracedRun_cd_of_isDirectory htarget hhome' hdir
      rw [ho]
      exact ⟨iff_of_true ⟨rfl, rfl⟩ rfl, fun _ ↦ rfl, fun h ↦ absurd h.symm Bool.false_ne_true⟩
    | false =>
      have hshown := showsLine_cd hout htarget hhome' hdir
      refine ⟨iff_of_false ?_ Bool.false_ne_true, fun h ↦ absurd h Bool.false_ne_true, fun _ ↦ ?_⟩
      · rintro ⟨hresult, -⟩
        exact absurd (Except.ok.inj (hshown.result.symm.trans hresult)) (by decide)
      · refine ⟨hshown.result, hshown.env_eq, ?_⟩
        rw [hshown.output, List.append_assoc]
        rfl

/-- Home is given by a relative path with dots in it; a tilde with more behind it is not home. -/
theorem cd_forms_tmp :
    let home := "x/../tmp".toList
    let env : Environment := ⟨(∅ : Bindings).set "HOME".toList home, .root, false⟩
    let change := tracedRun Session.tmpAlone .collecting env [] "cd".toList
    Sink.collecting.Reliable ∧
      env.value? (Session.tmpAlone.vars []) "HOME".toList = some home ∧
      change ["~".toList, "/usr".toList] = change [] ∧ change [home] = change [] ∧
      (change []).result = .ok 0 ∧ (change []).env = { env with dir := ⟨"/tmp".toList⟩ } ∧
      (change ["~/x".toList]).result = .ok 1 ∧
      Trace.output (change ["~/x".toList]).world.2 =
        Text.utf8 "cd: ~/x: No such file or directory\n".toList := by
  intro home env change
  have hhome : env.value? (Session.tmpAlone.vars []) "HOME".toList = some home := by decide
  obtain ⟨htilde, htyped, hargs⟩ := cd_forms Session.tmpAlone Sink.reliable_collecting hhome
  obtain ⟨target, hasks, hiff, hmoved, -⟩ := hargs []
  obtain rfl : home = target := (hasks home).1 .nothing
  obtain ⟨other, hother, -, -, hshown⟩ := hargs ["~/x".toList]
  obtain rfl : "~/x".toList = other := (hother _).1 (.typed (by decide) [])
  have hdir : env.absolutize ⟨home⟩ = ⟨"/tmp".toList⟩ := by decide
  refine ⟨Sink.reliable_collecting, hhome, htilde _, htyped _, (hiff.2 (by decide)).1, ?_, ?_⟩
  · rw [← hdir]
    exact hmoved (by decide)
  · obtain ⟨hresult, -, houtput⟩ := hshown (by decide)
    have hline : "cd: ".toList ++ "~/x".toList ++ ": No such file or directory\n".toList =
        "cd: ~/x: No such file or directory\n".toList := by decide
    have hchange : change ["~/x".toList] = tracedRun Session.tmpAlone .collecting env []
        "cd".toList ["~/x".toList] := rfl
    rw [hchange, ← hline]
    exact ⟨hresult, houtput⟩

end LineShell
