import LineShell.Proofs.Dispatch

/-!
# States that look alike

The shell knows its world by the answers of the host and of the sink, and by nothing else. So when
two hosts and two sinks answer alike wherever a relation holds between the states of two shells, and
it holds again wherever the shells go from there, **no line can tell the two apart**: it ends alike,
and in states between which the relation holds (`Interpreter.alikeIn_evalLine`).

What the hosts have to have in common is said in the shell's own questions (`Host.AlikeIn`): where
the home directory is, what a name is found as, whether the target of a change of directory is one,
and what comes of the start of a program that was found. The environments may differ in what these
questions do not depend on.

Most often the environment is the same, and only the worlds are related (`Host.Alike`). With a
change of view as the relation, this carries a run from one kind of world to another
(`Interpreter.alike_evalLine`): a run with a trace beside it is the run itself. With an invariant,
it says that what hosts and sinks keep is kept by every line (`Interpreter.invariant_evalLine`).
-/

namespace LineShell

variable {σ τ : Type}

/-- The same answer, and related worlds after it. -/
def AnswersAlike {α : Type} (R : σ → τ → Prop) (a : α × σ) (b : α × τ) : Prop :=
  a.1 = b.1 ∧ R a.2 b.2

theorem AnswersAlike.exists_eq {α : Type} {R : σ → τ → Prop} {a : α × σ} {b : α × τ}
    (h : AnswersAlike R a b) : ∃ answer v w, a = (answer, v) ∧ b = (answer, w) ∧ R v w :=
  ⟨a.1, a.2, b.2, rfl, Prod.ext h.1.symm rfl, h.2⟩

/-- Two sinks answer alike in related worlds. An empty offer is never made, so what they answer to
it is of no interest. -/
structure Sink.Alike (R : σ → τ → Prop) (a : Sink σ) (b : Sink τ) : Prop where
  write : ∀ {v w} {bytes : Bytes}, bytes ≠ [] → R v w →
    AnswersAlike R (a.write bytes v) (b.write bytes w)
  flush : ∀ {v w}, R v w → AnswersAlike R (a.flush v) (b.flush w)

/-- In related states, of an environment and a world each, two hosts answer alike to all that the
shell asks from there, and the states that it goes on to are related again. A program is started
only if it was found from the same environment. -/
structure Host.AlikeIn (S : Environment → σ → Environment → τ → Prop) (a : Host σ) (b : Host τ) :
    Prop where
  dir : ∀ {e v f w}, S e v f w → e.dir = f.dir
  home? : ∀ {e v f w}, S e v f w →
    e.home? (a.vars v) (a.accountHome? v) = f.home? (b.vars w) (b.accountHome? w)
  isDirectory : ∀ {e v f w} (target : Path), S e v f w →
    a.isDirectory v (e.absolutize target) = b.isDirectory w (f.absolutize target)
  find? : ∀ {e v f w} (name : Text), S e v f w → a.find? v e name = b.find? w f name
  spawn : ∀ {e v f w u p name} (args : List Text), a.find? u e name = some p → S e v f w →
    AnswersAlike (S e · f ·) (a.spawn (External.request (a.vars v) e p name args) v)
      (b.spawn (External.request (b.vars w) f p name args) w)
  stop : ∀ {e v f w}, S e v f w → S { e with exiting := true } v { f with exiting := true } w
  move : ∀ {e v f w} (target : Path), S e v f w →
    S { e with dir := e.absolutize target } v { f with dir := f.absolutize target } w

/-- Two runs end with the same result and in related states. -/
structure Outcome.AlikeIn (S : Environment → σ → Environment → τ → Prop) (a : Outcome σ)
    (b : Outcome τ) : Prop where
  result : a.result = b.result
  state : S a.env a.world b.env b.world

theorem Sink.Alike.writeFrom {R : σ → τ → Prop} {outA : Sink σ} {outB : Sink τ} {v : σ} {w : τ}
    (hout : outA.Alike R outB) (taken : Nat) (bytes : Bytes) (hvw : R v w) :
    AnswersAlike R (outA.writeFrom taken bytes v) (outB.writeFrom taken bytes w) := by
  induction bytes generalizing taken v w with
  | nil => cases taken <;> exact ⟨rfl, hvw⟩
  | cons b rest ih =>
    cases taken with
    | succ taken => exact ih taken hvw
    | zero =>
      obtain ⟨answer, afterA, afterB, hA, hB, hafter⟩ :=
        (hout.write (List.cons_ne_nil b rest) hvw).exists_eq
      rw [Sink.writeFrom, Sink.writeFrom, hA, hB]
      -- writing ends if the offer is refused or nothing is taken, and goes on otherwise
      rcases answer with e | _ | n
      · exact ⟨rfl, hafter⟩
      · exact ⟨rfl, hafter⟩
      · exact ih n hafter

theorem Sink.Alike.writeLine {R : σ → τ → Prop} {outA : Sink σ} {outB : Sink τ} {v : σ} {w : τ}
    (hout : outA.Alike R outB) (line : Text) (hvw : R v w) :
    AnswersAlike R (outA.writeLine line v) (outB.writeLine line w) :=
  hout.writeFrom 0 _ hvw

section

variable {S : Environment → σ → Environment → τ → Prop} {hostA : Host σ} {hostB : Host τ}
  {outA : Sink σ} {outB : Sink τ} {e f : Environment} {v : σ} {w : τ}

/-! ### Commands -/

theorem Command.alikeIn_report (hout : outA.Alike (S e · f ·) outB) (line : Text) (status : Status)
    (h : S e v f w) :
    (report line status outA e v).AlikeIn S (report line status outB f w) := by
  obtain ⟨hanswer, hafter⟩ := hout.writeLine line h
  refine ⟨?_, ?_⟩
  · rw [result_report, result_report, hanswer]
  · rw [env_report, env_report, world_report, world_report]
    exact hafter

variable (hout : ∀ {e f}, outA.Alike (S e · f ·) outB)

include hout

/-- Reporting a fault is the same after runs that are alike. -/
theorem Command.alikeIn_reportingFaults {a : Command σ} {b : Command τ}
    (h : (a outA e v).AlikeIn S (b outB f w)) :
    (a.reportingFaults outA e v).AlikeIn S (b.reportingFaults outB f w) := by
  simp only [reportingFaults]
  rw [← h.result]
  cases (a outA e v).result with
  | ok status => exact h
  | error fault => exact alikeIn_report hout fault.headline 1 h.state

/-- Settling is the same after runs that are alike. -/
theorem Interpreter.alikeIn_settle {a : Outcome σ} {b : Outcome τ} (h : a.AlikeIn S b) :
    (settle outA a).AlikeIn S (settle outB b) := by
  simp only [settle]
  rw [← h.result]
  cases a.result with
  | ok status => exact h
  | error fault =>
    dsimp only
    cases fault.spawnFailure? with
    | none => exact h
    | some e => exact Command.alikeIn_report hout e.message .notExecutable h.state

variable (hhost : hostA.AlikeIn S hostB)

include hhost

omit hout in
/-- A change of directory goes to the same target. -/
theorem Host.AlikeIn.cdTarget?_eq (args : List Text) (h : S e v f w) :
    cdTarget? e (hostA.vars v) (hostA.accountHome? v) args =
      cdTarget? f (hostB.vars w) (hostB.accountHome? w) args := by
  cases args with
  | nil => exact congrArg (Option.map Path.text) (hhost.home? h)
  | cons target rest => rw [cdTarget?, cdTarget?, hhost.home? h]

omit hout in
theorem Builtin.alikeIn_runCd (args : List Text) (h : S e v f w) :
    (runCd hostA args outA e v).AlikeIn S (runCd hostB args outB f w) := by
  simp only [runCd, hhost.cdTarget?_eq args h]
  cases cdTarget? f (hostB.vars w) (hostB.accountHome? w) args with
  | none => exact ⟨rfl, h⟩
  | some target =>
    have hisdir := hhost.isDirectory ⟨target⟩ h
    by_cases hdir : hostB.isDirectory w (f.absolutize ⟨target⟩) = true
    · simp only [hisdir, hdir, if_true]
      exact ⟨rfl, hhost.move ⟨target⟩ h⟩
    · simp only [hisdir, hdir, if_false, Bool.false_eq_true]
      exact ⟨rfl, h⟩

theorem Builtin.alikeIn_run (b : Builtin) (args : List Text) (h : S e v f w) :
    (b.run hostA args outA e v).AlikeIn S (b.run hostB args outB f w) := by
  cases b with
  | exit => exact ⟨rfl, hhost.stop h⟩
  | echo => exact Command.alikeIn_report hout _ 0 h
  | cd => exact alikeIn_runCd hhost args h
  | pwd =>
    simp only [run, runPwd, hhost.dir h]
    exact Command.alikeIn_report hout _ 0 h
  | type =>
    cases args with
    | nil => exact ⟨rfl, h⟩
    | cons target rest =>
      simp only [run, runType, hhost.find? target h]
      split
      · exact Command.alikeIn_report hout _ 0 h
      · split <;> exact Command.alikeIn_report hout _ _ h

theorem External.alikeIn_run {p : Path} {name : Text} (hp : hostA.find? v e name = some p)
    (args : List Text) (h : S e v f w) :
    (run hostA p name args outA e v).AlikeIn S (run hostB p name args outB f w) := by
  obtain ⟨answer, flushedA, flushedB, hA, hB, hflushed⟩ := (hout.flush h).exists_eq
  cases answer with
  | error cause =>
    simp only [run, hA, hB]
    exact ⟨rfl, hflushed⟩
  | ok u =>
    obtain ⟨answer, afterA, afterB, hspawnA, hspawnB, hafter⟩ :=
      (hhost.spawn args hp hflushed).exists_eq
    simp only [run, hA, hB, hspawnA, hspawnB]
    cases answer <;> exact ⟨rfl, hafter⟩

/-! ### The interpreter -/

theorem Interpreter.alikeIn_run (name : Text) (args : List Text) (h : S e v f w) :
    ((default hostA).run name args outA e v).AlikeIn S
      ((default hostB).run name args outB f w) := by
  by_cases hname : isBuiltin name = true
  · obtain ⟨b, rfl⟩ := isBuiltin_iff.1 hname
    rw [run_default_name, run_default_name]
    exact Command.alikeIn_reportingFaults hout (Builtin.alikeIn_run hout hhost b args h)
  · rw [Bool.not_eq_true] at hname
    have hfind := hhost.find? name h
    cases hp : hostB.find? w f name with
    | some p =>
      rw [run_default_of_find?_eq_some _ _ _ _ _ hname (hfind.trans hp),
        run_default_of_find?_eq_some _ _ _ _ _ hname hp]
      exact alikeIn_settle hout (External.alikeIn_run hout hhost (hfind.trans hp) args h)
    | none =>
      rw [run_default_of_find?_eq_none _ _ _ _ _ hname (hfind.trans hp),
        run_default_of_find?_eq_none _ _ _ _ _ hname hp]
      exact Command.alikeIn_report hout _ _ h

/-- **No line can tell apart** hosts and sinks that answer alike. -/
theorem Interpreter.alikeIn_evalLine (line : Text) (h : S e v f w) :
    ((default hostA).evalLine line outA e v).AlikeIn S
      ((default hostB).evalLine line outB f w) := by
  unfold evalLine
  split
  · exact ⟨rfl, h⟩
  · cases words line.trim with
    | nil => exact ⟨rfl, h⟩
    | cons name args => exact alikeIn_run hout hhost name args h

end

/-! ### One environment -/

/-- Two hosts answer alike in related worlds. -/
structure Host.Alike (R : σ → τ → Prop) (a : Host σ) (b : Host τ) : Prop where
  kind? : ∀ {v w}, R v w → a.kind? v = b.kind? w
  vars : ∀ {v w}, R v w → a.vars v = b.vars w
  accountHome? : ∀ {v w}, R v w → a.accountHome? v = b.accountHome? w
  spawn : ∀ {v w} (request : SpawnRequest), R v w →
    AnswersAlike R (a.spawn request v) (b.spawn request w)

/-- Two runs end alike, with the same environment and in related worlds. -/
structure Outcome.Alike (R : σ → τ → Prop) (a : Outcome σ) (b : Outcome τ) : Prop where
  result : a.result = b.result
  env : a.env = b.env
  world : R a.world b.world

section

variable {R : σ → τ → Prop} {hostA : Host σ} {hostB : Host τ} {outA : Sink σ} {outB : Sink τ}
  {v : σ} {w : τ}

/-- Hosts that answer alike do so to all that the shell asks from one environment. -/
theorem Host.Alike.alikeIn (hhost : hostA.Alike R hostB) :
    hostA.AlikeIn (fun e v f w ↦ e = f ∧ R v w) hostB := by
  constructor
  · rintro e v f w ⟨rfl, -⟩
    rfl
  · rintro e v f w ⟨rfl, hvw⟩
    rw [hhost.vars hvw, hhost.accountHome? hvw]
  · rintro e v f w target ⟨rfl, hvw⟩
    rw [isDirectory, isDirectory, hhost.kind? hvw]
  · rintro e v f w name ⟨rfl, hvw⟩
    have hrunnable : hostA.isRunnable v = hostB.isRunnable w := by
      funext p
      rw [isRunnable, isRunnable, hhost.kind? hvw]
    rw [Host.find?, Host.find?, hrunnable, hhost.vars hvw]
  · rintro e v f w u p name args - ⟨rfl, hvw⟩
    rw [hhost.vars hvw]
    obtain ⟨hanswer, hafter⟩ := hhost.spawn (External.request (hostB.vars w) e p name args) hvw
    exact ⟨hanswer, rfl, hafter⟩
  · rintro e v f w ⟨rfl, hvw⟩
    exact ⟨rfl, hvw⟩
  · rintro e v f w target ⟨rfl, hvw⟩
    exact ⟨rfl, hvw⟩

/-- From one environment **no line can tell apart** hosts and sinks that answer alike. -/
theorem Interpreter.alike_evalLine (env : Environment) (hhost : hostA.Alike R hostB)
    (hout : outA.Alike R outB) (line : Text) (hvw : R v w) :
    ((default hostA).evalLine line outA env v).Alike R
      ((default hostB).evalLine line outB env w) := by
  have hout' : ∀ {e f : Environment}, outA.Alike (fun v w ↦ e = f ∧ R v w) outB := by
    intro e f
    constructor
    · rintro v w bytes hbytes ⟨henv, hvw⟩
      obtain ⟨hanswer, hafter⟩ := hout.write hbytes hvw
      exact ⟨hanswer, henv, hafter⟩
    · rintro v w ⟨henv, hvw⟩
      obtain ⟨hanswer, hafter⟩ := hout.flush hvw
      exact ⟨hanswer, henv, hafter⟩
  obtain ⟨hresult, henv, hworld⟩ := alikeIn_evalLine hout' hhost.alikeIn line
    (⟨rfl, hvw⟩ : env = env ∧ R v w)
  exact ⟨hresult, henv, hworld⟩

end

/-! ### Invariants -/

/-- **What the host and the sink keep, every line keeps.** -/
theorem Interpreter.invariant_evalLine {P : σ → Prop} {host : Host σ} {out : Sink σ}
    (hspawn : ∀ request w, P w → P (host.spawn request w).2)
    (hwrite : ∀ bytes w, bytes ≠ [] → P w → P (out.write bytes w).2)
    (hflush : ∀ w, P w → P (out.flush w).2)
    (line : Text) (env : Environment) {w : σ} (hw : P w) :
    P ((default host).evalLine line out env w).world := by
  have hhost : host.Alike (fun v w ↦ v = w ∧ P w) host := by
    constructor
    · rintro v w ⟨rfl, -⟩
      rfl
    · rintro v w ⟨rfl, -⟩
      rfl
    · rintro v w ⟨rfl, -⟩
      rfl
    · rintro v w request ⟨rfl, hw⟩
      exact ⟨rfl, rfl, hspawn request v hw⟩
  have hout : out.Alike (fun v w ↦ v = w ∧ P w) out := by
    constructor
    · rintro v w bytes hbytes ⟨rfl, hw⟩
      exact ⟨rfl, rfl, hwrite bytes v hbytes hw⟩
    · rintro v w ⟨rfl, hw⟩
      exact ⟨rfl, rfl, hflush v hw⟩
  exact (alike_evalLine env hhost hout line ⟨rfl, hw⟩).world.2

end LineShell
