import LineShell.Proofs.Alike
import LineShell.Proofs.Effect
import LineShell.Proofs.Trace

/-!
# What a refusing sink can do

Things go wrong in many ways while a line is evaluated: the target of a `cd` is no directory, a
program does not start, a name stands for nothing. All of these are reported and give a status. What
is left as a fault of the whole line is **the refusal of the sink to take a report**, and so it can
be seen in the trace of the run (`Interpreter.exists_refusal_of_evalLine`). Where the sink refuses
nothing, a line always ends with a status (`Interpreter.ok_evalLine`).

Nor has the sink a say in what becomes of the environment: that is settled before anything is
written (`Interpreter.env_evalLine_eq`). The two sinks compared there may act on the world as they
like, even between the commands' own steps.
-/

namespace LineShell

variable {σ : Type}

/-! ### Refusals in a trace -/

/-- The sink gave an error, or took nothing of a non-empty offer. -/
def Event.IsRefusal : Event → Prop
  | wrote _ (.error _) => True
  | wrote offered (.ok n) => offered ≠ [] ∧ n = 0
  | flushed (.error _) => True
  | _ => False

/-- A host with a trace answers as without it. -/
theorem Host.alike_traced (host : Host σ) : host.traced.Alike (fun v w ↦ v.1 = w) host := by
  constructor
  · rintro v w rfl
    rfl
  · rintro v w rfl
    rfl
  · rintro v w rfl
    rfl
  · rintro v w request rfl
    exact ⟨rfl, rfl⟩

/-- A sink with a trace answers as without it. -/
theorem Sink.alike_traced (out : Sink σ) : out.traced.Alike (fun v w ↦ v.1 = w) out := by
  constructor
  · rintro v w bytes - rfl
    exact ⟨rfl, rfl⟩
  · rintro v w rfl
    exact ⟨rfl, rfl⟩

/-- Writing that fails leaves a refusal in the trace. -/
theorem Sink.exists_refusal_of_writeFrom (out : Sink σ) {taken : Nat} {bytes : Bytes}
    {w : σ × List Event} {e : IoError} (h : (out.traced.writeFrom taken bytes w).1 = .error e) :
    ∃ event ∈ (out.traced.writeFrom taken bytes w).2.2, event.IsRefusal := by
  induction bytes generalizing taken w with
  | nil => cases taken <;> exact absurd h (by simp [writeFrom])
  | cons b rest ih =>
    cases taken with
    | succ taken => exact ih h
    | zero =>
      obtain ⟨w, t⟩ := w
      rcases hw : out.write (b :: rest) w with ⟨answer, after⟩
      rw [writeFrom, write_traced, hw] at h ⊢
      rcases answer with e' | _ | n
      · exact ⟨.wrote (b :: rest) (.error e'), by simp, trivial⟩
      · exact ⟨.wrote (b :: rest) (.ok 0), by simp, List.cons_ne_nil b rest, rfl⟩
      · exact ih h

/-! ### Faults -/

/-- If the run ends with a fault, there is a refusal in its trace. -/
def Outcome.FaultsByRefusal (o : Outcome (σ × List Event)) : Prop :=
  ∀ f, o.result = .error f → ∃ event ∈ o.world.2, event.IsRefusal

section

variable (out : Sink σ) (env : Environment) (w : σ × List Event)

theorem Command.faultsByRefusal_report (line : Text) (status : Status) :
    (report line status out.traced env w).FaultsByRefusal := by
  intro f hf
  rw [world_report]
  rw [result_report] at hf
  cases hwritten : (out.traced.writeLine line w).1 with
  | ok u => simp [hwritten] at hf
  | error e => exact out.exists_refusal_of_writeFrom hwritten

/-- A command that reports its faults has none but that of a refused report. -/
theorem Command.faultsByRefusal_reportingFaults (command : Command (σ × List Event)) :
    (command.reportingFaults out.traced env w).FaultsByRefusal := by
  simp only [reportingFaults]
  split
  · next status hok =>
    intro f hf
    exact absurd (hok.symm.trans hf) (by simp)
  · exact faultsByRefusal_report out _ _ _ _

/-- The fault of a child is a failed start, unless what the sink held back was refused. -/
theorem External.spawnFailure?_or_refusal (host : Host (σ × List Event)) (p : Path) (name : Text)
    (args : List Text) {f : Fault}
    (hf : (run host p name args out.traced env w).result = .error f) :
    f.spawnFailure?.isSome ∨
      ∃ event ∈ (run host p name args out.traced env w).world.2, event.IsRefusal := by
  obtain ⟨w, t⟩ := w
  rcases hflush : out.flush w with ⟨answer, flushed⟩
  cases answer with
  | error e =>
    right
    refine ⟨.flushed (.error e), ?_, trivial⟩
    simp [run, Sink.flush_traced, hflush]
  | ok u =>
    left
    simp only [run, Sink.flush_traced, hflush] at hf
    split at hf
    · exact absurd hf (by simp)
    · obtain rfl := Except.error.inj hf
      rfl

/-- After settling only faults that are no failed starts are left. -/
theorem Interpreter.faultsByRefusal_settle {o : Outcome (σ × List Event)}
    (h : ∀ f, o.result = .error f →
      f.spawnFailure?.isSome ∨ ∃ event ∈ o.world.2, event.IsRefusal) :
    (settle out.traced o).FaultsByRefusal := by
  obtain ⟨result, env, world⟩ := o
  cases result with
  | ok status =>
    intro f hf
    exact absurd hf (by simp [settle])
  | error f =>
    rcases hspawn : f.spawnFailure? with _ | e
    · have hrefusal := (h f rfl).resolve_left (by simp [hspawn])
      intro f' _
      simpa only [settle, hspawn] using hrefusal
    · simpa only [settle, hspawn] using
        Command.faultsByRefusal_report out env world e.message .notExecutable

theorem Interpreter.faultsByRefusal_run (host : Host (σ × List Event)) (name : Text)
    (args : List Text) : ((default host).run name args out.traced env w).FaultsByRefusal := by
  by_cases hname : isBuiltin name = true
  · obtain ⟨b, rfl⟩ := isBuiltin_iff.1 hname
    rw [run_default_name]
    exact Command.faultsByRefusal_reportingFaults out env w _
  · rw [Bool.not_eq_true] at hname
    cases hp : host.find? w env name with
    | some p =>
      rw [run_default_of_find?_eq_some host env w args _ hname hp]
      exact faultsByRefusal_settle out fun f hf ↦
        External.spawnFailure?_or_refusal out env w host p name args hf
    | none =>
      rw [run_default_of_find?_eq_none host env w args _ hname hp]
      exact Command.faultsByRefusal_report out env w _ _

theorem Interpreter.faultsByRefusal_evalLine (host : Host (σ × List Event)) (line : Text) :
    ((default host).evalLine line out.traced env w).FaultsByRefusal := by
  unfold evalLine
  split
  · intro f hf
    exact absurd hf (by simp [Command.finish])
  · cases words line.trim with
    | nil =>
      intro f hf
      exact absurd hf (by simp [dispatch, Command.finish])
    | cons name args => exact faultsByRefusal_run out env w host name args

end

namespace Interpreter

/-- The trace of a line: all that passes between it and the outside. -/
def lineTrace (host : Host σ) (out : Sink σ) (env : Environment) (w : σ) (line : Text) :
    List Event :=
  ((default host.traced).evalLine line out.traced env (w, [])).world.2

variable {host : Host σ} {out : Sink σ} (line : Text) (env : Environment) {w : σ}

/-- A line **ends with a fault only if the sink has refused something** on the way. -/
theorem exists_refusal_of_evalLine {f : Fault}
    (h : ((default host).evalLine line out env w).result = .error f) :
    ∃ event ∈ lineTrace host out env w line, event.IsRefusal := by
  have halike := alike_evalLine (v := (w, ([] : List Event))) (w := w) env host.alike_traced
    out.alike_traced line rfl
  exact faultsByRefusal_evalLine out env (w, []) host.traced line f (halike.result.trans h)

/-- In worlds where the sink refuses nothing, and which the host and the sink do not leave, a line
**ends with a status**. -/
theorem ok_evalLine {P : σ → Prop} (hspawn : ∀ request w, P w → P (host.spawn request w).2)
    (hwrite : ∀ bytes w, bytes ≠ [] → P w →
      (∃ n, (out.write bytes w).1 = .ok (n + 1)) ∧ P (out.write bytes w).2)
    (hflush : ∀ w, P w → (out.flush w).1 = .ok () ∧ P (out.flush w).2) (hw : P w) :
    ∃ status, ((default host).evalLine line out env w).result = .ok status := by
  cases hresult : ((default host).evalLine line out env w).result with
  | ok status => exact ⟨status, rfl⟩
  | error f =>
    obtain ⟨event, hmem, hrefusal⟩ := exists_refusal_of_evalLine line env hresult
    -- the trace stays without refusals as long as the world stays where there are none
    let Clean (v : σ × List Event) : Prop := P v.1 ∧ ∀ event ∈ v.2, ¬ event.IsRefusal
    have hmore : ∀ {w t event}, Clean (w, t) → ∀ {after}, P after → ¬ event.IsRefusal →
        Clean (after, t ++ [event]) := by
      intro w t event hclean after hafter hevent
      refine ⟨hafter, fun e he ↦ ?_⟩
      rcases List.mem_append.1 he with hold | hnew
      · exact hclean.2 e hold
      · rwa [List.mem_singleton.1 hnew]
    have hclean : Clean ((default host.traced).evalLine line out.traced env (w, [])).world := by
      refine invariant_evalLine ?_ ?_ ?_ line env ⟨hw, by simp⟩
      · rintro request ⟨w, t⟩ hclean
        exact hmore hclean (hspawn request w hclean.1) id
      · rintro bytes ⟨w, t⟩ hbytes hclean
        obtain ⟨⟨n, hn⟩, hafter⟩ := hwrite bytes w hbytes hclean.1
        refine hmore hclean hafter ?_
        rw [hn]
        exact fun h ↦ absurd h.2 n.succ_ne_zero
      · rintro ⟨w, t⟩ hclean
        obtain ⟨hpassed, hafter⟩ := hflush w hclean.1
        refine hmore hclean hafter ?_
        rw [hpassed]
        exact id
    exact absurd hrefusal (hclean.2 event hmem)

end Interpreter

/-- On a sink that never fails a line ends with a status. -/
theorem Sink.Reliable.ok_evalLine {out : Sink σ} (hout : out.Reliable) (host : Host σ) (line : Text)
    (env : Environment) (w : σ) :
    ∃ status, ((Interpreter.default host).evalLine line out env w).result = .ok status :=
  Interpreter.ok_evalLine (P := fun _ ↦ True) line env (fun _ _ _ ↦ trivial)
    (fun bytes w hbytes _ ↦ ⟨hout.write bytes w hbytes, trivial⟩)
    (fun w _ ↦ ⟨hout.flush w, trivial⟩) trivial

/-! ### The environment -/

section

variable {τ : Type} {hostA : Host σ} {hostB : Host τ} {v : σ} {w : τ}

/-- What any command but `cd` does to the environment is known from its name. -/
theorem Effect.env_eq_of_ne_cd {host : Host σ} {name : Text} {env : Environment} {w : σ}
    {o : Outcome σ} (h : Effect host name env w o) (hcd : name ≠ "cd".toList) :
    o.env = if name = "exit".toList then { env with exiting := true } else env := by
  cases h with
  | stop hname _ henv => rw [henv, if_pos hname]
  | move hname => exact absurd hname hcd
  | stay hexit _ henv => rw [henv, if_neg hexit]

/-- `cd` goes by what the host says, and writes nothing before it has gone. -/
theorem Builtin.env_runCd_eq (hkind : hostA.kind? v = hostB.kind? w)
    (hvars : hostA.vars v = hostB.vars w) (hhome : hostA.accountHome? v = hostB.accountHome? w)
    (args : List Text) (outA : Sink σ) (outB : Sink τ) (env : Environment) :
    (runCd hostA args outA env v).env = (runCd hostB args outB env w).env := by
  simp only [runCd, Host.isDirectory, hkind, hvars, hhome]
  cases cdTarget? env (hostB.vars w) (hostB.accountHome? w) args with
  | none => rfl
  | some target =>
    by_cases hdir : (hostB.kind? w (env.absolutize ⟨target⟩) == some .directory) = true
    · simp only [hdir, if_true]
    · simp only [hdir, if_false, Bool.false_eq_true]
      rfl

/-- What a run does to the environment depends on what the host says at its beginning, and **not on
the sink**. -/
theorem Interpreter.env_run_eq (hkind : hostA.kind? v = hostB.kind? w)
    (hvars : hostA.vars v = hostB.vars w) (hhome : hostA.accountHome? v = hostB.accountHome? w)
    (name : Text) (args : List Text) (outA : Sink σ) (outB : Sink τ) (env : Environment) :
    ((default hostA).run name args outA env v).env =
      ((default hostB).run name args outB env w).env := by
  by_cases hcd : name = "cd".toList
  · rw [hcd, show "cd".toList = Builtin.cd.name from rfl, run_default_name, run_default_name,
      Command.env_reportingFaults, Command.env_reportingFaults]
    exact Builtin.env_runCd_eq hkind hvars hhome args outA outB env
  · have hA : Effect hostA name env v ((default hostA).run name args outA env v) :=
      effect_run_default name
    have hB : Effect hostB name env w ((default hostB).run name args outB env w) :=
      effect_run_default name
    rw [hA.env_eq_of_ne_cd hcd, hB.env_eq_of_ne_cd hcd]

theorem Interpreter.env_evalLine_eq (hkind : hostA.kind? v = hostB.kind? w)
    (hvars : hostA.vars v = hostB.vars w) (hhome : hostA.accountHome? v = hostB.accountHome? w)
    (line : Text) (outA : Sink σ) (outB : Sink τ) (env : Environment) :
    ((default hostA).evalLine line outA env v).env =
      ((default hostB).evalLine line outB env w).env := by
  unfold evalLine
  split
  · rfl
  · cases words line.trim with
    | nil => rfl
    | cons name args => exact env_run_eq hkind hvars hhome name args outA outB env

end

/-- **What a sink refuses stays with the sink.** A line ends with a fault only if its trace has a
refusal, so on a sink that never fails it ends with a status; and two lines that differ only in
their sinks leave the same environment, whatever the sinks do to themselves and to the world. -/
theorem refusals_contained (host : Host σ) (line : Text) (env : Environment) (w : σ) :
    (∀ out : Sink σ,
      (∀ f, ((Interpreter.default host).evalLine line out env w).result = .error f →
        ∃ event ∈ Interpreter.lineTrace host out env w line, event.IsRefusal) ∧
      (out.Reliable →
        ∃ status, ((Interpreter.default host).evalLine line out env w).result = .ok status)) ∧
    ∀ {α β : Type} (outA : Sink (σ × α)) (outB : Sink (σ × β)) (a : α) (b : β),
      ((Interpreter.default host.onFst).evalLine line outA env (w, a)).env =
        ((Interpreter.default host.onFst).evalLine line outB env (w, b)).env := by
  refine ⟨fun out ↦ ⟨fun f hf ↦ Interpreter.exists_refusal_of_evalLine line env hf, fun hout ↦
    hout.ok_evalLine host line env w⟩, ?_⟩
  intro α β outA outB a b
  apply Interpreter.env_evalLine_eq <;> rfl

/-- A host that has nothing but directories. -/
def directoriesOnly : Host σ where
  kind? _ _ := some .directory
  vars _ := ∅
  dir? _ := none
  accountHome? _ := none
  spawn _ w := (.error .writeZero, w)
  input w := ([], w)

/-- A sink that never fails, and one without room that refuses whatever it is offered: there a fault
comes out, with the refusal in the trace, and `cd` moves the shell all the same. -/
theorem refusals_contained_noRoom :
    let env := Environment.startingIn .root
    let noRoom : Sink Sink.Limited := .limited ⟨"no room".toList⟩ none
    let start : Sink.Limited := ⟨[], some 0, none⟩
    let echo := (Interpreter.default directoriesOnly).evalLine "echo a".toList noRoom env start
    (Sink.collecting.Reliable ∧
      ∃ status, ((Interpreter.default directoriesOnly).evalLine "echo a".toList .collecting env
        []).result = .ok status) ∧
    (echo.result = .error (.io ⟨"no room".toList⟩) ∧
      ∃ event ∈ Interpreter.lineTrace directoriesOnly noRoom env start "echo a".toList,
        event.IsRefusal) ∧
    ((Interpreter.default directoriesOnly.onFst).evalLine "cd /tmp".toList noRoom.onSnd env
        ((), start)).env.dir = ⟨"/tmp".toList⟩ ∧
      ((Interpreter.default directoriesOnly.onFst).evalLine "cd /tmp".toList noRoom.onSnd env
        ((), start)).env =
      ((Interpreter.default directoriesOnly.onFst).evalLine "cd /tmp".toList
        Sink.collecting.onSnd env ((), [])).env := by
  intro env noRoom start echo
  have hecho : echo.result = .error (.io ⟨"no room".toList⟩) := rfl
  refine ⟨⟨Sink.reliable_collecting, ?_⟩, ⟨hecho, ?_⟩, by decide, ?_⟩
  · exact ((refusals_contained directoriesOnly _ env []).1 .collecting).2 Sink.reliable_collecting
  · exact ((refusals_contained directoriesOnly _ env start).1 noRoom).1 _ hecho
  · exact (refusals_contained directoriesOnly _ env ()).2 _ _ _ _

end LineShell
