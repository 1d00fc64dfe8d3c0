import LineShell.Proofs.Dispatch
import LineShell.Proofs.Trace
import Mathlib.Logic.ExistsUnique

/-!
# What a word stands for

As the name of a command, a word stands for a built-in, for a program, or for nothing. There are two
ways to find out: to ask `type`, and to run the word and see. This module says what each of the two
shows in each case (`Referent.Shown`) and proves that **both always show the same**.

Runs are seen through their traces. What `type` says is what its sink has taken; what running the
word does is seen from its requests for programs, from the messages of the shell, and from the state
it leaves. So the three cases exclude each other: a built-in asks for no program, a program is asked
for once, and of nothing it is said that there is no such thing.

The two decisions are made by different functions, `Builtin.runType` and `Interpreter.run`, and meet
only in `isBuiltin` and `Host.find?`. The sink has to be one that never fails, for otherwise neither
of the two need get through with its message.
-/

namespace LineShell

variable {σ : Type}

/-! ### Reports and built-ins in a trace -/

/-- A command that ends with a status has no fault to report. -/
theorem Command.reportingFaults_of_ok {command : Command σ} {out : Sink σ} {env : Environment}
    {w : σ} {status : Status} (h : (command out env w).result = .ok status) :
    command.reportingFaults out env w = command out env w := by
  simp only [Command.reportingFaults, h]

/-- What is left when a line is reported on a sink that never fails. -/
structure ShowsLine (line : Text) (status : Status) (out : Sink σ) (env : Environment) (w : σ)
    (o : Outcome (σ × List Event)) : Prop where
  result : o.result = .ok status
  output : Trace.output o.world.2 = Text.utf8 (line ++ ['\n'])
  requests : Trace.requests o.world.2 = []
  env_eq : o.env = env
  world : o.world.1 = (out.writeLine line w).2

theorem Command.showsLine_report {out : Sink σ} (hout : out.Reliable) (line : Text)
    (status : Status) (env : Environment) (w : σ) :
    ShowsLine line status out env w (report line status out.traced env (w, [])) := by
  obtain ⟨s, hs, houtput⟩ := hout.writeLine line w []
  have hrequests := out.requests_writeLine line w []
  rw [hs] at hrequests
  refine ⟨?_, ?_, ?_, env_report _ _ _ _ _, ?_⟩
  · rw [result_report, hs]
  · rw [world_report, hs]
    exact houtput
  · rw [world_report, hs]
    exact hrequests
  · rw [world_report, hs]

section Requests

variable (out : Sink σ) (env : Environment) (w : σ × List Event)

/-- A report asks for no program. -/
@[simp] theorem Command.requests_report (line : Text) (status : Status) :
    Trace.requests (report line status out.traced env w).world.2 = Trace.requests w.2 := by
  rw [world_report]
  exact out.requests_writeLine line w.1 w.2

/-- Reporting a fault asks for no program. -/
theorem Command.requests_reportingFaults (command : Command (σ × List Event)) :
    Trace.requests (command.reportingFaults out.traced env w).world.2 =
      Trace.requests (command out.traced env w).world.2 := by
  simp only [reportingFaults]
  split
  · rfl
  · exact requests_report out _ _ _ _

/-- Settling asks for no program. -/
theorem Interpreter.requests_settle (o : Outcome (σ × List Event)) :
    Trace.requests (settle out.traced o).world.2 = Trace.requests o.world.2 := by
  unfold settle
  split
  · rfl
  · split
    · exact Command.requests_report out _ _ _ _
    · rfl

/-- A built-in **asks for no program**, whatever the sink does. -/
theorem Builtin.requests_run (host : Host σ) (b : Builtin) (args : List Text) :
    Trace.requests (b.run host.traced args out.traced env w).world.2 = Trace.requests w.2 := by
  cases b with
  | exit => rfl
  | echo => exact Command.requests_report out env w _ 0
  | pwd => exact Command.requests_report out env w _ 0
  | type =>
    cases args with
    | nil => rfl
    | cons target rest =>
      simp only [run, runType]
      split
      · exact Command.requests_report out env w _ 0
      · split <;> exact Command.requests_report out env w _ _
  | cd =>
    simp only [run, runCd]
    split
    · rfl
    · split <;> rfl

/-- When what the sink holds back gets through, a program is **asked for once**. -/
theorem External.requests_run (host : Host σ) (p : Path) (name : Text) (args : List Text)
    (hflush : (out.flush w.1).1 = .ok ()) :
    Trace.requests (run host.traced p name args out.traced env w).world.2 =
      Trace.requests w.2 ++ [request (host.vars (out.flush w.1).2) env p name args] := by
  obtain ⟨w, t⟩ := w
  simp only [run, Sink.flush_traced, hflush, Host.vars_traced, Host.spawn_traced]
  cases (host.spawn (request (host.vars (out.flush w).2) env p name args) (out.flush w).2).1 <;>
    simp

end Requests

/-! ### The three cases -/

/-- What a word can stand for. -/
inductive Referent
  /-- A command that the shell carries out itself. -/
  | builtin (b : Builtin)
  /-- A program that the host starts. -/
  | program (p : Path)
  | nothing

/-- A run of the shell's own commands, with a trace of it. -/
def tracedRun (host : Host σ) (out : Sink σ) (env : Environment) (w : σ) (name : Text)
    (args : List Text) : Outcome (σ × List Event) :=
  (Interpreter.default host.traced).run name args out.traced env (w, [])

namespace Referent

variable (host : Host σ) (out : Sink σ) (env : Environment) (w : σ) (name : Text)
  (ignored args : List Text)

/-- What `type` says of the word, and what running the word does, when it stands for this. -/
def Shown : Referent → Prop
  | builtin b =>
    let typed := tracedRun host out env w "type".toList (name :: ignored)
    let ran := tracedRun host out env w name args
    name = b.name ∧
      typed.result = .ok 0 ∧
      Trace.output typed.world.2 = Text.utf8 (name ++ " is a shell builtin\n".toList) ∧
      ran = (b.run host.traced args).reportingFaults out.traced env (w, []) ∧
      Trace.requests ran.world.2 = []
  | program p =>
    let typed := tracedRun host out env w "type".toList (name :: ignored)
    let ran := tracedRun host out env w name args
    typed.result = .ok 0 ∧
      Trace.output typed.world.2 = Text.utf8 (name ++ " is ".toList ++ p.text ++ ['\n']) ∧
      ∃ request, Trace.requests ran.world.2 = [request] ∧ request.program = p
  | nothing =>
    let typed := tracedRun host out env w "type".toList (name :: ignored)
    let ran := tracedRun host out env w name args
    typed.result = .ok 127 ∧
      Trace.output typed.world.2 = Text.utf8 (name ++ ": not found\n".toList) ∧
      ran.result = .ok 127 ∧
      Trace.output ran.world.2 = Text.utf8 (name ++ ": command not found\n".toList) ∧
      Trace.requests ran.world.2 = [] ∧
      ran.env = env ∧
      ran.world.1 = (out.writeLine (name ++ ": command not found".toList) w).2

variable {host out env w name ignored args}

/-- `type` reports a line about the word. -/
theorem showsLine_type (hout : out.Reliable) {line : Text} {status : Status}
    (h : Builtin.runType host.traced (name :: ignored) out.traced env (w, []) =
      Command.report line status out.traced env (w, [])) :
    ShowsLine line status out env w (tracedRun host out env w "type".toList (name :: ignored)) := by
  have hline := Command.showsLine_report hout line status env w
  have hrun : tracedRun host out env w "type".toList (name :: ignored) =
      Command.report line status out.traced env (w, []) := by
    rw [← h] at hline ⊢
    rw [tracedRun, show "type".toList = Builtin.type.name from rfl, Interpreter.run_default_name]
    exact Command.reportingFaults_of_ok hline.result
  exact hrun ▸ hline

theorem shown_builtin (hout : out.Reliable) (b : Builtin) :
    (builtin b).Shown host out env w b.name ignored args := by
  have htype : Builtin.runType host.traced (b.name :: ignored) out.traced env (w, []) =
      Command.report (b.name ++ " is a shell builtin".toList) 0 out.traced env (w, []) := by
    simp only [Builtin.runType, isBuiltin_name, if_true]
  have htyped := showsLine_type hout htype
  have hran := Interpreter.run_default_name host.traced env (w, []) args out.traced b
  refine ⟨rfl, htyped.result, ?_, hran, ?_⟩
  · rw [htyped.output, List.append_assoc]
    rfl
  · rw [tracedRun, hran, Command.requests_reportingFaults]
    exact Builtin.requests_run out env (w, []) host b args

theorem shown_program (hout : out.Reliable) (h : isBuiltin name = false) {p : Path}
    (hp : host.find? w env name = some p) :
    (program p).Shown host out env w name ignored args := by
  have htype : Builtin.runType host.traced (name :: ignored) out.traced env (w, []) =
      Command.report (name ++ " is ".toList ++ p.text) 0 out.traced env (w, []) := by
    simp only [Builtin.runType, h, Host.find?_traced, hp, Bool.false_eq_true, if_false]
  have htyped := showsLine_type hout htype
  have hran := Interpreter.run_default_of_find?_eq_some host.traced env (w, []) args out.traced h
    (p := p) hp
  refine ⟨htyped.result, htyped.output,
    External.request (host.vars (out.flush w).2) env p name args, ?_, rfl⟩
  rw [tracedRun, hran, Interpreter.requests_settle,
    External.requests_run out env (w, []) host p name args (hout.flush w)]
  rfl

theorem shown_nothing (hout : out.Reliable) (h : isBuiltin name = false)
    (hp : host.find? w env name = none) : nothing.Shown host out env w name ignored args := by
  have htype : Builtin.runType host.traced (name :: ignored) out.traced env (w, []) =
      Command.report (name ++ ": not found".toList) .notFound out.traced env (w, []) := by
    simp only [Builtin.runType, h, Host.find?_traced, hp, Bool.false_eq_true, if_false]
  have htyped := showsLine_type hout htype
  have hran : tracedRun host out env w name args =
      Command.report (name ++ ": command not found".toList) .notFound out.traced env (w, []) :=
    Interpreter.run_default_of_find?_eq_none host.traced env (w, []) args out.traced h hp
  have hreport := Command.showsLine_report hout (name ++ ": command not found".toList)
    .notFound env w
  rw [← hran] at hreport
  refine ⟨htyped.result, ?_, hreport.result, ?_, hreport.requests, hreport.env_eq, hreport.world⟩
  · rw [htyped.output, List.append_assoc]
    rfl
  · rw [hreport.output, List.append_assoc]
    rfl

/-- The three cases **exclude each other**. -/
theorem eq_of_shown {r s : Referent} (hr : r.Shown host out env w name ignored args)
    (hs : s.Shown host out env w name ignored args) : r = s := by
  -- a program is told by the one request for it, and nothing by the status of `type`
  cases r with
  | builtin b =>
    obtain ⟨hname, htyped, -, -, hnone⟩ := hr
    cases s with
    | builtin c => exact congrArg builtin (Builtin.name_injective (hname.symm.trans hs.1))
    | program q =>
      obtain ⟨-, -, request, hone, -⟩ := hs
      exact absurd (hnone.symm.trans hone) (List.cons_ne_nil _ _).symm
    | nothing => exact absurd (Except.ok.inj (htyped.symm.trans hs.1)) (by decide)
  | program p =>
    obtain ⟨htyped, -, request, hone, rfl⟩ := hr
    cases s with
    | builtin c =>
      obtain ⟨-, -, -, -, hnone⟩ := hs
      exact absurd (hnone.symm.trans hone) (List.cons_ne_nil _ _).symm
    | program q =>
      obtain ⟨-, -, request', hone', rfl⟩ := hs
      obtain rfl : request = request' := by simpa using hone.symm.trans hone'
      rfl
    | nothing => exact absurd (Except.ok.inj (htyped.symm.trans hs.1)) (by decide)
  | nothing =>
    obtain ⟨htyped, -⟩ := hr
    cases s with
    | builtin c => exact absurd (Except.ok.inj (htyped.symm.trans hs.2.1)) (by decide)
    | program q => exact absurd (Except.ok.inj (htyped.symm.trans hs.1)) (by decide)
    | nothing => rfl

end Referent

/-- **`type` predicts what a word does**: in every state exactly one of the three cases is shown, by
`type` and by running the word alike, and for a built-in's name it is that built-in, whatever is
found under the name. -/
theorem existsUnique_shown {out : Sink σ} (hout : out.Reliable) (host : Host σ)
    (env : Environment) (w : σ) (name : Text) (ignored args : List Text) :
    (∃! r : Referent, r.Shown host out env w name ignored args) ∧
      ∀ b : Builtin, name = b.name →
        (Referent.builtin b).Shown host out env w name ignored args := by
  constructor
  · suffices h : ∃ r : Referent, r.Shown host out env w name ignored args by
      obtain ⟨r, hr⟩ := h
      exact ⟨r, hr, fun s hs ↦ Referent.eq_of_shown hs hr⟩
    by_cases hname : isBuiltin name = true
    · obtain ⟨b, rfl⟩ := isBuiltin_iff.1 hname
      exact ⟨.builtin b, Referent.shown_builtin hout b⟩
    · rw [Bool.not_eq_true] at hname
      cases hp : host.find? w env name with
      | some p => exact ⟨.program p, Referent.shown_program hout hname hp⟩
      | none => exact ⟨.nothing, Referent.shown_nothing hout hname hp⟩
  · rintro b rfl
    exact Referent.shown_builtin hout b

/-- A host whose only program is `/bin/cat`, with its directory on the search path. -/
def catAlone : Host Bytes where
  kind? _ p := if p = ⟨"/bin/cat".toList⟩ then some (.file true) else none
  vars _ := .ofList [("PATH".toList, "/bin".toList)]
  dir? _ := none
  accountHome? _ := none
  spawn _ w := (.ok 0, w)
  input w := ([], w)

/-- The program is found there, so it is what the word stands for. -/
theorem existsUnique_shown_cat :
    Sink.collecting.Reliable ∧
      catAlone.find? [] (.startingIn .root) "cat".toList = some ⟨"/bin/cat".toList⟩ ∧
      (∃! r : Referent, r.Shown catAlone .collecting (.startingIn .root) [] "cat".toList [] []) ∧
      ∀ b : Builtin, "cat".toList = b.name →
        (Referent.builtin b).Shown catAlone .collecting (.startingIn .root) [] "cat".toList [] [] :=
  ⟨Sink.reliable_collecting, by decide, existsUnique_shown Sink.reliable_collecting catAlone
    (.startingIn .root) [] "cat".toList [] []⟩

end LineShell
