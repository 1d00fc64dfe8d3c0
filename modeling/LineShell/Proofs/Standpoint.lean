import LineShell.Proofs.Alike
import LineShell.Proofs.Asked
import Mathlib.Data.List.Find
import Mathlib.Data.List.Forall2

/-!
# Where the process stands

The shell keeps a working directory of its own and never moves its process. So where the process
stands is of no interest: it shows in what relative paths lead to and in what the process tells of
its own directory, and **the shell makes use of neither** once its own directory is an absolute
path.

Two hosts that agree on absolute paths (`Host.AgreesOnAbsolute`) may be the same system seen by
processes that stand in different directories (`Host.agreesOnAbsolute_standingIn`), or in one that
is gone. From two environments that show the same (`Environment.SameView`: the same directory, and
variables that come to the same over those of the process) such hosts answer alike to all that the
shell asks (`Host.AgreesOnAbsolute.alikeIn`). So by `Interpreter.alikeIn_evalLine` no line tells
them apart, and no sequence of lines does, since the environments show the same again after each
(`Interpreter.alikeIn_evalLines`).

The last of these is about sessions as a whole: what is left after each of some lines that are
evaluated one after another (`Interpreter.evalLines`), with a trace of all that passed between the
shell and the outside.
-/

namespace LineShell

variable {σ τ : Type}

/-! ### Sequences of lines -/

namespace Interpreter

/-- What is left after each of some lines, each evaluated in the state that the one before it left,
whatever that one ended with. -/
def evalLines (sh : Interpreter σ) (out : Sink σ) : Environment → σ → List Text → List (Outcome σ)
  | _, _, [] => []
  | env, w, line :: rest =>
    let o := sh.evalLine line out env w
    o :: sh.evalLines out o.env o.world rest

/-- **What every line keeps, a sequence of lines keeps.** -/
theorem forall_mem_evalLines {sh : Interpreter σ} {out : Sink σ} {P : Environment → σ → Prop}
    (hstep : ∀ line {env w}, P env w →
      P (sh.evalLine line out env w).env (sh.evalLine line out env w).world)
    (lines : List Text) {env : Environment} {w : σ} (h : P env w) :
    ∀ o ∈ sh.evalLines out env w lines, P o.env o.world := by
  induction lines generalizing env w with
  | nil => exact List.forall_mem_nil _
  | cons line rest ih => exact List.forall_mem_cons.2 ⟨hstep line h, ih (hstep line h)⟩

/-- **No sequence of lines can tell apart** hosts and sinks that answer alike. -/
theorem alikeIn_evalLines {S : Environment → σ → Environment → τ → Prop} {hostA : Host σ}
    {hostB : Host τ} {outA : Sink σ} {outB : Sink τ} (hout : ∀ {e f}, outA.Alike (S e · f ·) outB)
    (hhost : hostA.AlikeIn S hostB) (lines : List Text) {e f : Environment} {v : σ} {w : τ}
    (h : S e v f w) :
    List.Forall₂ (Outcome.AlikeIn S) ((default hostA).evalLines outA e v lines)
      ((default hostB).evalLines outB f w lines) := by
  induction lines generalizing e f v w with
  | nil => exact .nil
  | cons line rest ih =>
    have hline := alikeIn_evalLine hout hhost line h
    exact .cons hline (ih hline.state)

end Interpreter

/-! ### The same view -/

/-- Two hosts agree on what absolute paths lead to and on what comes of requests that name absolute
paths. What a relative path leads to, where the process stands and which variables it has is left
open. -/
structure Host.AgreesOnAbsolute (a b : Host σ) : Prop where
  kind? : ∀ {p : Path} w, p.isAbsolute = true → a.kind? w p = b.kind? w p
  accountHome? : ∀ w, a.accountHome? w = b.accountHome? w
  spawn : ∀ {request : SpawnRequest} w, request.program.isAbsolute = true →
    request.dir.isAbsolute = true → a.spawn request w = b.spawn request w

/-- Two environments show the same, apart from the variables of the shell's own, which are `x` in
one and `y` in the other. -/
structure Environment.SameView (x y : Bindings) (e f : Environment) : Prop where
  dir_eq : e.dir = f.dir
  isAbsolute : e.dir.isAbsolute = true
  exiting_eq : e.exiting = f.exiting
  vars_left : e.vars = x
  vars_right : f.vars = y

namespace Environment.SameView

variable {x y ambientA ambientB : Bindings} {e f : Environment}

theorem absolutize_eq (h : SameView x y e f) (p : Path) : e.absolutize p = f.absolutize p := by
  rw [absolutize, absolutize, h.dir_eq]

theorem move (h : SameView x y e f) (p : Path) :
    SameView x y { e with dir := e.absolutize p } { f with dir := f.absolutize p } :=
  ⟨h.absolutize_eq p, isAbsolute_absolutize h.isAbsolute p, h.exiting_eq, h.vars_left, h.vars_right⟩

theorem stop (h : SameView x y e f) :
    SameView x y { e with exiting := true } { f with exiting := true } :=
  ⟨h.dir_eq, h.isAbsolute, rfl, h.vars_left, h.vars_right⟩

section

variable (h : SameView x y e f) (hvalues : x.overlay ambientA = y.overlay ambientB)

include h hvalues

theorem childVars_eq : e.childVars ambientA = f.childVars ambientB := by
  rw [childVars, childVars, h.vars_left, h.vars_right, hvalues]

theorem value?_eq (key : Text) : e.value? ambientA key = f.value? ambientB key := by
  rw [← get?_childVars, ← get?_childVars, h.childVars_eq hvalues]

theorem candidates_eq (name : Path) : e.candidates ambientA name = f.candidates ambientB name := by
  rw [candidates, candidates, h.value?_eq hvalues, h.absolutize_eq]
  simp only [h.absolutize_eq]

/-- A program that is named by an absolute path is asked for alike. It is not searched for once
more, and so it does not matter which of the two sides has the search path. -/
theorem request_eq {p : Path} (hp : p.isAbsolute = true) (name : Text) (args : List Text) :
    External.request ambientA e p name args = External.request ambientB f p name args := by
  have hslash : p.text.contains '/' = true := by
    obtain ⟨rest, htext⟩ := List.head?_eq_some_iff.1 (beq_iff_eq.1 hp)
    rw [htext, List.contains_cons, beq_self_eq_true, Bool.true_or]
  refine SpawnRequest.ext rfl rfl (h.childVars_eq hvalues) h.dir_eq ?_
  simp only [External.request, hslash, Bool.not_true, Bool.false_and]

end

end Environment.SameView

/-- Hosts that agree on absolute paths **answer alike to all that the shell asks** from environments
that show the same. -/
theorem Host.AgreesOnAbsolute.alikeIn {a b : Host σ} (hagree : a.AgreesOnAbsolute b)
    {x y : Bindings} (hvalues : ∀ w, x.overlay (a.vars w) = y.overlay (b.vars w)) :
    a.AlikeIn (fun e v f w ↦ Environment.SameView x y e f ∧ v = w) b := by
  constructor
  · rintro e v f w ⟨h, -⟩
    exact h.dir_eq
  · rintro e v f w ⟨h, rfl⟩
    rw [Environment.home?, Environment.home?, h.value?_eq (hvalues v), hagree.accountHome?]
  · rintro e v f w target ⟨h, rfl⟩
    rw [isDirectory, isDirectory, ← h.absolutize_eq,
      hagree.kind? v (Environment.isAbsolute_absolutize h.isAbsolute target)]
  · rintro e v f w name ⟨h, rfl⟩
    rw [Host.find?, Host.find?, ← h.candidates_eq (hvalues v)]
    refine List.find?_congr fun p hp ↦ ?_
    rw [isRunnable, isRunnable,
      hagree.kind? v (Environment.isAbsolute_of_mem_candidates h.isAbsolute hp)]
  · rintro e v f w u p name args hp ⟨h, rfl⟩
    have hp' := Host.isAbsolute_of_find? h.isAbsolute hp
    have hspawn : a.spawn (External.request (a.vars v) e p name args) v =
        b.spawn (External.request (b.vars v) f p name args) v := by
      rw [← h.request_eq (hvalues v) hp' name args]
      exact hagree.spawn v hp' h.isAbsolute
    rw [hspawn]
    exact ⟨rfl, h, rfl⟩
  · rintro e v f w ⟨h, rfl⟩
    exact ⟨h.stop, rfl⟩
  · rintro e v f w target ⟨h, rfl⟩
    exact ⟨h.move target, rfl⟩

/-- A sink answers like itself, in one world. -/
theorem Sink.alike_self (out : Sink σ) (Q : Prop) : out.Alike (fun v w ↦ Q ∧ v = w) out := by
  constructor
  · rintro v w bytes - ⟨hQ, rfl⟩
    exact ⟨rfl, hQ, rfl⟩
  · rintro v w ⟨hQ, rfl⟩
    exact ⟨rfl, hQ, rfl⟩

/-- Hosts that agree on absolute paths do so with a trace beside them. -/
theorem Host.AgreesOnAbsolute.traced {a b : Host σ} (hagree : a.AgreesOnAbsolute b) :
    a.traced.AgreesOnAbsolute b.traced := by
  refine ⟨fun w hp ↦ hagree.kind? w.1 hp, fun w ↦ hagree.accountHome? w.1, ?_⟩
  rintro request ⟨w, t⟩ hprogram hdir
  rw [Host.spawn_traced, Host.spawn_traced, hagree.spawn w hprogram hdir]

/-- On hosts that agree on absolute paths, from environments that show the same, **a session is the
same** but for the variables of the shell's own. -/
theorem Interpreter.sameView_evalLines {a b : Host σ} (hagree : a.AgreesOnAbsolute b)
    {x y : Bindings} (hvalues : ∀ w, x.overlay (a.vars w) = y.overlay (b.vars w))
    {e f : Environment} (h : e.SameView x y f) (out : Sink σ) (w : σ) (lines : List Text) :
    List.Forall₂ (Outcome.AlikeIn fun e v f w ↦ Environment.SameView x y e f ∧ v = w)
      ((default a.traced).evalLines out.traced e (w, []) lines)
      ((default b.traced).evalLines out.traced f (w, []) lines) :=
  alikeIn_evalLines (out.traced.alike_self _) (hagree.traced.alikeIn fun v ↦ hvalues v.1) lines
    ⟨h, rfl⟩

/-! ### Standing elsewhere -/

/-- Every path that the host can be asked about from this environment is absolute: that of the
target of a change of directory, and those where a program is looked for. -/
structure Environment.AsksAbsolutely (env : Environment) : Prop where
  directory : ∀ target, (env.absolutize target).isAbsolute = true
  program : ∀ ambient name, ∀ p ∈ env.candidates ambient name, p.isAbsolute = true

theorem Environment.asksAbsolutely {env : Environment} (hdir : env.dir.isAbsolute = true) :
    env.AsksAbsolutely :=
  ⟨isAbsolute_absolutize hdir, fun _ _ _ ↦ isAbsolute_of_mem_candidates hdir⟩

/-- The session keeps to an absolute directory, and what it has asked for names absolute paths. -/
theorem Interpreter.isAbsolute_evalLines (host : Host σ) (out : Sink σ) {env : Environment}
    (hdir : env.dir.isAbsolute = true) (w : σ) (lines : List Text) :
    ∀ o ∈ (default host.traced).evalLines out.traced env (w, []) lines,
      o.env.dir.isAbsolute = true ∧ ∀ request ∈ Trace.requests o.world.2,
        request.program.isAbsolute = true ∧ request.dir.isAbsolute = true := by
  refine forall_mem_evalLines (P := fun env (w : σ × List Event) ↦ env.dir.isAbsolute = true ∧
    ∀ request ∈ Trace.requests w.2, request.program.isAbsolute = true ∧
      request.dir.isAbsolute = true) ?_ lines ⟨hdir, by simp⟩
  rintro line env w ⟨hdir, hrequests⟩
  refine ⟨isAbsolute_dir_evalLine hdir line, fun request hrequest ↦ ?_⟩
  rcases mem_requests_evalLine hrequest with hmem | ⟨name, args, p, u, -, hp, rfl⟩
  · exact hrequests request hmem
  · exact ⟨Host.isAbsolute_of_find? hdir hp, hdir⟩

/-- A session that begins in an absolute directory is **the same wherever the process stands**: on
hosts that agree on absolute paths and have the same variables, every line ends with the same
result, in the same environment and world, and the same has passed between the shell and the outside
by then. All the paths that the shell asks its host about or names in a request are absolute. -/
theorem evalLines_eq_of_agreesOnAbsolute {a b : Host σ} (hagree : a.AgreesOnAbsolute b)
    (hvars : a.vars = b.vars) {env : Environment} (hdir : env.dir.isAbsolute = true)
    (out : Sink σ) (w : σ) (lines : List Text) :
    let session := (Interpreter.default a.traced).evalLines out.traced env (w, []) lines
    session = (Interpreter.default b.traced).evalLines out.traced env (w, []) lines ∧
      (∀ env' ∈ env :: session.map (·.env), env'.AsksAbsolutely) ∧
      ∀ o ∈ session, ∀ request ∈ Trace.requests o.world.2,
        request.program.isAbsolute = true ∧ request.dir.isAbsolute = true := by
  intro session
  have habsolute := Interpreter.isAbsolute_evalLines a out hdir w lines
  refine ⟨?_, ?_, fun o ho ↦ (habsolute o ho).2⟩
  · have hvalues : ∀ w, env.vars.overlay (a.vars w) = env.vars.overlay (b.vars w) := by
      intro w
      rw [hvars]
    have hsame := Interpreter.sameView_evalLines hagree hvalues ⟨rfl, hdir, rfl, rfl, rfl⟩ out w
      lines
    -- the variables of the shell's own are the same too, so nothing is left to differ
    have heq : session.Forall₂ (· = ·) _ := hsame.imp fun o o' h ↦ by
      obtain ⟨hresult, hview, hworld⟩ := h
      have henv : o.env = o'.env := Environment.ext (hview.vars_left.trans hview.vars_right.symm)
        hview.dir_eq hview.exiting_eq
      exact Outcome.ext hresult henv hworld
    rwa [List.forall₂_eq_eq_eq] at heq
  · rw [List.forall_mem_cons, List.forall_mem_map]
    exact ⟨Environment.asksAbsolutely hdir,
      fun o ho ↦ Environment.asksAbsolutely (habsolute o ho).1⟩

/-- The host as it is for a process that stands at `here`: a relative path leads to where it leads
from there. -/
def Host.standingIn (host : Host σ) (here : Path) : Host σ :=
  { host with
    kind? := fun w p ↦ host.kind? w (here.join p)
    dir? := fun _ ↦ some here
    spawn := fun request w ↦ host.spawn
      { request with program := here.join request.program, dir := here.join request.dir } w }

theorem Host.agreesOnAbsolute_standingIn (host : Host σ) (here there : Path) :
    (host.standingIn here).AgreesOnAbsolute (host.standingIn there) := by
  refine ⟨fun w hp ↦ ?_, fun w ↦ rfl, fun w hprogram hdir ↦ ?_⟩
  · simp only [standingIn, Path.join_of_isAbsolute hp]
  · simp only [standingIn, Path.join_of_isAbsolute hprogram, Path.join_of_isAbsolute hdir]

/-- For a process at `/bin` the relative path `cat` leads to a program, and for one at the root it
leads nowhere. A session that asks for `cat` is the same for both. -/
theorem evalLines_eq_of_agreesOnAbsolute_cat :
    let inBin := catAlone.standingIn ⟨"/bin".toList⟩
    let atRoot := catAlone.standingIn .root
    let env : Environment := ⟨.ofList [("PATH".toList, "./bin".toList)], .root, false⟩
    let lines := ["cat a".toList, "cd bin".toList, "type cat".toList]
    let session := (Interpreter.default inBin.traced).evalLines Sink.collecting.traced env ([], [])
      lines
    inBin.isRunnable [] ⟨"cat".toList⟩ = true ∧ atRoot.isRunnable [] ⟨"cat".toList⟩ = false ∧
      inBin.AgreesOnAbsolute atRoot ∧ env.dir.isAbsolute = true ∧
      session.map (·.result) = [.ok 0, .ok 1, .ok 0] ∧
      session = (Interpreter.default atRoot.traced).evalLines Sink.collecting.traced env ([], [])
        lines := by
  intro inBin atRoot env lines session
  have hagree := catAlone.agreesOnAbsolute_standingIn ⟨"/bin".toList⟩ .root
  exact ⟨by decide, by decide, hagree, by decide, by decide +kernel,
    (evalLines_eq_of_agreesOnAbsolute hagree rfl (by decide) .collecting [] lines).1⟩

end LineShell
