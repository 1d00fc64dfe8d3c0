import LineShell.Proofs.Effect
import LineShell.Proofs.Path.Normal

/-!
# The working directory over a whole session

A session is a sequence of calls: of lines to evaluate, of words to dispatch, of commands to run by
name. Each call brings a sink of its own, and a world of its own: what has happened to the files and
to the variables of the process since the last call is left open, so that **nothing is assumed of
what goes on between calls**.

The state of a session is the environment together with the world in which the shell last succeeded
to change directory (`State.movedIn?`). The latter is there for the invariant alone, `State.Sound`:
the working directory is an absolute path in normal form, and it is the one that the session began
with or was a directory in that world. A step keeps it (`State.Sound.step`), because by
`effect_run_default` nothing but a successful `cd` moves the shell, and so every run has it
(`State.Sound.run`).
-/

namespace LineShell

variable {σ : Type}

/-- A line is blank exactly when it has no words left to dispatch, so the test for it can be left
out. -/
theorem Interpreter.evalLine_eq_dispatch (sh : Interpreter σ) (line : Text) :
    sh.evalLine line = sh.dispatch (words line.trim) := by
  unfold evalLine
  split
  · next h =>
    rw [h]
    rfl
  · rfl

namespace Session

/-! ### Calls -/

/-- One of the three ways to have the shell run something. -/
inductive Call
  | line (line : Text)
  | words (ws : List Text)
  | named (name : Text) (args : List Text)

namespace Call

/-- What the call runs. -/
def command (sh : Interpreter σ) : Call → Command σ
  | line t => sh.evalLine t
  | words ws => sh.dispatch ws
  | named name args => sh.run name args

/-- The words that the call comes to: a name and its arguments, or none. -/
def argv : Call → List Text
  | line t => LineShell.words t.trim
  | words ws => ws
  | named name args => name :: args

/-- A call **dispatches its words**. -/
theorem command_eq_dispatch (sh : Interpreter σ) (call : Call) :
    call.command sh = sh.dispatch call.argv := by
  cases call with
  | line t => exact sh.evalLine_eq_dispatch t
  | words ws => rfl
  | named name args => rfl

end Call

/-- A call, with the sink it writes to and the world it finds. -/
structure Step (σ : Type) where
  call : Call
  out : Sink σ
  world : σ

/-- What the call leaves behind. -/
def Step.outcome (host : Host σ) (env : Environment) (s : Step σ) : Outcome σ :=
  s.call.command (.default host) s.out env s.world

/-- The call is a `cd` that succeeds. -/
def Step.IsMove (host : Host σ) (env : Environment) (s : Step σ) : Prop :=
  s.call.argv.head? = some "cd".toList ∧ (s.outcome host env).result = .ok 0

instance (host : Host σ) (env : Environment) (s : Step σ) : Decidable (s.IsMove host env) :=
  match h : (s.outcome host env).result with
  | .ok status =>
    decidable_of_iff (s.call.argv.head? = some "cd".toList ∧ status = 0) (by simp [Step.IsMove, h])
  | .error f => isFalse (by simp [Step.IsMove, h])

/-! ### The state of a session -/

/-- The shell between two calls. -/
structure State (σ : Type) where
  env : Environment
  /-- The world of the last `cd` that succeeded, if one did. -/
  movedIn? : Option σ

namespace State

variable (host : Host σ)

/-- The state after one more call. -/
def step (st : State σ) (s : Step σ) : State σ :=
  ⟨(s.outcome host st.env).env, if s.IsMove host st.env then some s.world else st.movedIn?⟩

/-- The state after a sequence of calls. -/
def run (st : State σ) (steps : List (Step σ)) : State σ := steps.foldl (step host) st

/-- The working directory is an absolute path in normal form. It is the one that the session began
with, or it was a directory when the shell last succeeded to change directory. -/
structure Sound (start : Path) (st : State σ) : Prop where
  isAbsoluteNormal : st.env.dir.IsAbsoluteNormal
  whence : match st.movedIn? with
    | none => st.env.dir = start
    | some w => host.isDirectory w st.env.dir = true

variable {host} {start : Path} {st : State σ}

/-- A call that keeps the working directory and is no move keeps a state sound. -/
theorem Sound.of_dir_eq (hst : st.Sound host start) {s : Step σ}
    (hdir : (s.outcome host st.env).env.dir = st.env.dir)
    (hmove : ¬ s.IsMove host st.env) : (st.step host s).Sound host start := by
  have hmoved : (st.step host s).movedIn? = st.movedIn? := if_neg hmove
  refine ⟨?_, ?_⟩
  · show (s.outcome host st.env).env.dir.IsAbsoluteNormal
    rw [hdir]
    exact hst.isAbsoluteNormal
  · rw [hmoved, show (st.step host s).env.dir = st.env.dir from hdir]
    exact hst.whence

/-- **One call keeps a state sound**, whatever it is, whatever its sink does, and whatever has
become of the world before it. -/
theorem Sound.step (hst : st.Sound host start) (s : Step σ) :
    (st.step host s).Sound host start := by
  have hdispatch : s.outcome host st.env =
      (Interpreter.default host).dispatch s.call.argv s.out st.env s.world := by
    rw [Step.outcome, Call.command_eq_dispatch]
  cases hargv : s.call.argv with
  | nil =>
    -- without words nothing is run
    rw [hargv] at hdispatch
    refine hst.of_dir_eq ?_ ?_
    · rw [hdispatch]
      rfl
    · rintro ⟨hcd, -⟩
      rw [hargv] at hcd
      exact absurd hcd (by simp)
  | cons name args =>
    rw [hargv] at hdispatch
    have heffect : Effect host name st.env s.world (s.outcome host st.env) := by
      rw [hdispatch]
      exact effect_run_default name
    have hhead : s.call.argv.head? = some name := by rw [hargv, List.head?_cons]
    cases heffect with
    | stop hname _ henv =>
      refine hst.of_dir_eq (by rw [henv]) ?_
      rintro ⟨hcd, -⟩
      rw [hhead, hname] at hcd
      exact absurd hcd (by decide)
    | stay _ hcd henv =>
      refine hst.of_dir_eq (by rw [henv]) ?_
      rintro ⟨hcd', hresult⟩
      exact hcd (Option.some.inj (hhead.symm.trans hcd')) hresult
    | move hname hresult target hdir henv =>
      have hmoved : (st.step host s).movedIn? = some s.world :=
        if_pos ⟨hhead.trans (congrArg some hname), hresult⟩
      have hafter : (st.step host s).env.dir = st.env.absolutize target :=
        congrArg Environment.dir henv
      refine ⟨?_, ?_⟩
      · rw [hafter]
        exact Environment.isAbsoluteNormal_absolutize hst.isAbsoluteNormal.isAbsolute target
      · rw [hmoved, hafter]
        exact hdir

theorem Sound.run (hst : st.Sound host start) (steps : List (Step σ)) :
    (st.run host steps).Sound host start := by
  induction steps generalizing st with
  | nil => exact hst
  | cons s steps ih => exact ih (hst.step s)

end State

/-! ### Where a session begins -/

/-- An environment to begin with: the one that the shell makes for itself where its process is, if
what the process tells of its directory is an absolute path, or one that is given and whose
directory is in normal form. -/
inductive Beginning : Environment → Prop
  | initial (processDir : Option Path) (h : ∀ d, processDir = some d → d.isAbsolute = true) :
    Beginning (.initial processDir)
  | given (env : Environment) (h : env.dir.IsAbsoluteNormal) : Beginning env

theorem Beginning.isAbsoluteNormal {env : Environment} (h : Beginning env) :
    env.dir.IsAbsoluteNormal := by
  cases h with
  | given _ h => exact h
  | initial processDir h =>
    cases processDir with
    | none => exact Path.isAbsoluteNormal_root
    | some d => exact Path.isAbsoluteNormal_normalize (h d rfl)

/-- After **every finite session** the working directory is an absolute path in normal form. It is
the one that the session began with if no `cd` has succeeded, and otherwise it was a directory when
the last one did. -/
theorem sound_run (host : Host σ) {start : Environment} (hstart : Beginning start)
    (steps : List (Step σ)) :
    ((⟨start, none⟩ : State σ).run host steps).Sound host start.dir := by
  have hsound : (⟨start, none⟩ : State σ).Sound host start.dir :=
    ⟨hstart.isAbsoluteNormal, rfl⟩
  exact hsound.run steps

/-- A host with two directories, the root and `/tmp`. -/
def tmpAlone : Host Bytes where
  kind? _ p := if p = .root ∨ p = ⟨"/tmp".toList⟩ then some .directory else none
  vars _ := ∅
  dir? _ := none
  accountHome? _ := none
  spawn _ w := (.ok 0, w)
  input w := ([], w)

/-- A `cd` that succeeds and one that fails. -/
def twoMoves : List (Step Bytes) :=
  [⟨.line "cd ./tmp//".toList, .collecting, []⟩,
    ⟨.words ["cd".toList, "/usr".toList], .collecting, []⟩]

theorem sound_run_twoMoves :
    Beginning (.initial none) ∧
      ((⟨.initial none, none⟩ : State Bytes).run tmpAlone twoMoves).env.dir =
        ⟨"/tmp".toList⟩ ∧
      ((⟨.initial none, none⟩ : State Bytes).run tmpAlone twoMoves).Sound tmpAlone
        (Environment.initial none).dir :=
  ⟨.initial none (by simp), by decide, sound_run tmpAlone (.initial none (by simp)) twoMoves⟩

end Session

end LineShell
