import LineShell.Proofs.Session

/-!
# What a run leaves alone

A run of the shell's own commands changes little, and what it may change is told by its name and its
result alone (`Framed`): the variables never change, only `exit` has the shell stop, only a `cd`
that succeeds moves it, and **a run that does not succeed changes nothing at all**. Each of these is
read off `effect_run_default`, so it holds of every sink, every host and every child.

Over a session the directory may go back and forth with the calls, but the wish to stop can only be
added: the shell is to stop at the end exactly if it was to stop before or if one of the calls was
of `exit` (`State.exiting_run`). No call in between takes it back, and none is skipped.
-/

namespace LineShell

variable {σ : Type} {host : Host σ}

/-- The environment that a run of `name` from `env` leaves behind differs from `env` only where the
name and the result let it. -/
structure Framed (name : Text) (env : Environment) (o : Outcome σ) : Prop where
  vars_eq : o.env.vars = env.vars
  exiting_eq : o.env.exiting = (env.exiting || decide (name = "exit".toList))
  dir_eq : ¬ (name = "cd".toList ∧ o.result = .ok 0) → o.env.dir = env.dir
  env_eq : o.result ≠ .ok 0 → o.env = env

theorem Effect.framed {name : Text} {env : Environment} {w : σ} {o : Outcome σ}
    (h : Effect host name env w o) : Framed name env o := by
  cases h with
  | stop hname hresult henv =>
    refine ⟨by rw [henv], ?_, fun _ ↦ by rw [henv], fun hne ↦ absurd hresult hne⟩
    rw [henv, decide_eq_true hname, Bool.or_true]
  | move hname hresult target hdir henv =>
    refine ⟨by rw [henv], ?_, fun hcd ↦ absurd ⟨hname, hresult⟩ hcd,
      fun hne ↦ absurd hresult hne⟩
    have hexit : name ≠ "exit".toList := by
      rw [hname]
      decide
    rw [henv, decide_eq_false hexit, Bool.or_false]
  | stay hexit hcd henv =>
    refine ⟨by rw [henv], ?_, fun _ ↦ by rw [henv], fun _ ↦ henv⟩
    rw [henv, decide_eq_false hexit, Bool.or_false]

/-! ### The wish to stop -/

/-- What some elements bring about and no element undoes holds after all of them if it held before,
or if one of these was among them. -/
theorem foldl_iff_exists_mem {α β : Type} {step : β → α → β} {P : β → Prop} {Q : α → Prop}
    (hstep : ∀ b a, P (step b a) ↔ P b ∨ Q a) (l : List α) (b : β) :
    P (l.foldl step b) ↔ P b ∨ ∃ a ∈ l, Q a := by
  induction l generalizing b with
  | nil => simp
  | cons a l ih =>
    calc P (l.foldl step (step b a))
        ↔ P (step b a) ∨ ∃ a' ∈ l, Q a' := ih _
      _ ↔ (P b ∨ Q a) ∨ ∃ a' ∈ l, Q a' := by rw [hstep]
      _ ↔ P b ∨ ∃ a' ∈ a :: l, Q a' := by
        simp only [or_assoc, List.mem_cons, or_and_right, exists_or, exists_eq_left]

namespace Session

/-- A call has the shell stop if its first word is `exit`. -/
def Call.Stops (call : Call) : Prop := call.argv.head? = some "exit".toList

/-- After a call the shell is to stop if it was to stop before, or if that was what the call was
for. -/
theorem Step.exiting_outcome (host : Host σ) (env : Environment) (s : Step σ) :
    (s.outcome host env).env.exiting = true ↔ env.exiting = true ∨ s.call.Stops := by
  rw [Step.outcome, Call.command_eq_dispatch, Call.Stops]
  cases hargv : s.call.argv with
  | nil => simp [Interpreter.dispatch, Command.finish]
  | cons name args =>
    have hframed : Framed name env
        ((Interpreter.default host).run name args s.out env s.world) :=
      (effect_run_default name).framed
    rw [Interpreter.dispatch, hframed.exiting_eq, Bool.or_eq_true, decide_eq_true_eq,
      List.head?_cons, Option.some_inj]

/-- After a session the shell is to stop **if it was to stop before, or if one of the calls was of
`exit`**. -/
theorem State.exiting_run (host : Host σ) (st : State σ) (steps : List (Step σ)) :
    (st.run host steps).env.exiting = true ↔
      st.env.exiting = true ∨ ∃ s ∈ steps, s.call.Stops :=
  foldl_iff_exists_mem (P := fun st ↦ st.env.exiting = true)
    (fun st s ↦ s.exiting_outcome host st.env) steps st

/-- **Every run keeps to its frame**, whatever its sink, its host and the child do, and so a session
ends with the shell about to stop exactly if it began so or had a call of `exit`. -/
theorem framed_and_exiting_iff (host : Host σ) :
    (∀ (name : Text) (args : List Text) (out : Sink σ) (env : Environment) (w : σ),
      Framed name env ((Interpreter.default host).run name args out env w)) ∧
    ∀ (st : State σ) (steps : List (Step σ)),
      (st.run host steps).env.exiting = true ↔
        st.env.exiting = true ∨ ∃ s ∈ steps, s.call.argv.head? = some "exit".toList :=
  ⟨fun name _ _ _ _ ↦ (effect_run_default name).framed, State.exiting_run host⟩

end Session

end LineShell
