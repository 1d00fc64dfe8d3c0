import LineShell.Proofs.Asked
import LineShell.Proofs.Factories
import LineShell.Proofs.Refusal

/-!
# The start of a program

A name that is no built-in's and is found leads to one start of a program. Whether the shell gets as
far as that is for the sink to say, which has to pass on what it holds back first; all else is for
the host. So there are three ends, and for the child's own part the whole outcome of each is known,
with its trace (`External.run_of_refused`, `External.run_of_ended`, `External.run_of_unstarted`).
Nothing is written in any of them. It is the dispatcher that writes, and it does so in the last.

What the host is asked for is the program under the path that it was found as, and all that was
typed: no word is left out, changed or split on the way. The path has a slash in it as it is
absolute, so there is no further search for the program (`External.request_of_isAbsolute`).
-/

namespace LineShell

variable {σ : Type}

/-- What a sink with a trace has taken is in the trace. -/
theorem Sink.records_traced (out : Sink σ) : out.traced.Records fun w ↦ Trace.output w.2 := by
  rintro bytes ⟨w, t⟩ n hn
  have hanswer : (out.write bytes w).1 = .ok n := hn
  rw [write_traced, hanswer]
  simp [Trace.output, Event.output]

namespace External

/-- An absolute path is not searched for. -/
theorem request_of_isAbsolute {p : Path} (hp : p.isAbsolute = true) (ambient : Bindings)
    (env : Environment) (name : Text) (args : List Text) :
    request ambient env p name args = ⟨p, name :: args, env.childVars ambient, env.dir, false⟩ := by
  have hslash : p.text.contains '/' = true :=
    List.contains_iff_mem.2 (List.mem_of_head? (beq_iff_eq.1 hp))
  simp only [request, hslash, Bool.not_true, Bool.false_and]

section

variable {host : Host σ} {out : Sink σ} {p : Path} {name : Text} {args : List Text}
  {env : Environment} {w flushed after : σ} (t : List Event)

/-- If the sink does not pass on what it holds back, **no program is asked for**. -/
theorem run_of_refused {e : IoError} (hflush : out.flush w = (.error e, flushed)) :
    run host.traced p name args out.traced env (w, t) =
      ⟨.error (.io e), env, flushed, t ++ [.flushed (.error e)]⟩ := by
  simp only [run, Sink.flush_traced, hflush]

/-- A child's end gives the status, and **nothing is written**. -/
theorem run_of_ended {word : WaitWord} (hflush : out.flush w = (.ok (), flushed))
    (hspawn : host.spawn (request (host.vars flushed) env p name args) flushed =
      (.ok word, after)) :
    run host.traced p name args out.traced env (w, t) =
      ⟨.ok word.status, env, after, t ++ [.flushed (.ok ()),
        .started (request (host.vars flushed) env p name args) (.ok word)]⟩ := by
  simp only [run, Sink.flush_traced, hflush, Host.vars_traced, Host.spawn_traced, hspawn,
    List.append_assoc, List.cons_append, List.nil_append]

/-- What keeps a program from being started is **a failed start under the name as typed**. -/
theorem run_of_unstarted {cause : IoError} (hflush : out.flush w = (.ok (), flushed))
    (hspawn : host.spawn (request (host.vars flushed) env p name args) flushed =
      (.error cause, after)) :
    run host.traced p name args out.traced env (w, t) =
      ⟨.error (.shell (.spawnFailed name cause)), env, after, t ++ [.flushed (.ok ()),
        .started (request (host.vars flushed) env p name args) (.error cause)]⟩ := by
  simp only [run, Sink.flush_traced, hflush, Host.vars_traced, Host.spawn_traced, hspawn,
    List.append_assoc, List.cons_append, List.nil_append]

end

end External

/-- A line that the sink takes without a trace is taken with a trace, and is all that is written. -/
theorem Outcome.Reports.of_written {line : Text} {status : Status} {out : Sink σ}
    {env : Environment} {w : σ} {t : List Event} {o : Outcome (σ × List Event)}
    (h : o.Reports line status out.traced env (w, t))
    (hwritten : (out.writeLine line w).1 = .ok ()) :
    o.result = .ok status ∧ o.world.1 = (out.writeLine line w).2 ∧
      Trace.output o.world.2 = Trace.output t ++ Text.utf8 (line ++ ['\n']) := by
  obtain ⟨hanswer, hafter⟩ := out.alike_traced.writeLine line (v := (w, t)) rfl
  have hresult : o.result = .ok status := by
    rw [h.result_eq, hanswer, hwritten]
  refine ⟨hresult, ?_, h.taken_eq out.records_traced hresult⟩
  rw [h.world_eq]
  exact hafter

/-- **A name that is found leads to one start of a program**: of that which it is found as, with the
words as they were typed, in the working directory, and with the variables of the shell over those
of its process. The end of the child gives the status and nothing is written; what cannot be started
is reported under its name; and where the sink does not pass on what it holds back, nothing is
started. -/
theorem Interpreter.dispatch_program (host : Host σ) (out : Sink σ) {env : Environment}
    (hdir : env.dir.isAbsolute = true) (w : σ) {name : Text} (args : List Text)
    (hname : isBuiltin name = false) {p : Path} (hp : host.find? w env name = some p) :
    let o := (default host.traced).dispatch (name :: args) out.traced env (w, [])
    (∀ e flushed, out.flush w = (.error e, flushed) →
      o = ⟨.error (.io e), env, flushed, [.flushed (.error e)]⟩) ∧
    ∀ flushed, out.flush w = (.ok (), flushed) →
      let request : SpawnRequest := ⟨p, name :: args, env.childVars (host.vars flushed), env.dir,
        false⟩
      let line := "Error executing: ".toList ++ name
      (∀ key, request.vars.get? key =
        (env.vars.get? key).or ((host.vars flushed).get? key)) ∧
      Trace.requests o.world.2 = [request] ∧
      (∀ e : ChildEnd, e.Possible → ∀ after, host.spawn request flushed = (.ok e.word, after) →
        match e with
        | .exited code => WaitWord.exitCode? e.word = some code.toNat ∧
          o = ⟨.ok code.toNat, env, after, [.flushed (.ok ()), .started request (.ok e.word)]⟩
        | .killed signal _ => WaitWord.exitCode? e.word = none ∧
          WaitWord.signal? e.word = some signal ∧
          o = ⟨.ok (128 + signal), env, after,
            [.flushed (.ok ()), .started request (.ok e.word)]⟩) ∧
      ∀ cause after, host.spawn request flushed = (.error cause, after) →
        (out.writeLine line after).1 = .ok () →
          o.result = .ok 126 ∧ o.env = env ∧ o.world.1 = (out.writeLine line after).2 ∧
            Trace.output o.world.2 = Text.utf8 (line ++ ['\n']) := by
  intro o
  have hrun : o = settle out.traced (External.run host.traced p name args out.traced env (w, [])) :=
    run_default_of_find?_eq_some host.traced env (w, []) args out.traced hname hp
  have habsolute : p.isAbsolute = true := Host.isAbsolute_of_find? hdir hp
  refine ⟨fun e flushed hflush ↦ ?_, fun flushed hflush ↦ ?_⟩
  · rw [hrun, External.run_of_refused [] hflush]
    rfl
  · intro request line
    have hrequest : External.request (host.vars flushed) env p name args = request :=
      External.request_of_isAbsolute habsolute _ _ _ _
    refine ⟨fun key ↦ Environment.get?_childVars _ _ _, ?_, ?_, ?_⟩
    · rw [hrun, requests_settle, External.requests_run out env (w, []) host p name args
        (congrArg Prod.fst hflush), hflush, hrequest]
      rfl
    · intro e he after hspawn
      have hended : o = ⟨.ok e.word.status, env, after,
          [.flushed (.ok ()), .started request (.ok e.word)]⟩ := by
        rw [hrun, External.run_of_ended [] hflush (hrequest.symm ▸ hspawn), hrequest]
        rfl
      rw [ChildEnd.status_word he] at hended
      cases e with
      | exited code => exact ⟨ChildEnd.exitCode?_word_exited code, hended⟩
      | killed signal dumped =>
        exact ⟨ChildEnd.exitCode?_word_killed he, ChildEnd.signal?_word_killed he, hended⟩
    · intro cause after hspawn hwritten
      have hsettled := settled_settle out.traced
        (External.run host.traced p name args out.traced env (w, []))
      rw [← hrun, External.run_of_unstarted [] hflush (hrequest.symm ▸ hspawn), hrequest]
        at hsettled
      have hreports := hsettled.of_isFailedStart rfl .shell
      obtain ⟨hresult, hworld, houtput⟩ := hreports.of_written hwritten
      exact ⟨hresult, hreports.env_eq, hworld, houtput⟩

/-- A host whose only program, `/bin/cat`, comes to a given end. -/
def catComingTo (answer : Except IoError WaitWord) : Host Bytes :=
  { catAlone with spawn := fun _ w ↦ (answer, w) }

/-- `cat`, called with a blank and with an empty word, is killed in one world and cannot be started
in another, and the sink lets both of them come to that. -/
theorem Interpreter.dispatch_program_cat :
    let here := Environment.startingIn .root
    let killed := (default (catComingTo (.ok 9)).traced).dispatch
      ["cat".toList, "a b".toList, []] Sink.collecting.traced here ([], [])
    let unstarted := (default (catComingTo (.error ⟨"denied".toList⟩)).traced).dispatch
      ["cat".toList, "a b".toList, []] Sink.collecting.traced here ([], [])
    here.dir.isAbsolute = true ∧ isBuiltin "cat".toList = false ∧
      (∀ answer, (catComingTo answer).find? [] here "cat".toList = some ⟨"/bin/cat".toList⟩) ∧
      killed.result = .ok 137 ∧ Trace.output killed.world.2 = [] ∧
      (Trace.requests killed.world.2).map SpawnRequest.argv = [["cat".toList, "a b".toList, []]] ∧
      unstarted.result = .ok 126 ∧
      Trace.output unstarted.world.2 = Text.utf8 "Error executing: cat\n".toList := by
  intro here killed unstarted
  have hdir : here.dir.isAbsolute = true := rfl
  have hname : isBuiltin "cat".toList = false := by decide
  have hcat : catAlone.find? [] (.startingIn .root) "cat".toList = some ⟨"/bin/cat".toList⟩ := by
    decide
  have hfind : ∀ answer, (catComingTo answer).find? [] here "cat".toList =
      some ⟨"/bin/cat".toList⟩ := fun _ ↦ hcat
  obtain ⟨-, -, hends, -⟩ := (dispatch_program (catComingTo (.ok 9)) .collecting hdir []
    ["a b".toList, []] hname (hfind _)).2 [] rfl
  obtain ⟨-, -, hend⟩ := hends (.killed 9 false) ⟨by decide, by decide⟩ [] rfl
  have hkilled : killed = _ := hend
  obtain ⟨-, -, -, hreported⟩ := (dispatch_program (catComingTo (.error ⟨"denied".toList⟩))
    .collecting hdir [] ["a b".toList, []] hname (hfind _)).2 [] rfl
  obtain ⟨hresult, -, -, houtput⟩ := hreported ⟨"denied".toList⟩ [] rfl rfl
  refine ⟨hdir, hname, hfind, ?_, ?_, ?_, hresult, houtput⟩
  · rw [hkilled]
    rfl
  · rw [hkilled]
    rfl
  · rw [hkilled]
    rfl

end LineShell
