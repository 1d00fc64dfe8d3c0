import LineShell.Proofs.Standpoint

/-!
# Overridden variables

A variable can be the shell's own or that of its process, and the shell's own one hides the other.
What becomes of this difference when the shell runs is told here: **nothing does**. Two sessions
that begin in one absolute directory, with variables that have the same values over those of their
processes, go on alike after every line; and what a child is given as the value of a variable is
what the shell sees (`Interpreter.get?_vars_evalLines`).

The variables of the process are what `Host.withVars` puts in the place of a host's. No command
changes them, and none changes the shell's own, so it is enough that the values are the same at the
beginning. A request says whether the shell has a search path of its own, since a program that is
named by a relative path is searched for along it; but the shell names none by such a path
(`Environment.SameView.request_eq`).
-/

namespace LineShell

variable {σ : Type}

/-- The host as it is for a process with these variables. -/
def Host.withVars (host : Host σ) (ambient : Bindings) : Host σ :=
  { host with vars := fun _ ↦ ambient }

/-- The variables of the process have no part in what paths lead to. -/
theorem Host.agreesOnAbsolute_withVars (host : Host σ) (ambientA ambientB : Bindings) :
    (host.withVars ambientA).AgreesOnAbsolute (host.withVars ambientB) :=
  ⟨fun _ _ ↦ rfl, fun _ ↦ rfl, fun _ _ _ ↦ rfl⟩

/-- What is requested by a session **gives every variable the value that the shell sees**. -/
theorem Interpreter.get?_vars_evalLines (host : Host σ) (ambient : Bindings) (out : Sink σ)
    (env : Environment) (w : σ) (lines : List Text) :
    ∀ o ∈ (default (host.withVars ambient).traced).evalLines out.traced env (w, []) lines,
      ∀ request ∈ Trace.requests o.world.2, ∀ key,
        request.vars.get? key = o.env.value? ambient key := by
  have hkept : ∀ o ∈
      (default (host.withVars ambient).traced).evalLines out.traced env (w, []) lines,
      o.env.vars = env.vars ∧ ∀ request ∈ Trace.requests o.world.2,
        request.vars = env.childVars ambient := by
    refine forall_mem_evalLines (P := fun env' (w : σ × List Event) ↦ env'.vars = env.vars ∧
      ∀ request ∈ Trace.requests w.2, request.vars = env.childVars ambient) ?_ lines
      ⟨rfl, by simp⟩
    rintro line env' w ⟨hvars, hrequests⟩
    refine ⟨(vars_evalLine line).trans hvars, fun request hrequest ↦ ?_⟩
    rcases mem_requests_evalLine hrequest with hmem | ⟨name, args, p, u, -, -, rfl⟩
    · exact hrequests request hmem
    · show env'.vars.overlay ambient = env.vars.overlay ambient
      rw [hvars]
  intro o ho request hrequest key
  obtain ⟨hvars, hrequests⟩ := hkept o ho
  have hsame : o.env.childVars ambient = env.childVars ambient :=
    congrArg (Bindings.overlay · ambient) hvars
  rw [hrequests request hrequest, ← hsame, Environment.get?_childVars]

/-- **It cannot be told which variables are overridden.** If two sessions begin in one absolute
directory and every variable has the same value in both, then every line ends with the same result,
in the same directory and in the same world, both are to stop or neither is, and the same has passed
between the shells and the outside by then: the same output, and the same requests with all that a
program is started with. The value of a variable in a request is the one that the shell sees. -/
theorem evalLines_alike_of_value?_eq (host : Host σ) {ambientA ambientB : Bindings}
    {envA envB : Environment} (hdir : envA.dir.isAbsolute = true) (hdirs : envA.dir = envB.dir)
    (hexiting : envA.exiting = envB.exiting)
    (hvalue : ∀ key, envA.value? ambientA key = envB.value? ambientB key) (out : Sink σ) (w : σ)
    (lines : List Text) :
    let sessionA := (Interpreter.default (host.withVars ambientA).traced).evalLines out.traced envA
      (w, []) lines
    let sessionB := (Interpreter.default (host.withVars ambientB).traced).evalLines out.traced envB
      (w, []) lines
    sessionA.Forall₂ (fun a b ↦ a.result = b.result ∧ a.env.dir = b.env.dir ∧
        a.env.exiting = b.env.exiting ∧ a.world = b.world) sessionB ∧
      ∀ o ∈ sessionA, ∀ request ∈ Trace.requests o.world.2, ∀ key,
        request.vars.get? key = o.env.value? ambientA key := by
  intro sessionA sessionB
  refine ⟨?_, Interpreter.get?_vars_evalLines host ambientA out envA w lines⟩
  have hvalues : envA.vars.overlay ambientA = envB.vars.overlay ambientB :=
    Bindings.ext_get? fun key ↦ by
      simpa only [Environment.value?, Bindings.get?_overlay] using hvalue key
  have hsame := Interpreter.sameView_evalLines (host.agreesOnAbsolute_withVars ambientA ambientB)
    (fun _ ↦ hvalues) ⟨hdirs, hdir, hexiting, rfl, rfl⟩ out w lines
  refine hsame.imp fun a b h ↦ ?_
  obtain ⟨hresult, hview, hworld⟩ := h
  exact ⟨hresult, hview.dir_eq, hview.exiting_eq, hworld⟩

/-- In one session all variables are those of the process; in the other the shell's own hide them,
the empty `HOME` too. -/
theorem evalLines_alike_of_value?_eq_cat :
    let ambientA := Bindings.ofList [("HOME".toList, []), ("PATH".toList, "/bin".toList)]
    let ambientB := Bindings.ofList [("HOME".toList, "/root".toList), ("PATH".toList, [])]
    let envA := Environment.startingIn .root
    let envB : Environment :=
      ⟨.ofList [("HOME".toList, []), ("PATH".toList, "/bin".toList)], .root, false⟩
    let lines := ["cat a".toList, "cd".toList, "type cat".toList]
    let sessionA := (Interpreter.default (catAlone.withVars ambientA).traced).evalLines
      Sink.collecting.traced envA ([], []) lines
    let sessionB := (Interpreter.default (catAlone.withVars ambientB).traced).evalLines
      Sink.collecting.traced envB ([], []) lines
    envA.dir.isAbsolute = true ∧ envA.dir = envB.dir ∧ envA.exiting = envB.exiting ∧
      (∀ key, envA.value? ambientA key = envB.value? ambientB key) ∧
      sessionA.map (·.result) = [.ok 0, .ok 1, .ok 0] ∧
      sessionA.Forall₂ (fun a b ↦ a.result = b.result ∧ a.env.dir = b.env.dir ∧
        a.env.exiting = b.env.exiting ∧ a.world = b.world) sessionB := by
  intro ambientA ambientB envA envB lines sessionA sessionB
  have hvalue : ∀ key, envA.value? ambientA key = envB.value? ambientB key := by
    intro key
    have hchild : envA.childVars ambientA = envB.childVars ambientB := rfl
    rw [← Environment.get?_childVars, hchild, Environment.get?_childVars]
  have hdir : envA.dir.isAbsolute = true := by decide
  have hdirs : envA.dir = envB.dir := rfl
  have hexiting : envA.exiting = envB.exiting := rfl
  exact ⟨hdir, hdirs, hexiting, hvalue, by decide +kernel,
    (evalLines_alike_of_value?_eq catAlone hdir hdirs hexiting hvalue .collecting [] lines).1⟩

end LineShell
