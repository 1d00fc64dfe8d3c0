import LineShell.Proofs.Frame
import LineShell.Proofs.Referent

/-!
# What the host is asked

The shell names files to its host in two ways. It asks questions about paths: whether the target of
a change of directory is one, and which of the candidates for a name may be run. And it requests
that a program be started in a directory.

From an environment whose directory is given by an absolute path **every such path is absolute**:
those in questions by `Environment.isAbsolute_absolutize` and
`Environment.isAbsolute_of_mem_candidates`, and the one in a request because its program was found
among the candidates. Such an environment is left again by every line
(`Interpreter.isAbsolute_dir_evalLine`).

What is requested is known in full. A line requests nothing, or the program that its first word is
found as, with all words of the line as arguments (`Interpreter.mem_requests_evalLine`). A sink that
fails can keep a request from being made, but it cannot change it.
-/

namespace LineShell

variable {σ : Type}

/-! ### Paths and variables -/

/-- The target of a change of directory is asked about under an absolute path. -/
theorem Environment.isAbsolute_absolutize {env : Environment} (hdir : env.dir.isAbsolute = true)
    (target : Path) : (env.absolutize target).isAbsolute = true :=
  (env.isAbsoluteNormal_absolutize hdir target).isAbsolute

/-- The candidates for a name are absolute. -/
theorem Environment.isAbsolute_of_mem_candidates {env : Environment}
    (hdir : env.dir.isAbsolute = true) {ambient : Bindings} {name p : Path}
    (h : p ∈ env.candidates ambient name) : p.isAbsolute = true := by
  unfold candidates at h
  split at h
  · simp at h
  · split at h
    · -- the name as seen from a directory of the search path
      split at h
      · simp at h
      · obtain ⟨dir, -, rfl⟩ := List.mem_map.1 h
        exact Path.isAbsolute_join (isAbsolute_absolutize hdir dir)
    · obtain rfl := List.mem_singleton.1 h
      exact isAbsolute_absolutize hdir name

/-- A name is found as an absolute path. -/
theorem Host.isAbsolute_of_find? {host : Host σ} {w : σ} {env : Environment}
    (hdir : env.dir.isAbsolute = true) {name : Text} {p : Path}
    (h : host.find? w env name = some p) : p.isAbsolute = true :=
  Environment.isAbsolute_of_mem_candidates hdir (host.mem_candidates_of_find? w env h)

/-- A line leaves the working directory absolute. -/
theorem Interpreter.isAbsolute_dir_evalLine {host : Host σ} {out : Sink σ} {env : Environment}
    {w : σ} (hdir : env.dir.isAbsolute = true) (line : Text) :
    ((default host).evalLine line out env w).env.dir.isAbsolute = true := by
  obtain ⟨name, heffect⟩ :
      ∃ name, Effect host name env w ((default host).evalLine line out env w) :=
    exists_effect_evalLine line
  cases heffect with
  | stop _ _ henv => rwa [henv]
  | stay _ _ henv => rwa [henv]
  | move _ _ target _ henv =>
    rw [henv]
    exact Environment.isAbsolute_absolutize hdir target

/-- A line leaves the variables of the shell's own alone. -/
theorem Interpreter.vars_evalLine {host : Host σ} {out : Sink σ} {env : Environment} {w : σ}
    (line : Text) : ((default host).evalLine line out env w).env.vars = env.vars := by
  obtain ⟨name, heffect⟩ :
      ∃ name, Effect host name env w ((default host).evalLine line out env w) :=
    exists_effect_evalLine line
  exact heffect.framed.vars_eq

/-! ### Requests -/

section

variable {host : Host σ} {out : Sink σ} {env : Environment} {request : SpawnRequest}

/-- An external command asks for its program and for no other. -/
theorem External.mem_requests_run {p : Path} {name : Text} {args : List Text}
    {w : σ × List Event}
    (h : request ∈ Trace.requests (run host.traced p name args out.traced env w).world.2) :
    request ∈ Trace.requests w.2 ∨
      ∃ u, request = External.request (host.vars u) env p name args := by
  cases hflush : (out.flush w.1).1 with
  | error e =>
    left
    obtain ⟨w, t⟩ := w
    simpa [run, Sink.flush_traced, hflush] using h
  | ok u =>
    rw [requests_run out env w host p name args hflush] at h
    exact (List.mem_append.1 h).imp id fun hmem ↦ ⟨_, List.mem_singleton.1 hmem⟩

/-- A run asks for nothing but **the program that its name is found as**. -/
theorem Interpreter.mem_requests_run {name : Text} {args : List Text} {w : σ × List Event}
    (h : request ∈ Trace.requests
      ((default host.traced).run name args out.traced env w).world.2) :
    request ∈ Trace.requests w.2 ∨ ∃ p u, host.find? w.1 env name = some p ∧
      request = External.request (host.vars u) env p name args := by
  by_cases hname : isBuiltin name = true
  · obtain ⟨b, rfl⟩ := isBuiltin_iff.1 hname
    rw [run_default_name, Command.requests_reportingFaults, Builtin.requests_run] at h
    exact .inl h
  · rw [Bool.not_eq_true] at hname
    cases hp : host.find? w.1 env name with
    | none =>
      rw [run_default_of_find?_eq_none host.traced env w args _ hname hp,
        Command.requests_report] at h
      exact .inl h
    | some p =>
      rw [run_default_of_find?_eq_some host.traced env w args _ hname hp,
        requests_settle] at h
      rcases External.mem_requests_run h with hmem | ⟨u, hu⟩
      · exact .inl hmem
      · exact .inr ⟨p, u, rfl, hu⟩

/-- A line asks for nothing but the program that its first word is found as, called **with the words
of the line**. -/
theorem Interpreter.mem_requests_evalLine {line : Text} {w : σ × List Event}
    (h : request ∈ Trace.requests
      ((default host.traced).evalLine line out.traced env w).world.2) :
    request ∈ Trace.requests w.2 ∨ ∃ name args p u, words line.trim = name :: args ∧
      host.find? w.1 env name = some p ∧
      request = External.request (host.vars u) env p name args := by
  rw [evalLine_eq_dispatch] at h
  cases hwords : words line.trim with
  | nil =>
    rw [hwords] at h
    exact .inl h
  | cons name args =>
    rw [hwords] at h
    rcases mem_requests_run h with hmem | ⟨p, u, hp, hu⟩
    · exact .inl hmem
    · exact .inr ⟨name, args, p, u, rfl, hp, hu⟩

end

end LineShell
