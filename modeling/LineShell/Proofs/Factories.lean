import LineShell.Command.Scripted
import LineShell.Proofs.Referent

/-!
# Dispatch over any factories

An interpreter can be made of any factories, and its commands can do all that commands do: write,
change the environment, and fail under notes. What is left for the dispatcher is little, and it is
the same for all of them.

* **The first factory that accepts a call decides it** (`Interpreter.create?_eq_some_iff`), so
  factories that are put behind others are asked only where none of those accepts
  (`Interpreter.run_append_of_accepts`, `Interpreter.run_append_of_declines`).
* Of the faults of a command **one kind is reported**, a failed start, and the others are handed on
  as they are. A fault is a failed start if that is the outermost of the shell's own failures in it
  (`Fault.IsFailedStart`); how many notes there are above it makes no difference
  (`Fault.spawnFailure?_eq_some_iff`).

In either case the environment is left as the command left it. That a report adds its line to what
has been written and nothing else is said for every sink that lets one see what it has taken
(`Sink.Records`).
-/

namespace LineShell

variable {σ : Type}

/-! ### What a sink has taken -/

/-- What the sink has taken can be told from the world. -/
def Sink.Records (out : Sink σ) (taken : σ → Bytes) : Prop :=
  ∀ bytes w n, (out.write bytes w).1 = .ok n →
    taken (out.write bytes w).2 = taken w ++ bytes.take n

theorem Sink.records_collecting : Sink.collecting.Records id := by
  intro bytes kept n hn
  obtain rfl : bytes.length = n := Except.ok.inj hn
  exact congrArg (kept ++ ·) List.take_length.symm

/-- When writing ends well, the sink has taken all bytes behind those it had taken already. -/
theorem Sink.Records.writeFrom {out : Sink σ} {taken : σ → Bytes} (hout : out.Records taken)
    {n : Nat} {bytes : Bytes} {w : σ} (h : (out.writeFrom n bytes w).1 = .ok ()) :
    taken (out.writeFrom n bytes w).2 = taken w ++ bytes.drop n := by
  induction bytes generalizing n w with
  | nil => cases n <;> exact (List.append_nil _).symm
  | cons b rest ih =>
    cases n with
    | succ n => exact ih h
    | zero =>
      rcases hw : out.write (b :: rest) w with ⟨answer, after⟩
      have hafter := hout (b :: rest) w
      rw [hw] at hafter
      rw [Sink.writeFrom, hw] at h ⊢
      rcases answer with e | _ | n
      · exact absurd h (by simp)
      · exact absurd h (by simp)
      · rw [ih h, hafter _ rfl, List.append_assoc, List.take_succ_cons, List.cons_append,
          List.take_append_drop, List.drop_zero]

/-- All that is done is to write a line. The end is the status if the sink takes the whole line,
which is then what it has taken in addition, and else the refusal of the sink. -/
structure Outcome.Reports (line : Text) (status : Status) (out : Sink σ) (env : Environment) (w : σ)
    (o : Outcome σ) : Prop where
  env_eq : o.env = env
  world_eq : o.world = (out.writeLine line w).2
  result_eq : o.result =
    match (out.writeLine line w).1 with
    | .ok () => .ok status
    | .error e => .error (.io e)
  taken_eq : ∀ {taken : σ → Bytes}, out.Records taken → o.result = .ok status →
    taken o.world = taken w ++ Text.utf8 (line ++ ['\n'])

theorem Command.reports_report (line : Text) (status : Status) (out : Sink σ) (env : Environment)
    (w : σ) : (report line status out env w).Reports line status out env w := by
  refine ⟨env_report _ _ _ _ _, world_report _ _ _ _ _, result_report _ _ _ _ _, ?_⟩
  intro taken hout hresult
  have hwritten : (out.writeLine line w).1 = .ok () := by
    rw [result_report] at hresult
    cases hw : (out.writeLine line w).1 with
    | ok u => rfl
    | error e => simp [hw] at hresult
  rw [world_report]
  exact hout.writeFrom hwritten

/-! ### Failed starts -/

/-- The fault is the failed start of the program `name`: it stands by itself or over another fault,
and there is nothing above it but notes. -/
inductive Fault.IsFailedStart (name : Text) (cause : IoError) : Fault → Prop
  | shell : IsFailedStart name cause (.shell (.spawnFailed name cause))
  | retold (beneath : Fault) : IsFailedStart name cause (.retold (.spawnFailed name cause) beneath)
  | noted (note : Text) {f : Fault} (h : IsFailedStart name cause f) :
    IsFailedStart name cause (.noted note f)

namespace Fault

theorem IsFailedStart.spawnFailure?_eq {name : Text} {cause : IoError} {f : Fault}
    (h : f.IsFailedStart name cause) : f.spawnFailure? = some (.spawnFailed name cause) := by
  induction h with
  | shell => rfl
  | retold beneath => rfl
  | noted note _ ih => exact ih

/-- A fault has a failed start in it **just if it is one**, under however many notes. -/
theorem spawnFailure?_eq_some_iff {f : Fault} {e : ShellError} :
    f.spawnFailure? = some e ↔
      ∃ name cause, e = .spawnFailed name cause ∧ f.IsFailedStart name cause := by
  constructor
  · intro h
    induction f with
    | shell failure =>
      cases failure with
      | spawnFailed name cause => exact ⟨name, cause, (Option.some.inj h).symm, .shell⟩
      | commandNotFound | noSuchDirectory | homeNotSet => cases h
    | io => cases h
    | other => cases h
    | noted note beneath ih =>
      obtain ⟨name, cause, he, hstart⟩ := ih h
      exact ⟨name, cause, he, .noted note hstart⟩
    | retold failure beneath =>
      cases failure with
      | spawnFailed name cause => exact ⟨name, cause, (Option.some.inj h).symm, .retold beneath⟩
      | commandNotFound | noSuchDirectory | homeNotSet => cases h
  · rintro ⟨name, cause, rfl, hstart⟩
    exact hstart.spawnFailure?_eq

end Fault

/-- What the dispatcher makes of the outcome of a command: it reports a failed start, and leaves
everything else as it is. -/
structure Outcome.Settled (out : Sink σ) (ran o : Outcome σ) : Prop where
  env_eq : o.env = ran.env
  of_ok : ∀ {status : Status}, ran.result = .ok status → o = ran
  of_isFailedStart : ∀ {f : Fault} {started : Text} {cause : IoError}, ran.result = .error f →
    f.IsFailedStart started cause →
      o.Reports ("Error executing: ".toList ++ started) 126 out ran.env ran.world
  of_not_isFailedStart : ∀ {f : Fault}, ran.result = .error f →
    (∀ started cause, ¬ f.IsFailedStart started cause) → o = ran

namespace Interpreter

theorem settled_settle (out : Sink σ) (ran : Outcome σ) : ran.Settled out (settle out ran) where
  env_eq := env_settle out ran
  of_ok h := settle_eq_self fun f hf ↦ absurd (h.symm.trans hf) (by simp)
  of_isFailedStart {f started cause} hf hstart := by
    have hsettle : settle out ran =
        Command.report ("Error executing: ".toList ++ started) 126 out ran.env ran.world := by
      rw [settle, hf]
      simp only [hstart.spawnFailure?_eq]
      rfl
    exact hsettle ▸ Command.reports_report _ _ _ _ _
  of_not_isFailedStart {f} hf hnone := by
    refine settle_eq_self fun g hg ↦ ?_
    obtain rfl : f = g := Except.error.inj (hf.symm.trans hg)
    rw [Option.eq_none_iff_forall_ne_some]
    intro e he
    obtain ⟨started, cause, -, hstart⟩ := Fault.spawnFailure?_eq_some_iff.1 he
    exact hnone started cause hstart

/-! ### The first that accepts -/

variable {env : Environment} {w : σ} {name : Text} {args : List Text}

theorem create?_eq_none_iff {factories : List (Factory σ)} :
    (Interpreter.mk factories).create? env w name args = none ↔
      ∀ f ∈ factories, f.create? env w name args = none :=
  List.findSome?_eq_none_iff

/-- A call is **the first accepting factory's**: all before it decline. -/
theorem create?_eq_some_iff {factories : List (Factory σ)} {command : Command σ} :
    (Interpreter.mk factories).create? env w name args = some command ↔
      ∃ before f after, factories = before ++ f :: after ∧
        f.create? env w name args = some command ∧
          ∀ g ∈ before, g.create? env w name args = none :=
  List.findSome?_eq_some_iff

theorem create?_append (A B : List (Factory σ)) :
    (Interpreter.mk (A ++ B)).create? env w name args =
      ((Interpreter.mk A).create? env w name args).or
        ((Interpreter.mk B).create? env w name args) :=
  List.findSome?_append

variable (out : Sink σ) (B : List (Factory σ))

/-- Factories behind one that accepts **have no say**. -/
theorem run_append_of_accepts {A : List (Factory σ)}
    (h : ∃ f ∈ A, ∃ command, f.create? env w name args = some command) :
    (Interpreter.mk (A ++ B)).run name args out env w =
      (Interpreter.mk A).run name args out env w := by
  have haccepted : (Interpreter.mk A).create? env w name args ≠ none := by
    obtain ⟨f, hf, command, hcommand⟩ := h
    intro hnone
    simp [create?_eq_none_iff.1 hnone f hf] at hcommand
  obtain ⟨command, hcommand⟩ := Option.ne_none_iff_exists'.1 haccepted
  rw [run, run, create?_append, hcommand, Option.some_or]

/-- Factories that decline **might as well not be there**. -/
theorem run_append_of_declines {A : List (Factory σ)}
    (h : ∀ f ∈ A, f.create? env w name args = none) :
    (Interpreter.mk (A ++ B)).run name args out env w =
      (Interpreter.mk B).run name args out env w := by
  rw [run, run, create?_append, create?_eq_none_iff.2 h, Option.none_or]

/-- **What comes of a call depends on the first factory that accepts it**, and on what its command
does. Without one the call is reported, and with one the command's outcome is settled. -/
theorem run_factories (A B : List (Factory σ)) (name : Text) (args : List Text) (out : Sink σ)
    (env : Environment) (w : σ) :
    ((∃ f ∈ A, ∃ command, f.create? env w name args = some command) →
      (Interpreter.mk (A ++ B)).run name args out env w =
        (Interpreter.mk A).run name args out env w) ∧
    ((∀ f ∈ A, f.create? env w name args = none) →
      (Interpreter.mk (A ++ B)).run name args out env w =
        (Interpreter.mk B).run name args out env w) ∧
    ((∀ f ∈ A, f.create? env w name args = none) →
      ((Interpreter.mk A).run name args out env w).Reports
        (name ++ ": command not found".toList) 127 out env w) ∧
    ∀ before f after command, A = before ++ f :: after →
      (∀ g ∈ before, g.create? env w name args = none) →
      f.create? env w name args = some command →
        (command out env w).Settled out ((Interpreter.mk A).run name args out env w) := by
  refine ⟨run_append_of_accepts out B, run_append_of_declines out B, fun h ↦ ?_, ?_⟩
  · rw [run, create?_eq_none_iff.2 h]
    exact Command.reports_report _ _ _ _ _
  · intro before f after command hA hbefore hcommand
    rw [run, create?_eq_some_iff.2 ⟨before, f, after, hA, hcommand, hbefore⟩]
    exact settled_settle out (command out env w)

/-- A command that answers only where there is a mode. -/
def modal : Scripted where
  name := "go".toList
  whenVar := some "MODE".toList
  out := "going\n".toList
  showsArgs := false
  sets := []
  movesTo := none
  result := .ok 0

/-- A command that writes a part of a line and sets a variable before it fails to start a tool. -/
def faltering : Scripted where
  name := "go".toList
  whenVar := none
  out := "trying ".toList
  showsArgs := false
  sets := [("TRIED".toList, "1".toList)]
  movesTo := none
  result := .error (.noted "go".toList (.shell (.spawnFailed "tool".toList ⟨"denied".toList⟩)))

/-- Where there is no mode the second of two factories decides. -/
theorem run_factories_faltering :
    let here := Environment.startingIn .root
    let asked := [modal.factory catAlone, faltering.factory catAlone]
    let o := (Interpreter.mk (asked ++ [modal.factory catAlone])).run "go".toList []
      Sink.collecting here []
    (∀ g ∈ [modal.factory catAlone], g.create? here [] "go".toList [] = none) ∧
      (faltering.factory catAlone).create? here [] "go".toList [] = some (faltering.run []) ∧
      o.result = .ok 126 ∧ o.env = faltering.apply here ∧
      o.world = Text.utf8 "trying Error executing: tool\n".toList := by
  intro here asked o
  have hmodal : ∀ g ∈ [modal.factory catAlone], g.create? here [] "go".toList [] = none := by
    intro g hg
    rw [List.mem_singleton.1 hg]
    rfl
  have hfaltering :
      (faltering.factory catAlone).create? here [] "go".toList [] = some (faltering.run []) := rfl
  obtain ⟨haccepts, -, -, hfirst⟩ := run_factories asked [modal.factory catAlone] "go".toList []
    Sink.collecting here ([] : Bytes)
  have hsame := haccepts ⟨faltering.factory catAlone, by simp [asked], _, hfaltering⟩
  have hsettled := hfirst [modal.factory catAlone] (faltering.factory catAlone) [] _ rfl hmodal
    hfaltering
  rw [← hsame] at hsettled
  have hreports := hsettled.of_isFailedStart rfl (.noted _ .shell)
  have hstatus : o.result = .ok 126 := hreports.result_eq
  exact ⟨hmodal, hfaltering, hstatus, hsettled.env_eq,
    hreports.taken_eq Sink.records_collecting hstatus⟩

end Interpreter

end LineShell
