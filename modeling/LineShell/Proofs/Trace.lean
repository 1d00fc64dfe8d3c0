import LineShell.Interpreter

/-!
# Traces

A command is known to its user by what it writes and by the programs it starts. `Host.traced` and
`Sink.traced` keep a trace of both beside the world and change nothing else, so a run over traced
worlds is the run itself with a record of it: every offer to the sink with the sink's answer, every
flush, and every request for a program with the host's answer.

`Trace.output` is what the sink has taken, and `Trace.requests` is what the host was asked for, both
in order. The two facts about writing that everything else uses are

* `Sink.requests_writeLine`: writing asks for no program, whatever the sink does;
* `Sink.Reliable.writeLine`: a sink that never fails takes **the whole line and nothing else**, in
  however many portions.
-/

namespace LineShell

/-! ### Events -/

/-- What passes between a command and the outside. -/
inductive Event
  /-- Bytes were offered to the sink. -/
  | wrote (offered : Bytes) (answer : Except IoError Nat)
  /-- The sink was to pass on what it holds back. -/
  | flushed (answer : Except IoError Unit)
  /-- The host was to start a program. -/
  | started (request : SpawnRequest) (answer : Except IoError WaitWord)

/-- The bytes that the sink took. -/
def Event.output : Event → Bytes
  | wrote offered (.ok n) => offered.take n
  | _ => []

/-- The program that was asked for. -/
def Event.request? : Event → Option SpawnRequest
  | started request _ => some request
  | _ => none

namespace Trace

/-- All that the sink took. -/
def output (t : List Event) : Bytes := t.flatMap Event.output

/-- All programs that were asked for. -/
def requests (t : List Event) : List SpawnRequest := t.filterMap Event.request?

@[simp] theorem output_nil : output [] = [] := rfl

@[simp] theorem requests_nil : requests [] = [] := rfl

@[simp] theorem requests_append (s t : List Event) : requests (s ++ t) = requests s ++ requests t :=
  List.filterMap_append

@[simp] theorem requests_wrote (offered : Bytes) (answer : Except IoError Nat) (t : List Event) :
    requests (.wrote offered answer :: t) = requests t := rfl

@[simp] theorem requests_flushed (answer : Except IoError Unit) (t : List Event) :
    requests (.flushed answer :: t) = requests t := rfl

@[simp] theorem requests_started (request : SpawnRequest) (answer : Except IoError WaitWord)
    (t : List Event) : requests (.started request answer :: t) = request :: requests t := rfl

end Trace

/-! ### Keeping a trace -/

variable {σ : Type}

/-- A host that records what it is asked to start. -/
def Host.traced (host : Host σ) : Host (σ × List Event) where
  kind? w := host.kind? w.1
  vars w := host.vars w.1
  dir? w := host.dir? w.1
  accountHome? w := host.accountHome? w.1
  spawn request w :=
    let (answer, after) := host.spawn request w.1
    (answer, after, w.2 ++ [.started request answer])
  input w :=
    let (bytes, after) := host.input w.1
    (bytes, after, w.2)

/-- A sink that records what it is offered. -/
def Sink.traced (out : Sink σ) : Sink (σ × List Event) where
  write bytes w :=
    let (answer, after) := out.write bytes w.1
    (answer, after, w.2 ++ [.wrote bytes answer])
  flush w :=
    let (answer, after) := out.flush w.1
    (answer, after, w.2 ++ [.flushed answer])

/-- What a name is found as does not depend on the trace. -/
@[simp] theorem Host.find?_traced (host : Host σ) (w : σ) (t : List Event) (env : Environment)
    (name : Text) : host.traced.find? (w, t) env name = host.find? w env name := rfl

@[simp] theorem Host.vars_traced (host : Host σ) (w : σ) (t : List Event) :
    host.traced.vars (w, t) = host.vars w := rfl

theorem Host.spawn_traced (host : Host σ) (request : SpawnRequest) (w : σ) (t : List Event) :
    host.traced.spawn request (w, t) =
      ((host.spawn request w).1, (host.spawn request w).2,
        t ++ [.started request (host.spawn request w).1]) := rfl

theorem Sink.write_traced (out : Sink σ) (bytes : Bytes) (w : σ) (t : List Event) :
    out.traced.write bytes (w, t) =
      ((out.write bytes w).1, (out.write bytes w).2, t ++ [.wrote bytes (out.write bytes w).1]) :=
  rfl

theorem Sink.flush_traced (out : Sink σ) (w : σ) (t : List Event) :
    out.traced.flush (w, t) = ((out.flush w).1, (out.flush w).2, t ++ [.flushed (out.flush w).1]) :=
  rfl

/-! ### Writing -/

/-- The sink never fails: it takes something of every offer that is not empty, and passes on what it
holds back whenever it is told to. -/
structure Sink.Reliable (out : Sink σ) : Prop where
  write : ∀ bytes w, bytes ≠ [] → ∃ n, (out.write bytes w).1 = .ok (n + 1)
  flush : ∀ w, (out.flush w).1 = .ok ()

theorem Sink.reliable_collecting : Sink.collecting.Reliable where
  write bytes kept h := by
    refine ⟨bytes.length - 1, congrArg Except.ok ?_⟩
    have hpos := List.length_pos_iff.2 h
    omega
  flush _ := rfl

namespace Sink

variable (out : Sink σ)

/-- Writing asks for no program. -/
theorem requests_writeFrom (taken : Nat) (bytes : Bytes) (w : σ) (t : List Event) :
    Trace.requests (out.traced.writeFrom taken bytes (w, t)).2.2 = Trace.requests t := by
  induction bytes generalizing taken w t with
  | nil => cases taken <;> rfl
  | cons b rest ih =>
    cases taken with
    | succ taken => exact ih taken w t
    | zero =>
      have hasked : ∀ answer, Trace.requests (t ++ [.wrote (b :: rest) answer]) =
          Trace.requests t := by
        intro answer
        rw [Trace.requests_append, Trace.requests_wrote, Trace.requests_nil, List.append_nil]
      -- writing ends if the offer is refused or nothing is taken, and goes on otherwise
      rcases hw : out.write (b :: rest) w with ⟨e | n, after⟩
      · simp [writeFrom, write_traced, hw]
      · cases n with
        | zero => simp [writeFrom, write_traced, hw]
        | succ n =>
          rw [writeFrom, write_traced, hw]
          exact (ih n after _).trans (hasked _)

theorem requests_writeLine (line : Text) (w : σ) (t : List Event) :
    Trace.requests (out.traced.writeLine line (w, t)).2.2 = Trace.requests t :=
  out.requests_writeFrom 0 _ w t

variable {out}

/-- A sink that never fails takes all that is behind the bytes it has taken already. -/
theorem Reliable.writeFrom (hout : out.Reliable) (taken : Nat) (bytes : Bytes) (w : σ)
    (t : List Event) :
    ∃ s : List Event, out.traced.writeFrom taken bytes (w, t) =
      (.ok (), (out.writeFrom taken bytes w).2, t ++ s) ∧ Trace.output s = bytes.drop taken := by
  induction bytes generalizing taken w t with
  | nil => cases taken <;> exact ⟨[], by simp [Sink.writeFrom], by simp⟩
  | cons b rest ih =>
    cases taken with
    | succ taken => exact ih taken w t
    | zero =>
      obtain ⟨n, hn⟩ := hout.write (b :: rest) w (List.cons_ne_nil b rest)
      rcases hw : out.write (b :: rest) w with ⟨answer, after⟩
      obtain rfl : answer = .ok (n + 1) := by simpa [hw] using hn
      obtain ⟨s, hs, hsout⟩ := ih n after (t ++ [.wrote (b :: rest) (.ok (n + 1))])
      refine ⟨.wrote (b :: rest) (.ok (n + 1)) :: s, ?_, ?_⟩
      · rw [Sink.writeFrom, Sink.writeFrom, write_traced, hw]
        exact hs.trans (by rw [List.append_assoc]; rfl)
      · -- what this offer took and what the later ones take make up the bytes
        show (b :: rest).take (n + 1) ++ Trace.output s = b :: rest
        rw [hsout, List.take_succ_cons, List.cons_append, List.take_append_drop]

/-- A sink that never fails takes **the whole line and nothing else**. -/
theorem Reliable.writeLine (hout : out.Reliable) (line : Text) (w : σ) (t : List Event) :
    ∃ s : List Event, out.traced.writeLine line (w, t) =
      (.ok (), (out.writeLine line w).2, t ++ s) ∧ Trace.output s = Text.utf8 (line ++ ['\n']) :=
  hout.writeFrom 0 _ w t

end Sink

end LineShell
