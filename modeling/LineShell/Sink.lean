import LineShell.Fault
import LineShell.Text.Utf8

/-!
# Sinks

A sink takes bytes. It may take only some of what it is offered, or refuse; which one, and what
comes after a refusal, is for the world to say. `Sink.writeAll` offers the rest again until all is
taken or an offer is refused, and `Sink.writeLine` does so with a line of text.

Two sinks are defined here: one that collects everything, and one that takes a number of bytes,
refuses a number of times, and then takes everything again.
-/

namespace LineShell

/-- A destination of bytes, over the worlds `σ`. -/
structure Sink (σ : Type) where
  /-- Offer bytes; the answer says how many of them were taken. -/
  write : Bytes → σ → Except IoError Nat × σ
  /-- Pass on what is held back. -/
  flush : σ → Except IoError Unit × σ

namespace Sink

variable {σ ω : Type}

/-- Write the bytes behind the next `taken` ones, which the sink has taken already. A sink that
takes nothing of a non-empty offer and does not say why counts as refusing. -/
def writeFrom (out : Sink σ) : Nat → Bytes → σ → Except IoError Unit × σ
  | _, [], w => (.ok (), w)
  | taken + 1, _ :: rest, w => out.writeFrom taken rest w
  | 0, b :: rest, w =>
    match out.write (b :: rest) w with
    | (.error e, after) => (.error e, after)
    | (.ok 0, after) => (.error .writeZero, after)
    | (.ok (taken + 1), after) => out.writeFrom taken rest after

/-- Write all bytes. -/
def writeAll (out : Sink σ) (bytes : Bytes) (w : σ) : Except IoError Unit × σ :=
  out.writeFrom 0 bytes w

/-- Write a text. -/
def writeText (out : Sink σ) (t : Text) (w : σ) : Except IoError Unit × σ := out.writeAll t.utf8 w

/-- Write a text and a newline. -/
def writeLine (out : Sink σ) (t : Text) (w : σ) : Except IoError Unit × σ :=
  out.writeText (t ++ ['\n']) w

/-- Nothing to write is no offer. -/
@[simp] theorem writeAll_nil (out : Sink σ) (w : σ) : out.writeAll [] w = (.ok (), w) := by
  simp [writeAll, writeFrom]

/-- Bytes that the sink has taken are not offered again. -/
theorem writeFrom_eq_writeAll_drop (out : Sink σ) (taken : Nat) (bytes : Bytes) (w : σ) :
    out.writeFrom taken bytes w = out.writeAll (bytes.drop taken) w := by
  induction taken generalizing bytes with
  | zero => rfl
  | succ n ih =>
    cases bytes with
    | nil => simp [writeFrom]
    | cons b rest => simpa [writeFrom] using ih rest

/-- A sink on the second half of a pair of worlds. -/
def onSnd (out : Sink ω) : Sink (σ × ω) where
  write bytes w :=
    let (answer, after) := out.write bytes w.2
    (answer, w.1, after)
  flush w :=
    let (answer, after) := out.flush w.2
    (answer, w.1, after)

/-! ### Two sinks -/

/-- A sink that takes everything and keeps it. -/
def collecting : Sink Bytes where
  write bytes kept := (.ok bytes.length, kept ++ bytes)
  flush kept := (.ok (), kept)

/-- The state of a sink with a limit. -/
structure Limited where
  /-- The bytes taken so far. -/
  taken : Bytes
  /-- How many more it takes; `none` if there is no limit. -/
  room : Option Nat
  /-- How many more times it refuses before the limit is lifted; `none` if it never is. -/
  refusals : Option Nat

/-- The state after a refusal. -/
def Limited.refuse (s : Limited) : Limited :=
  match s.refusals with
  | none => s
  | some n => if n ≤ 1 then { s with room := none } else { s with refusals := some (n - 1) }

/-- A sink that takes bytes up to its limit and then refuses with the error `full`. If `flushing`
gives an error, passing on always fails with it. -/
def limited (full : IoError) (flushing : Option IoError) : Sink Limited where
  write bytes s :=
    match s.room with
    | none => (.ok bytes.length, { s with taken := s.taken ++ bytes })
    | some 0 => (.error full, s.refuse)
    | some room =>
      let n := min room bytes.length
      (.ok n, { s with taken := s.taken ++ bytes.take n, room := some (room - n) })
  flush s :=
    match flushing with
    | some e => (.error e, s)
    | none => (.ok (), s)

end Sink

end LineShell
