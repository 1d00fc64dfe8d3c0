import LineShell.Host
import LineShell.Sink

/-!
# The shared standard output

The standard output of the shell is also that of the programs it starts: what a child prints goes
behind what is there, and what the shell writes next goes behind that. `Host.withOutput` puts such
an output beside a host, given what each child prints; `Output.sink` is the shell's own access to
it.

An output can be a device without room. Then every write of the shell is refused, and what children
print is lost.
-/

namespace LineShell

/-- The refusal of a device that has no room. -/
def IoError.noSpace : IoError := ⟨"No space left on device (os error 28)".toList⟩

/-- A standard output. -/
@[ext] structure Output where
  /-- What has been written to it. -/
  shown : Bytes
  /-- It is a device that has no room. -/
  full : Bool
  deriving DecidableEq, Repr

namespace Output

/-- An output with room, on which nothing has been written. -/
def blank : Output := ⟨[], false⟩

/-- The output after some bytes, which are lost if there is no room. -/
def append (o : Output) (bytes : Bytes) : Output :=
  if o.full then o else { o with shown := o.shown ++ bytes }

/-- The output as a sink, which passes everything on at once. -/
def sink : Sink Output where
  write bytes o := if o.full then (.error .noSpace, o) else (.ok bytes.length, o.append bytes)
  flush o := (.ok (), o)

end Output

namespace Host

variable {σ : Type}

/-- The host with a standard output beside it, on which a child that is started by a request in some
world prints what `printed` says. -/
def withOutput (host : Host σ) (printed : SpawnRequest → σ → Bytes) : Host (σ × Output) where
  kind? w := host.kind? w.1
  vars w := host.vars w.1
  dir? w := host.dir? w.1
  accountHome? w := host.accountHome? w.1
  spawn request w :=
    let (answer, after) := host.spawn request w.1
    (answer, after, w.2.append (printed request w.1))
  input w :=
    let (bytes, after) := host.input w.1
    (bytes, after, w.2)

end Host

/-- The shared output as the shell writes to it. -/
def standardOutput {σ : Type} : Sink (σ × Output) := Output.sink.onSnd

end LineShell
