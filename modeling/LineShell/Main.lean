import LineShell.Machine.Process

/-!
# The command line

The shell as an executable: it runs on a machine as delivered, with the arguments and the standard
input of the executable, and hands on what the machine wrote.
-/

open LineShell

/-- Everything that is left on a stream. -/
partial def readToEnd (stream : IO.FS.Stream) (soFar : ByteArray) : IO ByteArray := do
  let chunk ← stream.read 65536
  if chunk.isEmpty then return soFar else readToEnd stream (soFar ++ chunk)

/-- The shell on a machine as delivered. -/
def main (arguments : List String) : IO UInt32 := do
  let input ← readToEnd (← IO.getStdin) .empty
  let machine : Machine := { Machine.delivered with input := input.toList }
  let (code, after, output) := Machine.runShell (arguments.map String.toList) (machine, .blank)
  let stdout ← IO.getStdout
  stdout.write ⟨output.shown.toArray⟩
  stdout.flush
  (← IO.getStderr).write ⟨after.errors.toArray⟩
  return UInt32.ofNat code
