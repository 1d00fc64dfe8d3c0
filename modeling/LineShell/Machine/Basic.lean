import LineShell.Machine.Walk

/-!
# A machine in memory

Files, the process that the shell runs in, its input, and its error stream. The input is read by
whoever asks first, the shell or a child, and is gone then.
-/

namespace LineShell

/-- A machine that the shell can run on. -/
structure Machine where
  files : Files
  /-- The variables of the shell's process. -/
  vars : Bindings
  /-- The directory that the shell's process stands in. -/
  here : Place
  /-- What is left of the standard input. -/
  input : Bytes
  /-- What was written to the error stream. -/
  errors : Bytes
  /-- The home directory in the account data. -/
  accountHome : Option Path
  /-- The standard output has no room. -/
  outputFull : Bool := false

namespace Machine

/-- A machine as it is delivered, with its standard user. -/
def delivered : Machine where
  files := .delivered
  vars := Bindings.ofList
    [("HOME".toList, "/root".toList), ("PATH".toList, "/bin:/usr/bin".toList)]
  here := []
  input := []
  errors := []
  accountHome := some ⟨"/root".toList⟩

/-- Where the shell's process stands, unless that directory has been removed. -/
def dir? (m : Machine) : Option Path :=
  if m.here.isUnlinked then none else some ⟨m.here.path.text⟩

/-- Remove what is at a place and everything below it. The shell's process stays where it is. -/
def removeAll (m : Machine) (place : Place) : Machine :=
  { m with
    files := m.files.removeAround m.here place
    here := m.here.afterRemoval place }

end Machine

end LineShell
