import LineShell.Text.Basic

/-!
# What can go wrong

Three layers. An `IoError` is a refusal by the operating system or by a stream. A `ShellError` is a
failure that the shell itself understands and reports in its own words. A `Fault` is whatever ends a
command early: one of the two, some other failure, or any of them under notes that say what was
being done. A failure of the shell's own can also be put over another fault, in the way of a note;
then it is the one that counts. The wording of all of them is here and nowhere else.
-/

namespace LineShell

/-- A refusal by the operating system or by a stream, known by its text. -/
structure IoError where
  text : Text
  deriving DecidableEq, Repr

/-- The refusal of a stream that takes no byte of a write and reports no error. -/
def IoError.writeZero : IoError := ⟨"failed to write whole buffer".toList⟩

/-- A failure that the shell reports in its own words. -/
inductive ShellError
  /-- The name is neither a built-in nor found as a program. -/
  | commandNotFound (name : Text)
  /-- The program was found and could not be started. -/
  | spawnFailed (name : Text) (cause : IoError)
  /-- The target of a change of directory is no directory. -/
  | noSuchDirectory (shown : Text)
  /-- There is no home directory to change to. -/
  | homeNotSet
  deriving DecidableEq, Repr

namespace ShellError

/-- The line shown to the user. -/
def message : ShellError → Text
  | commandNotFound name => name ++ ": command not found".toList
  | spawnFailed name _ => "Error executing: ".toList ++ name
  | noSuchDirectory shown => "cd: ".toList ++ shown ++ ": No such file or directory".toList
  | homeNotSet => "cd: HOME not set".toList

/-- The refusal that lies beneath the failure, if one does. -/
def cause? : ShellError → Option IoError
  | spawnFailed _ cause => some cause
  | _ => none

end ShellError

/-- What ends a command early. -/
inductive Fault
  | shell (e : ShellError)
  | io (e : IoError)
  | other (text : Text)
  /-- A fault under a note. -/
  | noted (note : Text) (beneath : Fault)
  /-- A fault under a failure of the shell's own. -/
  | retold (e : ShellError) (beneath : Fault)
  deriving DecidableEq, Repr

namespace Fault

/-- The outermost text of a fault. -/
def headline : Fault → Text
  | shell e => e.message
  | io e => e.text
  | other text => text
  | noted note _ => note
  | retold e _ => e.message

/-- The texts of a fault and of all that lies beneath it, outermost first. -/
def chain : Fault → List Text
  | shell e => e.message :: e.cause?.toList.map (·.text)
  | io e => [e.text]
  | other text => [text]
  | noted note beneath => note :: beneath.chain
  | retold e beneath => e.message :: beneath.chain

/-- The whole chain on one line. -/
def message (f : Fault) : Text := ": ".toList.intercalate f.chain

/-- The fault under all its notes. -/
def bare : Fault → Fault
  | noted _ beneath => beneath.bare
  | f => f

/-- The shell's own failure in a fault, under whatever notes. -/
def shellError? (f : Fault) : Option ShellError :=
  match f.bare with
  | shell e | retold e _ => some e
  | _ => none

/-- The failed start of a program in a fault, under whatever notes. -/
def spawnFailure? (f : Fault) : Option ShellError :=
  match f.shellError? with
  | some (.spawnFailed name cause) => some (.spawnFailed name cause)
  | _ => none

end Fault

end LineShell
