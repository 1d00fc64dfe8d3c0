import LineShell.Fault

/-!
# Refusals of the kernel

Why a call to the kernel of a machine fails: each cause with its number and its wording.
-/

namespace LineShell

/-- Why the kernel refuses something. -/
inductive Errno
  /-- A path leads nowhere. -/
  | noEntry
  | noProcess
  /-- The arguments and variables of a program take too much room. -/
  | argumentsTooLong
  /-- A file is of no form that can be executed. -/
  | badFormat
  | badDescriptor
  | denied
  | alreadyThere
  | notDirectory
  | isDirectory
  | invalid
  | noSpace
  | nameTooLong
  /-- A path leads through too many links, or a program through too many interpreters. -/
  | tooManyLevels
  deriving DecidableEq, Repr

namespace Errno

/-- The number that a refusal is reported as. -/
def number : Errno → Nat
  | noEntry => 2
  | noProcess => 3
  | argumentsTooLong => 7
  | badFormat => 8
  | badDescriptor => 9
  | denied => 13
  | alreadyThere => 17
  | notDirectory => 20
  | isDirectory => 21
  | invalid => 22
  | noSpace => 28
  | nameTooLong => 36
  | tooManyLevels => 40

/-- What a refusal is called. -/
def message : Errno → Text
  | noEntry => "No such file or directory".toList
  | noProcess => "No such process".toList
  | argumentsTooLong => "Argument list too long".toList
  | badFormat => "Exec format error".toList
  | badDescriptor => "Bad file descriptor".toList
  | denied => "Permission denied".toList
  | alreadyThere => "File exists".toList
  | notDirectory => "Not a directory".toList
  | isDirectory => "Is a directory".toList
  | invalid => "Invalid argument".toList
  | noSpace => "No space left on device".toList
  | nameTooLong => "File name too long".toList
  | tooManyLevels => "Too many levels of symbolic links".toList

/-- A refusal as the shell is told of it. -/
def ioError (e : Errno) : IoError :=
  ⟨e.message ++ " (os error ".toList ++ Nat.toDigits 10 e.number ++ [')']⟩

end Errno

end LineShell
