import LineShell.Child
import LineShell.Fault

/-!
# The operating system as the shell sees it

A `Host` is what the shell needs of an operating system, over any type `σ` of worlds. Only starting
a program and reading the input change the world; all else is a question about it. Everything the
shell does is defined over an arbitrary host, so what is proved of the shell holds on every file
system and for every behaviour of the programs that it starts.

`Host.onFst` runs a host on the first half of a pair; `Host.recording` keeps a list of the requests
it was given.
-/

namespace LineShell

/-- What a path leads to, links followed. -/
inductive FileKind
  | directory
  /-- A regular file, and whether one of its permission bits allows executing it. -/
  | file (runnable : Bool)
  /-- Something else. -/
  | special
  deriving DecidableEq, Repr

/-- What the shell needs of an operating system. -/
structure Host (σ : Type) where
  /-- What a path leads to, if it leads anywhere. -/
  kind? : σ → Path → Option FileKind
  /-- The variables of the shell's own process. -/
  vars : σ → Bindings
  /-- The working directory of the shell's own process, if it can be told. -/
  dir? : σ → Option Path
  /-- The home directory in the account data of the user. -/
  accountHome? : σ → Option Path
  /-- Start a program and wait for its end. -/
  spawn : SpawnRequest → σ → Except IoError WaitWord × σ
  /-- Take all that is left of the standard input. -/
  input : σ → Bytes × σ

namespace Host

variable {σ ω : Type} (host : Host σ)

/-- The path leads to a directory. -/
def isDirectory (w : σ) (p : Path) : Bool := host.kind? w p == some .directory

/-- The path leads to a regular file that may be executed. -/
def isRunnable (w : σ) (p : Path) : Bool := host.kind? w p == some (.file true)

/-- A host on the first half of a pair of worlds. -/
def onFst : Host (σ × ω) where
  kind? w := host.kind? w.1
  vars w := host.vars w.1
  dir? w := host.dir? w.1
  accountHome? w := host.accountHome? w.1
  spawn request w :=
    let (answer, after) := host.spawn request w.1
    (answer, after, w.2)
  input w :=
    let (bytes, after) := host.input w.1
    (bytes, after, w.2)

end Host

end LineShell
