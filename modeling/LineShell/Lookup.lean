import LineShell.Environment
import LineShell.Host

/-!
# Finding a program

A name is looked up by going through a list of candidates and taking the first one that may be run.
Which candidates there are is a matter of text and variables alone (`candidates`); only the choice
among them asks the host.

A name of one component that does not begin at the root is searched for: every directory of the
variable `PATH` gives a candidate, empty entries excepted, and without that variable there is none.
A separator at the end of such a name does not make it anything else. Any other name is a path and
its own only candidate.
-/

namespace LineShell

/-- The directories that a search path lists, in order, empty entries left out. -/
def searchDirs (searchPath : Text) : List Path :=
  ((searchPath.splitOn ':').filter (· ≠ [])).map Path.mk

/-- A name is searched for if it is one component and does not begin at the root. -/
def Path.isSearched (name : Path) : Bool := name.components.length == 1 && !name.isAbsolute

namespace Environment

/-- The places where a name is looked for, in order. -/
def candidates (env : Environment) (ambient : Bindings) (name : Path) : List Path :=
  if name.components = [] then []
  else if name.isSearched then
    match env.value? ambient "PATH".toList with
    | none => []
    | some searchPath => (searchDirs searchPath).map fun dir ↦ (env.absolutize dir).join name
  else [env.absolutize name]

end Environment

/-- The program that a name stands for: the first of its candidates that may be run. -/
def Host.find? {σ : Type} (host : Host σ) (w : σ) (env : Environment) (name : Text) : Option Path :=
  (env.candidates (host.vars w) ⟨name⟩).find? (host.isRunnable w)

namespace Host

variable {σ : Type} (host : Host σ) (w : σ) (env : Environment)

/-- What is found may be run. -/
theorem isRunnable_of_find? {name : Text} {p : Path} (h : host.find? w env name = some p) :
    host.isRunnable w p :=
  List.find?_some h

/-- What is found is a candidate. -/
theorem mem_candidates_of_find? {name : Text} {p : Path} (h : host.find? w env name = some p) :
    p ∈ env.candidates (host.vars w) ⟨name⟩ :=
  List.mem_of_find?_eq_some h

end Host

end LineShell
