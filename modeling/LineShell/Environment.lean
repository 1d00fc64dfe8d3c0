import LineShell.Bindings
import LineShell.Path.Normal

/-!
# The environment of the shell

What commands see and change: variables of the shell's own, the working directory, and whether the
shell is about to stop. The variables lie over the *ambient* ones, those of the process that the
shell runs in: a variable of the shell hides the ambient one of the same name. The ambient ones are
asked for anew at every look-up, so they are an argument here.

**A child sees what the shell sees**: `get?_childVars`.
-/

namespace LineShell

/-- The state that commands act on. -/
@[ext] structure Environment where
  /-- The shell's own variables. -/
  vars : Bindings
  /-- The working directory. -/
  dir : Path
  /-- The shell is to stop. -/
  exiting : Bool

namespace Environment

/-- The environment that starts in a directory, without variables of its own. -/
def startingIn (dir : Path) : Environment := ⟨∅, dir, false⟩

/-- The environment that starts where the process is, or at the root if that cannot be told. -/
def initial (processDir : Option Path) : Environment :=
  startingIn (processDir.elim .root Path.normalize)

/-- The value of a variable. -/
def value? (env : Environment) (ambient : Bindings) (key : Text) : Option Text :=
  (env.vars.get? key).or (ambient.get? key)

/-- The home directory: the variable `HOME` where it has a value, be it empty, and the account's
home directory where it has none. -/
def home? (env : Environment) (ambient : Bindings) (account : Option Path) : Option Path :=
  match env.value? ambient "HOME".toList with
  | some home => some ⟨home⟩
  | none => account

/-- A path in normal form, as seen from the working directory. -/
def absolutize (env : Environment) (p : Path) : Path := (env.dir.join p).normalize

/-- The variables that a child starts with. -/
def childVars (env : Environment) (ambient : Bindings) : Bindings := env.vars.overlay ambient

@[simp] theorem get?_childVars (env : Environment) (ambient : Bindings) (key : Text) :
    (env.childVars ambient).get? key = env.value? ambient key :=
  Bindings.get?_overlay env.vars ambient key

end Environment

end LineShell
