import LineShell.Interpreter
import LineShell.Text.Cluster

/-!
# The read loop

Lines come as bytes. Each line is cut off at its newline, loses one carriage return before it, is
read as UTF-8, and has its backspaces applied. The loop prompts, takes a line and evaluates it,
until the shell is to stop, the lines are used up, one of them is no text, or the output fails.

**The prompt comes before the look at the line**, so a session that runs out of lines ends with one
prompt more than lines, and a session that is told to stop does not.
-/

namespace LineShell

/-! ### Lines of input -/

/-- The text of a line that is given without its newline; `ended` says whether there was one. -/
def lineText? (ended : Bool) (bytes : Bytes) : Option Text :=
  (Utf8.decode? bytes).map fun t ↦
    applyBackspaces (if ended ∧ t.getLast? = some '\r' then t.dropLast else t)

/-- The lines of the input, `none` for one that is no text. Bytes behind the last newline make a
line too. -/
def inputLines (input : Bytes) : List (Option Text) :=
  let pieces := input.splitOn 0x0A
  pieces.dropLast.map (lineText? true) ++
    match pieces.getLast? with
    | none | some [] => []
    | some rest => [lineText? false rest]

/-! ### The loop -/

/-- What is written before a line is read. -/
def prompt : Text := "$ ".toList

/-- The refusal of input that is no text. -/
def IoError.invalidText : IoError := ⟨"stream did not contain valid UTF-8".toList⟩

namespace Interpreter

variable {σ : Type} (sh : Interpreter σ)

/-- Unless the shell is to stop, write the prompt, see that it gets through, and go on. -/
def atPrompt (next : Command σ) : Command σ := fun out env w ↦
  if env.exiting then ⟨.ok 0, env, w⟩
  else
    match out.writeText prompt w with
    | (.error e, after) => ⟨.error (.io e), env, after⟩
    | (.ok (), after) =>
      match out.flush after with
      | (.error e, after) => ⟨.error (.io e), env, after⟩
      | (.ok (), after) => next out env after

/-- Run a command, see that its output gets through, and go on, whatever its status was. -/
def andThen (command next : Command σ) : Command σ := fun out env w ↦
  let o := command out env w
  match o.result with
  | .error _ => o
  | .ok _ =>
    match out.flush o.world with
    | (.error e, after) => ⟨.error (.io e), o.env, after⟩
    | (.ok (), after) => next out o.env after

/-- Evaluate lines one after another, with a prompt before each. -/
def loop : List (Option Text) → Command σ
  | [] => atPrompt (Command.finish 0)
  | none :: _ => atPrompt (Command.fail (.io .invalidText))
  | some line :: rest => atPrompt (andThen (sh.evalLine line) (loop rest))

end Interpreter

end LineShell
