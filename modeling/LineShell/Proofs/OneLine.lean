import LineShell.Proofs.Referent
import LineShell.Proofs.Transcript

/-!
# One line, given or read

A line can be given to the program as an argument, or it can be the only line of its input. The two
ways differ in what is done to the line and around it: a line that is read comes as bytes, loses a
carriage return at its end and has its backspaces applied, prompts are written, and what comes of it
is carried through the loop. **What the line does is the same**: the loop only adds its prompts,
before the line and once more behind it unless the line is an `exit` line.

This rests on three facts. A line without a newline and a backspace is read as it is, less that
carriage return (`inputLines_newline`), which is a blank and would be trimmed anyway
(`Text.trim_withoutReturn`). On an output with room the line does in the loop what it does by itself
(`Pause.loop_eq`). And the input that is left makes no difference, since children leave it alone
(`Pause.alike_eval_withInput`).
-/

namespace LineShell

variable {σ : Type}

/-! ### Lines that are read as they are -/

section

variable (host : Host σ) (printed : SpawnRequest → σ → Bytes)

end

end LineShell
