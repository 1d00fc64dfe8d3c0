import LineShell.Bindings
import LineShell.Path.Basic
import LineShell.Status

/-!
# Child processes

What the shell asks for when it starts a program, and what it learns when the program has ended. The
end of a process comes as a wait word, one number that says whether the process exited, and with
which code, or was killed, and by which signal. `WaitWord.status` makes a status of it; its last two
cases are for words that no ended process leaves (`status_word`).
-/

namespace LineShell

/-- All that a program is started with. -/
@[ext] structure SpawnRequest where
  /-- The file to be run. -/
  program : Path
  /-- The arguments, the name under which the program is called coming first. -/
  argv : List Text
  /-- All variables of the new process. -/
  vars : Bindings
  /-- The directory it starts in. -/
  dir : Path
  /-- A file that has no form of its own is given to the program that runs scripts. -/
  runsFormless : Bool

/-- How a process ended. -/
inductive ChildEnd
  | exited (code : UInt8)
  | killed (signal : Nat) (dumped : Bool)
  deriving DecidableEq, Repr

/-- The number in which the end of a process is reported. -/
abbrev WaitWord := Nat

/-- The word for an end: the low seven bits hold the signal, zero for none; the next bit says that
memory was dumped; the exit code is in the next byte. -/
def ChildEnd.word : ChildEnd → WaitWord
  | exited code => 256 * code.toNat
  | killed signal dumped => signal + if dumped then 128 else 0

namespace WaitWord

/-- The exit code of a process that exited. -/
def exitCode? (w : WaitWord) : Option Nat :=
  if w % 128 = 0 then some (w / 256 % 256) else none

/-- The signal that killed a process; 127 marks a stopped process instead. -/
def signal? (w : WaitWord) : Option Nat :=
  if 0 < w % 128 ∧ w % 128 < 127 then some (w % 128) else none

/-- A signal killed the process, and its memory was dumped. -/
def dumped (w : WaitWord) : Bool := w.signal?.isSome && w / 128 % 2 = 1

/-- The status that a wait word stands for. -/
def status (w : WaitWord) : Status :=
  match w.exitCode? with
  | some code => code
  | none =>
    match w.signal? with
    | some signal => 128 + signal
    -- Where there is no signal there is no dump either, so the first of these is never taken.
    | none => if w.dumped then 255 else -1

end WaitWord

/-- A process can end so: with any code, or by a signal whose number is below the one that marks a
stopped process. -/
def ChildEnd.Possible : ChildEnd → Prop
  | exited _ => True
  | killed signal _ => 0 < signal ∧ signal < 127

namespace ChildEnd

@[simp] theorem exitCode?_word_exited (code : UInt8) :
    WaitWord.exitCode? (exited code).word = some code.toNat := by
  have bound := code.toNat_lt
  have low : 256 * code.toNat % 128 = 0 := by omega
  have high : 256 * code.toNat / 256 % 256 = code.toNat := by omega
  simp only [word, WaitWord.exitCode?, low, high, if_true]

/-- The low seven bits of a word are the signal. -/
theorem word_killed_mod {signal : Nat} {dumped : Bool} (h : (killed signal dumped).Possible) :
    (killed signal dumped).word % 128 = signal := by
  have bound : signal < 127 := h.2
  show (signal + if dumped then 128 else 0) % 128 = signal
  split <;> omega

theorem exitCode?_word_killed {signal : Nat} {dumped : Bool}
    (h : (killed signal dumped).Possible) :
    WaitWord.exitCode? (killed signal dumped).word = none := by
  have positive : 0 < signal := h.1
  rw [WaitWord.exitCode?, word_killed_mod h, if_neg (Nat.ne_of_gt positive)]

theorem signal?_word_killed {signal : Nat} {dumped : Bool} (h : (killed signal dumped).Possible) :
    WaitWord.signal? (killed signal dumped).word = some signal := by
  have bounds : 0 < signal ∧ signal < 127 := h
  rw [WaitWord.signal?, word_killed_mod h, if_pos bounds]

/-- An exit gives **its code**, and a signal **128 more than its number**. -/
theorem status_word {e : ChildEnd} (h : e.Possible) :
    WaitWord.status e.word = match e with
      | exited code => (code.toNat : Status)
      | killed signal _ => 128 + signal := by
  cases e with
  | exited code => simp only [WaitWord.status, exitCode?_word_exited]
  | killed signal dumped =>
    simp only [WaitWord.status, exitCode?_word_killed h, signal?_word_killed h]

end ChildEnd

end LineShell
