import LineShell.Text.Raw

/-!
# Signals

The names and numbers of the signals that a process can be sent, what becomes of a process that does
nothing about them, and how its end is told.
-/

namespace LineShell

namespace Signal

/-- The names of the signals, in the order of their numbers from zero on. Zero is no signal, but the
end of a script. -/
def names : List Raw :=
  ["EXIT", "HUP", "INT", "QUIT", "ILL", "TRAP", "ABRT", "BUS", "FPE", "KILL", "USR1", "SEGV",
    "USR2", "PIPE", "ALRM", "TERM", "16", "CHLD", "CONT", "STOP", "TSTP", "TTIN", "TTOU", "URG",
    "XCPU", "XFSZ", "VTALRM", "PROF", "WINCH", "IO", "PWR", "SYS", "32", "33", "RTMIN"].map
      String.toList ++
    (List.range 15).map (fun k ↦ "RTMIN+".toList ++ Text.decimal (k + 1)) ++
    (List.range 14).map (fun k ↦ "RTMAX-".toList ++ Text.decimal (14 - k)) ++ ["RTMAX".toList]

/-- The largest signal number. -/
def last : Nat := 64

/-- The name of a signal. -/
def name (n : Nat) : Raw := names[n]?.getD []

/-- The signal that a number or a name, in letters of either case, stands for. Names are known from
that of a first signal on. -/
def ofText? (first : Nat) (t : Raw) : Option Nat :=
  if t ≠ [] ∧ t.all Char.isDigit then
    let n := Nat.ofDigitChars 10 t 0
    if n ≤ last then some n else none
  else ((names.drop first).findIdx? (· = t.map Char.toUpper)).map (· + first)

/-- A signal that a process survives if it does nothing about it. -/
def isHarmless (n : Nat) : Bool := [0, 17, 18, 19, 20, 21, 22, 23, 28].contains n

/-- A signal that no process can do anything about. -/
def isFinal (n : Nat) : Bool := n == 9 || n == 19

/-- A signal that leaves a dump of the memory behind. -/
def dumps (n : Nat) : Bool := [3, 4, 5, 6, 7, 8, 11, 24, 25, 31].contains n

/-- What is told of a process that a signal has killed. -/
def story (n : Nat) : Raw :=
  let stories :=
    ["", "Hangup", "Interrupt", "Quit", "Illegal instruction", "Trace/breakpoint trap", "Aborted",
      "Bus error", "Floating point exception", "Killed", "User defined signal 1",
      "Segmentation fault", "User defined signal 2", "Broken pipe", "Alarm clock", "Terminated",
      "Stack fault", "Child exited", "Continued", "Stopped (signal)", "Stopped",
      "Stopped (tty input)", "Stopped (tty output)", "Urgent I/O condition",
      "CPU time limit exceeded", "File size limit exceeded", "Virtual timer expired",
      "Profiling timer expired", "Window changed", "I/O possible", "Power failure",
      "Bad system call"]
  match stories[n]? with
  | some story => story.toList
  | none =>
    if n < 34 then "Unknown signal ".toList ++ Text.decimal n
    else "Real-time signal ".toList ++ Text.decimal (n - 34)

end Signal

end LineShell
