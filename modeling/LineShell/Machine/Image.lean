import LineShell.Machine.Walk

/-!
# What the kernel executes

A file that is executed is a program of the machine, or names an interpreter in its first line,
which is then executed with the file as its argument (`ScriptLine`). Anything else is refused, and
so are arguments that take too much room.

A bare name is searched for in a list of directories. Files that are not there or may not be
executed are passed by; any other refusal ends the search (`searching`).
-/

namespace LineShell

/-- What the first line of a file asks for. -/
structure ScriptLine where
  interpreter : Raw
  argument : Option Raw
  deriving DecidableEq, Repr

namespace ScriptLine

/-- How much of a file is looked at. -/
def window : Nat := 256

/-- A blank in such a line. -/
def isGap (c : Char) : Bool := c == ' ' || c == '\t'

/-- A character that the name of the interpreter ends before. -/
def isEnd (c : Char) : Bool := isGap c || c == '\x00'

/-- The part of the window that counts, behind the first two characters: the line, if it ends in the
window; else all but the last character, provided that the name of the interpreter is not cut off. A
line that a NUL character stands in has no end. -/
def counted? (rest : Raw) : Option Raw :=
  let line := rest.takeWhile fun c ↦ c ≠ '\n' ∧ c ≠ '\x00'
  if rest.drop line.length |>.head? |>.any (· == '\n') then some line
  else
    let name := rest.dropWhile isGap
    if name.any isEnd then some (rest.take (window - 3)) else none

/-- What the contents of a file ask for; a file is taken to go on with NUL characters. -/
def ofContent? (content : Raw) : Option ScriptLine :=
  match (content ++ List.replicate window '\x00').take window with
  | '#' :: '!' :: rest =>
    match counted? rest with
    | none => none
    | some part =>
      let part := (part.reverse.dropWhile isGap).reverse.dropWhile isGap
      let interpreter := part.takeWhile (!isEnd ·)
      let after := part.drop interpreter.length
      if part = [] then none
      else
        some ⟨interpreter,
          if after.head?.any isGap then
            some ((after.dropWhile isGap).takeWhile (· ≠ '\x00'))
          else none⟩
  | _ => none

end ScriptLine

/-- A program of the machine, ready to run. -/
structure Image where
  tool : Tool
  argv : List Raw

namespace Image

/-- The most room that one argument or variable may take. -/
def stringLimit : Nat := 131072

/-- The most room that all arguments and variables may take. -/
def totalLimit : Nat := 2097152

/-- Arguments and variables take no more room than there is. -/
def fits (path : Raw) (strings : List Raw) : Bool :=
  strings.all (·.length < stringLimit) &&
    strings.foldl (fun n s ↦ n + s.length + 9) (path.length + 1) ≤ totalLimit

/-- What runs if a file is executed by a process that stands at `here`, with some arguments. The
first argument bounds the chain of interpreters. -/
def load (files : Files) (here : Place) : Nat → Raw → List Raw → Except Errno Image
  | 0, _, _ => .error .tooManyLevels
  | levels + 1, path, argv => do
    match ← files.find here path with
    | .file mode content =>
      if mode &&& 0o111 = 0 then .error .denied
      else
        match content with
        | .tool tool => .ok ⟨tool, argv⟩
        | .bytes b =>
          match ScriptLine.ofContent? (.ofBytes b) with
          | none => .error .badFormat
          | some line =>
            load files here levels line.interpreter
              (line.interpreter :: line.argument.toList ++ path :: argv.drop 1)
    | _ => .error .denied

/-- How many files a chain of interpreters may have. -/
def levels : Nat := 6

/-- What runs if a file is executed with some arguments and variables. -/
def execute (files : Files) (here : Place) (vars : List Raw) (path : Raw) (argv : List Raw) :
    Except Errno Image :=
  match files.find here path with
  | .ok (.file mode _) =>
    if mode &&& 0o111 = 0 then .error .denied
    else if fits path (argv ++ vars) then load files here levels path argv
    else .error .argumentsTooLong
  | .ok _ => .error .denied
  | .error e => .error e

/-- The path of the program that runs scripts. -/
def runnerPath : Raw := "/bin/sh".toList

/-- Give a file that has no form of its own to the program that runs scripts. -/
def executeOrRun (files : Files) (here : Place) (vars : List Raw) (path : Raw) (argv : List Raw) :
    Except Errno Image :=
  match execute files here vars path argv with
  | .error .badFormat =>
    execute files here vars runnerPath (runnerPath :: path :: argv.drop 1)
  | answer => answer

/-- Try paths in turn. Those that lead nowhere or to what may not be executed are passed by. -/
def searching (attempt : Raw → Except Errno Image) : Errno → List Raw → Except Errno Image
  | e, [] => .error e
  | e, path :: rest =>
    match attempt path with
    | .ok image => .ok image
    | .error .denied => searching attempt .denied rest
    | .error .noEntry | .error .notDirectory => searching attempt e rest
    | .error e => .error e

/-- The paths at which a bare name is tried, in the order of a search path. An entry that is longer
than any path is left out. -/
def searched (searchPath name : Raw) : List Raw :=
  ((searchPath.splitOn ':').filter (·.length ≤ Files.pathLimit)).map fun dir ↦
    if dir = [] then name else dir ++ '/' :: name

end Image

end LineShell
