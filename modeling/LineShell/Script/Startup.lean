import LineShell.Script.Source
import LineShell.Script.Variables

/-!
# The start of a script

What the arguments and the environment of the script runner say: which flags are on, where the
script is, what it is called with, and which variables it begins with. Some of the arguments can
also be given to a running script, by the command `set`.
-/

namespace LineShell

namespace Script

namespace Run

/-! ### Flags -/

/-- Switch a flag. Of the two editing modes only one is on. -/
def switch (flag : Flag) (on : Bool) : Run Unit := modify fun s ↦
  let gone : List Flag :=
    match flag, on with
    | .vi, true => [.vi, .emacs]
    | .emacs, true => [.vi, .emacs]
    | flag, _ => [flag]
  let others := s.flags.filter (!gone.contains ·)
  { s with flags := if on then flag :: others else others }

/-- Switch the flag of a letter. -/
def switchLetter (on : Bool) (c : Char) : Run Unit :=
  match Flag.ofLetter? c with
  | some flag => switch flag on
  | none => fail ("Illegal option -".toList ++ [c])

/-- Switch the flag of a name. -/
def switchName (on : Bool) (name : Raw) : Run Unit :=
  match Flag.ofName? name with
  | some flag => switch flag on
  | none => fail ("Illegal option -o ".toList ++ name)

/-- Print the flags, as a table or as the commands that set them. -/
def listFlags (asTable : Bool) (isOn : Flag → Bool) : Run Unit := do
  if asTable then printLine "Current option settings".toList
  Flag.all.forM fun flag ↦ do
    let name := flag.spelling.1.toList
    if asTable then
      let padding := List.replicate (16 - name.length) ' '
      printLine (name ++ padding ++ if isOn flag then "on".toList else "off".toList)
    else printLine ("set ".toList ++ (if isOn flag then "-o ".toList else "+o ".toList) ++ name)

/-- Control of jobs is asked for: it needs a terminal, which there is not. Only the process that the
script was started in complains. -/
def refuseJobControl : Run Unit := do
  let s ← get
  if s.flags.contains .monitor ∧ s.process = s.rootProcess then
    warn "can't access tty; job control turned off".toList
    switch .monitor false

/-! ### Arguments that switch flags -/

/-- What arguments say besides switching flags. -/
structure Settings where
  /-- The script is the first argument after them. -/
  isCommand : Bool := false
  /-- The shell is the first one of a user. -/
  isLogin : Bool := false
  /-- The arguments after them, and whether these replace what there was, even if there are none. -/
  rest : List Raw := []
  replaces : Bool := false

/-- Deal with the letters of one argument; `names` are the arguments that follow it, of which the
ones that are left over are given back. -/
def settingLetters (atStart on : Bool) : Settings → List Raw → Raw → Run (Settings × List Raw)
  | settings, names, [] => return (settings, names)
  | settings, names, c :: cs => do
    if c = 'c' ∧ atStart then
      settingLetters atStart on { settings with isCommand := true } names cs
    else if c = 'l' ∧ atStart then
      settingLetters atStart on { settings with isLogin := true } names cs
    else if c = 'o' then
      match names with
      | name :: _ => switchName on name
      | [] =>
        let flags := (← get).flags
        listFlags on fun flag ↦ atStart || flags.contains flag
      settingLetters atStart on settings (names.drop 1) cs
    else
      switchLetter on c
      settingLetters atStart on settings names cs

/-- Deal with the arguments that begin with a sign. The first argument bounds their number. -/
def settings (atStart : Bool) : Nat → Settings → List Raw → Run Settings
  | 0, settings, rest => return { settings with rest }
  | n + 1, s, args =>
    match args with
    | ['-'] :: rest => do
      if !atStart then
        switch .xtrace false
        switch .verbose false
      return { s with rest }
    | ['-', '-'] :: rest => return { s with rest, replaces := true }
    | (sign :: letters) :: rest =>
      if sign = '-' ∨ sign = '+' then do
        let (s, rest) ← settingLetters atStart (sign = '-') s rest letters
        settings atStart n s rest
      else return { s with rest := args }
    | _ => return { s with rest := args }

/-! ### The first variables -/

/-- Give a variable a value, whatever is said about it; its marks stay. -/
def preset (name : String) (value : Raw) : Run Unit := do
  let old := (← variableOf? name.toList).getD {}
  putVariable name.toList (some { old with value })

/-- Where programs are searched for if nothing else is said. -/
def standardSearchPath : Raw :=
  "/usr/local/sbin:/usr/local/bin:/usr/sbin:/usr/bin:/sbin:/bin".toList

/-- Take a variable over from the environment, if its name is one. -/
def importVariable (t : Raw) : Run Unit :=
  match assignment? t with
  | some (name, value) => putVariable name (some { value, exported := true })
  | none => pure ()

/-- The path of the directory that the process stands in. It cannot be told once that has been
removed. -/
def currentDir : Run Raw := do
  let here := (← get).here
  if here.isUnlinked then
    warn ("getcwd() failed: ".toList ++ Errno.noEntry.message)
    return []
  else return here.path

/-- Give the process a path for its directory. -/
def setDir (dir : Raw) : Run Unit := do
  modify ({ · with dir })
  assign "PWD".toList (some dir) true

/-- Set the variables that a script begins with. -/
def importVariables (vars : List Raw) : Run Unit := do
  preset "PATH" standardSearchPath
  preset "PS1" "# ".toList
  preset "PS2" "> ".toList
  preset "PS4" "+ ".toList
  vars.forM importVariable
  preset "IFS" " \t\n".toList
  preset "OPTIND" ['1']
  let s ← get
  preset "PPID" (Text.decimal s.parent)
  match ← value? "PWD".toList with
  | some dir =>
    let leadsHere := (s.world.machine.files.resolve s.here dir).toOption == some s.here
    if dir.isRooted && leadsHere then setDir dir else setDir (← currentDir)
  | none => setDir (← currentDir)

/-! ### The script -/

/-- The contents of a file. -/
def readFile (path : Raw) : Run Raw := do contentOf (← openOrFail path .read)

/-- What is said at the end of a script that does not want to end there. -/
def farewell : Raw := "\nUse \"exit\" to leave shell.\n".toList

/-- Run a script up to the end of its text. -/
def runScript (ev : Evaluator) (content : Raw) : Run Unit := do
  discard (runFile ev content)
  if ← isOn .ignoreeof then printError (List.replicate 50 farewell).flatten

/-- Run a file of the user's before the script, if there is one. -/
def runProfile (ev : Evaluator) (path : Raw) : Run Unit := do
  let s ← get
  match s.world.machine.files.resolve s.here path with
  | .ok place => discard (runFile ev (.ofBytes ((s.world.machine.files.bytes? place).getD [])))
  | .error _ => pure ()

/-- Run those files if the shell is the first one of a user. -/
def runProfiles (ev : Evaluator) (isLogin : Bool) : Run Unit := do
  if isLogin then
    runProfile ev "/etc/profile".toList
    runProfile ev ((← value? "HOME".toList).getD [] ++ "/.profile".toList)

/-- Run the script that the arguments of the script runner ask for. -/
def begin (ev : Evaluator) (argv vars : List Raw) : Run Unit := do
  importVariables vars
  match argv with
  | name :: _ => modify ({ · with name })
  | [] => pure ()
  let asked ← settings true argv.length {} (argv.drop 1)
  discard flush
  if ← isOn .interactive then switch .monitor true
  let named (names : List Raw) : Run Unit :=
    match names with
    | name :: args => modify ({ · with name, args })
    | [] => pure ()
  match asked.isCommand, asked.rest with
  | true, [] => fail "-c requires an argument".toList
  | true, text :: names =>
    named names
    refuseJobControl
    runProfiles ev asked.isLogin
    let readsInput ← isOn .stdin
    discard (runText ev text false !readsInput)
    if readsInput then runScript ev (← readAll 0)
  | false, rest =>
    if rest = [] ∨ (← isOn .stdin) then
      switch .stdin true
      modify ({ · with args := rest })
      refuseJobControl
      runProfiles ev asked.isLogin
      runScript ev (← readAll 0)
    else
      let content ← readFile (rest.headD [])
      named rest
      refuseJobControl
      runProfiles ev asked.isLogin
      runScript ev content

end Run

end Script

end LineShell
