import LineShell.Script.Shell

/-!
# The streams of a process

Reading and writing by the number of a stream, opening files, and the complaints of a script, which
go to its error stream in the name of the script and of the line that it has got to.
-/

namespace LineShell

namespace Script

/-- A change to one stream, its target known. -/
inductive StreamChange
  | file (stream : Nat) (mode : OpenMode) (path : Raw)
  /-- The stream becomes another name of a stream, or of nothing. -/
  | duplicate (stream : Nat) (source : Option Nat)
  | document (stream : Nat) (number : Nat)

/-- The stream that is changed. -/
def StreamChange.stream : StreamChange → Nat
  | file stream _ _ | duplicate stream _ | document stream _ => stream

namespace Run

/-- Change the world. -/
def modifyWorld (f : World → World) : Run Unit := modify fun s ↦ { s with world := f s.world }

/-- Change the files of the machine. -/
def modifyFiles (f : Files → Files) : Run Unit :=
  modifyWorld fun w ↦ { w with machine := { w.machine with files := f w.machine.files } }

/-- The files of the machine. -/
def files : Run Files := return (← get).world.machine.files

/-! ### Reading and writing -/

/-- The open file of a stream, and its number. -/
def openFile? (stream : Nat) : Run (Option (Nat × OpenFile)) := do
  let s ← get
  match s.streams.find? (·.1 = stream) with
  | some (_, number) => return (s.world.files[number]?).map fun file ↦ (number, file)
  | none => return none

/-- A text with another one written over it from some position on. -/
def overwrite (old : Raw) (offset : Nat) (t : Raw) : Raw :=
  let front := old.take offset
  front ++ List.replicate (offset - front.length) '\x00' ++ t ++ old.drop (offset + t.length)

/-- Write to a stream. Nothing is written to no effect. -/
def write (stream : Nat) (t : Raw) : Run (Except Errno Unit) := do
  if t = [] then return .ok ()
  match ← openFile? stream with
  | none => return .error .badDescriptor
  | some (number, file) =>
    if !file.writable then return .error .badDescriptor
    match file.channel with
    | .output =>
      if (← get).world.machine.outputFull then return .error .noSpace
      modifyWorld fun w ↦ { w with printed := t :: w.printed }
      return .ok ()
    | .errors =>
      modifyWorld fun w ↦
        { w with machine := { w.machine with errors := w.machine.errors ++ t.bytes } }
      return .ok ()
    | .device room => return if room then .ok () else .error .noSpace
    | .pipe number =>
      modifyWorld fun w ↦ { w with pipes := w.pipes.modify number (·.add t) }
      let s ← get
      if s.world.pipes[number]?.any (·.size > Pipe.patience) then throw (.gone (.killed 13 false))
      return .ok ()
    | .file place appends =>
      match (← files).entryAt? place with
      | some (.file mode (.bytes old)) =>
        let offset := if appends then old.length else file.offset
        let content := overwrite (.ofBytes old) offset t
        modifyFiles (·.put place (.file mode (.bytes content.bytes)))
        modifyWorld fun w ↦
          { w with files := w.files.modify number ({ · with offset := offset + t.length }) }
        return .ok ()
      | _ => return .ok ()
    | .input | .directory => return .error .badDescriptor

/-- Read one byte from a stream: `none` at its end. -/
def readChar (stream : Nat) : Run (Except Errno (Option Char)) := do
  match ← openFile? stream with
  | none => return .error .badDescriptor
  | some (number, file) =>
    if !file.readable then return .error .badDescriptor
    match file.channel with
    | .input =>
      let input := (← get).world.machine.input
      modifyWorld fun w ↦ { w with machine := { w.machine with input := w.machine.input.drop 1 } }
      return .ok (input.head?.map fun b ↦ Char.ofNat b.toNat)
    | .pipe number =>
      let (c, pipe) := ((← get).world.pipes[number]?.getD {}).next
      modifyWorld fun w ↦ { w with pipes := w.pipes.modify number fun _ ↦ pipe }
      return .ok c
    | .file place _ =>
      let content := ((← files).bytes? place).getD []
      modifyWorld fun w ↦
        { w with files := w.files.modify number ({ · with offset := file.offset + 1 }) }
      return .ok ((content.drop file.offset).head?.map fun b ↦ Char.ofNat b.toNat)
    | .device _ => return .ok none
    | .directory => return .error .isDirectory
    | .output | .errors => return .error .badDescriptor

/-- Read all that is left of an open file. -/
def contentOf (number : Nat) : Run Raw := do
  match (← get).world.files[number]?.map OpenFile.channel with
  | some .input =>
    let input := (← get).world.machine.input
    modifyWorld fun w ↦ { w with machine := { w.machine with input := [] } }
    return .ofBytes input
  | some (.pipe pipe) =>
    let content := ((← get).world.pipes[pipe]?.getD {}).content
    modifyWorld fun w ↦ { w with pipes := w.pipes.modify pipe fun _ ↦ {} }
    return content
  | some (.file place _) =>
    let offset := (← get).world.files[number]?.elim 0 (·.offset)
    let content := ((← files).bytes? place).getD []
    modifyWorld fun w ↦
      { w with files := w.files.modify number ({ · with offset := content.length }) }
    return .ofBytes (content.drop offset)
  | _ => return []

/-- Read all that is left on a stream. -/
def readAll (stream : Nat) : Run Raw := do
  match ← openFile? stream with
  | none => return []
  | some (number, _) => contentOf number

/-! ### Output and complaints -/

/-- Hold output of the running command back, until it is passed on. -/
def print (t : Raw) : Run Unit := modify fun s ↦ { s with held := s.held ++ t }

/-- Hold a line of output back. -/
def printLine (t : Raw) : Run Unit := print (t ++ ['\n'])

/-- Pass held output on, and say whether that worked. -/
def flush : Run Bool := do
  let held := (← get).held
  modify ({ · with held := [] })
  match ← write 1 held with
  | .ok () => return true
  | .error _ => return false

/-- Write to the error stream. -/
def printError (t : Raw) : Run Unit := discard (write 2 t)

/-- Complain: the script, the line and the running command are named. -/
def warn (message : Raw) : Run Unit := do
  let s ← get
  let command := s.command.elim [] (· ++ ": ".toList)
  printError (s.name ++ ": ".toList ++ Text.decimal s.line ++ ": ".toList ++ command ++ message ++
    ['\n'])

/-- Complain and give the process up for an error. -/
def fail {α : Type} (message : Raw) : Run α := do
  setStatus 2
  warn message
  discard flush
  throw .error

/-- Complain that a text is no number. -/
def failNumber {α : Type} (t : Raw) : Run α := fail ("Illegal number: ".toList ++ t)

/-- The natural number that a text has to be. -/
def count (t : Raw) : Run Nat :=
  match Number.count? t with
  | some n => return n
  | none => failNumber t

/-! ### Opening -/

/-- Add an open file to the world, and give its number. -/
def addFile (file : OpenFile) : Run Nat := do
  let number := (← get).world.files.size
  modifyWorld fun w ↦ { w with files := w.files.push file }
  return number

/-- Open a file of the machine. -/
def openPath (path : Raw) (mode : OpenMode) : Run (Except Errno Nat) := do
  let s ← get
  let fs ← files
  let channelAt (place : Place) : Channel :=
    match fs.entryAt? place with
    | some (.directory _) => .directory
    | some (.device room) => .device room
    | _ => .file place (mode = .append)
  match mode with
  | .read =>
    match fs.resolve s.here path with
    | .error e => return .error e
    | .ok place => return .ok (← addFile ⟨channelAt place, true, false, 0⟩)
  | _ =>
    match fs.resolveNew s.here path with
    | .error e => return .error e
    | .ok place =>
      match fs.entryAt? place with
      | some (.directory _) => return .error .isDirectory
      | some (.file bits (.bytes _)) =>
        let guarded := mode = .write && s.flags.contains .noclobber
        if guarded then return .error .alreadyThere
        if mode = .write ∨ mode = .overwrite then
          modifyFiles (·.put place (.file bits (.bytes [])))
      | some _ => pure ()
      | none => modifyFiles (·.put place (.file (0o666 &&& (0o777 ^^^ s.mask)) (.bytes [])))
      return .ok (← addFile ⟨channelAt place, mode = .readWrite, true, 0⟩)

/-- Open a file of the machine, or complain. -/
def openOrFail (path : Raw) (mode : OpenMode) : Run Nat := do
  match ← openPath path mode with
  | .ok number => return number
  | .error e =>
    let (verb, missing) :=
      if mode = .read then ("open ", "No such file") else ("create ", "Directory nonexistent")
    let cause :=
      match e with
      | .noEntry | .notDirectory => missing.toList
      | e => e.message
    fail ("cannot ".toList ++ verb.toList ++ path ++ ": ".toList ++ cause)

/-- Make a stream a name of an open file, or of nothing. -/
def setStream (stream : Nat) (number : Option Nat) : Run Unit := modify fun s ↦
  let others := s.streams.filter (·.1 ≠ stream)
  { s with streams := number.toList.map (fun n ↦ (stream, n)) ++ others }

/-- Make a pipe that holds a text, and give the open file that it is read from. -/
def addPipe (t : Raw) : Run (Nat × Nat) := do
  let number := (← get).world.pipes.size
  modifyWorld fun w ↦ { w with pipes := w.pipes.push { ready := t } }
  return (← addFile ⟨.pipe number, true, false, 0⟩, ← addFile ⟨.pipe number, false, true, 0⟩)

/-- Carry out a change of a stream. The text of a document is given by `document`. A stream that is
to be put back afterwards is closed before it becomes a name of another one. -/
def change (document : Nat → Run Raw) (passing : Bool) : StreamChange → Run Unit
  | .file stream mode path => do setStream stream (some (← openOrFail path mode))
  | .document stream number => do
    let (readEnd, _) ← addPipe (← document number)
    setStream stream (some readEnd)
  | .duplicate stream none => setStream stream none
  | .duplicate stream (some source) => do
    if stream ≠ source then
      match ← openFile? source with
      | some (number, _) => setStream stream (some number)
      | none =>
        if passing then setStream stream none
        fail (Text.decimal source ++ ": ".toList ++ Errno.badDescriptor.message)

/-- The open files of the streams that are about to be changed. -/
def bindings (changes : List StreamChange) : Run (List (Nat × Option Nat)) := do
  let s ← get
  return changes.map fun c ↦ (c.stream, (s.streams.find? (·.1 = c.stream)).map (·.2))

/-- Put streams back. -/
def restore (saved : List (Nat × Option Nat)) : Run Unit :=
  saved.forM fun (stream, number) ↦ setStream stream number

end Run

end Script

end LineShell
