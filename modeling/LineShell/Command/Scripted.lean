import LineShell.Command.Basic
import LineShell.Host

/-!
# Scripted commands

Commands whose run is laid down beforehand. They let a program that embeds the shell offer commands
of its own, and they can do all that a command may do to the environment: write, set variables,
move, and end with any status or fault.
-/

namespace LineShell

/-- What a scripted command answers to, and what it does, in the order of the fields. -/
structure Scripted where
  /-- The name it answers to. -/
  name : Text
  /-- A variable that has to have a value for it to answer. -/
  whenVar : Option Text
  /-- Text to be written. -/
  out : Text
  /-- The arguments are written too, with bars between them, on a line of their own. -/
  showsArgs : Bool
  /-- Variables to be set. -/
  sets : List (Text × Text)
  /-- A directory to move to, whether it exists or not. -/
  movesTo : Option Path
  /-- The end. -/
  result : Except Fault Status

namespace Scripted

variable {σ : Type}

/-- The texts that a scripted command writes, one write for each. -/
def writes (s : Scripted) (args : List Text) : List Text :=
  s.out :: if s.showsArgs then [['|'].intercalate args ++ ['\n']] else []

/-- The environment after the variables are set and the move is made. -/
def apply (s : Scripted) (env : Environment) : Environment :=
  let env := { env with vars := s.sets.foldl (fun vars (key, value) ↦ vars.set key value) env.vars }
  match s.movesTo with
  | some target => { env with dir := env.absolutize target }
  | none => env

/-- Write some texts one after another, up to the first refusal. -/
def writeTexts (out : Sink σ) : List Text → σ → Except IoError Unit × σ
  | [], w => (.ok (), w)
  | t :: rest, w =>
    match out.writeText t w with
    | (.ok (), after) => writeTexts out rest after
    | refused => refused

/-- Do what is laid down. -/
def run (s : Scripted) (args : List Text) : Command σ := fun out env w ↦
  match writeTexts out (s.writes args) w with
  | (.error e, after) => ⟨.error (.io e), env, after⟩
  | (.ok (), after) => ⟨s.result, s.apply env, after⟩

/-- The factory of a scripted command. -/
def factory (host : Host σ) (s : Scripted) : Factory σ where
  create? env w name args :=
    let wanted := s.whenVar.all fun key ↦ (env.value? (host.vars w) key).isSome
    if name = s.name ∧ wanted then some (s.run args) else none

end Scripted

end LineShell
