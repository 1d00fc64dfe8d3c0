import LineShell.Text.Raw

/-!
# Scripts

What a script says, once it has been read: words made of parts that are still to be given values,
redirections, and commands that are built of other commands. A word may hold a command, whose output
it stands for, so words and commands are defined together.
-/

namespace LineShell

namespace Script

/-- What of a parameter is taken. Where `orEmpty` is set, an empty value counts as none. -/
inductive ParameterForm
  | value
  /-- The number of its bytes. -/
  | length
  /-- The value, or a word if there is none. -/
  | default (orEmpty : Bool)
  /-- Nothing if there is no value, and a word otherwise. -/
  | alternative (orEmpty : Bool)
  /-- The value, or a word, which then becomes the value. -/
  | assign (orEmpty : Bool)
  /-- The value, or a complaint that a word gives. -/
  | demand (orEmpty : Bool)
  /-- The value without a part at its front that a pattern matches. -/
  | withoutFront (longest : Bool)
  /-- The value without a part at its end that a pattern matches. -/
  | withoutEnd (longest : Bool)
  /-- A form that there is not. -/
  | invalid
  deriving DecidableEq, Repr

/-- How a redirection opens a file. -/
inductive OpenMode
  | read
  | write
  /-- As `write`, even if files are otherwise protected. -/
  | overwrite
  | append
  | readWrite
  deriving DecidableEq, Repr

mutual

/-- A part of a word. -/
inductive Part
  /-- A character, which stands for itself if it is escaped. -/
  | char (c : Char) (escaped : Bool)
  /-- A quote, which opens or closes a quoted stretch. -/
  | quote
  | parameter (name : Raw) (form : ParameterForm) (word : List Part)
  /-- The output of a command. -/
  | command (body : Node)
  /-- The value of an arithmetic expression. -/
  | arithmetic (expression : List Part)

/-- A change to the streams of a command. -/
inductive Redirection
  | file (stream : Nat) (mode : OpenMode) (target : List Part)
  /-- The stream becomes a second name of another one, or is closed. -/
  | duplicate (stream : Nat) (source : List Part)
  /-- The stream is read from a document, known by its number. -/
  | document (stream : Nat) (number : Nat)

/-- A command. -/
inductive Node
  | nothing
  | simple (line : Nat) (assignments words : List (List Part)) (redirections : List Redirection)
  | pipeline (commands : List Node) (background : Bool)
  | redirected (line : Nat) (body : Node) (redirections : List Redirection)
  | background (line : Nat) (body : Node) (redirections : List Redirection)
  | subshell (line : Nat) (body : Node) (redirections : List Redirection)
  /-- The second command runs if the first one succeeds. -/
  | both (first second : Node)
  /-- The second command runs if the first one fails. -/
  | either (first second : Node)
  | sequence (commands : List Node)
  | inverted (body : Node)
  | choice (test positive negative : Node)
  | loop (isUntil : Bool) (test body : Node)
  | each (line : Nat) (variableName : Raw) (items : List (List Part)) (body : Node)
  | select (line : Nat) (subject : List Part) (branches : List (List (List Part) × Node))
  | define (line : Nat) (name : Raw) (body : Node)

end

/-- A word before its parts are given values. -/
abbrev Word := List Part

instance : Inhabited Node := ⟨.nothing⟩

/-- A document that a stream can be read from. -/
structure Document where
  text : Word
  /-- Its parts are to be given values. -/
  expands : Bool

/-- The text of a word of unescaped characters only. -/
def Word.plain? : Word → Option Raw
  | [] => some []
  | .char c false :: rest => (Word.plain? rest).map (c :: ·)
  | _ => none

/-- The characters of a word, with quotes and escapes gone. -/
def Word.unquoted (w : Word) : Raw :=
  w.filterMap fun
    | .char c _ => some c
    | _ => none

/-! ### Names -/

/-- A character that a name may begin with. -/
def isNameStart (c : Char) : Bool := ('a' ≤ c && c ≤ 'z') || ('A' ≤ c && c ≤ 'Z') || c == '_'

/-- A character that a name may go on with. -/
def isNameChar (c : Char) : Bool := isNameStart c || c.isDigit

/-- The length of the name at the front of a text. -/
def nameLength (t : Raw) : Nat :=
  if t.head?.any isNameStart then (t.takeWhile isNameChar).length else 0

/-- The text is a name. -/
def isName (t : Raw) : Bool := t ≠ [] && nameLength t == t.length

/-- The name and the value of an assignment that a text makes. -/
def assignment? (t : Raw) : Option (Raw × Raw) :=
  let n := nameLength t
  match n, t.drop n with
  | 0, _ => none
  | _, '=' :: value => some (t.take n, value)
  | _, _ => none

/-- The name that a word assigns to, and the word for its value. -/
def Word.assignment? (w : Word) : Option (Raw × Word) :=
  let front := w.takeWhile fun
    | .char c false => isNameChar c
    | _ => false
  let name := Word.unquoted front
  if name.head?.any isNameStart then
    match w.drop front.length with
    | .char '=' false :: value => some (name, value)
    | _ => none
  else none

end Script

end LineShell
