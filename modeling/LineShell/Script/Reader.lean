import LineShell.Script.Syntax

/-!
# The text of a script as it is read

A `Reader` is a position in the text of a script, with what has to be remembered there: the line,
the token that was read last, whether it is to be read again, and the documents that are announced
and still to come. The text of an alias is read in the place of its name, in front of what is left;
it is not read again inside itself.

A newline that a backslash stands before is no character of the script, except between single
quotes.
-/

namespace LineShell

namespace Script

/-- A token of a script. -/
inductive Token
  | endOfInput | newline | semicolon | ampersand | andIf | orIf | bar
  | openParen | closeParen | endOfBranch
  | redirection
  | word
  | keyword (text : String)
  deriving DecidableEq, Repr

/-- A token as it is named in complaints. -/
def Token.shown : Token → Raw
  | endOfInput => "end of file".toList
  | newline => "newline".toList
  | semicolon => "\";\"".toList
  | ampersand => "\"&\"".toList
  | andIf => "\"&&\"".toList
  | orIf => "\"||\"".toList
  | bar => "\"|\"".toList
  | openParen => "\"(\"".toList
  | closeParen => "\")\"".toList
  | endOfBranch => "\";;\"".toList
  | redirection => "redirection".toList
  | word => "word".toList
  | keyword text => '"' :: text.toList ++ ['"']

/-- The words that have a meaning of their own where a command may begin. -/
def keywords : List String :=
  ["!", "case", "do", "done", "elif", "else", "esac", "fi", "for", "if", "in", "then", "until",
    "while", "\x7b", "\x7d"]

/-- A keyword that ends a list of commands. -/
def endsList : Token → Bool
  | .endOfInput | .endOfBranch | .closeParen => true
  | .keyword text => ["do", "done", "elif", "else", "esac", "fi", "then", "\x7d"].contains text
  | _ => false

/-- What to look for when the next token is read. -/
structure Expectation where
  /-- Newlines are passed over. -/
  pastNewlines : Bool := false
  keywords : Bool := false
  aliases : Bool := false
  /-- The token marks the end of a document: nothing in it is to be given a value. -/
  endMark : Bool := false

/-- What a redirection operator says. -/
inductive RedirectionKind
  | open (mode : OpenMode)
  | duplicate
  | document (stripTabs : Bool)

/-- A document that has been announced. -/
structure AnnouncedDocument where
  number : Nat
  mark : Raw
  stripTabs : Bool
  expands : Bool

/-- A text that is read on when the text of an alias has come to its end. -/
structure Interrupted where
  aliasName : Raw
  /-- The text of the alias ends in a blank, so the next word may be an alias too. -/
  continues : Bool
  rest : Raw

/-- A position in a script. -/
structure Reader where
  rest : Raw
  outer : List Interrupted := []
  line : Nat := 1
  expects : Expectation := {}
  /-- The last token. -/
  token : Token := .newline
  /-- It is to be read again. -/
  again : Bool := false
  /-- The last word. -/
  word : Word := []
  /-- Some of that word was quoted. -/
  quoted : Bool := false
  /-- The last redirection operator, with the number of its stream. -/
  operator : Nat × RedirectionKind := (0, .duplicate)
  announced : List AnnouncedDocument := []
  /-- The documents that have been read, by their numbers. -/
  documents : List (Nat × Document) := []
  nextDocument : Nat := 0
  aliases : List (Raw × Raw) := []

/-- What is wrong with a script, and on which line. -/
structure SyntaxError where
  line : Nat
  message : Raw

/-- Reading. -/
abbrev Read := EStateM SyntaxError Reader

/-- Where a loop stands. -/
inductive Progress (α β : Type)
  | more (a : α)
  | done (b : β)

namespace Read

/-- Say that the script is wrong at the present line. -/
def fail {α : Type} (message : Raw) : Read α := do throw ⟨(← get).line, message⟩

/-- Say that the last token is wrong, and which one would have been right. -/
def unexpected {α : Type} (right : Option Token) : Read α := do
  let shown := (← get).token.shown ++ " unexpected".toList
  match right with
  | none => fail shown
  | some t => fail (shown ++ " (expecting ".toList ++ t.shown ++ [')'])

/-- Repeat a step at most so many times. -/
def iterateWithin {α β : Type} (step : α → Read (Progress α β)) : Nat → α → Read β
  | 0, _ => fail "script too long".toList
  | n + 1, a => do
    match ← step a with
    | .done b => pure b
    | .more a => iterateWithin step n a

/-- Repeat a step until it is done. Every step of a loop reads something, so there are no more of
them than there are characters left, the texts of aliases counted as often as they can be read. -/
def iterate {α β : Type} (step : α → Read (Progress α β)) (a : α) : Read β := do
  let r ← get
  let left := r.rest.length + r.outer.foldl (fun n text ↦ n + text.rest.length) 0
  let added := r.aliases.foldl (fun n a ↦ n + a.2.length) 0
  iterateWithin step ((left + 2) * (added + 1) + 2) a

/-! ### Characters -/

/-- Go on behind the texts of aliases that are used up. -/
def settle (r : Reader) : List Interrupted → Reader
  | [] => { r with outer := [] }
  | text :: outer =>
    if r.rest = [] then
      let aliases := r.expects.aliases || text.continues
      settle { r with rest := text.rest, expects := { r.expects with aliases } } outer
    else { r with outer := text :: outer }

/-- The next character, which is not read by this. -/
def peek : Read (Option Char) := do
  if (← get).rest = [] then modify fun r ↦ settle r r.outer
  return (← get).rest.head?

/-- Read one character. -/
def advance : Read Unit := modify fun r ↦
  match r.rest with
  | [] => r
  | c :: rest => { r with rest, line := if c = '\n' then r.line + 1 else r.line }

/-- Read one character without regard to lines. -/
def advanceInLine : Read Unit := modify fun r ↦ { r with rest := r.rest.drop 1 }

/-- A text behind the newlines at its front that a backslash stands before, and how many they
are. -/
def dropJoins : Raw → Raw × Nat
  | '\\' :: '\n' :: rest => let (after, n) := dropJoins rest; (after, n + 1)
  | rest => (rest, 0)

/-- The next character, lines that end in a backslash being joined. -/
def peekJoined : Read (Option Char) := do
  if (← get).rest = [] then modify fun r ↦ settle r r.outer
  modify fun r ↦
    let (rest, n) := dropJoins r.rest
    { r with rest, line := r.line + n }
  peek

/-- Read a character if it is the next one, lines being joined. -/
def accept (c : Char) : Read Bool := do
  if (← peekJoined) = some c then
    advance
    return true
  else return false

/-- Read characters as long as they are of some kind, lines being joined. -/
def acceptWhile (isGood : Char → Bool) : Read Raw := do
  let reversed ← iterate (fun (taken : Raw) ↦ do
    match ← peekJoined with
    | some c =>
      if isGood c then
        advance
        return .more (c :: taken)
      else return .done taken
    | none => return .done taken) []
  return reversed.reverse

/-- Read up to the end of the line. -/
def skipLine : Read Unit := modify fun r ↦ { r with rest := r.rest.dropWhile (· ≠ '\n') }

end Read

end Script

end LineShell
