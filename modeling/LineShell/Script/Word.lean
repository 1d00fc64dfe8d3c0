import LineShell.Script.Reader

/-!
# Reading words

A word is put together character by character. How a character is read depends on the innermost
quotes and substitutions that it stands in: these are kept as levels, one for each change of the
rules, and the parts of a substitution are collected until it is closed. The text of a document is
read in the same way, as if it stood between double quotes.
-/

namespace LineShell

namespace Script

/-- The rules by which characters are read. -/
inductive Quoting
  | bare
  | double
  | single
  | arithmetic
  deriving DecidableEq, Repr

/-- What a character is under some rules. -/
inductive CharRole
  | plain
  /-- A character that would have a meaning of its own if it were not quoted. -/
  | guarded
  | newline
  | backslash
  | singleQuote
  | doubleQuote
  | endQuote
  | dollar
  | backquote
  | closeBrace
  | openParen
  | closeParen
  /-- A character that ends a word. -/
  | boundary

/-- What a character is under some rules. -/
def Quoting.role (quoting : Quoting) (c : Char) : CharRole :=
  let isGuarded := "!*?[=~:/-]".toList.contains c
  if c = '\n' then .newline
  else
    match quoting with
    | .bare =>
      if c = '\\' then .backslash
      else if c = '\'' then .singleQuote
      else if c = '"' then .doubleQuote
      else if c = '\x60' then .backquote
      else if c = '$' then .dollar
      else if c = '\x7d' then .closeBrace
      else if "<>();&| \t".toList.contains c then .boundary
      else .plain
    | .double =>
      if c = '\\' then .backslash
      else if c = '"' then .endQuote
      else if c = '\x60' then .backquote
      else if c = '$' then .dollar
      else if c = '\x7d' then .closeBrace
      else if isGuarded then .guarded
      else .plain
    | .single => if c = '\'' then .endQuote else if isGuarded || c == '\\' then .guarded else .plain
    | .arithmetic =>
      if c = '\\' then .backslash
      else if c = '\x60' then .backquote
      else if c = '$' then .dollar
      else if c = '\x7d' then .closeBrace
      else if c = '(' then .openParen
      else if c = ')' then .closeParen
      else .plain

/-- The rules in force, and the substitutions that have been opened under them. -/
structure Level where
  quoting : Quoting
  /-- What is read is quoted by double quotes, or by what counts as such. -/
  double : Bool
  /-- The parameters that are open. -/
  nesting : Nat := 0
  /-- Those of them that were opened between double quotes. -/
  doubleNesting : Nat := 0
  /-- An open parameter has quotes of its own open. -/
  innerDouble : Bool := false
  /-- The level was begun for a parameter and ends with it. -/
  forParameter : Bool := false
  parens : Nat := 0

/-- A substitution that has been opened. -/
inductive Opened
  | parameter (name : Raw) (form : ParameterForm)
  | arithmetic

/-- A word in the making. -/
structure Assembly where
  /-- The parts of the innermost substitution, the last one first. -/
  parts : Word := []
  /-- The open substitutions, the innermost one first, each with the parts before it. -/
  opened : List (Opened × Word) := []
  level : Level
  outer : List Level := []
  quoted : Bool := false

namespace Assembly

/-- Put a part behind a word. -/
def push (a : Assembly) (p : Part) : Assembly := { a with parts := p :: a.parts }

/-- Put a character behind a word. -/
def pushChar (a : Assembly) (c : Char) (escaped : Bool) : Assembly := a.push (.char c escaped)

/-- Open a substitution. -/
def enter (a : Assembly) (o : Opened) : Assembly :=
  { a with parts := [], opened := (o, a.parts) :: a.opened }

/-- Close the innermost substitution. -/
def leave (a : Assembly) : Assembly :=
  match a.opened with
  | (.parameter name form, before) :: opened =>
    { a with parts := .parameter name form a.parts.reverse :: before, opened }
  | (.arithmetic, before) :: opened =>
    { a with parts := .arithmetic a.parts.reverse :: before, opened }
  | [] => a

/-- Go on under other rules. -/
def pushLevel (a : Assembly) (level : Level) : Assembly :=
  { a with level, outer := a.level :: a.outer }

/-- Go back to the rules before. -/
def popLevel (a : Assembly) : Assembly :=
  match a.outer with
  | level :: outer => { a with level, outer }
  | [] => a

end Assembly

/-- What is being read: a word, or a document up to the line that is its mark. -/
inductive Goal
  | word
  | document (d : AnnouncedDocument)

/-- A document is being read. -/
def Goal.isDocument : Goal → Bool
  | word => false
  | document _ => true

namespace Read

/-! ### Parameters -/

/-- A parameter that is named by a character other than a letter or a digit. -/
def isSpecial (c : Char) : Bool := "!$*@#?-".toList.contains c

/-- Read the name of a parameter that begins with a letter or a digit. -/
def ordinaryName (braced : Bool) (c : Char) : Read Raw := do
  if isNameStart c then acceptWhile isNameChar
  else if braced then acceptWhile Char.isDigit
  else
    advance
    return [c]

/-- Read what of a parameter is to be taken, behind its name. Reading goes on between braces unless
the value is taken as it is. -/
def parameterForm : Read ParameterForm := do
  let orEmpty ← accept ':'
  match ← peekJoined with
  | some c =>
    if !orEmpty && (c = '%' || c = '#') then
      advance
      let longest ← accept c
      return if c = '#' then .withoutFront longest else .withoutEnd longest
    else
      advanceInLine
      match c with
      | '\x7d' => return .value
      | '-' => return .default orEmpty
      | '+' => return .alternative orEmpty
      | '?' => return .demand orEmpty
      | '=' => return .assign orEmpty
      | _ => return .invalid
  | none => return .invalid

/-- Read the name of a parameter between braces, and what of it is to be taken. The answer also says
whether the closing brace is still to be read. -/
def bracedParameter : Read (Raw × ParameterForm × Bool) := do
  let formBehind (name : Raw) : Read (Raw × ParameterForm × Bool) := do
    let colon := (← peekJoined) = some ':'
    let form ← parameterForm
    return (name, form, form ≠ .value || colon)
  match ← peekJoined with
  | none => return ([], .invalid, true)
  | some c =>
    if isNameStart c || c.isDigit then formBehind (← ordinaryName true c)
    else if c = '\x7d' then return ([], .invalid, true)
    else if c = '#' then
      advance
      match ← peekJoined with
      | some d =>
        if isNameStart d || d.isDigit then
          let name ← ordinaryName true d
          if (← peekJoined) = some '\x7d' then return (name, .length, true)
          else return (name, .invalid, true)
        else if d ≠ '\x7d' && isSpecial d then
          let before ← get
          advance
          if (← peekJoined) = some '\x7d' then return ([d], .length, true)
          else
            set before
            formBehind ['#']
        else formBehind ['#']
      | none => formBehind ['#']
    else if isSpecial c then
      advance
      formBehind [c]
    else
      advanceInLine
      return ([], .invalid, true)

/-- Open a parameter: its word is read under the rules of the place where it stands, but a pattern
always under those of bare words. -/
def openParameter (a : Assembly) (name : Raw) (form : ParameterForm) : Assembly :=
  let quoting : Quoting :=
    match form, a.level.quoting with
    | .withoutFront _, _ | .withoutEnd _, _ => .bare
    | _, .arithmetic => .double
    | _, quoting => quoting
  let a :=
    if quoting ≠ a.level.quoting ∨ a.level.innerDouble then
      a.pushLevel { quoting, double := quoting ≠ .bare, forParameter := true }
    else a
  let level := a.level
  let level :=
    { level with
      nesting := level.nesting + 1
      doubleNesting := level.doubleNesting + if level.double then 1 else 0 }
  { a with level }.enter (.parameter name form)

/-! ### Commands in words -/

/-- Read a command up to the closing parenthesis. Documents that it announces and does not hold are
empty. -/
def parenthesized (commands : Read Node) (next : Read Token) : Read Node := do
  let announced := (← get).announced
  modify ({ · with announced := [] })
  let body ← commands
  if (← next) ≠ .closeParen then unexpected (some .closeParen)
  modify fun r ↦
    { r with
      documents := r.announced.map (fun d ↦ (d.number, ⟨[], d.expands⟩)) ++ r.documents
      announced
      again := false }
  return body

/-- Read the text up to the closing backquote. A backslash goes with the character behind it and is
left out before a backslash, a backquote and a dollar sign, and between double quotes before a
double quote. -/
def backquotedText (double : Bool) : Read Raw := do
  let ending {α : Type} : Read α := fail "EOF in backquote substitution".toList
  let reversed ← iterate (fun (taken : Raw) ↦ do
    match ← peekJoined with
    | none => ending
    | some '\x60' =>
      advance
      return .done taken
    | some '\\' =>
      advance
      match ← peek with
      | none => ending
      | some c =>
        advance
        let vanishes := c = '\\' || c = '\x60' || c = '$' || (double && c = '"')
        return .more (if vanishes then c :: taken else c :: '\\' :: taken)
    | some c =>
      advance
      return .more (c :: taken)) []
  return reversed.reverse

/-- Read a command out of a text of its own. -/
def commandOf (commands : Read Node) (t : Raw) : Read Node := do
  let outside ← get
  set { outside with rest := t, outer := [], line := 1, announced := [], again := false }
  let body ← commands
  modify fun inside ↦
    { outside with
      expects := inside.expects, token := inside.token, word := inside.word, quoted := inside.quoted
      documents := inside.documents, nextDocument := inside.nextDocument }
  return body

/-- Read what a dollar sign begins. -/
def substitution (commands : Read Node) (next : Read Token) (a : Assembly) : Read Assembly := do
  advance
  let literal := a.pushChar '$' false
  if (← get).expects.endMark then return literal
  match ← peekJoined with
  | some '(' =>
    advance
    if ← accept '(' then
      return (a.pushLevel { quoting := .arithmetic, double := true }).enter .arithmetic
    else return a.push (.command (← parenthesized commands next))
  | some '\x7b' =>
    advance
    let (name, form, isOpen) ← bracedParameter
    if isOpen then return openParameter a name form
    else return a.push (.parameter name form [])
  | some c =>
    if isNameStart c || c.isDigit then
      return a.push (.parameter (← ordinaryName false c) .value [])
    else if isSpecial c then
      advance
      return a.push (.parameter [c] .value [])
    else return literal
  | none => return literal

/-! ### Words -/

/-- At the front of a line of a document: whether the line is the mark at its end, which is then
read. -/
def atMark (goal : Goal) : Read Bool := do
  match goal with
  | .word => return false
  | .document d =>
    if d.stripTabs then modify fun r ↦ { r with rest := r.rest.dropWhile (· == '\t') }
    let line := (← get).rest.takeWhile (· ≠ '\n')
    if line = d.mark then
      modify fun r ↦ { r with rest := r.rest.drop (line.length + 1), line := r.line + 1 }
      return true
    else return false

/-- Read one more character of a word, or find that it has come to its end. -/
def wordStep (commands : Read Node) (next : Read Token) (goal : Goal) (a : Assembly) :
    Read (Progress Assembly Assembly) := do
  let level := a.level
  let inDocument := goal.isDocument
  let quote (a : Assembly) : Assembly := if inDocument then a else a.push .quote
  let toggle (a : Assembly) : Assembly :=
    let level := a.level
    quote { a with level :=
      if level.nesting > 0 then { level with innerDouble := !level.innerDouble } else level }
  match ← if level.quoting = .single then peek else peekJoined with
  | none => return .done a
  | some c =>
    match level.quoting.role c with
    | .newline =>
      if level.quoting = .bare ∧ level.nesting = 0 then return .done a
      else
        advance
        let a := a.pushChar c false
        if level.quoting ≠ .single then discard peekJoined
        return if ← atMark goal then .done a else .more a
    | .plain =>
      advance
      return .more (a.pushChar c false)
    | .guarded =>
      advance
      return .more (a.pushChar c (!inDocument || level.double || level.nesting > 0))
    | .backslash =>
      advance
      match ← peek with
      | none => return .more (a.pushChar '\\' true)
      | some c =>
        advance
        let stays := level.double && c ≠ '\\' && c ≠ '\x60' && c ≠ '$' &&
          (c ≠ '"' || (inDocument && level.nesting = 0)) && (c ≠ '\x7d' || level.nesting = 0)
        let a := if stays then a.pushChar '\\' true else a
        return .more { a.pushChar c true with quoted := true }
    | .singleQuote =>
      advance
      return .more (quote { a with level := { level with quoting := .single } })
    | .doubleQuote =>
      advance
      return .more (toggle { a with level := { level with quoting := .double, double := true } })
    | .endQuote =>
      advance
      if inDocument ∧ level.nesting = 0 then return .more (a.pushChar c false)
      else
        let level :=
          if level.doubleNesting = 0 then { level with quoting := .bare, double := false }
          else level
        let a := { a with level, quoted := true }
        return .more (if c = '"' then toggle a else quote a)
    | .dollar => return .more (← substitution commands next a)
    | .backquote =>
      advance
      if (← get).expects.endMark then return .more (a.pushChar c false)
      else return .more (a.push (.command (← commandOf commands (← backquotedText level.double))))
    | .closeBrace =>
      advance
      if level.innerDouble ∨ level.nesting = 0 then return .more (a.pushChar c false)
      else
        let a := a.leave
        let nesting := level.nesting - 1
        if nesting = 0 ∧ level.forParameter then return .more a.popLevel
        else
          let doubleNesting := level.doubleNesting - 1
          return .more { a with level := { level with nesting, doubleNesting } }
    | .openParen =>
      advance
      return .more { a.pushChar c false with level := { level with parens := level.parens + 1 } }
    | .closeParen =>
      advance
      if level.parens > 0 then
        return .more { a.pushChar c false with level := { level with parens := level.parens - 1 } }
      else if ← accept ')' then return .more a.leave.popLevel
      else return .more (a.pushChar c false)
    | .boundary =>
      if level.nesting = 0 then return .done a
      else
        advance
        return .more (a.pushChar c false)

/-- Read characters up to the end of a word or a document. -/
def assemble (commands : Read Node) (next : Read Token) (goal : Goal) (level : Level) :
    Read Assembly := do
  let start : Assembly := { level }
  if level.quoting ≠ .single ∧ goal.isDocument then discard peekJoined
  let a ← if ← atMark goal then pure start else iterate (wordStep commands next goal) start
  if a.level.quoting = .arithmetic then fail "Missing '))'".toList
  if a.level.quoting ≠ .bare ∧ !goal.isDocument then fail "Unterminated quoted string".toList
  if a.level.nesting ≠ 0 then fail "Missing '\x7d'".toList
  return a

/-- Read the operator of a redirection, on a stream that is named before it. -/
def redirectionOperator (stream : Option Nat) : Read (Nat × RedirectionKind) := do
  if ← accept '>' then
    let stream := stream.getD 1
    if ← accept '>' then return (stream, .open .append)
    else if ← accept '|' then return (stream, .open .overwrite)
    else if ← accept '&' then return (stream, .duplicate)
    else return (stream, .open .write)
  else
    advance
    let stream := stream.getD 0
    if ← accept '<' then return (stream, .document (← accept '-'))
    else if ← accept '&' then return (stream, .duplicate)
    else if ← accept '>' then return (stream, .open .readWrite)
    else return (stream, .open .read)

/-- Read a word, or a redirection operator if one comes before any word does. -/
def wordToken (commands : Read Node) (next : Read Token) : Read Token := do
  let a ← assemble commands next .word { quoting := .bare, double := false }
  let stream? : Option (Option Nat) :=
    match a.parts with
    | [] => some none
    | [.char c false] => if c.isDigit then some (some (c.toNat - '0'.toNat)) else none
    | _ => none
  match stream?, a.quoted, ← peek with
  | some stream, false, some '<' | some stream, false, some '>' =>
    let operator ← redirectionOperator stream
    modify ({ · with operator })
    return .redirection
  | _, _, _ =>
    modify ({ · with word := a.parts.reverse, quoted := a.quoted })
    return .word

/-- Read the text of a document. -/
def documentText (commands : Read Node) (next : Read Token) (d : AnnouncedDocument) :
    Read Unit := do
  let level : Level :=
    if d.expands then { quoting := .double, double := true }
    else { quoting := .single, double := false }
  let a ← assemble commands next (.document d) level
  let document : Document := ⟨a.parts.reverse, d.expands⟩
  modify fun r ↦ { r with documents := (d.number, document) :: r.documents }

end Read

end Script

end LineShell
