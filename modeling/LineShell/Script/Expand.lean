import LineShell.Script.Arithmetic
import LineShell.Script.Fields

/-!
# What words come to

The parts of a word are given their values: parameters, the output of commands, arithmetic, and home
directories. The result is a list of segments (`expand`), from which fields are made where a word
can come to several of them, and a single text where it cannot.

Words stand in words, and commands stand in words too; what these come to is left to an
`Evaluator`.
-/

namespace LineShell

namespace Script

/-- How a word is expanded. -/
structure Context where
  /-- It can come to several fields. -/
  splits : Bool := false
  /-- A tilde at its front stands for a home directory. -/
  tilde : Bool := false
  /-- It is an assignment: a tilde behind an equals sign or a colon does so too. -/
  assigns : Bool := false
  /-- The equals sign has been passed. -/
  behindEquals : Bool := false
  /-- It stands in quotes. -/
  quoted : Bool := false
  /-- It stands in a parameter. -/
  inner : Bool := false

/-- What is needed to run commands that hold other commands. -/
structure Evaluator where
  /-- Run a command. Its failure may be `tested`, and it may be the `last` one of its process. -/
  run : Node → (tested last : Bool) → Run Unit
  /-- The output of a command in a word. -/
  output : Node → Run Raw
  /-- What a word in a word comes to. -/
  expand : Context → Word → Run (List Segment)
  /-- Let the processes in the background come to their ends. -/
  settle : Run Unit

/-- The single text of some segments. -/
def segmentsText (segments : List Segment) : Raw := segments.flatMap fun s ↦ Field.text s.pieces

namespace Run

/-! ### Parameters -/

/-- The letters of the flags that are on. -/
def flagLetters : Run Raw := do
  let on := (← get).flags
  return (Flag.all.reverse.filter on.contains).filterMap (·.spelling.2)

/-- The arguments as pieces, with a cut or a character between them. -/
def joined (args : List Raw) (between : List Piece) (escaped : Bool) : List Piece :=
  between.intercalate (args.map (pieces · escaped))

/-- The value of a parameter, if it has one. -/
def parameterValue (context : Context) (name : Raw) : Run (Option (List Piece)) := do
  let s ← get
  let quoted := context.quoted
  let text (t : Raw) : Option (List Piece) := some (pieces t quoted)
  match name with
  | ['$'] => return text (Text.decimal s.rootProcess)
  | ['?'] => return text (Text.decimal s.status)
  | ['#'] => return text (Text.decimal s.args.length)
  | ['!'] => return s.lastBackground.bind fun n ↦ text (Text.decimal n)
  | ['-'] => return text (← flagLetters)
  | ['@'] | ['*'] =>
    if context.splits ∧ quoted ∧ name = ['@'] then return some (joined s.args [.cut] quoted)
    else
      match ← value? "IFS".toList with
      | none => return some (joined s.args (pieces [' '] quoted) quoted)
      | some separators =>
        if context.splits ∧ !quoted then return some (joined s.args [.cut] quoted)
        else return some (joined s.args (pieces (separators.take 1) quoted) quoted)
  | _ =>
    if name.head?.any Char.isDigit then
      match Nat.ofDigitChars 10 name 0 with
      | 0 => return text s.name
      | n + 1 => return s.args[n]?.bind text
    else return (← value? name).bind text

/-- Complain that a parameter has no value. -/
def failUnset {α : Type} (name : Raw) (message : Raw) : Run α :=
  fail (name ++ ": ".toList ++ message)

/-- How the value of a parameter is split. -/
def valueSplitting (context : Context) (name : Raw) : Run Splitting := do
  if !context.quoted then return .atSeparators
  else if name = ['@'] ∧ (← get).args ≠ [] then return .atCuts
  else return .never

/-- The segments that a parameter comes to. -/
def expandParameter (ev : Evaluator) (context : Context) (name : Raw) (form : ParameterForm)
    (word : Word) : Run (List Segment) := do
  let splitting ← valueSplitting context name
  let whole (pieces : List Piece) : List Segment := [⟨splitting, pieces⟩]
  let given (orEmpty : Bool) (value : Option (List Piece)) : Bool :=
    value.any fun v ↦ !orEmpty || v ≠ []
  let checked (value : Option (List Piece)) : Run (Option (List Piece)) := do
    if value.isNone ∧ (← isOn .nounset) then failUnset name "parameter not set".toList
    return value
  let plain : Context := { tilde := true }
  let without (removal : List PatternItem → Field → Field) : Run (List Segment) := do
    match ← checked (← parameterValue context name) with
    | none => return []
    | some value =>
      let segments ← ev.expand plain word
      let pattern := Pattern.ofRaw (Field.pattern (segments.flatMap (·.pieces)))
      return whole (removal pattern value)
  match form with
  | .invalid => fail "Bad substitution".toList
  | .value => return (← checked (← parameterValue context name)).elim [] whole
  | .length =>
    let value ← checked (← parameterValue { context with splits := false } name)
    return whole (pieces (Text.decimal (value.getD []).length) context.quoted)
  | .default orEmpty =>
    let value ← parameterValue context name
    if given orEmpty value then return whole (value.getD [])
    else ev.expand { context with tilde := true, inner := true } word
  | .alternative orEmpty =>
    if given orEmpty (← parameterValue { context with splits := false } name) then
      ev.expand { context with tilde := true, inner := true } word
    else return []
  | .assign orEmpty =>
    let value ← parameterValue context name
    if given orEmpty value then return whole (value.getD [])
    else
      setVariable name (segmentsText (← ev.expand plain word))
      return whole ((← parameterValue context name).getD [])
  | .demand orEmpty =>
    let value ← parameterValue context name
    if given orEmpty value then return whole (value.getD [])
    else
      let message := segmentsText (← ev.expand plain word)
      if word.isEmpty then
        failUnset name
          (if orEmpty then "parameter not set or null".toList else "parameter not set".toList)
      else failUnset name message
  | .withoutFront longest => without (Field.withoutFront · longest)
  | .withoutEnd longest => without (Field.withoutEnd · longest)

/-! ### Words -/

/-- The home directory of a user: that of the script's own, if no name is given. -/
def homeOf? (user : Raw) : Run (Option Raw) := do
  if user = [] then value? "HOME".toList
  else if user = "root".toList then return (← get).world.machine.accountHome.map (·.text.raw)
  else return none

/-- The name behind a tilde at the front of a word, unless something in it is quoted. -/
def tildeName? (assigns : Bool) : Word → Option Raw
  | [] => some []
  | .char c escaped :: rest =>
    if escaped then none
    else if c = '/' ∨ (c = ':' ∧ assigns) then some []
    else (tildeName? assigns rest).map (c :: ·)
  | _ => none

/-- A word in the course of its expansion. -/
structure Expansion where
  context : Context
  /-- An odd number of quotes has been passed. -/
  inQuotes : Bool := false
  /-- A tilde would stand for a home directory here. -/
  atTilde : Bool
  /-- How many characters are still to be passed over. -/
  skipped : Nat := 0
  /-- The segments, the last one first. -/
  segments : List Segment := []
  /-- The segment that fixed text is being put into, its last piece first. -/
  text : Splitting × List Piece := (.never, [])

namespace Expansion

/-- End the segment of fixed text. -/
def settle (e : Expansion) : Expansion :=
  match e.text with
  | (_, []) => e
  | (splitting, pieces) =>
    { e with segments := ⟨splitting, pieces.reverse⟩ :: e.segments, text := (.never, []) }

/-- Put segments behind an expansion. -/
def add (e : Expansion) (segments : List Segment) : Expansion :=
  let e := e.settle
  { e with segments := segments.reverse ++ e.segments, atTilde := false }

/-- Put a piece of fixed text behind an expansion. -/
def addPiece (e : Expansion) (splitting : Splitting) (p : Piece) : Expansion :=
  let e := if e.text.1 = splitting then e else e.settle
  { e with text := (splitting, p :: e.text.2), atTilde := false }

end Expansion

/-- Expand one part of a word; `rest` is what follows it. -/
def expandPart (ev : Evaluator) (e : Expansion) (part : Part) (rest : Word) : Run Expansion := do
  let context := { e.context with quoted := e.context.quoted || e.inQuotes }
  match part with
  | .char c escaped =>
    let home? ← do
      if e.atTilde ∧ c = '~' ∧ !escaped then
        match tildeName? context.assigns rest with
        | some name => pure ((← homeOf? name).map fun home ↦ (home, name.length))
        | none => pure none
      else pure none
    match home? with
    | some (home, skipped) => return { e.add [⟨.never, pieces home true⟩] with skipped }
    | none =>
      let splitting : Splitting :=
        if context.inner ∧ !context.quoted ∧ !escaped then .atSeparators else .never
      let after := e.addPiece splitting (.char c escaped)
      if escaped ∨ !context.assigns then return after
      else if c = '=' ∧ !context.behindEquals then
        return { after with atTilde := true, context := { e.context with behindEquals := true } }
      else return { after with atTilde := c = ':' }
  | .quote => return { e.addPiece .never .quote with inQuotes := !e.inQuotes }
  | .parameter name form word => return e.add (← expandParameter ev context name form word)
  | .command body =>
    let output := ((← ev.output body).reverse.dropWhile (· == '\n')).reverse
    return e.add [⟨if context.quoted then .never else .atSeparators, pieces output context.quoted⟩]
  | .arithmetic expression =>
    let value ← Arith.value (segmentsText (← ev.expand {} expression))
    let shown := pieces (Number.shown value) context.quoted
    return e.add [⟨if context.quoted then .never else .atSeparators, shown⟩]

/-- Expand the parts of a word one by one. The list of arguments between quotes of its own is no
field if there are no arguments. -/
def expandParts (ev : Evaluator) : Expansion → Word → Run Expansion
  | e, [] => return e
  | e, part :: rest => do
    if e.skipped > 0 then expandParts ev { e with skipped := e.skipped - 1 } rest
    else
      match e.inQuotes, part, rest with
      | false, .quote, .parameter ['@'] .value [] :: .quote :: _ =>
        let segments ← expandParameter ev { e.context with quoted := true } ['@'] .value []
        expandParts ev { e.add segments with skipped := 2 } rest
      | _, _, _ => expandParts ev (← expandPart ev e part rest) rest

/-- The segments that a word comes to. -/
def expand (ev : Evaluator) (context : Context) (word : Word) : Run (List Segment) := do
  let start : Expansion :=
    { context := { context with tilde := false }, atTilde := context.tilde }
  return (← expandParts ev start word).settle.segments.reverse

/-- The single text that a word comes to. -/
def expandText (ev : Evaluator) (context : Context) (word : Word) : Run Raw :=
  return segmentsText (← expand ev context word)

/-- The pattern that a word comes to. -/
def expandPattern (ev : Evaluator) (word : Word) : Run (List PatternItem) := do
  let segments ← expand ev { tilde := true } word
  return Pattern.ofRaw (Field.pattern (segments.flatMap (·.pieces)))

/-! ### File names -/

/-- A part of a path has a meaning as a pattern. -/
def isGlob : Raw → Bool
  | [] => false
  | '\\' :: _ :: rest => isGlob rest
  | '*' :: _ | '?' :: _ => true
  | '[' :: rest => closes rest || isGlob rest
  | _ :: rest => isGlob rest
where
  /-- A closing bracket follows the first item of a list. -/
  closes (t : Raw) : Bool :=
    let t := match t with
      | '!' :: rest => rest
      | t => t
    let t := match t with
      | '\\' :: rest => rest
      | t => t
    match t with
    | [] => false
    | _ :: rest => later false rest
  /-- There is a closing bracket that no backslash stands before. -/
  later : Bool → Raw → Bool
    | _, [] => false
    | true, _ :: rest => later false rest
    | false, c :: rest => c == ']' || later (c == '\\') rest

/-- A text without the backslashes that take away the meaning of the character after them. -/
def unescape : Raw → Raw
  | '\\' :: c :: rest => c :: unescape rest
  | c :: rest => c :: unescape rest
  | [] => []

/-- The parts of a pattern between separators, which may be escaped. -/
def patternParts : Raw → Raw → List Raw
  | part, [] => [part.reverse]
  | part, '\\' :: '/' :: rest => part.reverse :: patternParts [] rest
  | part, '\\' :: c :: rest => patternParts (c :: '\\' :: part) rest
  | part, '/' :: rest => part.reverse :: patternParts [] rest
  | part, c :: rest => patternParts (c :: part) rest

/-- The paths that begin with a text and go on as some patterns say. -/
def globFrom (fs : Files) (here : Place) : Bool → Raw → List Raw → List Raw
  | _, _, [] => []
  | matched, front, part :: rest =>
    if isGlob part then
      match fs.resolve here (if front = [] then ['.'] else front) with
      | .error _ => []
      | .ok place =>
        if !fs.isDirectory place then []
        else
          let pattern := Pattern.ofRaw part
          let hidden := (if part.head? = some '\\' then part.drop 1 else part).head? = some '.'
          let names := ['.'] :: ['.', '.'] :: fs.names place
          let fitting := names.filter fun n ↦
            (hidden || n.head? ≠ some '.') && Pattern.isMatch pattern n
          fitting.flatMap fun n ↦
            match rest with
            | [] => [front ++ n]
            | _ => globFrom fs here true (front ++ n ++ ['/']) rest
    else
      match rest with
      | [] =>
        let path := front ++ unescape part
        if matched ∧ (fs.findLink here path).toBool then [path] else []
      | _ => globFrom fs here matched (front ++ unescape part ++ ['/']) rest

/-- The files that a field stands for as a pattern, in order; itself if there are none. -/
def glob (f : Field) : Run (List Raw) := do
  let s ← get
  let text := f.text
  if s.flags.contains .noglob ∨ !text.any fun c ↦ "*?[".toList.contains c then return [text]
  else
    match globFrom s.world.machine.files s.here false [] (patternParts [] f.pattern) with
    | [] => return [text]
    | found => return sorted id found

/-! ### Commands -/

/-- The fields that a word comes to. -/
def expandFields (ev : Evaluator) (word : Word) : Run (List Raw) := do
  let segments ← expand ev { splits := true, tilde := true } word
  let fields := split (← separators) none segments
  return (← fields.mapM glob).flatten

end Run

end Script

end LineShell
