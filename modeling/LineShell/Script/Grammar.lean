import LineShell.Script.Word

/-!
# Reading commands

The grammar of scripts. Commands hold commands, and the words of a command may do so too, so reading
is recursive; every round of it takes something off the text (`grammar`). A script is read one
complete command at a time, because what a command does can change how the next one is read
(`Read.completeCommand`).
-/

namespace LineShell

namespace Script

/-- Where a list of commands stands. -/
inductive ListKind
  /-- A line of a script: it ends at a newline. -/
  | line
  /-- The inside of a command: something has to be there. -/
  | body
  /-- Nothing may be there. -/
  | optional
  deriving DecidableEq

/-- The readers that call each other again. -/
structure Grammar where
  list : ListKind → Read Node
  command : Read Node

/-- Commands that cannot be functions' names. -/
def specialCommands : List String :=
  [".", ":", "break", "continue", "eval", "exec", "exit", "export", "local", "readonly", "return",
    "set", "shift", "times", "trap", "unset"]

/-- Commands one after another. -/
def Node.followedBy : Node → Node → Node
  | .nothing, second => second
  | .sequence commands, second => .sequence (commands ++ [second])
  | first, second => .sequence [first, second]

namespace Read

variable (g : Grammar)

/-! ### Tokens -/

/-- Say what to look for next. -/
def expect (expects : Expectation) : Read Unit := modify ({ · with expects })

/-- Read a token as it stands; `again` is the reader of tokens for what stands inside of words. -/
def plainToken (again : Read Token) : Read Token := do
  if (← get).again then
    modify ({ · with again := false })
    return (← get).token
  let token ← iterate (fun () ↦ do
    match ← peekJoined with
    | none => return .done .endOfInput
    | some c =>
      let after (second : Char) (both one : Token) : Read (Progress Unit Token) := do
        advance
        return .done (if ← accept second then both else one)
      match c with
      | ' ' | '\t' =>
        advance
        return .more ()
      | '#' =>
        skipLine
        return .more ()
      | '\n' =>
        advance
        return .done .newline
      | '&' => after '&' .andIf .ampersand
      | '|' => after '|' .orIf .bar
      | ';' => after ';' .endOfBranch .semicolon
      | '(' =>
        advance
        return .done .openParen
      | ')' =>
        advance
        return .done .closeParen
      | _ => return .done (← wordToken (g.list .optional) again)) ()
  modify ({ · with token })
  return token

/-- Read the documents that have been announced. -/
def announcedDocuments (again : Read Token) : Read Unit := do
  let announced := (← get).announced
  modify ({ · with announced := [] })
  announced.forM (documentText (g.list .optional) again)

/-- Read a token, with regard to what is expected: newlines may be passed over, and a word may be a
keyword or an alias. The first argument bounds how often an alias begins with an alias. -/
def tokenWithin : Nat → Expectation → Read Token
  | 0, _ => fail "script too long".toList
  | n + 1, expects => do
    let again := tokenWithin n {}
    let token ← iterate (fun () ↦ do
      let token ← plainToken g again
      if token = .newline ∧ expects.pastNewlines then
        announcedDocuments g again
        return .more ()
      else return .done token) ()
    let r ← get
    let aliases := expects.aliases || r.expects.aliases
    expect {}
    match token, r.quoted, r.word.plain? with
    | .word, false, some t =>
      if expects.keywords ∧ keywords.contains (String.ofList t) then
        let token := Token.keyword (String.ofList t)
        modify ({ · with token })
        return token
      else
        match if aliases then r.aliases.find? (·.1 = t) else none with
        | some (_, text) =>
          if r.outer.any (·.aliasName = t) then return token
          else
            let continues := text.getLast?.any fun c ↦ c = ' ' ∨ c = '\t'
            modify fun r ↦
              { r with rest := text, outer := ⟨t, continues, r.rest⟩ :: r.outer }
            tokenWithin n expects
        | none => return token
    | _, _, _ => return token

/-- How many aliases may begin with each other. -/
def aliasLevels : Nat := 1000

/-- Read a token. -/
def token : Read Token := do
  tokenWithin g aliasLevels (← get).expects

/-- The last token is to be read again. -/
def unread : Read Unit := modify ({ · with again := true })

/-- Read a token that has to be there. -/
def need (right : Token) : Read Unit := do
  if (← token g) ≠ right then unexpected (some right)

/-- What may stand where a command begins. -/
def atCommand : Expectation := { keywords := true, aliases := true }

/-- What may stand where a command begins after newlines. -/
def atNextCommand : Expectation := { pastNewlines := true, keywords := true, aliases := true }

/-! ### Redirections -/

/-- Read the word behind a redirection operator. -/
def redirectionTarget : Read Redirection := do
  let (stream, kind) := (← get).operator
  match kind with
  | .document _ => expect { endMark := true }
  | _ => pure ()
  if (← token g) ≠ .word then unexpected none
  let r ← get
  match kind with
  | .open mode => return .file stream mode r.word
  | .duplicate => return .duplicate stream r.word
  | .document stripTabs =>
    let number := r.nextDocument
    let announced : AnnouncedDocument := ⟨number, r.word.unquoted, stripTabs, !r.quoted⟩
    set { r with nextDocument := number + 1, announced := r.announced ++ [announced] }
    return .document stream number

/-- Read the redirections behind a command. -/
def redirections : Read (List Redirection) := do
  expect atCommand
  let reversed ← iterate (fun (read : List Redirection) ↦ do
    if (← token g) = .redirection then return .more ((← redirectionTarget g) :: read)
    else return .done read) []
  unread
  return reversed.reverse

/-! ### Simple commands -/

/-- A simple command in the making. -/
structure SimpleCommand where
  assignments : List Word := []
  words : List Word := []
  redirections : List Redirection := []

/-- Read the rest of the definition of a function behind its name and an opening parenthesis. -/
def definition (name : Word) : Read Node := do
  need g .closeParen
  match name.plain? with
  | some t =>
    if !isName t || specialCommands.contains (String.ofList t) then
      fail "Bad function name".toList
    expect atNextCommand
    let line := (← get).line
    return .define line t (← g.command)
  | none => fail "Bad function name".toList

/-- Read a simple command, or the definition of a function. -/
def simpleCommand : Read Node := do
  let line := (← get).line
  iterate (fun (read : SimpleCommand) ↦ do
    expect { aliases := read.words.isEmpty }
    let finish : Read (Progress SimpleCommand Node) := do
      unread
      return .done
        (.simple line read.assignments.reverse read.words.reverse read.redirections.reverse)
    match ← token g with
    | .word =>
      let word := (← get).word
      if read.words.isEmpty ∧ word.assignment?.isSome then
        return .more { read with assignments := word :: read.assignments }
      else return .more { read with words := word :: read.words }
    | .redirection =>
      return .more { read with redirections := (← redirectionTarget g) :: read.redirections }
    | .openParen =>
      match read.words, read.assignments, read.redirections with
      | [name], [], [] => return .done (← definition g name)
      | _, _, _ => finish
    | _ => finish) {}

/-! ### Compound commands -/

/-- Read a choice behind the word `if` or `elif`. The first argument bounds the number of tests. -/
def choice : Nat → Read Node
  | 0 => fail "script too long".toList
  | n + 1 => do
    let test ← g.list .body
    need g (.keyword "then")
    let positive ← g.list .body
    match ← token g with
    | .keyword "elif" => return .choice test positive (← choice n)
    | .keyword "else" => return .choice test positive (← g.list .body)
    | _ =>
      unread
      return .choice test positive .nothing

/-- Read a loop behind its first word. -/
def loop (isUntil : Bool) : Read Node := do
  let test ← g.list .body
  need g (.keyword "do")
  return .loop isUntil test (← g.list .body)

/-- Read the items of a loop. -/
def items : Read (List Word) := do
  let reversed ← iterate (fun (read : List Word) ↦ do
    if (← token g) = .word then return .more ((← get).word :: read) else return .done read) []
  match (← get).token with
  | .newline | .semicolon => return reversed.reverse
  | _ => unexpected none

/-- Read a loop over items behind the word `for`. -/
def each (line : Nat) : Read Node := do
  let token₁ ← token g
  let r ← get
  match token₁, r.quoted, r.word.plain? with
  | .word, false, some name =>
    if !isName name then fail "Bad for loop variable".toList
    expect atNextCommand
    let items ←
      if (← token g) = .keyword "in" then items g
      else
        if (← get).token ≠ .semicolon then unread
        pure [[.quote, .parameter ['@'] .value [], .quote]]
    expect atNextCommand
    need g (.keyword "do")
    return .each line name items (← g.list .body)
  | _, _, _ => fail "Bad for loop variable".toList

/-- Read the patterns of a branch, the first of which has been read. -/
def patterns : Read (List Word) := do
  let reversed ← iterate (fun (read : List Word) ↦ do
    let read := (← get).word :: read
    if (← token g) = .bar then
      discard (token g)
      return .more read
    else return .done read) []
  if (← get).token ≠ .closeParen then unexpected (some .closeParen)
  return reversed.reverse

/-- Read a selection behind the word `case`. -/
def select (line : Nat) : Read Node := do
  need g .word
  let subject := (← get).word
  expect atNextCommand
  need g (.keyword "in")
  let atBranch : Expectation := { pastNewlines := true, keywords := true }
  expect atBranch
  discard (token g)
  let reversed ← iterate (fun (read : List (List Word × Node)) ↦ do
    if (← get).token = .keyword "esac" then return .done read
    else
      if (← get).token = .openParen then discard (token g)
      let patterns ← patterns g
      let body ← g.list .optional
      let read := (patterns, body) :: read
      expect atBranch
      match ← token g with
      | .keyword "esac" => return .done read
      | .endOfBranch =>
        expect atBranch
        discard (token g)
        return .more read
      | _ => unexpected (some .endOfBranch)) []
  return .select line subject reversed.reverse

/-- Read a command. -/
def command : Read Node := do
  let line := (← get).line
  let closedBy (body : Node) (last : Token) : Read Node := do
    need g last
    return body
  let body? ← match ← token g with
    | .keyword "if" => do
      let bound := (← get).rest.length + 1
      some <$> closedBy (← choice g bound) (.keyword "fi")
    | .keyword "while" => do some <$> closedBy (← loop g false) (.keyword "done")
    | .keyword "until" => do some <$> closedBy (← loop g true) (.keyword "done")
    | .keyword "for" => do some <$> closedBy (← each g line) (.keyword "done")
    | .keyword "case" => some <$> select g line
    | .keyword "\x7b" => do some <$> closedBy (← g.list .body) (.keyword "\x7d")
    | .openParen => do some <$> closedBy (.subshell line (← g.list .body) []) .closeParen
    | .word | .redirection => pure none
    | _ => unexpected none
  match body? with
  | none =>
    unread
    simpleCommand g
  | some body =>
    match body, ← redirections g with
    | body, [] => return body
    | .subshell line body _, changes => return .subshell line body changes
    | body, changes => return .redirected line body changes

/-! ### Lists -/

/-- Read commands that are joined by bars. -/
def pipeline : Read Node := do
  let inverts := (← token g) = .keyword "!"
  if inverts then expect atCommand else unread
  let first ← command g
  let reversed ← iterate (fun (read : List Node) ↦ do
    if (← token g) = .bar then
      expect atNextCommand
      return .more ((← command g) :: read)
    else return .done read) [first]
  unread
  let body :=
    match reversed with
    | [only] => only
    | _ => .pipeline reversed.reverse false
  return if inverts then .inverted body else body

/-- Read pipelines that depend on each other. -/
def conditional : Read Node := do
  let first ← pipeline g
  iterate (fun (read : Node) ↦ do
    match ← token g with
    | .andIf =>
      expect atNextCommand
      return .more (.both read (← pipeline g))
    | .orIf =>
      expect atNextCommand
      return .more (.either read (← pipeline g))
    | _ =>
      unread
      return .done read) first

/-- The command that does not wait for the end of another one. -/
def inBackground (line : Nat) : Node → Node
  | .pipeline commands _ => .pipeline commands true
  | .redirected line body changes => .background line body changes
  | body => .background line body []

/-- Read a list of commands. A line that ends with the input is closed by that, so that the end is
read again; the line that is empty there is no command (`none`). -/
def listOf (kind : ListKind) : Read (Option Node) :=
  iterate (fun ((read, begun) : Option Node × Bool) ↦ do
    let inLine := kind = .line
    expect { pastNewlines := !inLine, keywords := true, aliases := true }
    let result : Option Node := if inLine then read else some (read.getD .nothing)
    match ← token g with
    | .newline =>
      announcedDocuments g (token g)
      return .done (some (read.getD .nothing))
    | .endOfInput =>
      announcedDocuments g (token g)
      modify ({ · with token := .endOfInput, again := true })
      return .done result
    | first =>
      unread
      if !inLine ∧ (begun ∨ kind = .optional) ∧ endsList first then return .done result
      else
        let line := (← get).line
        let body ← conditional g
        let last ← token g
        let body := if last = .ampersand then inBackground line body else body
        let read := some ((read.getD .nothing).followedBy body)
        match last with
        | .ampersand | .semicolon => return .more (read, true)
        | .newline | .endOfInput =>
          unread
          return .more (read, true)
        | _ =>
          if inLine then unexpected none
          unread
          return .done read) (none, false)

end Read

/-- The grammar, as far as so many rounds of recursion go. -/
def grammar : Nat → Grammar
  | 0 => ⟨fun _ ↦ Read.fail "script too long".toList, Read.fail "script too long".toList⟩
  | n + 1 =>
    { list := fun kind ↦ (·.getD .nothing) <$> Read.listOf (grammar n) kind
      command := Read.command (grammar n) }

/-- Read the next complete command of a script: `none` at its end. -/
def Read.completeCommand : Read (Option Node) := do
  modify ({ · with again := false, expects := {}, announced := [] })
  let r ← get
  listOf (grammar (r.rest.length + r.outer.length + 2)) .line

end Script

end LineShell
