import LineShell.Script.Variables

/-!
# Conditions

The questions that a script can ask about texts, numbers and files, and how they are joined. A
question is read word by word; whether a word is an operator or an operand can depend on the words
behind it.
-/

namespace LineShell

namespace Script

/-- What an operator of a condition is. -/
inductive TestOp
  /-- A question about one operand. -/
  | unary (letter : Char)
  /-- A question about two operands. -/
  | binary (name : String)
  | not | and | or | openParen | closeParen
  deriving DecidableEq

/-- A word of a condition. -/
inductive TestToken
  | stop
  | operand
  | op (o : TestOp)
  deriving DecidableEq

/-- The operator that a word is. -/
def TestOp.ofRaw? (t : Raw) : Option TestOp :=
  match t with
  | ['!'] => some .not
  | ['-', 'a'] => some .and
  | ['-', 'o'] => some .or
  | ['('] => some .openParen
  | [')'] => some .closeParen
  | _ =>
    let name := String.ofList t
    let binaries := ["=", "!=", "<", ">", "-eq", "-ne", "-ge", "-gt", "-le", "-lt", "-nt", "-ot",
      "-ef"]
    if binaries.contains name then some (.binary name)
    else
      match t with
      | ['-', c] => if "rwxefdcbpugkstznhLOGS".toList.contains c then some (.unary c) else none
      | _ => none

/-- The operator takes two operands. -/
def TestOp.isBinary : TestOp → Bool
  | binary _ => true
  | _ => false

/-- A condition as it is read: the words from the present one on, and the operator that was met
last. -/
structure Condition where
  words : List Raw
  op : Option TestOp := none

namespace Condition

/-- Evaluating a condition. -/
abbrev Test := StateT Condition Run

/-- What the first of some words is, given those behind it. -/
def tokenOf (words : List Raw) : TestToken :=
  match words with
  | [] => .stop
  | t :: behind =>
    match TestOp.ofRaw? t with
    | some (.unary c) =>
      let isOperand :=
        match behind with
        | [] => true
        | [_] => false
        | s :: _ => (TestOp.ofRaw? s).any TestOp.isBinary
      if isOperand then .operand else .op (.unary c)
    | some .openParen => if behind = [] then .operand else .op .openParen
    | some o => .op o
    | none => .operand

/-- Look at the word that is so many words ahead. -/
def look (ahead : Nat) : Test TestToken := do
  let c ← get
  let token := tokenOf (c.words.drop ahead)
  let op :=
    match token with
    | .op o => some o
    | _ => none
  set { c with op }
  return token

/-- Go on by so many words. -/
def move (n : Nat) : Test Unit := modify fun c ↦ { c with words := c.words.drop n }

/-- Complain about a condition. -/
def wrong {α : Type} (op : Raw) (message : String) : Test α :=
  Run.fail (if op = [] then message.toList else op ++ ": ".toList ++ message.toList)

/-- The integer that a word has to be. -/
def integer (t : Raw) : Test Int :=
  match Number.whole? 10 t with
  | some n => return n
  | none => Run.failNumber t

/-- How long ago the file at a place was changed last, compared with other files. -/
def age (fs : Files) (place : Place) : Nat := fs.entries.findIdx (·.1 = place)

/-- The answer to a question about one operand. -/
def unary (letter : Char) (t : Raw) : Test Bool := do
  match letter with
  | 'z' => return t.isEmpty
  | 'n' => return !t.isEmpty
  | 't' =>
    discard (integer t)
    return false
  | 'h' | 'L' =>
    let s ← getThe Shell
    match s.world.machine.files.findLink s.here t with
    | .ok (.link _) => return true
    | _ => return false
  | _ =>
    let s ← getThe Shell
    match s.world.machine.files.find s.here t with
    | .error _ => return false
    | .ok entry =>
      let mode :=
        match entry with
        | .directory mode | .file mode _ => mode
        | _ => 0o666
      match letter, entry with
      | 'd', .directory _ | 'f', .file _ _ | 'c', .device _ | 'x', .directory _ => return true
      | 'd', _ | 'f', _ | 'c', _ | 'b', _ | 'p', _ | 'S', _ => return false
      | 's', .file _ (.bytes b) => return !b.isEmpty
      | 's', .device _ => return false
      | 'x', _ => return mode &&& 0o111 ≠ 0
      | 'u', _ => return mode &&& 0o4000 ≠ 0
      | 'g', _ => return mode &&& 0o2000 ≠ 0
      | 'k', _ => return mode &&& 0o1000 ≠ 0
      | _, _ => return true

/-- The answer to a question about two operands. -/
def binary (name : String) (a b : Raw) : Test Bool := do
  let places : Test (Option (Files × Place × Place)) := do
    let s ← getThe Shell
    let fs := s.world.machine.files
    match fs.resolve s.here a, fs.resolve s.here b with
    | .ok p, .ok q => return some (fs, p, q)
    | _, _ => return none
  match name with
  | "=" => return a == b
  | "!=" => return a != b
  | "<" => return Text.precedes a b
  | ">" => return Text.precedes b a
  | "-eq" => return (← integer a) == (← integer b)
  | "-ne" => return (← integer a) != (← integer b)
  | "-ge" => return (← integer a) ≥ (← integer b)
  | "-gt" => return (← integer a) > (← integer b)
  | "-le" => return (← integer a) ≤ (← integer b)
  | "-lt" => return (← integer a) < (← integer b)
  | "-nt" => return (← places).any fun (fs, p, q) ↦ age fs p < age fs q
  | "-ot" => return (← places).any fun (fs, p, q) ↦ age fs q < age fs p
  | _ => return (← places).any fun (_, p, q) ↦ p == q

mutual

/-- The answer to conditions one of which has to hold. -/
def disjunction : Nat → TestToken → Test Bool
  | 0, _ => return false
  | n + 1, token => do
    let first ← conjunction n token
    if (← look 1) ≠ .op .or then return first
    move 2
    let rest ← disjunction n (← look 0)
    return first || rest

/-- The answer to conditions that all have to hold. -/
def conjunction : Nat → TestToken → Test Bool
  | 0, _ => return false
  | n + 1, token => do
    let first ← negation n token
    if (← look 1) ≠ .op .and then return first
    move 2
    let rest ← conjunction n (← look 0)
    return first && rest

/-- The answer to a condition that may be denied. -/
def negation : Nat → TestToken → Test Bool
  | 0, _ => return false
  | n + 1, token => do
    if token ≠ .op .not then primary n token
    else
      let token ← look 1
      if token ≠ .stop then move 1
      return !(← negation n token)

/-- The answer to a single condition. -/
def primary : Nat → TestToken → Test Bool
  | 0, _ => return false
  | n + 1, token => do
    match token with
    | .stop => return false
    | .op .openParen =>
      move 1
      let token ← look 0
      if token = .op .closeParen then return false
      let answer ← disjunction n token
      move 1
      if (← look 0) ≠ .op .closeParen then wrong [] "closing paren expected"
      return answer
    | token =>
      match token, (← get).op, (← get).words with
      | .op (.unary letter), _, _ =>
        match (← get).words with
        | _ :: t :: _ =>
          move 1
          unary letter t
        | _ => wrong ['-', letter] "argument expected"
      | _, _, words =>
        let t := words.head?.getD []
        match ← look 1 with
        | .op (.binary name) =>
          move 2
          match (← get).words with
          | b :: _ => binary name t b
          | [] => wrong name.toList "argument expected"
        | _ => return !t.isEmpty

end

/-- The status that answers the words of a condition. -/
def statusFrom (denied : Bool) (words : List Raw) (token : TestToken) : Run Nat := do
  let evaluate : Test Bool := do
    let answer ← disjunction (8 * (words.length + 2)) token
    match (← get).words with
    | t :: _ :: _ => wrong t "unexpected operator"
    | _ => return answer
  let (answer, _) ← evaluate.run { words }
  return if answer = denied then 1 else 0

/-- The status that answers some words: few of them are read by rules of their own. -/
def status : Bool → List Raw → Run Nat
  | denied, [] => return if denied then 0 else 1
  | denied, [a, b, c] =>
    if (TestOp.ofRaw? b).any TestOp.isBinary then statusFrom denied [a, b, c] .operand
    else if a = ['('] ∧ c = [')'] then statusFrom denied [b] (tokenOf [b])
    else if a = ['!'] then status true [b, c]
    else statusFrom denied [a, b, c] (tokenOf [a, b, c])
  | denied, [a, b, c, d] =>
    if a = ['('] ∧ d = [')'] then statusFrom denied [b, c] (tokenOf [b, c])
    else if a = ['!'] then status true [b, c, d]
    else statusFrom denied [a, b, c, d] (tokenOf [a, b, c, d])
  | denied, words => statusFrom denied words (tokenOf words)

end Condition

end Script

end LineShell
