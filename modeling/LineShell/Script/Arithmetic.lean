import LineShell.Script.Variables

/-!
# Arithmetic

Arithmetic expressions over integers of 64 bits, with variables, assignments, conditions and the
usual operators. An expression is evaluated while it is read: `skips` says that the value of a part
does not matter, and then nothing is assigned and nothing looked up in it.
-/

namespace LineShell

namespace Script

/-- An operator between two operands. -/
inductive BinaryOp
  | mul | div | rem | add | sub | shiftLeft | shiftRight | lt | le | gt | ge | eq | ne
  | bitAnd | bitXor | bitOr
  deriving DecidableEq

/-- How weakly an operator binds. -/
def BinaryOp.level : BinaryOp → Nat
  | mul | div | rem => 0
  | add | sub => 1
  | shiftLeft | shiftRight => 2
  | lt | le | gt | ge => 3
  | eq | ne => 4
  | bitAnd => 5
  | bitXor => 6
  | bitOr => 7

/-- A token of an expression. -/
inductive ArithToken
  | number (n : Int64)
  | name (n : Raw)
  | op (o : BinaryOp)
  /-- An assignment, of the value of an operation if there is an operator. -/
  | assign (o : Option BinaryOp)
  | andIf | orIf | not | complement | question | colon | openParen | closeParen
  | bad
  | stop
  deriving DecidableEq

/-- An expression as it is read: what is left of it, and the token that follows what has been
read. -/
structure ArithReader where
  rest : Raw
  token : ArithToken := .stop

/-- Evaluating an expression. -/
abbrev Arith := StateT ArithReader Run

namespace ArithToken

/-- An integer cut to 64 bits. -/
def clamp (n : Nat) : Int64 := Int64.ofInt (min n Number.greatest)

/-- An operator, or an assignment if an equals sign follows it. -/
def opOrAssign (o : BinaryOp) : Raw → ArithToken × Raw
  | '=' :: rest => (.assign (some o), rest)
  | rest => (.op o, rest)

/-- The token at the front of an expression, and what follows it. -/
def read (t : Raw) : ArithToken × Raw :=
  let t := t.dropWhile fun c ↦ c == ' ' || c == '\t' || c == '\n'
  match t with
  | [] => (.stop, [])
  | '=' :: '=' :: rest => (.op .eq, rest)
  | '=' :: rest => (.assign none, rest)
  | '>' :: '=' :: rest => (.op .ge, rest)
  | '>' :: '>' :: rest => opOrAssign .shiftRight rest
  | '>' :: rest => (.op .gt, rest)
  | '<' :: '=' :: rest => (.op .le, rest)
  | '<' :: '<' :: rest => opOrAssign .shiftLeft rest
  | '<' :: rest => (.op .lt, rest)
  | '|' :: '|' :: rest => (.orIf, rest)
  | '|' :: rest => opOrAssign .bitOr rest
  | '&' :: '&' :: rest => (.andIf, rest)
  | '&' :: rest => opOrAssign .bitAnd rest
  | '!' :: '=' :: rest => (.op .ne, rest)
  | '!' :: rest => (.not, rest)
  | '(' :: rest => (.openParen, rest)
  | ')' :: rest => (.closeParen, rest)
  | '*' :: rest => opOrAssign .mul rest
  | '/' :: rest => opOrAssign .div rest
  | '%' :: rest => opOrAssign .rem rest
  | '+' :: rest => opOrAssign .add rest
  | '-' :: rest => opOrAssign .sub rest
  | '^' :: rest => opOrAssign .bitXor rest
  | '~' :: rest => (.complement, rest)
  | '?' :: rest => (.question, rest)
  | ':' :: rest => (.colon, rest)
  | c :: _ =>
    if isNameStart c then (.name (t.takeWhile isNameChar), t.dropWhile isNameChar)
    else
      match Number.unsigned? 0 t with
      | some (n, rest) => (.number (clamp n), rest)
      | none => (.bad, t)

end ArithToken

namespace Arith

/-- Give the expression up. -/
def fail {α : Type} (whole : Raw) (message : String) : Arith α :=
  Run.fail ("arithmetic expression: ".toList ++ message.toList ++ ": \"".toList ++ whole ++ ['"'])

/-- Read the next token. -/
def next : Arith ArithToken := do
  let (token, rest) := ArithToken.read (← get).rest
  modify ({ · with rest })
  return token

/-- Note the token that follows what has been read. -/
def follow (token : ArithToken) : Arith Unit := modify ({ · with token })

/-- The integer that a variable holds. -/
def lookUp (name : Raw) : Arith Int64 := do
  let t := (← Run.value? name).getD []
  match Number.whole? 0 t with
  | some n => return Int64.ofInt n
  | none => Run.failNumber t

/-- The truth of a condition as an integer. -/
def truth (b : Bool) : Int64 := if b then 1 else 0

/-- The value of an operation. -/
def operate (whole : Raw) (o : BinaryOp) (a b : Int64) : Arith Int64 := do
  match o with
  | .mul => return a * b
  | .div => if b = 0 then fail whole "division by zero" else return a / b
  | .rem => if b = 0 then fail whole "division by zero" else return a % b
  | .add => return a + b
  | .sub => return a - b
  | .shiftLeft => return a <<< b
  | .shiftRight => return a >>> b
  | .lt => return truth (a < b)
  | .le => return truth (a ≤ b)
  | .gt => return truth (b < a)
  | .ge => return truth (b ≤ a)
  | .eq => return truth (a = b)
  | .ne => return truth (a ≠ b)
  | .bitAnd => return a &&& b
  | .bitXor => return a ^^^ b
  | .bitOr => return a ||| b

variable (whole : Raw)

mutual

/-- The value of an operand that begins with `token`, with `second` behind it. -/
def operand : Nat → ArithToken → ArithToken → Bool → Arith Int64
  | 0, _, _, _ => fail whole "expecting primary"
  | n + 1, token, second, skips => do
    match token with
    | .openParen =>
      let value ← assignment n second skips
      if (← get).token ≠ .closeParen then fail whole "expecting ')'"
      follow (← next)
      return value
    | .number value =>
      follow second
      return value
    | .name name =>
      follow second
      if skips then return 0 else lookUp name
    | .op .add => operand n second (← next) skips
    | .op .sub => return -(← operand n second (← next) skips)
    | .not => return truth ((← operand n second (← next) skips) = 0)
    | .complement => return ~~~(← operand n second (← next) skips)
    | _ => fail whole "expecting primary"

/-- The value of `a`, followed by `o` and more operands, as far as the operators bind more strongly
than `level`. -/
def operations : Nat → Int64 → BinaryOp → Nat → Bool → Arith Int64
  | 0, _, _, _, _ => fail whole "expecting primary"
  | n + 1, a, o, level, skips => do
    let token ← next
    let b ← operand n token (← next) skips
    let b ←
      match (← get).token with
      | .op after => if after.level < o.level then operations n b after o.level skips else pure b
      | _ => pure b
    let a ← if skips then pure b else operate whole o a b
    match (← get).token with
    | .op after => if after.level < level then operations n a after level skips else return a
    | _ => return a

/-- The value of operands with operators between them. -/
def operationsFrom : Nat → ArithToken → ArithToken → Bool → Arith Int64
  | 0, _, _, _ => fail whole "expecting primary"
  | n + 1, token, second, skips => do
    let a ← operand n token second skips
    match (← get).token with
    | .op o => operations n a o 8 skips
    | _ => return a

/-- The value of conditions that all have to hold. -/
def conjunction : Nat → ArithToken → ArithToken → Bool → Arith Int64
  | 0, _, _, _ => fail whole "expecting primary"
  | n + 1, token, second, skips => do
    let a ← operationsFrom n token second skips
    if (← get).token ≠ .andIf then return a
    let token ← next
    let b ← conjunction n token (← next) (skips || a = 0)
    return truth (a ≠ 0 && b ≠ 0)

/-- The value of conditions one of which has to hold. -/
def disjunction : Nat → ArithToken → ArithToken → Bool → Arith Int64
  | 0, _, _, _ => fail whole "expecting primary"
  | n + 1, token, second, skips => do
    let a ← conjunction n token second skips
    if (← get).token ≠ .orIf then return a
    let token ← next
    let b ← disjunction n token (← next) (skips || a ≠ 0)
    return truth (a ≠ 0 || b ≠ 0)

/-- The value of a condition with two alternatives. -/
def conditional : Nat → ArithToken → ArithToken → Bool → Arith Int64
  | 0, _, _, _ => fail whole "expecting primary"
  | n + 1, token, second, skips => do
    let a ← disjunction n token second skips
    if (← get).token ≠ .question then return a
    let b ← assignment n (← next) (skips || a = 0)
    if (← get).token ≠ .colon then fail whole "expecting ':'"
    let token ← next
    let c ← conditional n token (← next) (skips || a ≠ 0)
    return if a ≠ 0 then b else c

/-- The value of an expression that begins with `token`. -/
def assignment : Nat → ArithToken → Bool → Arith Int64
  | 0, _, _ => fail whole "expecting primary"
  | n + 1, token, skips => do
    let second ← next
    match token, second with
    | .name name, .assign o =>
      let value ← assignment n (← next) skips
      if skips then return value
      let value ←
        match o with
        | none => pure value
        | some o => operate whole o (← lookUp name) value
      Run.setVariable name (Number.shown value.toInt)
      return value
    | _, _ => conditional n token second skips

end

/-- The value of an expression. -/
def value (t : Raw) : Run Int := do
  let bound := 8 * (t.length + 2)
  let evaluate : Arith Int64 := do
    let value ← assignment t bound (← next) false
    if (← get).token ≠ .stop then fail t "expecting EOF"
    return value
  let (value, _) ← evaluate.run { rest := t }
  return value.toInt

end Arith

end Script

end LineShell
