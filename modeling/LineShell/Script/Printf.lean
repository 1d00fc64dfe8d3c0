import LineShell.Script.Decimal
import LineShell.Script.Escapes

/-!
# Formatted output

A format is text with directives in it, each of which shows an argument. It is used again and again
until there are no arguments left. What cannot be read as a number is shown as far as it can, with a
warning; what is no directive ends the output.
-/

namespace LineShell

namespace Script

/-- A directive of a format. -/
structure Directive where
  signs : List Char := []
  width : Nat := 0
  places : Option Nat := none
  letter : Char

/-- Output in the making. -/
structure Formatted where
  args : List Raw
  /-- The output, the last piece first. -/
  output : List Raw := []
  warnings : List Raw := []
  /-- Why there is no more output. -/
  failure : Option Raw := none
  /-- There is no more output, as an argument wants it. -/
  stopped : Bool := false

namespace Formatted

/-- Make output. -/
abbrev Printer := StateM Formatted

/-- Put text behind the output. -/
def put (t : Raw) : Printer Unit := modify fun f ↦ { f with output := t :: f.output }

/-- Warn about an argument. -/
def warn (t : Raw) : Printer Unit := modify fun f ↦ { f with warnings := f.warnings ++ [t] }

/-- End all output with a complaint. -/
def fail (t : Raw) : Printer Unit := modify fun f ↦ { f with failure := some t }

/-- Take the next argument. -/
def next : Printer (Option Raw) := do
  let f ← get
  set { f with args := f.args.drop 1 }
  return f.args.head?

/-- Warn about a number unless it has been read to its end. -/
def checkRead (t : Raw) (rest : Option Raw) (fits : Bool) : Printer Unit := do
  match rest with
  | none => if t ≠ [] then warn (t ++ ": expected numeric value".toList)
  | some [] => if !fits then warn (t ++ ": Numerical result out of range".toList)
  | some _ => warn (t ++ ": not completely converted".toList)

/-- The number of the character behind a quote. -/
def quotedCode? : Raw → Option Nat
  | '"' :: rest | '\'' :: rest => some (rest.head?.elim 0 Char.toNat)
  | _ => none

/-- Take an argument as an integer between some bounds. -/
def nextInteger (least greatest : Int) : Printer Int := do
  match ← next with
  | none => return 0
  | some t =>
    match quotedCode? t with
    | some n => return n
    | none =>
      match Number.signed? 0 t with
      | none =>
        checkRead t none true
        return 0
      | some (n, rest) =>
        let wrapped := if least = 0 ∧ n < 0 ∧ -greatest ≤ n then n + greatest + 1 else n
        let fits := least ≤ wrapped ∧ wrapped ≤ greatest
        checkRead t (some rest) fits
        return if fits then wrapped else if wrapped < 0 ∧ least < 0 then least else greatest

/-- Take an argument as a number with a fraction. -/
def nextBinary : Printer Binary := do
  match ← next with
  | none => return .finite false 0 0
  | some t =>
    match quotedCode? t with
    | some n => return .round false n 1
    | none =>
      match Binary.ofRaw? t with
      | none =>
        checkRead t none true
        return .finite false 0 0
      | some (b, rest) =>
        checkRead t (some rest) true
        return b

/-- A text in its field. -/
def padded (d : Directive) (t : Raw) : Raw :=
  let gap := List.replicate (d.width - t.length) ' '
  if d.signs.contains '-' then t ++ gap else gap ++ t

/-- Digits behind a sign, in their field. -/
def paddedNumber (d : Directive) (sign digits : Raw) (zeros : Bool) : Raw :=
  if zeros ∧ d.signs.contains '0' ∧ !d.signs.contains '-' then
    sign ++ List.replicate (d.width - sign.length - digits.length) '0' ++ digits
  else padded d (sign ++ digits)

/-- The sign of a number that may be negative. -/
def signText (d : Directive) (negative : Bool) : Raw :=
  if negative then ['-']
  else if d.signs.contains '+' then ['+']
  else if d.signs.contains ' ' then [' ']
  else []

/-- The digits of a natural number, at least as many as a directive wants. -/
def wantedDigits (d : Directive) (base n : Nat) : Raw :=
  let digits := if n = 0 ∧ d.places = some 0 then [] else Nat.toDigits base n
  List.replicate (d.places.getD 1 - digits.length) '0' ++ digits

/-- Carry out a directive. `whole` is its text. -/
def carryOut (d : Directive) (whole : Raw) : Printer Unit := do
  let cutText (t : Raw) : Raw := d.places.elim t t.take
  match d.letter with
  | 'b' =>
    let (t, stops) := Escapes.resolve 0 ((← next).getD [])
    put (padded d (cutText t))
    if stops then modify ({ · with stopped := true })
  | 'c' => put (padded d [((← next).getD []).head?.getD '\x00'])
  | 's' => put (padded d (cutText ((← next).getD [])))
  | 'd' | 'i' =>
    let n ← nextInteger Number.least Number.greatest
    put (paddedNumber d (signText d (n < 0)) (wantedDigits d 10 n.natAbs) d.places.isNone)
  | 'o' | 'u' | 'x' | 'X' =>
    let n := (← nextInteger 0 18446744073709551615).toNat
    let marked := d.signs.contains '#' && (n ≠ 0 || d.letter = 'o')
    let base := if d.letter = 'o' then 8 else if d.letter = 'u' then 10 else 16
    let digits := wantedDigits d base n
    let digits := if d.letter = 'X' then digits.map Char.toUpper else digits
    match d.letter with
    | 'o' =>
      let digits := if marked ∧ digits.head? ≠ some '0' then '0' :: digits else digits
      put (paddedNumber d [] digits d.places.isNone)
    | 'u' => put (paddedNumber d [] digits d.places.isNone)
    | letter => put (paddedNumber d (if marked then ['0', letter] else []) digits d.places.isNone)
  | letter =>
    if "aAeEfFgG".toList.contains letter then
      let b ← nextBinary
      let isFinite :=
        match b with
        | .finite .. => true
        | _ => false
      let digits := b.shown letter d.places (d.signs.contains '#')
      put (paddedNumber d (signText d b.isNegative) digits isFinite)
    else fail (whole ++ ": invalid directive".toList)

/-- A number in a format, which may be left to an argument. -/
def fieldNumber (t : Raw) : Printer (Option Int × Raw) := do
  match t with
  | '*' :: rest => return (some (← nextInteger Number.least Number.greatest), rest)
  | _ =>
    let digits := t.takeWhile Char.isDigit
    let n := if digits = [] then none else some (Nat.ofDigitChars 10 digits 0 : Int)
    return (n, t.drop digits.length)

/-- Read a directive behind its percent sign and carry it out; what follows it. -/
def directive (t : Raw) : Printer Raw := do
  let signs := t.takeWhile fun c ↦ "#-+ 0".toList.contains c
  let (width, rest) ← fieldNumber (t.drop signs.length)
  let width := width.getD 0
  let (places, rest) ←
    match rest with
    | '.' :: rest => do
      let (places, rest) ← fieldNumber rest
      let places := places.getD 0
      pure (if places < 0 then none else some places.toNat, rest)
    | rest => pure (none, rest)
  match rest with
  | [] =>
    fail "missing format character".toList
    return []
  | letter :: after =>
    let d : Directive :=
      { signs := if width < 0 then '-' :: signs else signs, width := width.natAbs, places, letter }
    carryOut d ('%' :: t.take (t.length - after.length))
    return after

/-- Write a format once. The first argument bounds the number of its characters. -/
def once : Nat → Raw → Printer Unit
  | 0, _ | _, [] => return
  | n + 1, c :: rest => do
    match c, rest with
    | '\\', rest =>
      let (d, rest) := Escapes.meant rest
      put [d]
      once n rest
    | '%', '%' :: rest =>
      put ['%']
      once n rest
    | '%', rest =>
      let rest ← directive rest
      let f ← get
      if f.failure.isNone ∧ !f.stopped then once n rest
    | c, rest =>
      put [c]
      once n rest

/-- Write a format again and again until the arguments are used up. -/
def again (format : Raw) : Nat → Printer Unit
  | 0 => return
  | n + 1 => do
    let before := (← get).args.length
    once format.length format
    let f ← get
    if f.failure.isNone ∧ !f.stopped ∧ f.args ≠ [] ∧ f.args.length < before then again format n

/-- What a format and arguments come to. -/
def of (format : Raw) (args : List Raw) : Formatted :=
  let (_, f) := (again format (args.length + 1)).run { args }
  { f with output := f.output.reverse }

end Formatted

end Script

end LineShell
