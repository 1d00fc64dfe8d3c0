import LineShell.Script.Number

/-!
# Fractions in texts

Numbers with a fraction are kept in 53 binary digits. A text is rounded to the nearest such number,
to the even one of two (`Binary.round`); its decimal forms are rounded from the exact value in the
same way.
-/

namespace LineShell

namespace Script

/-- A number with a fraction: its sign, and its value as a mantissa times a power of two. -/
inductive Binary
  | finite (negative : Bool) (mantissa : Nat) (exponent : Int)
  | infinite (negative : Bool)
  | notANumber (negative : Bool)

namespace Binary

/-- The natural number next to a quotient, the even one of two. -/
def divRound (n d : Nat) : Nat :=
  let q := n / d
  let r := n % d
  if 2 * r < d ∨ (2 * r = d ∧ q % 2 = 0) then q else q + 1

/-- A quotient as numerator and denominator, multiplied by a power of a base. -/
def scale (base : Nat) (n d : Nat) (exponent : Int) : Nat × Nat :=
  if 0 ≤ exponent then (n * base.pow exponent.toNat, d) else (n, d * base.pow (-exponent).toNat)

/-- The 53 binary digits nearest to a quotient. -/
def round (negative : Bool) (n d : Nat) : Binary :=
  if n = 0 then .finite negative 0 0
  else
    let guess : Int := (n.log2 : Int) - (d.log2 : Int) - 52
    let (a, b) := scale 2 n d (-guess)
    let exponent := max (if a < b * Nat.pow 2 52 then guess - 1 else guess) (-1074)
    let (a, b) := scale 2 n d (-exponent)
    let mantissa := divRound a b
    if mantissa * Nat.pow 2 (exponent + 1074).toNat ≥ Nat.pow 2 2098 then .infinite negative
    else .finite negative mantissa exponent

/-- The digits at the front of a text with a point among them, as a number and how many of them
stand behind the point, and what follows. `none` if there is no digit. -/
def fraction? (base : Nat) (t : Raw) : Option (Nat × Nat × Raw) :=
  let isDigit (c : Char) : Bool := (Number.digit? base c).isSome
  let (whole, rest) := Number.digits base 0 t
  match rest with
  | '.' :: behind =>
    let (all, after) := Number.digits base whole behind
    if t.head?.any isDigit ∨ behind.head?.any isDigit then
      some (all, behind.length - after.length, after)
    else none
  | _ => if t.head?.any isDigit then some (whole, 0, rest) else none

/-- The exponent behind a letter, and what follows; zero if there is none. -/
def exponent (letters : List Char) (t : Raw) : Int × Raw :=
  match t with
  | c :: rest =>
    if letters.contains c then
      let (negative, digits) :=
        match rest with
        | '-' :: digits => (true, digits)
        | '+' :: digits => (false, digits)
        | digits => (false, digits)
      if digits.head?.any Char.isDigit then
        let (n, after) := Number.digits 10 0 digits
        let n := min n 100000
        (if negative then -(n : Int) else n, after)
      else (0, t)
    else (0, t)
  | [] => (0, [])

/-- The number at the front of a text, and what follows. -/
def ofRaw? (t : Raw) : Option (Binary × Raw) :=
  let t := t.dropWhile Number.isBlank
  let (negative, t) :=
    match t with
    | '-' :: rest => (true, rest)
    | '+' :: rest => (false, rest)
    | rest => (false, rest)
  let lower := t.map Char.toLower
  if "infinity".toList.isPrefixOf lower then some (.infinite negative, t.drop 8)
  else if "inf".toList.isPrefixOf lower then some (.infinite negative, t.drop 3)
  else if "nan".toList.isPrefixOf lower then some (.notANumber negative, t.drop 3)
  else
    let hexadecimal? : Option (Nat × Nat × Raw) :=
      if "0x".toList.isPrefixOf lower then fraction? 16 (t.drop 2) else none
    match hexadecimal? with
    | some (n, places, rest) =>
      let (power, rest) := exponent ['p', 'P'] rest
      let (a, b) := scale 2 n 1 (power - 4 * places)
      some (round negative a b, rest)
    | none =>
      match fraction? 10 t with
      | some (n, places, rest) =>
        let (power, rest) := exponent ['e', 'E'] rest
        let (a, b) := scale 10 n 1 (power - places)
        some (round negative a b, rest)
      | none => none

/-- The exact value of a mantissa times a power of two, as a quotient. -/
def quotient (mantissa : Nat) (exponent : Int) : Nat × Nat := scale 2 mantissa 1 exponent

/-- Decimal digits, at least so many. -/
def digitsAtLeast (count n : Nat) : Raw :=
  let digits := Text.decimal n
  List.replicate (count - digits.length) '0' ++ digits

/-- A number with so many decimal places, given without the point. -/
def withPoint (places n : Nat) (keepsPoint : Bool) : Raw :=
  let digits := digitsAtLeast (places + 1) n
  let whole := digits.take (digits.length - places)
  if places = 0 then whole ++ if keepsPoint then ['.'] else []
  else whole ++ '.' :: digits.drop (digits.length - places)

/-- A quotient with so many decimal places. -/
def fixed (places : Nat) (keepsPoint : Bool) (n d : Nat) : Raw :=
  withPoint places (divRound (n * Nat.pow 10 places) d) keepsPoint

/-- The power of ten of the first digit of a quotient. -/
def magnitude (n d : Nat) : Int :=
  let guess : Int := (Text.decimal n).length - (Text.decimal d).length
  let (a, b) := scale 10 n d (-guess)
  if a < b then guess - 1 else guess

/-- The digits of a quotient, rounded to one before the point and so many behind it, and the power
of ten that goes with them. -/
def scientificDigits (places : Nat) (n d : Nat) : Nat × Int :=
  if n = 0 then (0, 0)
  else
    let power := magnitude n d
    let (a, b) := scale 10 n d (places - power)
    let digits := divRound a b
    if digits ≥ Nat.pow 10 (places + 1) then (digits / 10, power + 1) else (digits, power)

/-- A power of ten, written behind a letter. -/
def powerText (letter : Char) (power : Int) : Raw :=
  letter :: (if power < 0 then '-' else '+') :: digitsAtLeast 2 power.natAbs

/-- A quotient with one digit before the point. -/
def scientific (places : Nat) (keepsPoint : Bool) (letter : Char) (n d : Nat) : Raw :=
  let (digits, power) := scientificDigits places n d
  withPoint places digits keepsPoint ++ powerText letter power

/-- A decimal fraction without zeros at its end. -/
def trimmed (t : Raw) : Raw :=
  if t.contains '.' then
    let kept := t.reverse.dropWhile (· == '0')
    (if kept.head? = some '.' then kept.drop 1 else kept).reverse
  else t

/-- A quotient with so many digits, in the shorter of the two forms. -/
def general (count : Nat) (keepsZeros : Bool) (letter : Char) (n d : Nat) : Raw :=
  let count := max count 1
  let (digits, power) := scientificDigits (count - 1) n d
  let trim (t : Raw) : Raw := if keepsZeros then t else trimmed t
  if -4 ≤ power ∧ power < count then
    trim (fixed ((count : Int) - 1 - power).toNat keepsZeros n d)
  else trim (withPoint (count - 1) digits keepsZeros) ++ powerText letter power

/-- A number in hexadecimal digits, with one of them before the point. -/
def hexadecimal (mantissa : Nat) (exponent : Int) : Raw :=
  if mantissa = 0 then "0x0p+0".toList
  else
    let shift := 52 - mantissa.log2
    let full := mantissa * Nat.pow 2 shift
    let digits := Nat.toDigits 16 (full % Nat.pow 2 52)
    let digits := List.replicate (13 - digits.length) '0' ++ digits
    let digits := (digits.reverse.dropWhile (· == '0')).reverse
    let power := exponent - shift + 52
    "0x1".toList ++ (if digits = [] then [] else '.' :: digits) ++
      'p' :: (if power < 0 then '-' else '+') :: Text.decimal power.natAbs

/-- The number has a minus sign. -/
def isNegative : Binary → Bool
  | finite negative _ _ | infinite negative | notANumber negative => negative

/-- A number without its sign, in the form that a letter stands for. -/
def shown (b : Binary) (letter : Char) (places : Option Nat) (full : Bool) : Raw :=
  let lower (b : Binary) : Raw :=
    match b with
    | infinite _ => "inf".toList
    | notANumber _ => "nan".toList
    | finite _ mantissa exponent =>
      let (n, d) := quotient mantissa exponent
      match letter.toLower with
      | 'f' => fixed (places.getD 6) full n d
      | 'e' => scientific (places.getD 6) full 'e' n d
      | 'g' => general (places.getD 6) full 'e' n d
      | _ => hexadecimal mantissa exponent
  if letter.isUpper then (lower b).map Char.toUpper else lower b

end Binary

end Script

end LineShell
