import LineShell.Text.Raw

/-!
# Numbers in texts

How a number is read at the front of a text: blanks and a sign may come first, and without a given
base a leading zero stands for octal digits and `0x` for hexadecimal ones. Numbers that do not fit
into 64 bits are cut to the nearest one that does.
-/

namespace LineShell

namespace Script

namespace Number

/-- A blank before or behind a number. -/
def isBlank (c : Char) : Bool := c == ' ' || ('\t' ≤ c && c ≤ '\r')

/-- The value of a digit in a base. -/
def digit? (base : Nat) (c : Char) : Option Nat :=
  let value :=
    if c.isDigit then c.toNat - '0'.toNat
    else if 'a' ≤ c ∧ c ≤ 'z' then c.toNat - 'a'.toNat + 10
    else if 'A' ≤ c ∧ c ≤ 'Z' then c.toNat - 'A'.toNat + 10
    else base
  if value < base then some value else none

/-- The digits at the front of a text, as a number, and what follows. -/
def digits (base : Nat) (n : Nat) : Raw → Nat × Raw
  | [] => (n, [])
  | c :: rest =>
    match digit? base c with
    | some d => digits base (n * base + d) rest
    | none => (n, c :: rest)

/-- The number without a sign at the front of a text, and what follows. A base of zero leaves the
base to the text. -/
def unsigned? (base : Nat) (t : Raw) : Option (Nat × Raw) :=
  let inBase (base : Nat) (t : Raw) : Option (Nat × Raw) :=
    if t.head?.any fun c ↦ (digit? base c).isSome then some (digits base 0 t) else none
  if base ≠ 0 then inBase base t
  else
    match t with
    | '0' :: x :: rest =>
      if (x = 'x' ∨ x = 'X') ∧ rest.head?.any (fun c ↦ (digit? 16 c).isSome) then inBase 16 rest
      else inBase 8 t
    | '0' :: _ => inBase 8 t
    | _ => inBase 10 t

/-- The number at the front of a text, and what follows. -/
def signed? (base : Nat) (t : Raw) : Option (Int × Raw) :=
  match t.dropWhile isBlank with
  | '-' :: rest => (unsigned? base rest).map fun (n, rest) ↦ (-(n : Int), rest)
  | '+' :: rest => (unsigned? base rest).map fun (n, rest) ↦ ((n : Int), rest)
  | rest => (unsigned? base rest).map fun (n, rest) ↦ ((n : Int), rest)

/-- The least and the greatest number of 64 bits with a sign. -/
def least : Int := -9223372036854775808
@[inherit_doc least] def greatest : Int := 9223372036854775807

/-- The number that a text is, blanks around it left aside. In base zero a text without a digit is
the number zero. -/
def whole? (base : Nat) (t : Raw) : Option Int :=
  match signed? base t with
  | some (n, rest) =>
    if rest.all isBlank ∧ least ≤ n ∧ n ≤ greatest then some n else none
  | none => if base = 0 ∧ t.all isBlank then some 0 else none

/-- The natural number that a text is, if it fits into 31 bits. -/
def count? (t : Raw) : Option Nat :=
  match whole? 10 t with
  | some n => if 0 ≤ n ∧ n ≤ 2147483647 then some n.toNat else none
  | none => none

/-- An integer in decimal digits. -/
def shown (n : Int) : Raw :=
  if n < 0 then '-' :: Text.decimal n.natAbs else Text.decimal n.natAbs

end Number

end Script

end LineShell
