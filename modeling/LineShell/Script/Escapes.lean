import LineShell.Text.Raw

/-!
# Backslash escapes in output

The output commands of scripts understand backslash sequences in what they print: single letters for
control characters, octal numbers for bytes, and one sequence that ends all output.
-/

namespace LineShell

namespace Script

namespace Escapes

/-- The control character that a letter behind a backslash stands for. -/
def control? : Char → Option Char
  | 'a' => some '\x07'
  | 'b' => some '\x08'
  | 'e' => some '\x1b'
  | 't' => some '\x09'
  | 'n' => some '\x0a'
  | 'v' => some '\x0b'
  | 'f' => some '\x0c'
  | 'r' => some '\x0d'
  | '\\' => some '\\'
  | _ => none

/-- An octal digit. -/
def isOctal (c : Char) : Bool := '0' ≤ c && c ≤ '7'

/-- The byte that octal digits stand for. -/
def octal (digits : Raw) : Char := Char.ofNat (Nat.ofDigitChars 8 digits 0 % 256)

/-- The character that is meant by what stands behind a backslash, and what follows. If nothing is
meant by it, the backslash stands for itself. -/
def meant (t : Raw) : Char × Raw :=
  match t with
  | [] => ('\\', [])
  | c :: rest =>
    match control? c with
    | some d => (d, rest)
    | none =>
      let digits := (t.take 3).takeWhile isOctal
      if digits = [] then ('\\', t) else (octal digits, t.drop digits.length)

/-- A text with its escapes resolved, and whether all output ends with it. The first argument counts
characters that have been dealt with already. -/
def resolve : Nat → Raw → Raw × Bool
  | _, [] => ([], false)
  | done + 1, _ :: rest => resolve done rest
  | 0, c :: rest =>
    if c = '\\' then
      match rest with
      | 'c' :: _ => ([], true)
      | _ =>
        let digits :=
          match rest with
          | '0' :: d :: after => if isOctal d then d :: after else rest
          | _ => rest
        let (c, after) := meant digits
        let (shown, stops) := resolve (rest.length - after.length) rest
        (c :: shown, stops)
    else
      let (shown, stops) := resolve 0 rest
      (c :: shown, stops)

end Escapes

end Script

end LineShell
