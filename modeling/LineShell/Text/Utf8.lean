import LineShell.Text.Basic

/-!
# UTF-8

Writing text as bytes, and two ways of reading it back. A reader goes through the bytes once and
holds at most one unfinished character. A byte that cannot go on with the unfinished character ends
it as malformed and is then read afresh, so that one malformed start costs one replacement character
and swallows nothing that follows it.

* `Text.utf8` writes; `Utf8.decode?` accepts well-formed input only; `Utf8.decodeLossy` puts U+FFFD
  in the place of each malformed part.
-/

namespace LineShell

/-- The UTF-8 bytes of a text. -/
def Text.utf8 (t : Text) : Bytes := t.flatMap String.utf8EncodeChar

@[simp] theorem Text.utf8_nil : Text.utf8 [] = [] := rfl

@[simp] theorem Text.utf8_append (s t : Text) :
    Text.utf8 (s ++ t) = Text.utf8 s ++ Text.utf8 t := by
  simp [Text.utf8]

/-- Only the empty text has no bytes. -/
@[simp] theorem Text.utf8_eq_nil_iff {t : Text} : Text.utf8 t = [] ↔ t = [] := by
  cases t with
  | nil => simp
  | cons c r =>
    simp only [Text.utf8, List.flatMap_cons, List.append_eq_nil_iff, reduceCtorEq, iff_false,
      not_and]
    intro h
    have := congrArg List.length h
    simp only [String.length_utf8EncodeChar, List.length_nil] at this
    exact absurd this (Nat.ne_of_gt c.utf8Size_pos)

namespace Utf8

/-- A character whose first bytes have been read: how many more bytes it takes, the range the next
one has to lie in, and the bits so far. -/
structure Unfinished where
  more : Nat
  low : UInt8
  high : UInt8
  bits : Nat

/-- What a first byte announces: a whole character, the start of a longer one, or nothing. The range
of the second byte is what keeps overlong forms, surrogates and values above U+10FFFF out. -/
def start (b : UInt8) : Option Char × Option Unfinished :=
  if b < 0x80 then (some (Char.ofNat b.toNat), none)
  else if b < 0xC2 then (none, none)
  else if b < 0xE0 then (none, some ⟨1, 0x80, 0xBF, b.toNat - 0xC0⟩)
  else if b < 0xF0 then
    let low := if b = 0xE0 then 0xA0 else 0x80
    let high := if b = 0xED then 0x9F else 0xBF
    (none, some ⟨2, low, high, b.toNat - 0xE0⟩)
  else if b < 0xF5 then
    let low := if b = 0xF0 then 0x90 else 0x80
    let high := if b = 0xF4 then 0x8F else 0xBF
    (none, some ⟨3, low, high, b.toNat - 0xF0⟩)
  else (none, none)

/-- Read `b` as a first byte, hand what it completes (`none` for a malformed byte) to the front of
what follows, and go on. -/
def afresh (read : Option Unfinished → List (Option Char)) (b : UInt8) : List (Option Char) :=
  match start b with
  | (some c, _) => some c :: read none
  | (none, some u) => read (some u)
  | (none, none) => none :: read none

/-- The characters of a byte sequence, with `none` in the place of each malformed part. -/
def read : Option Unfinished → Bytes → List (Option Char)
  | none, [] => []
  | some _, [] => [none]
  | none, b :: rest => afresh (fun u ↦ read u rest) b
  | some u, b :: rest =>
    if u.low ≤ b ∧ b ≤ u.high then
      let bits := u.bits * 64 + (b.toNat - 0x80)
      if u.more ≤ 1 then some (Char.ofNat bits) :: read none rest
      else read (some ⟨u.more - 1, 0x80, 0xBF, bits⟩) rest
    else none :: afresh (fun u ↦ read u rest) b

/-- The text of well-formed bytes. -/
def decode? (bytes : Bytes) : Option Text := (read none bytes).mapM id

/-- The text of any bytes, each malformed part shown as U+FFFD. -/
def decodeLossy (bytes : Bytes) : Text := (read none bytes).map (·.getD '\uFFFD')

end Utf8

end LineShell
