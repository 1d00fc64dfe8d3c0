import LineShell.Text.Utf8

/-!
# Raw text

Below the shell, a name, an argument or the contents of a file are bytes, and what counts as long
is counted in bytes. Raw text keeps bytes in the form of characters, one character for each byte, so
that it can be taken apart like any other text.
-/

namespace LineShell

/-- Text whose characters stand for single bytes. -/
abbrev Raw := List Char

namespace Raw

/-- The raw text of some bytes. -/
def ofBytes (b : Bytes) : Raw := b.map fun x ↦ Char.ofNat x.toNat

/-- The bytes that a raw text stands for. -/
def bytes (r : Raw) : Bytes := r.map fun c ↦ UInt8.ofNat c.toNat

/-- The text that raw text is the UTF-8 form of, with U+FFFD in the place of malformed parts. -/
def text (r : Raw) : Text := Utf8.decodeLossy r.bytes

end Raw

/-- The raw form of a text: its UTF-8 bytes. -/
def Text.raw (t : Text) : Raw := .ofBytes t.utf8

/-- A natural number in decimal digits. -/
def Text.decimal (n : Nat) : Text := Nat.toDigits 10 n

end LineShell
