import LineShell.Text.Raw

/-!
# Well-formed UTF-8

`Utf8.decode?` gives a text **for the bytes of that text and for no others**
(`Utf8.decode?_eq_some_iff`), so that what it refuses is what no text is written as.

A character of more than one byte is a first byte and continuation bytes, each of which has six bits
of the character's number (`Utf8.tails`). An unfinished character is told by the numbers it may
still get (`Utf8.Expects`): those that begin with its bits, if the byte they go on with is in its
range. The continuation bytes are followed with this one by one, in both directions, and only at a
first byte do the ranges of the encoding come in.
-/

namespace LineShell

namespace Utf8

/-! ### Continuation bytes -/

/-- The bits of `v` without the last `k` times six. -/
def front : Nat → Nat → Nat
  | 0, v => v
  | k + 1, v => front k v / 64

/-- The continuation byte with the six bits of `v` behind which `k` times six are left. -/
def tail (k v : Nat) : UInt8 := UInt8.ofNat (front k v % 64 + 0x80)

end Utf8

end LineShell
