import LineShell.Text.ClusterRanges

/-!
# Grapheme clusters and the backspace character

What a reader of a line takes for one character may be several code points: a letter and its
accents, a flag, a family of emoji. `clusters` cuts a text where the standard's rules for extended
grapheme clusters allow a break, going once through the text with what the rules need to know about
the part already read (`Reading`). `applyBackspaces` lets each U+0008 of a line take back the
cluster before it.

**A rubbed-out cluster is counted in bytes, modulo 256.** The count is kept in one byte, so from a
cluster of 256 bytes and more only the remainder goes.
-/

namespace LineShell

/-! ### Classes of characters -/

/-- The classes that the cluster rules distinguish. -/
inductive ClusterClass
  | carriageReturn | lineFeed | control
  | extend | joiner | spacing | prepend
  | regional
  | leading | vowel | trailing | syllableLV | syllableLVT
  | other
  deriving DecidableEq, Repr

open ClusterRanges in
/-- The cluster class of a character. -/
def clusterClass (c : Char) : ClusterClass :=
  let n := c.toNat
  if n = 0xD then .carriageReturn
  else if n = 0xA then .lineFeed
  else if covers controls n then .control
  else if n < 0x300 then .other
  else if n = 0x200D then .joiner
  else if covers extenders n then .extend
  else if 0x1F1E6 ≤ n ∧ n ≤ 0x1F1FF then .regional
  else if covers prepended n then .prepend
  else if covers spacingMarks n then .spacing
  else if (0x1100 ≤ n ∧ n ≤ 0x115F) ∨ (0xA960 ≤ n ∧ n ≤ 0xA97C) then .leading
  else if (0x1160 ≤ n ∧ n ≤ 0x11A7) ∨ (0xD7B0 ≤ n ∧ n ≤ 0xD7C6) then .vowel
  else if n = 0x16D63 ∨ (0x16D67 ≤ n ∧ n ≤ 0x16D6A) then .vowel
  else if (0x11A8 ≤ n ∧ n ≤ 0x11FF) ∨ (0xD7CB ≤ n ∧ n ≤ 0xD7FB) then .trailing
  else if 0xAC00 ≤ n ∧ n ≤ 0xD7A3 then if (n - 0xAC00) % 28 = 0 then .syllableLV else .syllableLVT
  else .other

/-- A sign that joins the consonant before it with the one after it. -/
def isConjunctLinker (c : Char) : Bool := ClusterRanges.conjunctLinkers.contains c.toNat

/-- A sign that may stand between such consonants. The zero-width non-joiner keeps them apart. -/
def isConjunctSign (c : Char) : Bool :=
  c.toNat ≠ 0x200C && (clusterClass c == .extend || clusterClass c == .joiner)

/-! ### Where a text may be cut -/

/-- What the rules need to know of the text up to some point: the class of the last character,
whether an odd number of regional indicators ends here, whether a pictograph with its extenders
ends here (and then possibly a joiner), and whether an Indic consonant with its signs does, and if
so whether a linker is among the signs. -/
structure Reading where
  last : ClusterClass
  oddRegional : Bool
  pictograph : Bool
  consonant : Option Bool

/-- The reading after one more character. -/
def Reading.next (before : Option Reading) (c : Char) : Reading :=
  let cls := clusterClass c
  { last := cls
    oddRegional := cls == .regional && !(before.any (·.oddRegional))
    pictograph := ClusterRanges.covers ClusterRanges.pictographs c.toNat ||
      ((cls == .extend || cls == .joiner) &&
        before.any fun r ↦ r.pictograph && r.last != .joiner)
    consonant :=
      if ClusterRanges.covers ClusterRanges.conjunctConsonants c.toNat then some false
      else if isConjunctLinker c then (before.bind (·.consonant)).map fun _ ↦ true
      else if isConjunctSign c then before.bind (·.consonant)
      else none }

/-- No cut is allowed between a text read as `r` and the character `c`. -/
def Reading.joins (r : Reading) (c : Char) : Bool :=
  match r.last, clusterClass c with
  | .carriageReturn, .lineFeed => true
  | .carriageReturn, _ | .lineFeed, _ | .control, _ => false
  | _, .carriageReturn | _, .lineFeed | _, .control => false
  | _, .extend | _, .joiner | _, .spacing => true
  | .prepend, _ => true
  | .leading, .leading | .leading, .vowel | .leading, .syllableLV | .leading, .syllableLVT => true
  | .syllableLV, .vowel | .vowel, .vowel => true
  | .syllableLV, .trailing | .vowel, .trailing => true
  | .syllableLVT, .trailing | .trailing, .trailing => true
  | .regional, .regional => r.oddRegional
  | last, _ =>
    (last == .joiner && r.pictograph && ClusterRanges.covers ClusterRanges.pictographs c.toNat) ||
      (r.consonant == some true && ClusterRanges.covers ClusterRanges.conjunctConsonants c.toNat)

/-- The clusters of the rest of a text, the first one being the continuation of the text before. -/
def clustersFrom (r : Reading) : Text → Text × List Text
  | [] => ([], [])
  | c :: rest =>
    let (first, others) := clustersFrom (Reading.next (some r) c) rest
    if r.joins c then (c :: first, others) else ([], (c :: first) :: others)

/-- The extended grapheme clusters of a text. -/
def clusters : Text → List Text
  | [] => []
  | c :: rest =>
    let (first, others) := clustersFrom (Reading.next none c) rest
    (c :: first) :: others

/-! ### Backspaces -/

/-- The character that takes back the cluster before it. -/
def backspace : Char := '\x08'

/-- A text, given last character first, without its last characters that make up `n` bytes. -/
def dropBytes : Nat → List Char → List Char
  | _, [] => []
  | 0, cs => cs
  | n + 1, c :: cs => dropBytes (n + 1 - c.utf8Size) cs

/-- The size of a text in bytes, kept in one byte. -/
def byteCount (t : Text) : Nat := t.foldl (fun n c ↦ n + c.utf8Size) 0 % 256

/-- Take the clusters one by one: `kept` is the text so far, last character first, and `sizes` are
the byte counts of its clusters, last one first. -/
def rubOut (kept : List Char) (sizes : List Nat) : List Text → Text
  | [] => kept.reverse
  | cluster :: rest =>
    if cluster = [backspace] then
      match sizes with
      | [] => rubOut kept [] rest
      | n :: earlier => rubOut (dropBytes n kept) earlier rest
    else rubOut (cluster.reverse ++ kept) (byteCount cluster :: sizes) rest

/-- The line that remains when every backspace has taken back the cluster before it. -/
def applyBackspaces (t : Text) : Text :=
  if t.contains backspace then rubOut [] [] (clusters t) else t

end LineShell
