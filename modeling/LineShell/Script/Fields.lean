import LineShell.Script.Pattern

/-!
# Splitting into fields

What a word comes to is a sequence of segments. Some of them are split, at the characters that a
variable names or at the cuts between arguments, and some stay whole; quotes leave a mark, because a
quoted text is a field even if it is empty. `split` makes fields of segments.

A pattern can take the front of a field away (`Field.withoutFront`) or its end
(`Field.withoutEnd`). It never matches beyond a cut.
-/

namespace LineShell

namespace Script

/-- A piece of an expanded word. -/
inductive Piece
  /-- A character, which stands for itself in a pattern if it is escaped. -/
  | char (c : Char) (escaped : Bool)
  | quote
  /-- The place between two arguments. -/
  | cut
  deriving DecidableEq

/-- Where a segment is split. -/
inductive Splitting
  | never
  | atSeparators
  | atCuts
  deriving DecidableEq

/-- Pieces that are split in one way. -/
structure Segment where
  splitting : Splitting
  pieces : List Piece

/-- A field, as pieces. -/
abbrev Field := List Piece

namespace Field

/-- The text of a field. -/
def text (f : Field) : Raw :=
  f.filterMap fun
    | .char c _ => some c
    | _ => none

/-- The pattern that a field is. A backslash that is not escaped takes the place of the escape of
the next character. -/
def pattern (f : Field) : Raw := go false f
where
  /-- Go on behind a backslash or not. -/
  go : Bool → Field → Raw
    | _, [] => []
    | behind, .char c escaped :: rest =>
      if escaped then (if behind then [c] else ['\\', c]) ++ go false rest
      else c :: go (c == '\\' && !behind) rest
    | behind, _ :: rest => go behind rest

/-- The part of a field before its first cut. -/
def first (f : Field) : Field := f.takeWhile (· ≠ .cut)

/-- A character that keeps a mark if it stands in quotes, since it could have a meaning. -/
def isMarked (c : Char) : Bool :=
  "!*?[=~:/-]\\".toList.contains c || ('\x81' ≤ c && c ≤ '\x88')

/-- What is looked through from the end: everything, or only the part before the first cut if it has
to be freed of marks. -/
def searched (f : Field) : Field :=
  if f.first.any (· matches .char _ true) && f.first.text.any isMarked then f.first else f

/-- The place in a field that has a property: the first one, up to the first cut. -/
def placeForward? (f : Field) (holds : Nat → Bool) : Option Nat :=
  (List.range (f.first.length + 1)).find? holds

/-- The place that has a property of what is looked through from the end: the last one. -/
def placeBackward? (f : Field) (holds : Nat → Bool) : Option Nat :=
  let size := f.searched.length
  ((List.range (size + 1)).reverse.find? holds).map fun n ↦ f.length - size + n

/-- A field without the shortest or the longest part at its front that a pattern matches. -/
def withoutFront (pattern : List PatternItem) (longest : Bool) (f : Field) : Field :=
  let holds (n : Nat) : Bool := Pattern.isMatch pattern (text (f.first.take n))
  f.drop ((if longest then f.placeBackward? holds else f.placeForward? holds).getD 0)

/-- A field without the shortest or the longest part at its end that a pattern matches. No such part
goes beyond a cut, but what follows the cut goes with it. -/
def withoutEnd (pattern : List PatternItem) (longest : Bool) (f : Field) : Field :=
  let place? :=
    if longest then f.placeForward? fun n ↦ Pattern.isMatch pattern (text (first (f.drop n)))
    else f.placeBackward? fun n ↦ Pattern.isMatch pattern (text (first (f.searched.drop n)))
  f.take (place?.getD f.length)

end Field

/-- The pieces of a text. -/
def pieces (t : Raw) (escaped : Bool) : List Piece := t.map (.char · escaped)

/-- The blanks that count as one separator if there are several of them. -/
def isSpacing (c : Char) : Bool := c == ' ' || c == '\t' || c == '\n'

/-- Fields in the making. -/
structure Splitter where
  /-- The complete fields, the last one first. -/
  complete : List Field := []
  /-- The pieces of the next field, the last one first. -/
  current : Field := []
  /-- How many more fields may be completed; `none` if there is no limit. -/
  room : Option Nat := none
  /-- A spacing separator has just been passed. -/
  spacing : Bool := false
  /-- The segment before was split at cuts only. -/
  behindCuts : Bool := false
  /-- Once there is no more room: how much of the last field counts if nothing follows. -/
  kept : Option Nat := none

namespace Splitter

/-- Put a piece behind the current field. -/
def add (s : Splitter) (p : Piece) : Splitter := { s with current := p :: s.current }

/-- Complete the current field. -/
def close (s : Splitter) : Splitter :=
  { s with complete := s.current.reverse :: s.complete, current := [] }

/-- Take one piece of a segment that is split at some separators. -/
def step (separators : Raw) (atCuts : Bool) (s : Splitter) (p : Piece) : Splitter :=
  let isSeparator :=
    match p with
    | .char c _ => !atCuts && separators.contains c
    | .cut => true
    | .quote => false
  let isSpace := isSeparator &&
    match p with
    | .char c _ => isSpacing c
    | _ => true
  if s.room = some 0 then
    let kept :=
      if isSpace then some (s.kept.getD s.current.length)
      else if isSeparator && s.spacing then s.kept
      else none
    { s with kept, spacing := s.spacing && isSpace }.add p
  else if s.spacing && isSpace then s
  else if s.spacing && isSeparator then { s with spacing := false }
  else if isSeparator then
    let spacing := if s.behindCuts || atCuts then s.spacing else isSpace
    if s.current = [] ∧ spacing then { s with spacing := false }
    else
      match s.room with
      | some 1 => { s with room := some 0, kept := some s.current.length, spacing }.add p
      | room => { s with room := room.map (· - 1), spacing }.close
  else { s with spacing := false }.add p

/-- Take a segment. The second half of the state says whether the last segment that was split was
split at cuts. -/
def take (separators : Raw) : Splitter × Bool → Segment → Splitter × Bool
  | (s, last), ⟨.never, pieces⟩ => (pieces.foldl add s, last)
  | (s, last), ⟨splitting, pieces⟩ =>
    let atCuts := splitting = .atCuts
    let s := { s with spacing := false, behindCuts := last }
    (pieces.foldl (step separators atCuts) s, atCuts)

/-- The fields at the end. -/
def fields (s : Splitter) (endsInCuts : Bool) : List Field :=
  let current := s.current.reverse
  let current := if endsInCuts then current else current.take (s.kept.getD current.length)
  (if current = [] ∧ !endsInCuts then s.complete else current :: s.complete).reverse

end Splitter

/-- Split segments into fields: as many as there are, or at most so many. -/
def split (separators : Raw) (room : Option Nat) (segments : List Segment) : List Field :=
  let (s, endsInCuts) := segments.foldl (Splitter.take separators) ({ room }, false)
  s.fields endsInCuts

end Script

end LineShell
