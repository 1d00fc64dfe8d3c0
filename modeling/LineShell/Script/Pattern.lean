import LineShell.Text.Raw

/-!
# Patterns

A pattern is a text in which some characters stand for others: a question mark for any character, an
asterisk for any number of them, and a list in brackets for one out of several. A backslash takes
the meaning of the next character away. A bracket that is not closed stands for itself.
-/

namespace LineShell

namespace Script

/-- What may stand in a list of characters. -/
inductive SetItem
  | range (first last : Char)
  | ofClass (isIn : Char → Bool)

/-- What one position of a pattern stands for. -/
inductive PatternItem
  | char (c : Char)
  | anyChar
  | anyText
  | set (inverted : Bool) (items : List SetItem)

namespace Pattern

/-- A byte as it is ordered in a range: those with the high bit come before the others. -/
def order (c : Char) : Nat := (c.toNat + 128) % 256

/-- A character that has a shape of its own, apart from letters and digits. -/
def isPunctuation (c : Char) : Bool := '!' ≤ c && c ≤ '~' && !c.isAlphanum

/-- The classes that a list can name. -/
def classes : List (String × (Char → Bool)) :=
  [("alnum", Char.isAlphanum), ("alpha", Char.isAlpha), ("digit", Char.isDigit),
    ("lower", Char.isLower), ("upper", Char.isUpper), ("punct", isPunctuation),
    ("graph", fun c ↦ '!' ≤ c && c ≤ '~'), ("print", fun c ↦ ' ' ≤ c && c ≤ '~'),
    ("cntrl", fun c ↦ c < ' ' || c == '\x7f'), ("blank", fun c ↦ c == ' ' || c == '\t'),
    ("space", fun c ↦ c == ' ' || ('\t' ≤ c && c ≤ '\r')),
    ("xdigit", fun c ↦ c.isDigit || ('a' ≤ c && c ≤ 'f') || ('A' ≤ c && c ≤ 'F'))]

/-- The class that a text behind a bracket names, and what follows. -/
def class? (t : Raw) : Option ((Char → Bool) × Raw) :=
  classes.findSome? fun (name, isIn) ↦
    let full := (":" ++ name ++ ":]").toList
    if full.isPrefixOf t then some (isIn, t.drop full.length) else none

/-- The character at the front of a text, less a backslash before it. -/
def takeChar? : Raw → Option (Char × Raw)
  | '\\' :: c :: rest => some (c, rest)
  | c :: rest => some (c, rest)
  | [] => none

/-- The items of a list up to its closing bracket, and what follows. The first item may be a closing
bracket itself. -/
def setItems : Nat → Bool → Raw → Option (List SetItem × Raw)
  | 0, _, _ => none
  | n + 1, isFirst, t =>
    let continued (item : SetItem) (rest : Raw) : Option (List SetItem × Raw) :=
      (setItems n false rest).map fun (items, rest) ↦ (item :: items, rest)
    match t with
    | [] => none
    | ']' :: rest => if isFirst then single continued ']' rest else some ([], rest)
    | '[' :: rest =>
      match class? rest with
      | some (isIn, rest) => continued (.ofClass isIn) rest
      | none => single continued '[' rest
    | _ =>
      match takeChar? t with
      | some (c, rest) => single continued c rest
      | none => none
where
  /-- An item that begins with a character: it alone, or a range. -/
  single (continued : SetItem → Raw → Option (List SetItem × Raw)) (c : Char) (rest : Raw) :
      Option (List SetItem × Raw) :=
    match rest with
    | '-' :: ']' :: _ => continued (.range c c) rest
    | '-' :: after =>
      match takeChar? after with
      | some (last, rest) => continued (.range c last) rest
      | none => none
    | _ => continued (.range c c) rest

/-- The items of a pattern. -/
def items : Nat → Raw → List PatternItem
  | 0, _ => []
  | _, [] => []
  | n + 1, c :: rest =>
    match c with
    | '?' => .anyChar :: items n rest
    | '*' => .anyText :: items n rest
    | '\\' =>
      match rest with
      | [] => [.char '\\']
      | c :: rest => .char c :: items n rest
    | '[' =>
      let (inverted, listed) :=
        match rest with
        | '!' :: listed => (true, listed)
        | listed => (false, listed)
      match setItems (listed.length + 1) true listed with
      | some (set, rest) => .set inverted set :: items n rest
      | none => .char '[' :: items n rest
    | c => .char c :: items n rest

/-- The items of a pattern. -/
def ofRaw (pattern : Raw) : List PatternItem := items pattern.length pattern

/-- A character is among the items of a list. -/
def inSet (items : List SetItem) (c : Char) : Bool :=
  items.any fun
    | .range first last => order first ≤ order c && order c ≤ order last
    | .ofClass isIn => isIn c

/-- A text is what a pattern stands for. -/
def isMatch : List PatternItem → Raw → Bool
  | [], t => t.isEmpty
  | .char c :: p, d :: t => c == d && isMatch p t
  | .anyChar :: p, _ :: t => isMatch p t
  | .set inverted items :: p, c :: t => inSet items c != inverted && isMatch p t
  | .anyText :: p, t => isMatch p t || anywhere (isMatch p) t
  | _ :: _, [] => false
where
  /-- Something holds of a text behind one or more characters. -/
  anywhere (holds : Raw → Bool) : Raw → Bool
    | [] => false
    | _ :: t => holds t || anywhere holds t

end Pattern

end Script

end LineShell
