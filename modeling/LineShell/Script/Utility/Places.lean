import LineShell.Script.Options
import LineShell.Script.Startup

/-!
# Built-in commands for the place of a process

Going to another directory, which is known by the path that led there, links included, unless that
is asked to be resolved; and the permission bits that new files do not get.
-/

namespace LineShell

namespace Script

namespace Utility

open Run

/-! ### Directories -/

/-- Links are to be resolved, as the last option says. -/
def resolvesLinks (o : Options) : Bool := o.given.getLast?.any (·.1 = 'P')

/-- A path as seen from a directory, with the steps back taken. Two slashes at its front are
kept. -/
def joinedDir (dir path : Raw) : Raw :=
  let whole :=
    if path.isRooted then path
    else if dir.getLast? = some '/' then dir ++ path
    else dir ++ '/' :: path
  let root : Raw :=
    match whole with
    | '/' :: '/' :: '/' :: _ => ['/']
    | '/' :: '/' :: _ => ['/', '/']
    | _ => ['/']
  let step (names : List Raw) (name : Raw) : List Raw :=
    if name = [] ∨ name = ['.'] then names
    else if name = ['.', '.'] then names.tail
    else name :: names
  root ++ ['/'].intercalate ((whole.splitOn '/').foldl step []).reverse

/-- Go to a directory, if there is one. -/
def enter (links : Bool) (path : Raw) : Run Bool := do
  let s ← get
  let fs := s.world.machine.files
  let dir? := if links ∨ (!path.isRooted ∧ s.dir = []) then none else some (joinedDir s.dir path)
  match fs.resolve s.here (dir?.getD path) with
  | .error _ => return false
  | .ok place =>
    if !fs.isDirectory place then return false
    modify ({ · with here := place, found := s.found.map ({ · with stale := true }) })
    assign "OLDPWD".toList (some s.dir) true
    setDir (← dir?.elim currentDir pure)
    return true

/-- A path that is not looked for along a search path. -/
def isFixed (path : Raw) : Bool :=
  path.isRooted || (path.splitOn '/').head?.any fun name ↦ name = ['.'] ∨ name = ['.', '.']

/-- Go to a directory: the one that is named, or the home directory. It may be looked for along a
search path; if that leads elsewhere, the directory is shown. -/
def changeDir (args : List Raw) : Run Nat := do
  let o ← options "LP" "" args
  let (named, isShown) ←
    match o.rest with
    | [] => pure ((← value? "HOME".toList).getD [], false)
    | ['-'] :: _ => pure ((← value? "OLDPWD".toList).getD [], true)
    | named :: _ => pure (named, false)
  let dest := if named = [] then ['.'] else named
  let s ← get
  let fs := s.world.machine.files
  let leads (dir : Raw) : Bool :=
    let path := if dir = [] then dest else dir ++ '/' :: dest
    (fs.resolve s.here path).toOption.any fs.isDirectory
  let dirs ←
    match isFixed named, ← value? "CDPATH".toList with
    | false, some path => pure (path.splitOn ':')
    | _, _ => pure []
  let (path, isShown) :=
    match dirs.find? leads with
    | none | some [] => (dest, isShown)
    | some dir => (dir ++ '/' :: dest, true)
  if !(← enter (resolvesLinks o) path) then fail ("can't cd to ".toList ++ dest)
  if isShown then printLine (← get).dir
  return 0

/-- Print the path of the directory. -/
def printDir (args : List Raw) : Run Nat := do
  let o ← options "LP" "" args
  let s ← get
  printLine (← if resolvesLinks o then currentDir else pure s.dir)
  return 0

/-! ### Permission bits -/

/-- The letters of some permission bits, of three. -/
def bitLetters (bits : Nat) : Raw :=
  (if bits / 4 % 2 = 1 then ['r'] else []) ++ (if bits / 2 % 2 = 1 then ['w'] else []) ++
    if bits % 2 = 1 then ['x'] else []

/-- Permission bits as letters, for each kind of user. -/
def shownBits (bits : Nat) : Raw :=
  "u=".toList ++ bitLetters (bits / 64) ++ ",g=".toList ++ bitLetters (bits / 8) ++
    ",o=".toList ++ bitLetters bits

/-- Permission bits that are changed by a text. -/
structure Bits where
  /-- The bits there were. -/
  old : Nat
  new : Nat
  /-- The kinds of users that are meant. -/
  users : Nat := 0

namespace Bits

/-- The kinds of users that a letter means. -/
def userBits : Char → Option Nat
  | 'a' => some 0o111
  | 'u' => some 0o100
  | 'g' => some 0o010
  | 'o' => some 0o001
  | _ => none

/-- The bits that a letter means. -/
def letterBits (old : Nat) : Char → Option Nat
  | 'r' => some 4
  | 'w' => some 2
  | 'x' => some 1
  | 'X' => some (if old &&& 0o111 = 0 then 0 else 1)
  | 's' => some 0
  | 'u' => some (old / 64 % 8)
  | 'g' => some (old / 8 % 8)
  | 'o' => some (old % 8)
  | _ => none

/-- The bits without some others. -/
def without (a b : Nat) : Nat := a &&& (0o777 ^^^ b)

/-- Change bits as a text says; `none` if it says nothing. The first argument bounds the number of
changes. -/
def change : Nat → Bits → Raw → Option Nat
  | 0, b, _ => some b.new
  | _, b, [] => some b.new
  | n + 1, b, t =>
    let users := t.takeWhile fun c ↦ (userBits c).isSome
    let named := users.foldl (fun bits c ↦ bits ||| (userBits c).getD 0) b.users
    let meant := if named = 0 then 0o111 else named
    match t.drop users.length with
    | [] => some b.new
    | op :: rest =>
      if op ≠ '=' ∧ op ≠ '+' ∧ op ≠ '-' then none
      else
        let letters := rest.takeWhile fun c ↦ (letterBits b.old c).isSome
        let bits := letters.foldl (fun bits c ↦ bits ||| (letterBits b.old c).getD 0) 0 * meant
        let new :=
          match op with
          | '-' => without b.new bits
          | '=' => bits ||| without b.new (meant * 7)
          | _ => b.new ||| bits
        match rest.drop letters.length with
        | [] => some new
        | ',' :: rest => change n { b with new, users := 0 } rest
        | rest => change n { b with new, users := meant } rest

end Bits

/-- An octal number of four digits. -/
def octal (n : Nat) : Raw :=
  let digits := Nat.toDigits 8 n
  List.replicate (4 - digits.length) '0' ++ digits

/-- Print or change the permission bits that new files do not get. -/
def changeMask (args : List Raw) : Run Nat := do
  let o ← options "S" "" args
  let mask := (← get).mask
  match o.rest with
  | [] => printLine (if o.given = [] then octal mask else shownBits (0o777 ^^^ mask))
  | t :: _ =>
    if t.head?.any Char.isDigit then
      if t.all fun c ↦ '0' ≤ c && c ≤ '7' then
        modify ({ · with mask := Nat.ofDigitChars 8 t 0 &&& 0o777 })
      else failNumber t
    else
      let old := 0o777 ^^^ mask
      match Bits.change (t.length + 1) { old, new := old } t with
      | some new => modify ({ · with mask := 0o777 ^^^ (new &&& 0o777) })
      | none => fail ("Illegal mode: ".toList ++ t)
  return 0

end Utility

end Script

end LineShell
