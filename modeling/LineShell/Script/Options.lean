import LineShell.Script.Streams

/-!
# Options of commands

Options come before the other arguments of a command. Several letters can share one argument, and
the value of an option is what follows its letter, or else the next argument. Two hyphens end the
options.
-/

namespace LineShell

namespace Script

/-- Options with their values, and the arguments that follow them. -/
structure Options where
  given : List (Char × Raw) := []
  rest : List Raw := []

namespace Options

/-- The letters of an argument with the values that they have there, and the last of them if its
value is still to come. Letters are `known`, or they are `valued`. -/
def letters (known valued : List Char) : Raw → Except Raw (List (Char × Raw) × Option Char)
  | [] => .ok ([], none)
  | c :: rest =>
    if valued.contains c then
      if rest = [] then .ok ([], some c) else .ok ([(c, rest)], none)
    else if known.contains c then do
      let (given, waiting) ← letters known valued rest
      .ok ((c, []) :: given, waiting)
    else .error ("Illegal option -".toList ++ [c])

/-- The options at the front of some arguments; or what is wrong with them. -/
def parse (known valued : List Char) : List Raw → Except Raw Options
  | [] => .ok {}
  | ['-', '-'] :: rest => .ok { rest }
  | ('-' :: c :: cs) :: rest =>
    match letters known valued (c :: cs), rest with
    | .error e, _ => .error e
    | .ok (given, none), rest => do
      let more ← parse known valued rest
      .ok { more with given := given ++ more.given }
    | .ok (_, some letter), [] =>
      .error ("No arg for -".toList ++ [letter] ++ " option".toList)
    | .ok (given, some letter), value :: rest => do
      let more ← parse known valued rest
      .ok { more with given := given ++ (letter, value) :: more.given }
  | rest => .ok { rest }

end Options

/-- The options at the front of some arguments. -/
def Run.options (known valued : String) (args : List Raw) : Run Options :=
  match Options.parse known.toList valued.toList args with
  | .ok options => return options
  | .error message => fail message

end Script

end LineShell
