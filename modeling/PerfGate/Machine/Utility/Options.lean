import PerfGate.Machine.FileTree

/-!
# Options of programs

What the arguments of a program ask for: letters behind a minus, some of which take a value,
and operands.
-/

namespace PerfGate

/-- What a program answers. -/
structure Reply where
  /-- What it writes. -/
  output : Text := []
  /-- What it writes to standard error. -/
  errors : Text := []
  /-- Its exit code. -/
  status : Nat := 0
deriving DecidableEq

/-- A text that a program reads: a file, or its input, which has no name. -/
structure Source where
  /-- The name of the file. -/
  name : Text := []
  /-- The text. -/
  content : Text
deriving DecidableEq

/-- Options with their values, which are empty for those that take none. -/
abbrev Options := List (Char × Text)

namespace Options

/-- The options and the operands of arguments.  The letters in `valued` take a value, which
is the rest of the option or the next argument. -/
def ofArguments (valued : Text) : List Text → Options × List Text
  | [] => ([], [])
  | ['-'] :: args =>
    let (os, rest) := ofArguments valued args
    (os, ['-'] :: rest)
  | ('-' :: c :: t) :: args =>
    if c == '-' && t.isEmpty then ([], args)
    else
      match (c :: t).findIdx? valued.contains with
      | some i =>
        let flags := ((c :: t).take i).map fun f => (f, [])
        let name := (c :: t).getD i ' '
        let value := (c :: t).drop (i + 1)
        if value.isEmpty then
          match args with
          | v :: args =>
            let (os, rest) := ofArguments valued args
            (flags ++ (name, v) :: os, rest)
          | [] => (flags ++ [(name, [])], [])
        else
          let (os, rest) := ofArguments valued args
          (flags ++ (name, value) :: os, rest)
      | none =>
        let (os, rest) := ofArguments valued args
        ((c :: t).map (fun f => (f, [])) ++ os, rest)
  | a :: args =>
    let (os, rest) := ofArguments valued args
    (os, a :: rest)

/-- Whether an option is given. -/
def has (os : Options) (c : Char) : Bool := os.any (·.1 == c)

/-- The value of an option. -/
def value? (os : Options) (c : Char) : Option Text := os.lookup c

end Options

end PerfGate
