import PerfGate.Machine.Shell.Arithmetic
import PerfGate.Machine.Utility.Condition
import PerfGate.Machine.Utility.Filter

/-!
# Utilities

Programs that answer at once: they read no input, and at most change files.
-/

namespace PerfGate

namespace Utility

/-- The reply and the tree after each operand was handled in turn. -/
def each (step : FileTree → Text → Except Text FileTree) (t : FileTree) (operands : List Text) :
    Reply × FileTree :=
  operands.foldl
    (fun (r, t) path =>
      match step t path with
      | .ok t => (r, t)
      | .error words => ({ r with errors := r.errors ++ words, status := 1 }, t))
    ({}, t)

/-- Creates a file, if there is none. -/
def touch (t : FileTree) (cwd : Place) (path : Text) : Except Text FileTree :=
  if t.has cwd path then .ok t
  else
    match t.openFile cwd path with
    | .ok (_, t) => .ok t
    | .error e =>
    .error ("touch: cannot touch '".toList ++ path ++ "': ".toList ++ e.message ++ ['\n'])

/-- Creates a directory, or with `parents` all those above it too. -/
def makeDirectory (parents : Bool) (t : FileTree) (cwd : Place) (path : Text) :
    Except Text FileTree :=
  let refused (e : Errno) : Text :=
    "mkdir: cannot create directory '".toList ++ path ++ "': ".toList ++ e.message ++ ['\n']
  if parents then
    match t.makeDirectories cwd path with
    | (t, none) => .ok t
    | (_, some e) => .error (refused e)
  else
    match t.place cwd path with
    | .error e => .error (refused e)
    | .ok p =>
      if (t.at? p).isSome then .error (refused .exists)
      else
        match t.entryRefusal? p.dropLast with
        | some e => .error (refused e)
        | none => .ok (t.put p .directory)

/-- Removes a file, or with `whole` a directory with all it holds. -/
def remove (whole force : Bool) (t : FileTree) (cwd : Place) (path : Text) :
    Except Text FileTree :=
  let refused (e : Errno) : Text :=
    "rm: cannot remove '".toList ++ path ++ "': ".toList ++ e.message ++ ['\n']
  match t.stat cwd path with
  | .error e => if force then .ok t else .error (refused e)
  | .ok n =>
    if whole then .ok (t.removeAll cwd path)
    else if n.isDirectory then .error (refused .isDirectory)
    else .ok (t.remove cwd path)

/-- Removes an empty directory. -/
def removeDirectory (t : FileTree) (cwd : Place) (path : Text) : Except Text FileTree :=
  let refused (words : Text) : Except Text FileTree :=
    .error ("rmdir: failed to remove '".toList ++ path ++ "': ".toList ++ words ++ ['\n'])
  match t.stat cwd path with
  | .error e => refused e.message
  | .ok n =>
    let left := t.remove cwd path
    if !n.isDirectory then refused Errno.notDirectory.message
    else if left.has cwd path then refused "Directory not empty".toList
    else .ok left

/-- Where a file goes that is put to a path: into it, if it is a directory. -/
def destination (t : FileTree) (cwd : Place) (source target : Text) : Text :=
  if t.isDirectory cwd target then Path.join target (Path.fileName source) else target

/-- Copies a file. -/
def copy (t : FileTree) (cwd : Place) (source target : Text) : Except Text FileTree :=
  match t.copy cwd source (destination t cwd source target) with
  | .ok t => .ok t
  | .error e => .error ("cp: cannot stat '".toList ++ source ++ "': ".toList ++ e.message ++ ['\n'])

/-- Moves a file. -/
def move (t : FileTree) (cwd : Place) (source target : Text) : Except Text FileTree :=
  match t.copy cwd source (destination t cwd source target) with
  | .ok t => .ok (t.remove cwd source)
  | .error e => .error ("mv: cannot stat '".toList ++ source ++ "': ".toList ++ e.message ++ ['\n'])

/-- Sets the permission bits of a file. -/
def changeMode (mode : Text) (t : FileTree) (cwd : Place) (path : Text) : Except Text FileTree :=
  let refused (e : Errno) : Text :=
    "chmod: cannot access '".toList ++ path ++ "': ".toList ++ e.message ++ ['\n']
  match t.place cwd path with
  | .error e => .error (refused e)
  | .ok p =>
    match t.at? p with
    | some (.file content old) =>
      let bits := if mode.all Format.isOctal then Format.octalValue mode
        else if mode.contains '+' then old ||| 73 else old &&& 438
      .ok (t.put p (.file content bits))
    | some _ => .ok t
    | none => .error (refused .notFound)

/-- The numbers from the first to the last, in steps. -/
def seq (args : List Text) : Text :=
  let (os, operands) := Options.ofArguments ['s'] args
  let (first, step, last) := match operands.filterMap Numeral.integer? with
    | [b] => (1, 1, b)
    | [a, b] => (a, 1, b)
    | a :: step :: b :: _ => (a, step, b)
    | [] => (1, 1, 0)
  let count := if step = 0 then 0 else ((last - first) / step + 1).toNat
  let numbers := (List.range count).map fun (i : Nat) => Decimal.signed (first + step * i)
  if numbers.isEmpty then [] else Text.join ((os.value? 's').getD ['\n']) numbers ++ ['\n']

/-- The names of a directory in order, or the operand itself. -/
def list (t : FileTree) (cwd : Place) (path : Text) : Reply :=
  match t.stat cwd path with
  | .error e =>
    { errors := "ls: cannot access '".toList ++ path ++ "': ".toList ++ e.message ++ ['\n']
      status := 2 }
  | .ok n =>
    let names := if n.isDirectory then
        ((t.namesIn ((t.place cwd path).toOption.getD [])).filter
          (!Text.startsWith ['.'] ·)).mergeSort fun a b => !decide (b < a)
      else [path]
    { output := Text.unlines names }

/-- Replies one after the other. -/
def together (rs : List Reply) : Reply :=
  { output := rs.flatMap (·.output), errors := rs.flatMap (·.errors)
    status := (rs.map (·.status)).foldl max 0 }

/-- The path of a place. -/
def placeText (p : Place) : Text := '/' :: Text.join ['/'] p

/-- What a utility answers, and the files behind it; nothing if there is no such utility. -/
def reply? (t : FileTree) (cwd : Place) (name : Text) (args : List Text) :
    Option (Reply × FileTree) :=
  let (os, operands) := Options.ofArguments [] args
  let prints (output : Text) : Option (Reply × FileTree) := some ({ output }, t)
  let fails (errors : Text) : Option (Reply × FileTree) := some ({ errors, status := 1 }, t)
  match String.ofList name with
  | "true" => prints []
  | "false" => fails []
  | "echo" =>
    let quiet := args.head? == some "-n".toList
    prints (Text.join [' '] (if quiet then args.drop 1 else args) ++ if quiet then [] else ['\n'])
  | "printf" => prints (Format.printf (args.length + 1) (args.headD []) (args.drop 1))
  | "pwd" =>
    if os.all fun (c, _) => c == 'L' || c == 'P' then prints (placeText cwd ++ ['\n'])
    else fails "pwd: invalid option\n".toList
  | "test" => some ({ status := Condition.status t cwd args }, t)
  | "[" => some ({ status := Condition.status t cwd args.dropLast }, t)
  | "touch" => some (each (fun t p => touch t cwd p) t operands)
  | "mkdir" => some (each (fun t p => makeDirectory (os.has 'p') t cwd p) t operands)
  | "rm" =>
    let whole := os.has 'r' || os.has 'R'
    some (each (fun t p => remove whole (os.has 'f') t cwd p) t operands)
  | "rmdir" => some (each (fun t p => removeDirectory t cwd p) t operands)
  | "cp" => some (each (fun t p => copy t cwd p (operands.getLast?.getD [])) t operands.dropLast)
  | "mv" => some (each (fun t p => move t cwd p (operands.getLast?.getD [])) t operands.dropLast)
  | "chmod" =>
    some (each (fun t p => changeMode (args.headD []) t cwd p) t (args.drop 1))
  | "seq" => prints (seq args)
  | "expr" =>
    match Shell.Arithmetic.value? (fun _ => 0) (Text.join [' '] args) with
    | some v => some ({ output := Decimal.signed v ++ ['\n'], status := if v = 0 then 1 else 0 }, t)
    | none => some ({ errors := "expr: syntax error\n".toList, status := 2 }, t)
  | "uname" => prints "Linux\n".toList
  | "ls" =>
    some (together ((if operands.isEmpty then [['.']] else operands).map (list t cwd)), t)
  | "basename" =>
    let base := Path.fileName (Path.dropSlashes (operands.headD []))
    let back := operands.getD 1 []
    prints ((if Text.endsWith back base && back != base then base.take (base.length - back.length)
      else base) ++ ['\n'])
  | "dirname" =>
    let dir := Path.parent (operands.headD [])
    prints ((if dir.isEmpty then ['.'] else dir) ++ ['\n'])
  | _ => none

/-- The names of the utilities. -/
def names : List Text :=
  ["true", "false", "echo", "printf", "pwd", "test", "[", "touch", "mkdir", "rm", "rmdir", "cp",
    "mv", "chmod", "seq", "expr", "uname", "ls", "basename", "dirname"].map String.toList

end Utility

end PerfGate
