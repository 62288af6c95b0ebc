import PerfGate.Machine.FileTree
import PerfGate.Numeral

/-!
# Conditions

The expressions of `test`: comparisons of texts and numbers, and questions about files.
-/

namespace PerfGate

namespace Condition

/-- What a question about one operand says. -/
def unary? (t : FileTree) (cwd : Place) (op operand : Text) : Option Bool :=
  let there := t.stat cwd operand
  match String.ofList op with
  | "-n" => some (!operand.isEmpty)
  | "-z" => some operand.isEmpty
  | "-e" => some there.isOk
  | "-f" => some (t.isRegular cwd operand)
  | "-d" => some (t.isDirectory cwd operand)
  | "-s" => some (match t.content? cwd operand with
      | .ok c => !c.isEmpty
      | .error _ => false)
  | "-x" => some (t.mayExecute cwd operand)
  | "-r" | "-w" => some there.isOk
  | _ => none

/-- What a comparison of two operands says. -/
def binary? (op a b : Text) : Option Bool :=
  let numbers (p : Int → Int → Bool) : Option Bool := do
    some (p (← Numeral.integer? a) (← Numeral.integer? b))
  match String.ofList op with
  | "=" | "==" => some (a == b)
  | "!=" => some (a != b)
  | "-eq" => numbers (· == ·)
  | "-ne" => numbers (· != ·)
  | "-lt" => numbers (· < ·)
  | "-le" => numbers (· ≤ ·)
  | "-gt" => numbers (· > ·)
  | "-ge" => numbers (· ≥ ·)
  | _ => none

/-- Whether the arguments of `test` make a true condition; nothing if they make none. -/
def holds? (t : FileTree) (cwd : Place) : List Text → Option Bool
  | [] => some false
  | [a] => some (!a.isEmpty)
  | [['!'], a] => some a.isEmpty
  | [op, a] => unary? t cwd op a
  | ['!'] :: rest => (holds? t cwd rest).map (!·)
  | a :: op :: b :: rest =>
    match binary? op a b with
    | some p => joined p rest
    | none =>
      match unary? t cwd a op with
      | some p => joined p (b :: rest)
      | none => none
where
  /-- What the conditions behind `-a` and `-o` add. -/
  joined (p : Bool) : List Text → Option Bool
    | [] => some p
    | op :: rest =>
      if op == "-a".toList then (holds? t cwd rest).map (p && ·)
      else if op == "-o".toList then (holds? t cwd rest).map (p || ·)
      else none

/-- The comparisons of numbers. -/
def numeric : List Text := ["-eq", "-ne", "-lt", "-le", "-gt", "-ge"].map String.toList

/-- What is wrong with arguments that make no condition. -/
def complaint : List Text → Text
  | a :: op :: b :: rest =>
    if numeric.contains op then
      "Illegal number: ".toList ++ if (Numeral.integer? a).isNone then a else b
    else if rest.isEmpty then a ++ ": unexpected operator".toList
    else complaint (op :: b :: rest)
  | a :: _ => a ++ ": unexpected operator".toList
  | [] => "argument expected".toList

/-- Whether the arguments of `test` make a true condition, or what is wrong with them. -/
def holds (t : FileTree) (cwd : Place) (args : List Text) : Except Text Bool :=
  match holds? t cwd args with
  | some b => .ok b
  | none => .error (complaint args)

/-- The exit code of `test`. -/
def status (t : FileTree) (cwd : Place) (args : List Text) : Nat :=
  match holds? t cwd args with
  | some true => 0
  | some false => 1
  | none => 2

end Condition

end PerfGate
