import PerfGate.Numeral

/-!
# Arithmetic of the shell

Whole numbers with the usual operators, read by precedence.  A name stands for the value of a
variable, and one that is unset or no number stands for zero.
-/

namespace PerfGate

namespace Shell

namespace Arithmetic

/-- The binary operators by falling precedence, the longer ones of a level first. -/
def levels : List (List Text) :=
  [["*", "/", "%"], ["+", "-"], ["<<", ">>"], ["<=", ">=", "<", ">"], ["==", "!="], ["&&"],
    ["||"]].map
    (·.map String.toList)

/-- The value of a binary operator; a division by zero has none. -/
def result? (op : Text) (a b : Int) : Option Int :=
  let truth (p : Bool) : Option Int := some (if p then 1 else 0)
  match String.ofList op with
  | "*" => some (a * b)
  | "/" => if b == 0 then none else some (Int.tdiv a b)
  | "%" => if b == 0 then none else some (Int.tmod a b)
  | "+" => some (a + b)
  | "-" => some (a - b)
  | "<<" => some (a * Nat.pow 2 b.toNat)
  | ">>" => some (a / Nat.pow 2 b.toNat)
  | "<=" => truth (a ≤ b)
  | ">=" => truth (b ≤ a)
  | "<" => truth (a < b)
  | ">" => truth (b < a)
  | "==" => truth (a == b)
  | "!=" => truth (a != b)
  | "&&" => truth (a != 0 && b != 0)
  | _ => truth (a != 0 || b != 0)

/-- The value of digits in a base. -/
def inBase (base : Nat) (digits : Text) : Int :=
  digits.foldl (fun (v : Int) c => base * v + if Text.isDigit c then Decimal.digitValue c
    else c.toLower.toNat - 87) 0

/-- The value of a numeral: a zero in front makes it octal, and an `x` behind that makes it
hexadecimal. -/
def numeral : Text → Int
  | '0' :: 'x' :: t => inBase 16 t
  | '0' :: t => inBase 8 t
  | t => inBase 10 t

mutual

/-- A value: a number, a name, a sign in front of a value, or an expression in brackets. -/
def operand (lookup : Text → Int) : (fuel : Nat) → Text → Option (Int × Text)
  | 0, _ => none
  | fuel + 1, t =>
    match Text.trimStart t with
    | '-' :: t => (operand lookup fuel t).map fun (v, t) => (-v, t)
    | '+' :: t => operand lookup fuel t
    | '~' :: t => (operand lookup fuel t).map fun (v, t) => (-v - 1, t)
    | '!' :: t => (operand lookup fuel t).map fun (v, t) => (if v == 0 then 1 else 0, t)
    | '(' :: t =>
      match binary lookup fuel levels.reverse t with
      | some (v, t) =>
        match Text.trimStart t with
        | ')' :: t => some (v, t)
        | _ => none
      | none => none
    | t =>
      let word := t.takeWhile fun c => c.isAlphanum || c == '_' || c == '$'
      if word.isEmpty then none
      else
        let value := if word.head?.any Text.isDigit then numeral word
          else lookup (word.dropWhile (· == '$'))
        some (value, t.drop word.length)

/-- Values with operators of some levels between them, the loosest level first. -/
def binary (lookup : Text → Int) : (fuel : Nat) → List (List Text) → Text → Option (Int × Text)
  | 0, _, _ => none
  | fuel + 1, [], t => operand lookup fuel t
  | fuel + 1, ops :: tighter, t => do
    let (a, t) ← binary lookup fuel tighter t
    more lookup fuel ops tighter a t

/-- What the operators of a level add to a value. -/
def more (lookup : Text → Int) :
    (fuel : Nat) → List Text → List (List Text) → Int → Text → Option (Int × Text)
  | 0, _, _, _, _ => none
  | fuel + 1, ops, tighter, a, t =>
    let t := Text.trimStart t
    match ops.find? (Text.startsWith · t) with
    | none => some (a, t)
    | some op => do
      let (b, t) ← binary lookup fuel tighter (t.drop op.length)
      more lookup fuel ops tighter (← result? op a b) t

end

/-- The value of an expression in which one of two values may be chosen by a third. -/
def chosen (lookup : Text → Int) : (fuel : Nat) → Text → Option (Int × Text)
  | 0, _ => none
  | fuel + 1, t => do
    let (v, rest) ← binary lookup (10 * t.length + 20) levels.reverse t
    match Text.trimStart rest with
    | '?' :: rest => do
      let (yes, rest) ← chosen lookup fuel rest
      match Text.trimStart rest with
      | ':' :: rest => do
        let (no, rest) ← chosen lookup fuel rest
        some (if v == 0 then no else yes, rest)
      | _ => none
    | rest => some (v, rest)

/-- The value of an expression. -/
def value? (lookup : Text → Int) (t : Text) : Option Int := do
  let (v, rest) ← chosen lookup (t.length + 1) t
  if rest.isEmpty then some v else none

end Arithmetic

end Shell

end PerfGate
