import PerfGate.Binary64.Fixed
import PerfGate.Numeral

/-!
# Formatted output

The escapes of `echo` and the formats of `printf`.  A format is used again for as long as
arguments are left.
-/

namespace PerfGate

namespace Format

/-- Whether a character is an octal digit. -/
def isOctal (c : Char) : Bool := '0' ≤ c && c ≤ '7'

/-- The number of octal digits. -/
def octalValue (t : Text) : Nat := t.foldl (fun v c => 8 * v + Decimal.digitValue c) 0

/-- The character of an escape, by the letter behind the backslash. -/
def letterEscape? : Char → Option Char
  | 'n' => some '\n'
  | 't' => some '\t'
  | 'r' => some '\r'
  | 'a' => some '\x07'
  | 'b' => some '\x08'
  | 'f' => some '\x0c'
  | 'v' => some '\x0b'
  | '\\' => some '\\'
  | _ => none

/-- The character that starts a text in which escapes have their meaning, what stands behind
it, and whether the output ends here.  Octal numbers of escapes may have a zero in front if
`zeroFirst` is set. -/
def next (zeroFirst : Bool) : Text → Text × Text × Bool
  | '\\' :: 'c' :: t => if zeroFirst then ([], [], true) else (['\\', 'c'], t, false)
  | '\\' :: c :: t =>
    match letterEscape? c with
    | some e => ([e], t, false)
    | none =>
      if isOctal c then
        let digits := if zeroFirst && c == '0' then (t.takeWhile isOctal).take 3
          else ((c :: t).takeWhile isOctal).take 3
        let rest := if zeroFirst && c == '0' then t.drop digits.length
          else (c :: t).drop digits.length
        ([Char.ofNat (octalValue digits % 256)], rest, false)
      else if c == '"' && !zeroFirst then (['"'], t, false)
      else (['\\', c], t, false)
  | c :: t => ([c], t, false)
  | [] => ([], [], true)

/-- The text that escapes stand for, and whether it ends the output. -/
def unescape : (fuel : Nat) → Text → Text × Bool
  | 0, _ => ([], false)
  | _, [] => ([], false)
  | fuel + 1, t =>
    let (out, rest, ends) := next true t
    if ends then (out, true)
    else
      let (more, ends) := unescape fuel rest
      (out ++ more, ends)

/-- The arguments of an `echo` of the shell. -/
def echo (arguments : List Text) : Text :=
  let quiet := arguments.head? == some "-n".toList
  let words := Text.join [' '] (if quiet then arguments.drop 1 else arguments)
  let (text, ends) := unescape (words.length + 1) words
  text ++ if quiet || ends then [] else ['\n']

/-! ### Directives -/

/-- A directive. -/
structure Directive where
  /-- Whether it is put to the left. -/
  left : Bool
  /-- Whether it is filled up with zeros. -/
  zeros : Bool
  /-- Whether a number has a sign in any case. -/
  signed : Bool
  /-- The least width. -/
  width : Nat
  /-- The most characters. -/
  precision : Option Nat
  /-- The kind. -/
  kind : Char

/-- The directive behind a percent sign, and what stands behind it. -/
def directive? (t : Text) : Option (Directive × Text) :=
  let isFlag (c : Char) : Bool := c == '-' || c == '0' || c == '+' || c == ' '
  let flags := t.takeWhile isFlag
  let t := t.dropWhile isFlag
  let width := t.takeWhile Text.isDigit
  let t := t.dropWhile Text.isDigit
  let (precision, t) := match t with
    | '.' :: t => (some (Decimal.value (t.takeWhile Text.isDigit)), t.dropWhile Text.isDigit)
    | t => (none, t)
  match t with
  | kind :: t =>
    some ({ left := flags.contains '-', zeros := flags.contains '0',
            signed := flags.contains '+', width := Decimal.value width, precision, kind }, t)
  | [] => none

/-- The text in its width. -/
def pad (d : Directive) (t : Text) : Text :=
  let room := d.width - t.length
  if d.left then t ++ List.replicate room ' '
  else if d.zeros then List.replicate room '0' ++ t
  else List.replicate room ' ' ++ t

/-- The digits of a number in a base. -/
def inBase (base n : Nat) : Text := Nat.toDigits base n

/-- What a directive makes of an argument. -/
def apply (d : Directive) (argument : Text) : Text :=
  let number := (Numeral.integer? argument).getD 0
  let sign (t : Text) : Text := if d.signed && t.head? != some '-' then '+' :: t else t
  let cut (t : Text) : Text := match d.precision with
    | some n => t.take n
    | none => t
  match d.kind with
  | 's' => pad d (cut argument)
  | 'b' => pad d (cut (unescape (argument.length + 1) argument).1)
  | 'c' => pad d (argument.take 1)
  | 'd' | 'i' => pad d (sign (Decimal.signed number))
  | 'f' =>
    let value := (Numeral.float? argument).getD (.zero false)
    pad d (sign (value.fixed (d.precision.getD 6)))
  | 'u' => pad d (Decimal.digits number.natAbs)
  | 'x' => pad d (inBase 16 number.natAbs)
  | 'X' => pad d ((inBase 16 number.natAbs).map Char.toUpper)
  | 'o' => pad d (inBase 8 number.natAbs)
  | _ => []

/-- One use of a format: the output, and the arguments that are left. -/
def once : (fuel : Nat) → (format : Text) → List Text → Text × List Text
  | 0, _, args => ([], args)
  | _, [], args => ([], args)
  | fuel + 1, '%' :: '%' :: t, args =>
    let (out, args) := once fuel t args
    ('%' :: out, args)
  | fuel + 1, '%' :: t, args =>
    match directive? t with
    | some (d, t) =>
      let (out, rest) := once fuel t (args.drop 1)
      (apply d (args.headD []) ++ out, rest)
    | none => (['%'], args)
  | fuel + 1, t, args =>
    let (out, t, _) := next false t
    let (more, args) := once fuel t args
    (out ++ more, args)

/-- A format, used until no argument is left. -/
def printf : (fuel : Nat) → (format : Text) → List Text → Text
  | 0, _, _ => []
  | fuel + 1, format, args =>
    let (out, rest) := once (format.length + 1) format args
    if rest.isEmpty || rest.length == args.length then out else out ++ printf fuel format rest

end Format

end PerfGate
