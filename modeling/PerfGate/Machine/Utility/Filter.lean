import PerfGate.Machine.Utility.Edit
import PerfGate.Machine.Utility.Format
import PerfGate.Machine.Utility.Search

/-!
# Filters

Programs that turn what they read into an output.  What a filter says of input that has not
ended is either its final answer or that it needs more.
-/

namespace PerfGate

namespace Filter

/-- The first characters of a text that take at most some bytes. -/
def takeBytes : (room : Nat) → Text → Text
  | _, [] => []
  | room, c :: t => if c.utf8Size ≤ room then c :: takeBytes (room - c.utf8Size) t else []

/-! ### head and tail -/

/-- The arguments with a number behind a minus as the value of an option. -/
def countArguments (args : List Text) : List Text := args.map fun a =>
  match a with
  | '-' :: c :: t => if Text.isDigit c then "-n".toList ++ c :: t else a
  | _ => a

/-- How much of its input `head` keeps. -/
def headOf (args : List Text) (input : Text) (ended : Bool) : Option Text :=
  let (os, _) := Options.ofArguments ['n', 'c'] args
  match os.value? 'c' with
  | some n =>
    let count := Decimal.value (n.takeWhile Text.isDigit)
    if ended || count ≤ FileTree.byteCount input then some (takeBytes count input) else none
  | none =>
    let count := ((os.value? 'n').map Decimal.value).getD 10
    let ps := Text.pieces (· == '\n') input
    if count < ps.length then some (Text.unlines (ps.take count))
    else if ended then some input else none

/-- The last lines of a text, or with a plus those from a line on. -/
def tailOf (args : List Text) (input : Text) : Text :=
  let (os, _) := Options.ofArguments ['n'] args
  let lines := Text.rawLines input
  let kept := match os.value? 'n' with
    | some ('+' :: n) => lines.drop (Decimal.value n - 1)
    | some n => lines.drop (lines.length - Decimal.value n)
    | none => lines.drop (lines.length - 10)
  if Text.endsWith ['\n'] input then Text.unlines kept else Text.join ['\n'] kept

/-! ### tr -/

/-- The characters from one to another. -/
def charRange (a b : Char) : Text :=
  (List.range (b.toNat + 1 - a.toNat)).map fun i => Char.ofNat (a.toNat + i)

/-- The classes of characters, by the text that names them. -/
def classes : List (Text × Text) :=
  [ ("[:lower:]", charRange 'a' 'z'), ("[:upper:]", charRange 'A' 'Z'),
    ("[:digit:]", charRange '0' '9'), ("[:space:]", "\t\n\x0b\x0c\r ".toList),
    ("[:alpha:]", charRange 'A' 'Z' ++ charRange 'a' 'z'),
    ("[:alnum:]", charRange '0' '9' ++ charRange 'A' 'Z' ++ charRange 'a' 'z'),
    ("[:punct:]", "!\"#$%&\x27()*+,-./:;<=>?@[\\]^_\x60\x7b|\x7d~".toList) ].map
      fun (name, set) => (name.toList, set)

/-- The characters of a set of `tr`. -/
def trSet : (fuel : Nat) → Text → Text
  | 0, _ => []
  | _, [] => []
  | fuel + 1, t =>
    match classes.findSome? fun (name, set) => (Text.after? name t).map (set, ·) with
    | some (set, rest) => set ++ trSet fuel rest
    | none =>
      let (first, rest, _) := Format.next false t
      match first, rest with
      | [a], '-' :: b :: rest => charRange a b ++ trSet fuel rest
      | _, _ => first ++ trSet fuel rest

/-- Each character of one set replaced by that of another in the same place; the last one of
the second set stands for all that are missing there. -/
def substitute (source target : Text) (c : Char) : Char :=
  match source.idxOf? c with
  | some i => (target[i]?).getD (target.getLast?.getD c)
  | none => c

/-- Runs of a character of a set made one. -/
def squeeze (set : Text) : Text → Text
  | a :: b :: t =>
    if a == b && set.contains a then squeeze set (b :: t) else a :: squeeze set (b :: t)
  | t => t

/-- What `tr` makes of its input. -/
def tr (args : List Text) (input : Text) : Text :=
  let (os, sets) := Options.ofArguments [] args
  let set (i : Nat) : Text := trSet ((sets.getD i []).length + 1) (sets.getD i [])
  let table := set 0
  let target := set 1
  let others := os.has 'c' || os.has 'C'
  if os.has 'd' then input.filter fun c => table.contains c == others
  else if os.has 's' && sets.length < 2 then squeeze table input
  else
    let out := input.map fun c =>
      if !others then substitute table target c
      else if table.contains c then c
      else target.getLast?.getD c
    if os.has 's' then squeeze target out else out

/-! ### wc, sort, uniq, cut -/

/-- The sum of some numbers. -/
def total (ns : List Nat) : Nat := ns.foldl (· + ·) 0

/-- The width of the columns of `wc`: a fixed one for input, and for files as much as their
sizes need. -/
def wcWidth (sources : List Source) (columns : Nat) : Nat :=
  if columns = 1 && sources.length = 1 then 1
  else if sources.any (·.name.isEmpty) then 7
  else (Decimal.digits (total (sources.map fun s => FileTree.byteCount s.content))).length

/-- A number in a column. -/
def inColumn (width n : Nat) : Text :=
  let digits := Decimal.digits n
  List.replicate (width - digits.length) ' ' ++ digits

/-- What `wc` counts: lines, words and bytes. -/
def wc (args : List Text) (sources : List Source) : Text :=
  let (os, _) := Options.ofArguments [] args
  let counts (s : Source) : List (Char × Nat) :=
    [ ('l', s.content.count '\n'), ('w', (Text.words s.content).length),
      ('c', FileTree.byteCount s.content) ]
  let asked (cs : List (Char × Nat)) : List Nat :=
    let given := cs.filter fun (c, _) => os.has c
    (if given.isEmpty then cs else given).map (·.2)
  let rows := sources.map fun s => (asked (counts s), s.name)
  let columns := ((rows.head?.map (·.1.length)).getD 0)
  let width := wcWidth sources columns
  let row (ns : List Nat) (name : Text) : Text :=
    Text.join [' '] (ns.map (inColumn width)) ++
      (if name.isEmpty then [] else ' ' :: name) ++ ['\n']
  let totals := (List.range columns).map fun i => total (rows.map fun r => r.1.getD i 0)
  rows.flatMap (fun r => row r.1 r.2) ++
    if 1 < sources.length then row totals "total".toList else []

/-- Lines in order of their characters, or of the numbers that they start with. -/
def sort (args : List Text) (input : Text) : Text :=
  let (os, _) := Options.ofArguments [] args
  let number (l : Text) : Nat := Decimal.value ((Text.trimStart l).takeWhile Text.isDigit)
  let before (a b : Text) : Bool :=
    if os.has 'n' && number a != number b then number a < number b else !decide (b < a)
  let sorted := (Text.rawLines input).mergeSort before
  let sorted := if os.has 'r' then sorted.reverse else sorted
  Text.unlines (if os.has 'u' then sorted.eraseDups else sorted)

/-- Lines with how often each is repeated behind itself. -/
def runs : List Text → List (Nat × Text)
  | [] => []
  | a :: ls =>
    match runs ls with
    | (n, b) :: rs => if a == b then (n + 1, b) :: rs else (1, a) :: (n, b) :: rs
    | [] => [(1, a)]

/-- Lines without repetitions, or with their numbers. -/
def uniq (args : List Text) (input : Text) : Text :=
  let (os, _) := Options.ofArguments [] args
  let found := (runs (Text.rawLines input)).filter fun (n, _) =>
    (!os.has 'd' || 1 < n) && (!os.has 'u' || n = 1)
  Text.unlines (found.map fun (n, l) => if os.has 'c' then inColumn 7 n ++ ' ' :: l else l)

/-- Whether a list of numbers and ranges holds a number. -/
def isListed (list : Text) (n : Nat) : Bool :=
  (Text.pieces (· == ',') list).any fun p =>
    match Text.splitFirst? '-' p with
    | some (a, b) =>
      (a.isEmpty || Decimal.value a ≤ n) && (b.isEmpty || n ≤ Decimal.value b)
    | none => Decimal.value p = n

/-- The members of a list at listed places, counted from one. -/
def listed {α : Type} (list : Text) (as : List α) : List α :=
  (as.mapIdx fun i a => (i + 1, a)).filterMap fun (n, a) => if isListed list n then some a else none

/-- Characters or fields of each line. -/
def cut (args : List Text) (input : Text) : Text :=
  let (os, _) := Options.ofArguments ['d', 'f', 'c', 'b'] args
  let mark := ((os.value? 'd').bind List.head?).getD '\t'
  let part (l : Text) : Text :=
    match (os.value? 'c').orElse fun _ => os.value? 'b' with
    | some list => listed list l
    | none =>
      if l.contains mark then
        Text.join [mark] (listed ((os.value? 'f').getD []) (Text.pieces (· == mark) l))
      else l
  Text.unlines ((Text.rawLines input).map part)

/-- Texts under headings, if there are several. -/
def headed (part : Text → Text) (sources : List Source) : Text :=
  match sources with
  | [s] => part s.content
  | _ => Text.join ['\n'] (sources.map fun s =>
      "==> ".toList ++ s.name ++ " <==\n".toList ++ part s.content)

/-! ### All filters -/

/-- The options of a filter that take a value. -/
def valued (name : Text) : Text :=
  match String.ofList name with
  | "head" => ['n', 'c']
  | "tail" => ['n']
  | "grep" => Search.valued
  | "cut" => ['d', 'f', 'c', 'b']
  | "sed" => ['e']
  | _ => []

/-- How many operands of a filter are no files. -/
def ownOperands (name : Text) (args : List Text) : Nat :=
  match String.ofList name with
  | "tr" | "tee" => args.length
  | "grep" | "sed" => if (Options.ofArguments ['e'] args).1.has 'e' then 0 else 1
  | _ => 0

/-- The files that a filter reads in the stead of its input. -/
def operandFiles (name : Text) (args : List Text) : List Text :=
  (Options.ofArguments (valued name) (countArguments args)).2.drop (ownOperands name args)

/-- What a filter says about a file that it cannot read, and its exit code then. -/
def refusal (name path : Text) (e : Errno) : Text × Nat :=
  let words (t : String) : Text := name ++ ": ".toList ++ t.toList
  match String.ofList name with
  | "head" | "tail" =>
    (words "cannot open '" ++ path ++ "' for reading: ".toList ++ e.message ++ ['\n'], 1)
  | "sort" => (words "cannot read: " ++ path ++ ": ".toList ++ e.message ++ ['\n'], 2)
  | "sed" => (words "can't read " ++ path ++ ": ".toList ++ e.message ++ ['\n'], 2)
  | "grep" => (words "" ++ path ++ ": ".toList ++ e.message ++ ['\n'], 2)
  | _ => (words "" ++ path ++ ": ".toList ++ e.message ++ ['\n'], 1)

/-- What a filter makes of what it has read so far; nothing if it needs more. -/
def reply? (name : Text) (args : List Text) (sources : List Source) (ended : Bool) :
    Option Reply :=
  let input := sources.flatMap (·.content)
  let whenEnded (r : Reply) : Option Reply := if ended then some r else none
  let args := if name == "head".toList || name == "tail".toList then countArguments args else args
  match String.ofList name with
  | "cat" | "tee" => whenEnded { output := input }
  | "head" =>
    if sources.length = 1 then (headOf args input ended).map fun output => { output }
    else whenEnded { output := headed (fun t => (headOf args t true).getD []) sources }
  | "tail" => whenEnded { output := headed (tailOf args) sources }
  | "tr" => whenEnded { output := tr args input }
  | "wc" => whenEnded { output := wc args sources }
  | "sort" => whenEnded { output := sort args input }
  | "uniq" => whenEnded { output := uniq args input }
  | "grep" => whenEnded (Search.reply args sources)
  | "cut" => whenEnded { output := cut args input }
  | "sed" => whenEnded (Edit.reply args input)
  | "rev" => whenEnded { output := Text.unlines ((Text.rawLines input).map List.reverse) }
  | _ => whenEnded { status := 1 }

/-- The names of the filters. -/
def names : List Text :=
  ["cat", "tee", "head", "tail", "tr", "wc", "sort", "uniq", "grep", "cut", "sed", "rev"].map
    String.toList

end Filter

end PerfGate
