import PerfGate.Machine.Shell.Lexer

/-!
# The grammar of the shell

Commands are read from tokens by recursive descent.  Every reader is given more fuel than
there are tokens, so the fuel never runs out first.
-/

namespace PerfGate

namespace Shell

/-- What is left to read. -/
structure Rest where
  /-- The tokens. -/
  tokens : List Token
  /-- The texts of here-documents that were not used yet. -/
  bodies : List Word

namespace Rest

/-- What is left behind the next token. -/
def next (r : Rest) : Rest := { r with tokens := r.tokens.drop 1 }

/-- The plain text of the next token, if it is a word without quotes and expansions. -/
def plain? (r : Rest) : Option Text :=
  match r.tokens.head? with
  | some (.word w _) => if hasQuotes w then none else some (wordText w)
  | _ => none

/-- Whether the next token is a word that stands for itself. -/
def isPlain (r : Rest) (t : Text) : Bool := r.plain? == some t

/-- Whether the next token is an operator. -/
def isOperator (r : Rest) (t : Text) : Bool := r.tokens.head? == some (.operator t)

/-- What is left behind line ends. -/
def skipNewlines (r : Rest) : Rest := { r with tokens := r.tokens.dropWhile (· == .newline) }

/-- What is left behind a word that has to come next. -/
def expect? (r : Rest) (t : Text) : Option Rest := if r.isPlain t then some r.next else none

/-- What is left behind an operator that has to come next. -/
def expectOperator? (r : Rest) (t : Text) : Option Rest :=
  if r.isOperator t then some r.next else none

end Rest

/-- The words that end a list of commands. -/
def closers : List Text :=
  ["then", "else", "elif", "fi", "do", "done", "esac", "\x7d"].map String.toList

/-- Whether no command can start here. -/
def endsList (r : Rest) : Bool :=
  match r.tokens.head? with
  | none => true
  | some (.operator t) => t != ['(']
  | some .newline => false
  | some (.redirect ..) => false
  | some (.word ..) => r.plain?.any closers.contains

/-- The redirection that an operator and its target make. -/
def redirect? (channel : Option Nat) (op : Text) (target : Word) (r : Rest) :
    Option (Redirect × Rest) :=
  let input := channel.getD 0
  let output := channel.getD 1
  match String.ofList op with
  | "<" => some ({ channel := input, direction := .from, target }, r)
  | ">" | ">|" => some ({ channel := output, direction := .to, target }, r)
  | ">>" => some ({ channel := output, direction := .behind, target }, r)
  | "<&" => some ({ channel := input, direction := .like, target }, r)
  | ">&" => some ({ channel := output, direction := .like, target }, r)
  | _ =>
    match r.bodies with
    | body :: bodies =>
      some ({ channel := input, direction := .here, target := body }, { r with bodies })
    | [] => none

/-- The redirections that come next. -/
def redirects : (fuel : Nat) → Rest → List Redirect × Rest
  | 0, r => ([], r)
  | fuel + 1, r =>
    match r.tokens with
    | .redirect channel op :: .word target _ :: ts =>
      match redirect? channel op target { r with tokens := ts } with
      | some (d, r) =>
        let (ds, r) := redirects fuel r
        (d :: ds, r)
      | none => ([], r)
    | _ => ([], r)

/-- The name and the value of a word that is an assignment. -/
def assignment? (w : Word) : Option (Text × Word) :=
  let name := (w.takeWhile fun p => p matches .literal _ false && p != .literal ['='] false)
  match w.drop name.length with
  | .literal ['='] false :: value =>
    if isName (wordText name) then some (wordText name, value) else none
  | _ => none

/-- A command of words, assignments and redirections. -/
def simple : (fuel : Nat) → Simple → Rest → Simple × Rest
  | 0, s, r => (s, r)
  | fuel + 1, s, r =>
    match r.tokens with
    | .redirect .. :: _ =>
      match redirects 1 r with
      | ([d], r) => simple fuel { s with redirects := s.redirects ++ [d] } r
      | (_, r) => (s, r)
    | .word w line :: ts =>
      let r := { r with tokens := ts }
      let s := if s.words.isEmpty && s.assignments.isEmpty then { s with line } else s
      match (if s.words.isEmpty then assignment? w else none) with
      | some a => simple fuel { s with assignments := s.assignments ++ [a] } r
      | none => simple fuel { s with words := s.words ++ [w] } r
    | _ => (s, r)

/-- The words up to the end of a line or a semicolon. -/
def wordsUntilEnd : List Token → List Word × List Token
  | .word w _ :: ts =>
    let (ws, ts) := wordsUntilEnd ts
    (w :: ws, ts)
  | ts => ([], ts)

/-- The patterns in front of an arm. -/
def patterns : (fuel : Nat) → Rest → Option (List Word × Rest)
  | 0, _ => none
  | fuel + 1, r =>
    match r.tokens with
    | .word w _ :: .operator ['|'] :: ts => do
      let (ws, r) ← patterns fuel { r with tokens := ts }
      some (w :: ws, r)
    | .word w _ :: .operator [')'] :: ts => some ([w], { r with tokens := ts })
    | _ => none

mutual

/-- A list of commands, up to a token that ends it. -/
def list : (fuel : Nat) → Rest → Option (Cmd × Rest)
  | 0, _ => none
  | fuel + 1, r =>
    let r := r.skipNewlines
    if endsList r then some (.skip, r)
    else do
      let (a, r) ← andOr fuel r
      if r.isOperator ['&'] then
        let (b, r) ← list fuel r.next
        some (.sequence (.background a) b, r)
      else if r.isOperator [';'] || r.tokens.head? == some .newline then
        let (b, r) ← list fuel r.next
        some (.sequence a b, r)
      else some (a, r)

/-- Pipelines with `&&` and `||` between them. -/
def andOr : (fuel : Nat) → Rest → Option (Cmd × Rest)
  | 0, _ => none
  | fuel + 1, r => do
    let (a, r) ← negatable fuel r
    moreAndOr fuel a r

/-- What `&&` and `||` add to a command. -/
def moreAndOr : (fuel : Nat) → Cmd → Rest → Option (Cmd × Rest)
  | 0, _, _ => none
  | fuel + 1, a, r =>
    if r.isOperator "&&".toList then do
      let (b, r) ← negatable fuel r.next.skipNewlines
      moreAndOr fuel (.both a b) r
    else if r.isOperator "||".toList then do
      let (b, r) ← negatable fuel r.next.skipNewlines
      moreAndOr fuel (.either a b) r
    else some (a, r)

/-- A pipeline, with or without a `!` in front. -/
def negatable : (fuel : Nat) → Rest → Option (Cmd × Rest)
  | 0, _ => none
  | fuel + 1, r =>
    if r.isPlain ['!'] then do
      let (c, r) ← pipeline fuel r.next
      some (.negation c, r)
    else pipeline fuel r

/-- Commands with `|` between them. -/
def pipeline : (fuel : Nat) → Rest → Option (Cmd × Rest)
  | 0, _ => none
  | fuel + 1, r => do
    let (c, r) ← command fuel r
    if r.isOperator ['|'] then
      let (rest, r) ← pipeline fuel r.next.skipNewlines
      match rest with
      | .pipeline cs => some (.pipeline (c :: cs), r)
      | d => some (.pipeline [c, d], r)
    else some (c, r)

/-- A command. -/
def command : (fuel : Nat) → Rest → Option (Cmd × Rest)
  | 0, _ => none
  | fuel + 1, r =>
    if endsList r then none
    else if r.isOperator ['('] then do
      let (c, r) ← list fuel r.next
      let r ← r.expectOperator? [')']
      some (behind (.subshell c) r)
    else
      match r.plain?.map String.ofList with
      | some "\x7b" => do
        let (c, r) ← list fuel r.next
        let r ← r.expect? "\x7d".toList
        some (behind c r)
      | some "if" => do
        let (c, r) ← conditional fuel r.next
        some (behind c r)
      | some "while" => do
        let (c, r) ← loopBody fuel false r.next
        some (behind c r)
      | some "until" => do
        let (c, r) ← loopBody fuel true r.next
        some (behind c r)
      | some "for" => do
        let (c, r) ← eachBody fuel r.next
        some (behind c r)
      | some "case" => do
        match r.next.tokens with
        | .word w _ :: ts =>
          let r ← ({ r with tokens := ts } : Rest).skipNewlines.expect? "in".toList
          let (as, r) ← arms fuel r.skipNewlines
          some (behind (.select w as) r)
        | _ => none
      | some name =>
        match r.tokens with
        | _ :: .operator ['('] :: .operator [')'] :: ts => do
          let (c, r) ← command fuel ({ r with tokens := ts } : Rest).skipNewlines
          if isName name.toList then some (.define name.toList c, r) else none
        | _ => plainCommand r
      | none => plainCommand r
where
  /-- A command without keywords. -/
  plainCommand (r : Rest) : Option (Cmd × Rest) :=
    let (s, r') := simple (r.tokens.length + 1) {} r
    if r'.tokens.length < r.tokens.length then some (.simple s, r') else none
  /-- A command with the redirections behind it. -/
  behind (c : Cmd) (r : Rest) : Cmd × Rest :=
    let (ds, r) := redirects (r.tokens.length + 1) r
    (if ds.isEmpty then c else .redirected c ds, r)

/-- What stands behind `if` or `elif`. -/
def conditional : (fuel : Nat) → Rest → Option (Cmd × Rest)
  | 0, _ => none
  | fuel + 1, r => do
    let (c, r) ← list fuel r
    let r ← r.expect? "then".toList
    let (yes, r) ← list fuel r
    if r.isPlain "elif".toList then
      let (no, r) ← conditional fuel r.next
      some (.branch c yes no, r)
    else if r.isPlain "else".toList then
      let (no, r) ← list fuel r.next
      let r ← r.expect? "fi".toList
      some (.branch c yes no, r)
    else
      let r ← r.expect? "fi".toList
      some (.branch c yes .skip, r)

/-- What stands behind `while` or `until`. -/
def loopBody : (fuel : Nat) → Bool → Rest → Option (Cmd × Rest)
  | 0, _, _ => none
  | fuel + 1, stopsOn, r => do
    let (c, r) ← list fuel r
    let r ← r.expect? "do".toList
    let (body, r) ← list fuel r
    let r ← r.expect? "done".toList
    some (.loop stopsOn c body, r)

/-- What stands behind `for`. -/
def eachBody : (fuel : Nat) → Rest → Option (Cmd × Rest)
  | 0, _ => none
  | fuel + 1, r => do
    let name ← r.plain?
    let r := r.next.skipNewlines
    let (words, r) := if r.isPlain "in".toList then
        let (ws, ts) := wordsUntilEnd r.next.tokens
        (some ws, { r with tokens := ts })
      else (none, r)
    let r := if r.isOperator [';'] then r.next else r
    let r ← r.skipNewlines.expect? "do".toList
    let (body, r) ← list fuel r
    let r ← r.expect? "done".toList
    some (.each name words body, r)

/-- The arms up to `esac`. -/
def arms : (fuel : Nat) → Rest → Option (List (List Word × Cmd) × Rest)
  | 0, _ => none
  | fuel + 1, r =>
    let r := r.skipNewlines
    if r.isPlain "esac".toList then some ([], r.next)
    else do
      let r := if r.isOperator ['('] then r.next else r
      let (ws, r) ← patterns fuel r
      let (c, r) ← list fuel r
      let r := if r.isOperator ";;".toList then r.next else r
      let (as, r) ← arms fuel r
      some ((ws, c) :: as, r)

end

/-- The command that a script is, if it is well formed. -/
def parse? (script : Text) : Option Cmd := do
  let (toks, bodies) := lex script
  let (c, r) ← list (8 * toks.length + 8) { tokens := toks, bodies }
  if r.tokens.isEmpty then some c else none

end Shell

end PerfGate
