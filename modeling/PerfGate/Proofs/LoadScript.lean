import PerfGate.LoadScript
import PerfGate.Proofs.Lua

/-!
# Scripts of load runs

A script assigns four strings, the last of which is the body of the requests.  Whatever the body
is, it stays inside its literal: the script is read as these four assignments, with the body
exactly as it was given, or it is refused because the body has a line break
(`LoadScript.assignments?_render`).
-/

namespace PerfGate

namespace LoadScript

/-! ### Literals -/

/-- A body as it stands in its literal. -/
def escaped (t : Text) : Text := t.flatMap fun c => if needsEscape c then ['\\', c] else [c]

theorem quoted_eq (t : Text) :
  quoted t = '\'' :: escaped t ++ ['\'']
  := rfl

theorem escaped_cons (c : Char) (t : Text) :
  escaped (c :: t) = (if needsEscape c then ['\\', c] else [c]) ++ escaped t
  := List.flatMap_cons

/-- An escaped character of a body is read as that character, unless it breaks the line. -/
theorem through_escaped_single (tokens : List Lua.Token) (value : Text) (c : Char) :
  Lua.Reading.through ⟨tokens, .literal '\'' value⟩ (if needsEscape c then ['\\', c] else [c]) =
    if Lua.isLineBreak c then none else some ⟨tokens, .literal '\'' (value ++ [c])⟩
  := by
  by_cases hc : needsEscape c = true
  · have hescaped : (c == '\\' || Lua.isQuote c) = true := by
      rw [needsEscape, Bool.or_eq_true] at hc
      rcases hc with hc | hc <;> simp [Lua.isQuote, hc]
    have hbreak : Lua.isLineBreak c = false := by
      simp only [needsEscape, Bool.or_eq_true, beq_iff_eq] at hc
      rcases hc with rfl | rfl <;> rfl
    rw [if_pos hc, Lua.through_cons, Lua.next_backslash (by decide), Option.bind_some,
      Lua.through_cons, Lua.next_escaped hescaped, hbreak]
    rfl
  · rw [if_neg hc, Lua.through_cons]
    simp only [needsEscape, Bool.or_eq_true, beq_iff_eq, not_or] at hc
    rw [Lua.next_plain hc.2 hc.1]
    cases Lua.isLineBreak c <;> rfl

/-- Through all of a body the reader stays in one literal, which denotes what was read of it. -/
theorem through_escaped (tokens : List Lua.Token) (value body : Text) :
  Lua.Reading.through ⟨tokens, .literal '\'' value⟩ (escaped body) =
    if body.any Lua.isLineBreak then none else some ⟨tokens, .literal '\'' (value ++ body)⟩
  := by
  induction body generalizing value with
  | nil =>
    rw [List.append_nil]
    rfl
  | cons c body ih =>
    rw [escaped_cons, Lua.through_append, through_escaped_single, List.any_cons]
    cases Lua.isLineBreak c with
    | true => rfl
    | false =>
      rw [if_neg (by decide), Option.bind_some, ih, List.append_assoc, List.singleton_append,
        Bool.false_or]

/-! ### Scripts -/

/-- The script in front of the literal of the body. -/
def preface : Text :=
  "wrk.method = \"POST\"\n".toList ++
    "wrk.headers[\"Authorization\"] = \"Bearer sk-client\"\n".toList ++
    "wrk.headers[\"Content-Type\"] = \"application/json\"\n".toList ++ "wrk.body = ".toList

/-- The tokens in front of the body. -/
def opening : List Lua.Token :=
  [ .name "wrk".toList, .sign '.', .name "method".toList, .sign '=', .literal "POST".toList,
    .name "wrk".toList, .sign '.', .name "headers".toList, .sign '[',
    .literal "Authorization".toList, .sign ']', .sign '=', .literal "Bearer sk-client".toList,
    .name "wrk".toList, .sign '.', .name "headers".toList, .sign '[',
    .literal "Content-Type".toList, .sign ']', .sign '=', .literal "application/json".toList,
    .name "wrk".toList, .sign '.', .name "body".toList, .sign '=' ]

/-- What the script of a body is to assign. -/
def assignments (body : Text) : List Lua.Assignment :=
  [ ⟨["wrk".toList, "method".toList], "POST".toList⟩,
    ⟨["wrk".toList, "headers".toList, "Authorization".toList], "Bearer sk-client".toList⟩,
    ⟨["wrk".toList, "headers".toList, "Content-Type".toList], "application/json".toList⟩,
    ⟨["wrk".toList, "body".toList], body⟩ ]

theorem render_eq (body : Text) :
  render body = preface ++ ['\''] ++ escaped body ++ ['\'', '\n']
  := by
  have hrender : render body = preface ++ quoted body ++ ['\n'] := rfl
  rw [hrender, quoted_eq]
  simp only [List.append_assoc, List.cons_append, List.nil_append]

theorem through_preface :
  Lua.Reading.through {} (preface ++ ['\'']) = some ⟨opening, .literal '\'' []⟩
  := by
  decide +kernel

theorem assignmentsBehind?_opening (body : Text) :
  Lua.assignmentsBehind? [] (opening ++ [.literal body]) = some (assignments body)
  := by
  simp only [opening, assignments, Lua.assignmentsBehind?, List.cons_append, List.nil_append,
    Option.map_some]

theorem isReserved_opening (body : Text) :
  (opening ++ [Lua.Token.literal body]).any Lua.Token.isReserved = false
  := by
  have hopening : opening.any Lua.Token.isReserved = false := by decide +kernel
  rw [List.any_append, hopening]
  rfl

/-- Up to the quote that closes it, the literal of the body is all that a body changes. -/
theorem through_front (body : Text) :
  Lua.Reading.through {} (preface ++ ['\''] ++ escaped body) =
    if body.any Lua.isLineBreak then none else some ⟨opening, .literal '\'' body⟩
  := by
  rw [Lua.through_append, through_preface, Option.bind_some, through_escaped, List.nil_append]

theorem tokens?_render (body : Text) :
  Lua.tokens? (render body) =
    if body.any Lua.isLineBreak then none else some (opening ++ [.literal body])
  := by
  rw [Lua.tokens?, render_eq, Lua.through_append, through_front]
  cases body.any Lua.isLineBreak with
  | true => rfl
  | false =>
    have hend : Lua.Reading.through ⟨opening, .literal '\'' body⟩ ['\'', '\n'] =
        some ⟨opening ++ [.literal body], .between⟩ := by
      rw [Lua.through_cons, Lua.next_close]
      rfl
    rw [if_neg (by decide), if_neg (by decide), Option.bind_some, hend]

/-- A script assigns four strings and does nothing else, whatever its body holds, and the last of
them is the body as it is; a body with a line break is refused.  In front of the last quote, which
only a line feed follows, the reader is still in the literal of the body and has read all of it. -/
theorem assignments?_render (body : Text) :
  Lua.assignments? (render body) =
      (if body.any Lua.isLineBreak then none else some (assignments body))
    ∧ ∃ front, render body = front ++ ['\'', '\n']
      ∧ Lua.Reading.through {} front =
        if body.any Lua.isLineBreak then none else some ⟨opening, .literal '\'' body⟩
  := by
  constructor
  · rw [Lua.assignments?, tokens?_render]
    cases body.any Lua.isLineBreak with
    | true => rfl
    | false =>
      rw [if_neg (by decide), if_neg (by decide), Option.bind_some, isReserved_opening,
        if_neg (by decide), assignmentsBehind?_opening]
  · exact ⟨_, render_eq body, through_front body⟩

/-- A body that ends with a backslash and one that looks like code are read as they are. -/
example :
  [ "\\".toList, "'\nos.exit() --".toList, "' wrk.method = '".toList, "\\'\\\\''".toList ].map
      (fun body => (Lua.assignments? (render body)).map (·.map (·.value) |>.getLast?)) =
    [ some (some "\\".toList), none, some (some "' wrk.method = '".toList),
      some (some "\\'\\\\''".toList) ]
  := by decide +kernel

end LoadScript

end PerfGate
