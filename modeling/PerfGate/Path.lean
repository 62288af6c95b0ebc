import PerfGate.Text

/-!
# Paths

Paths as texts: names with slashes between.  `Path.join` puts one path behind another, and
`Path.parent` is the directory part.
-/

namespace PerfGate

namespace Path

/-- A path behind a directory.  An absolute path replaces it, and no second slash follows
one at its end. -/
def join (dir path : Text) : Text :=
  if path.head? == some '/' || dir.isEmpty then path
  else if dir.getLast? == some '/' then dir ++ path
  else dir ++ '/' :: path

/-- The path without slashes at its end; the root stays. -/
def dropSlashes (path : Text) : Text :=
  let rest := (path.reverse.dropWhile (· == '/')).reverse
  if rest.isEmpty && !path.isEmpty then ['/'] else rest

/-- The path up to its last name, without the slashes there. -/
def parent (path : Text) : Text :=
  let dir := (path.reverse.dropWhile (· != '/')).reverse
  if dir.isEmpty then [] else dropSlashes dir

/-- The last name of a path; it is empty behind a slash. -/
def fileName (path : Text) : Text := (path.reverse.takeWhile (· != '/')).reverse

/-- The names of a path, the empty ones left out. -/
def names (path : Text) : List Text := (Text.pieces (· == '/') path).filter (!·.isEmpty)

end Path

end PerfGate
