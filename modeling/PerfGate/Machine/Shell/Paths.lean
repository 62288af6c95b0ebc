import PerfGate.Machine.FileTree
import PerfGate.Machine.Shell.Pattern

/-!
# Patterns for paths

A field with an unquoted `*`, `?` or bracket stands for the paths that fit it, in order.  It
stands for itself if there are none.  Names that start with a dot fit only a pattern that
starts with one.
-/

namespace PerfGate

namespace Shell

namespace Paths

/-- Whether some mark makes a field a pattern. -/
def isPattern (field : List Mark) : Bool :=
  field.any fun m => !m.quoted && (m.char == '*' || m.char == '?' || m.char == '[')

/-- The parts of a field between slashes. -/
def parts : List Mark → List (List Mark)
  | [] => [[]]
  | m :: ms =>
    if m.char == '/' then [] :: parts ms
    else
      match parts ms with
      | p :: ps => (m :: p) :: ps
      | [] => [[m]]

/-- Whether a name fits a pattern. -/
def fitsName (pattern : List Mark) (name : Text) : Bool :=
  (name.head? != some '.' || (plain pattern).head? == some '.') &&
    Pattern.matchesText pattern name

/-- The names in a directory that fit a pattern, in order. -/
def fittingNames (t : FileTree) (dir : Place) (pattern : List Mark) : List Text :=
  ((t.namesIn dir).filter (fitsName pattern)).mergeSort fun a b => !decide (b < a)

/-- The paths that fit parts of a pattern from a place on; `front` is the path to it. -/
def below (t : FileTree) : (parts : List (List Mark)) → Place → (front : Text) → List Text
  | [], _, front => [front]
  | p :: ps, dir, front =>
    let names := if isPattern p then fittingNames t dir p else [plain p]
    names.flatMap fun name =>
      let place := if name == ['.'] || name.isEmpty then dir
        else if name == ['.', '.'] then dir.dropLast
        else dir ++ [name]
      if (t.at? place).isNone then []
      else below t ps place (front ++ name ++ if ps.isEmpty then [] else ['/'])

/-- The texts that a field stands for. -/
def expand (t : FileTree) (cwd : Place) (field : List Mark) : List Text :=
  if !isPattern field then [plain field]
  else
    let start := if (plain field).head? == some '/' then [] else cwd
    let found := below t (parts field) start []
    if found.isEmpty then [plain field] else found

end Paths

end Shell

end PerfGate
