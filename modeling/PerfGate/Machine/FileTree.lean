import PerfGate.Error
import PerfGate.Path

/-!
# File trees

A file system as a list of places and what is there.  A place is the list of names from the
root.  Paths are followed name by name: `.` stays, `..` goes up, and every name but the last
has to lead to a directory.  There are no links, so a place has one path without dots.
-/

namespace PerfGate

/-- The names from the root to a place. -/
abbrev Place := List Text

/-- What is at a place. -/
inductive Node where
  | directory
  /-- A regular file with its permission bits. -/
  | file (content : Text) (mode : Nat)
  /-- A program of the base system. -/
  | tool
  /-- The device that swallows what is written and holds nothing. -/
  | null
  /-- The device that holds zeros without end. -/
  | zeros
deriving DecidableEq

namespace Node

/-- Whether it is a directory. -/
def isDirectory : Node → Bool
  | .directory => true
  | _ => false

/-- Whether it is a regular file. -/
def isFile : Node → Bool
  | .file _ _ => true
  | .tool => true
  | _ => false

/-- Whether some execute bit is set, or it is a program. -/
def mayExecute : Node → Bool
  | .file _ mode => mode % 2 == 1 || mode / 8 % 2 == 1 || mode / 64 % 2 == 1
  | .tool => true
  | _ => false

end Node

/-- A file system. -/
structure FileTree where
  /-- The places other than the root, each at most once. -/
  nodes : List (Place × Node) := []
deriving DecidableEq

namespace FileTree

/-! ### Places -/

/-- What is at a place; the root is a directory. -/
def at? (t : FileTree) (p : Place) : Option Node :=
  if p = [] then some .directory else t.nodes.lookup p

/-- The tree with a node at a place, in the stead of what was there. -/
def put (p : Place) (n : Node) (t : FileTree) : FileTree :=
  if t.nodes.any (·.1 == p) then
    { nodes := t.nodes.map fun (q, o) => if q == p then (q, n) else (q, o) }
  else { nodes := t.nodes ++ [(p, n)] }

/-- Whether a place lies in a directory, at any depth. -/
def isBelow (dir p : Place) : Bool := dir.isPrefixOf p && dir != p

/-- The tree without a place and all below it. -/
def prune (p : Place) (t : FileTree) : FileTree :=
  { nodes := t.nodes.filter fun (q, _) => !(p.isPrefixOf q) }

/-- The names in a directory. -/
def namesIn (t : FileTree) (dir : Place) : List Text :=
  t.nodes.filterMap fun (q, _) =>
    if isBelow dir q && q.length == dir.length + 1 then q.getLast? else none

/-! ### Following paths -/

/-- The longest name in bytes. -/
def nameLimit : Nat := 255

/-- The number of bytes that a text takes. -/
def byteCount (t : Text) : Nat := t.foldl (fun n c => n + c.utf8Size) 0

/-- The refusal to look for names at a place that is no directory. -/
def entryRefusal? (t : FileTree) (p : Place) : Option Errno :=
  match t.at? p with
  | some .directory => none
  | some _ => some .notDirectory
  | none => some .notFound

/-- The place that names lead to; nothing need be there. -/
def follow (t : FileTree) (p : Place) : List Text → Except Errno Place
  | [] => .ok p
  | name :: names =>
    match t.entryRefusal? p with
    | some e => .error e
    | none =>
      if name == ['.'] then follow t p names
      else if name == ['.', '.'] then follow t p.dropLast names
      else if nameLimit < byteCount name then .error .nameTooLong
      else follow t (p ++ [name]) names

/-- Whether a path ends with a slash, and so has to lead to a directory. -/
def wantsDirectory (path : Text) : Bool := path.getLast? == some '/'

/-- The place that a path leads to from a working directory. -/
def place (t : FileTree) (cwd : Place) (path : Text) : Except Errno Place :=
  let path := Text.untilNul path
  if path.isEmpty then .error .notFound
  else t.follow (if path.head? == some '/' then [] else cwd) (Path.names path)

/-- What a path leads to. -/
def stat (t : FileTree) (cwd : Place) (path : Text) : Except Errno Node := do
  let p ← t.place cwd path
  match t.at? p with
  | none => .error .notFound
  | some n =>
    if wantsDirectory (Text.untilNul path) && !n.isDirectory then .error .notDirectory else .ok n

/-! ### Reading -/

/-- Whether there is anything. -/
def has (t : FileTree) (cwd : Place) (path : Text) : Bool := (t.stat cwd path).isOk

/-- Whether there is a regular file. -/
def isRegular (t : FileTree) (cwd : Place) (path : Text) : Bool :=
  match t.stat cwd path with
  | .ok n => n.isFile
  | .error _ => false

/-- Whether there is a directory. -/
def isDirectory (t : FileTree) (cwd : Place) (path : Text) : Bool :=
  match t.stat cwd path with
  | .ok n => n.isDirectory
  | .error _ => false

/-- Whether there is something that may be executed; every directory may. -/
def mayExecute (t : FileTree) (cwd : Place) (path : Text) : Bool :=
  match t.stat cwd path with
  | .ok n => n.isDirectory || n.mayExecute
  | .error _ => false

/-- The content of a file. -/
def content? (t : FileTree) (cwd : Place) (path : Text) : Except Errno Text := do
  match ← t.stat cwd path with
  | .file content _ => .ok content
  | .directory => .error .isDirectory
  | _ => .ok []

/-- The regular files below a directory, by their paths from it. -/
def filesBelow (t : FileTree) (dir : Place) : List (Text × Text) :=
  t.nodes.filterMap fun (q, n) =>
    match n with
    | .file content _ =>
      if isBelow dir q then some (Text.join ['/'] (q.drop dir.length), content) else none
    | _ => none

/-- The content of a file, empty if it cannot be read. -/
def read (t : FileTree) (cwd : Place) (path : Text) : Text := (t.content? cwd path).toOption.getD []

/-! ### Writing -/

/-- The permission bits of a new file. -/
def newFileMode : Nat := 420

/-- The place where a file can be written, which is created empty if nothing is there. -/
def openFile (t : FileTree) (cwd : Place) (path : Text) : Except Errno (Place × FileTree) := do
  let p ← t.place cwd path
  match t.at? p with
  | some .directory => .error .isDirectory
  | some _ => if wantsDirectory (Text.untilNul path) then .error .notDirectory else .ok (p, t)
  | none =>
    if wantsDirectory (Text.untilNul path) then .error .isDirectory
    else
      match t.entryRefusal? p.dropLast with
      | some e => .error e
      | none => .ok (p, t.put p (.file [] newFileMode))

/-- The tree with other content in a file; devices keep nothing. -/
def setContent (p : Place) (content : Text) (t : FileTree) : FileTree :=
  match t.at? p with
  | some (.file _ mode) => t.put p (.file content mode)
  | _ => t

/-- The tree with more content at the end of a file. -/
def append (p : Place) (more : Text) (t : FileTree) : FileTree :=
  match t.at? p with
  | some (.file content mode) => t.put p (.file (content ++ more) mode)
  | _ => t

/-- The tree after a file was written anew. -/
def write (t : FileTree) (cwd : Place) (path content : Text) : Except Errno FileTree := do
  let (p, t) ← t.openFile cwd path
  .ok (t.setContent p content)

/-- The tree after directories were created along names; what was created before a refusal
stays. -/
def makeAlong (t : FileTree) (p : Place) : List Text → FileTree × Option Errno
  | [] => (t, none)
  | name :: names =>
    if name == ['.'] then makeAlong t p names
    else if name == ['.', '.'] then makeAlong t p.dropLast names
    else if nameLimit < byteCount name then (t, some .nameTooLong)
    else
      let q := p ++ [name]
      match t.at? q with
      | some .directory => makeAlong t q names
      | some _ => (t, some .notDirectory)
      | none => makeAlong (t.put q .directory) q names

/-- The tree after a directory and all those above it were created.  A file in the place of
the last directory is refused in its own words if the path ends with a slash. -/
def makeDirectories (t : FileTree) (cwd : Place) (path : Text) : FileTree × Option Errno :=
  let path := Text.untilNul path
  if path.isEmpty then (t, some .invalid)
  else
    let start := if path.head? == some '/' then [] else cwd
    let namesAFile := match t.follow start (Path.names path) with
      | .ok p => (t.at? p).any fun n => !n.isDirectory
      | .error _ => false
    if wantsDirectory path && namesAFile then (t, some .exists)
    else t.makeAlong start (Path.names path)

/-- The tree with a file, and with the directories above it. -/
def install (t : FileTree) (cwd : Place) (path content : Text) (mode : Nat := newFileMode) :
    FileTree :=
  let (t, _) := t.makeDirectories cwd (Path.parent path)
  match t.place cwd path with
  | .ok p => t.put p (.file content mode)
  | .error _ => t

/-- The tree after a file was copied over another or to a new place. -/
def copy (t : FileTree) (cwd : Place) (source target : Text) : Except Errno FileTree := do
  let there ← match t.stat cwd target with
    | .ok n => pure (some n)
    | .error .notFound | .error .notDirectory => pure none
    | .error e => .error e
  match ← t.stat cwd source with
  | .file content mode =>
    if there.any (!·.isFile) then .error .invalid
    else if there.isSome && (← t.place cwd source) == (← t.place cwd target) then .error .exists
    else
      let (p, t) ← t.openFile cwd target
      .ok (t.put p (.file content mode))
  | _ => .error .invalid

/-- The letters that stand for the last six of a template, by a number. -/
def freshLetters (n : Nat) : Text := Decimal.padded 6 n

/-- The tree with a directory in the stead of a template, and its path. -/
def makeFresh (t : FileTree) (cwd : Place) (template : Text) (n : Nat) :
    Except Errno (Text × FileTree) := do
  if !Text.endsWith "XXXXXX".toList template then .error .invalid
  else
    let path := template.take (template.length - 6) ++ freshLetters n
    let p ← t.place cwd path
    match t.entryRefusal? p.dropLast with
    | some e => .error e
    | none =>
      if (t.at? p).isSome then .error .exists else .ok (path, t.put p .directory)

/-- The tree without a file or an empty directory. -/
def remove (t : FileTree) (cwd : Place) (path : Text) : FileTree :=
  match t.place cwd path, t.stat cwd path with
  | .ok p, .ok n =>
    if p == [] || (n.isDirectory && !(t.namesIn p).isEmpty) then t else t.prune p
  | _, _ => t

/-- The tree without a file or directory and all it holds. -/
def removeAll (t : FileTree) (cwd : Place) (path : Text) : FileTree :=
  match t.place cwd path with
  | .ok p => if p == [] then t else t.prune p
  | .error _ => t

end FileTree

end PerfGate
