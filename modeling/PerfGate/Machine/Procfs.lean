import PerfGate.Machine.FileTree
import PerfGate.Procfs

/-!
# Process directories in a file tree

What the files below a directory show of processes: an entry for each name in it.
-/

namespace PerfGate

namespace FileTree

/-- The entries of a directory of processes. -/
def processEntries (t : FileTree) (cwd : Place) (root : Text) : List Procfs.Entry :=
  match t.place cwd root with
  | .error _ => []
  | .ok p =>
    (t.namesIn p).map fun name =>
      let file (f : String) : Text := root ++ '/' :: name ++ f.toList
      { name
        stat := t.read cwd (file "/stat")
        comm := (t.content? cwd (file "/comm")).toOption }

/-- The reading of a process in a directory of processes. -/
def processReading (t : FileTree) (cwd : Place) (root : Text) (pid : Pid) : Reading :=
  let dir := root ++ '/' :: Decimal.signed pid
  Procfs.reading (t.read cwd (dir ++ "/stat".toList)) (t.read cwd (dir ++ "/status".toList))

end FileTree

end PerfGate
