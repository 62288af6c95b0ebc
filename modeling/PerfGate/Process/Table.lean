import PerfGate.Text

/-!
# Process trees

A service is often started by a shell or another wrapper.  The resolver walks from the
process that was started down to the service itself, through wrappers only.
-/

namespace PerfGate

/-- The number of a process. -/
abbrev Pid := Int

/-- A view of the processes there are. -/
structure ProcessTable where
  /-- The name of a process, if there is one. -/
  name? : Pid → Option Text
  /-- The children of a process. -/
  children : Pid → List Pid

/-- The rule by which the service is found. -/
structure Resolver where
  /-- The process name of the service. -/
  subject : Text
  /-- The names of processes that only start others. -/
  wrappers : List Text := ["bash".toList, "sh".toList, "taskset".toList]
  /-- The most wrappers that are walked through. -/
  maxDepth : Int := 8

/-- What to do at a process. -/
inductive Resolver.Step where
  /-- It is the service. -/
  | target
  /-- Go on with one of its children. -/
  | descend (children : List Pid)
  /-- There is no way on. -/
  | stop
deriving DecidableEq

namespace Resolver

/-- Whether a process name is that of a wrapper. -/
def isWrapper (r : Resolver) (name : Text) : Bool := r.wrappers.contains name

/-- What to do at a process: a wrapper with children is left for one of them. -/
def step (r : Resolver) (tree : ProcessTable) (pid : Pid) : Step :=
  match tree.name? pid with
  | none => .stop
  | some name =>
    if name == r.subject then .target
    else if !r.isWrapper name then .stop
    else
      match tree.children pid with
      | [] => .stop
      | children => .descend children

/-- The child to go on with: the first one named like the service, else the first known one
that is no wrapper, else the first. -/
def select? (r : Resolver) (tree : ProcessTable) (children : List Pid) : Option Pid :=
  match children.find? fun c => tree.name? c == some r.subject with
  | some c => some c
  | none =>
    match children.find? fun c => (tree.name? c).any (!r.isWrapper ·) with
    | some c => some c
    | none => children.head?

/-- The end of a walk of at most `depth` steps. -/
def walk (r : Resolver) (tree : ProcessTable) : (depth : Nat) → Pid → Pid
  | 0, pid => pid
  | depth + 1, pid =>
    match r.step tree pid with
    | .descend children =>
      match r.select? tree children with
      | some next => walk r tree depth next
      | none => pid
    | _ => pid

/-- The process that is taken for the service. -/
def resolve (r : Resolver) (tree : ProcessTable) (pid : Pid) : Pid :=
  r.walk tree r.maxDepth.toNat pid

end Resolver

end PerfGate
