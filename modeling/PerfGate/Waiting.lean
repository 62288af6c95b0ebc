import PerfGate.Host
import PerfGate.Numeral
import PerfGate.Word

/-!
# Waiting

Sleeps that an interruption cuts short, and the wait for a port.  Waits look at what they
wait for, sleep a fixed time and look again; the number of looks follows from the timeout.
-/

namespace PerfGate

/-- How long a wait sleeps between two looks. -/
def sliceMs : Nat := 50

/-- The sleeps that make up a time, none of them longer than a slice. -/
def slices (ms : Nat) : List Nat :=
  List.replicate (ms / sliceMs) sliceMs ++ if ms % sliceMs = 0 then [] else [ms % sliceMs]

/-- How many sleeps of `step` it takes until a timeout has passed. -/
def sleepsUntil (step : Nat) (timeoutMs : Int) : Nat := ((keptMs timeoutMs).toNat + step - 1) / step

variable {m : Type → Type} [Monad m] [MonadExceptOf Failure m]

/-- Sleeps for a time; an interruption ends it with an error. -/
def sleepInterruptibly [Clock m] [Interruption m] (ms : Nat) : m Unit := do
  (slices ms).forM fun s => do
    checkInterruption
    sleep s
  checkInterruption

/-! ### Ports -/

/-- Whether a text is the numeral of a byte without leading zeros. -/
def isOctet (t : Text) : Bool :=
  !t.isEmpty && t.all Text.isDigit && (t.length == 1 || t.head? != some '0') &&
    t.length ≤ 3 && Decimal.value t ≤ 255

/-- Whether a text is an IPv4 address in dotted decimal. -/
def isAddress (t : Text) : Bool :=
  let parts := Text.pieces (· == '.') t
  parts.length == 4 && parts.all isOctet

/-- The port that a number addresses: its low 16 bits. -/
def portNumber (port : Int) : Nat := (port % 65536).toNat

/-- Tries to connect, with `sleeps` sleeps in between. -/
def tryPort [Clock m] [Interruption m] [Network m] (address : Text) (port : Nat) :
    (sleeps : Nat) → m Bool
  | 0 => do
    checkInterruption
    connects address port
  | sleeps + 1 => do
    checkInterruption
    if ← connects address port then pure true
    else
      sleep sliceMs
      tryPort address port sleeps

/-- Waits until a port takes a connection; false if the timeout passes first. -/
def awaitPort [Clock m] [Interruption m] [Network m] (host : Text) (port timeoutMs : Int) :
    m Bool := do
  let address := Text.untilNul host
  if !isAddress address then fail (HostError.invalidHost host)
  tryPort address (portNumber port) (sleepsUntil sliceMs timeoutMs)

/-- The address of the machine itself. -/
def loopback : Text := "127.0.0.1".toList

end PerfGate
