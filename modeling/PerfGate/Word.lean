/-!
# Words

Integers of fixed width: which ones fit in 32 and 64 bits, and what is left of those that
do not.
-/

namespace PerfGate

/-- The signed 32-bit integer that agrees with `n` modulo `2 ^ 32`. -/
def wrap32 (n : Int) : Int := Int.bmod n 0x100000000

/-- Whether an integer is a signed 32-bit one. -/
def inRange32 (n : Int) : Bool := -0x80000000 ≤ n && n < 0x80000000

/-- Whether an integer is a signed 64-bit one. -/
def inRange64 (n : Int) : Bool := -0x8000000000000000 ≤ n && n < 0x8000000000000000

/-- The signed 64-bit integer that agrees with `n` modulo `2 ^ 64`. -/
def wrap64 (n : Int) : Int := Int.bmod n 0x10000000000000000

/-- The least signed 64-bit integer, which stands for every number that is none. -/
def indefinite64 : Int := -0x8000000000000000

/-- A number of milliseconds as a deadline keeps it: in nanoseconds, in a 64-bit word. -/
def keptMs (ms : Int) : Int := wrap64 (ms * 1000000) / 1000000

end PerfGate
