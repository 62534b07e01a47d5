namespace StorageCalls

def ticksPerSecond : Nat := 1000000000

structure Duration where
  ticks : Nat
  bounded : ticks < 0x10000000000000000 * ticksPerSecond
  deriving DecidableEq

namespace Duration

def zero : Duration := ⟨0, by decide⟩

instance : Inhabited Duration := ⟨zero⟩

def ofTicks? (ticks : Nat) : Option Duration :=
  if h : ticks < 0x10000000000000000 * ticksPerSecond then some ⟨ticks, h⟩ else none

def ofParts? (seconds nanoseconds : Nat) : Option Duration :=
  ofTicks? (seconds * ticksPerSecond + nanoseconds)

def ofSeconds (seconds : Nat) (h : seconds < 0x10000000000000000 := by decide) : Duration :=
  ⟨seconds * ticksPerSecond, Nat.mul_lt_mul_of_pos_right h (by decide)⟩

def seconds (d : Duration) : Nat := d.ticks / ticksPerSecond

def nanoseconds (d : Duration) : Nat := d.ticks % ticksPerSecond

def isZero (d : Duration) : Bool := d.ticks == 0

def add? (a b : Duration) : Option Duration :=
  ofTicks? (a.ticks + b.ticks)

end Duration

end StorageCalls
