import StorageCalls.Time.Duration

namespace StorageCalls

structure Instant where
  ticks : Int
  lower : -(0x8000000000000000 * ticksPerSecond : Int) ≤ ticks
  upper : ticks < 0x8000000000000000 * ticksPerSecond
  deriving DecidableEq

namespace Instant

def epoch : Instant := ⟨0, by decide, by decide⟩

instance : Inhabited Instant := ⟨epoch⟩

instance : LT Instant := ⟨fun a b => a.ticks < b.ticks⟩
instance : LE Instant := ⟨fun a b => a.ticks ≤ b.ticks⟩

instance (a b : Instant) : Decidable (a < b) := inferInstanceAs (Decidable (a.ticks < b.ticks))
instance (a b : Instant) : Decidable (a ≤ b) := inferInstanceAs (Decidable (a.ticks ≤ b.ticks))

def ofTicks? (ticks : Int) : Option Instant :=
  if h : -(0x8000000000000000 * ticksPerSecond : Int) ≤ ticks ∧
      ticks < 0x8000000000000000 * ticksPerSecond then
    some ⟨ticks, h.1, h.2⟩
  else none

def ofParts? (seconds : Int) (nanoseconds : Nat) : Option Instant :=
  ofTicks? (seconds * ticksPerSecond + nanoseconds)

def ofUnix? (seconds : Nat) : Option Instant :=
  ofParts? seconds 0

def seconds (t : Instant) : Int := t.ticks / ticksPerSecond

def nanoseconds (t : Instant) : Nat := (t.ticks % ticksPerSecond).toNat

/-- Full seconds since the epoch, none before it. -/
def unixSeconds (t : Instant) : Nat := t.seconds.toNat

def add? (t : Instant) (d : Duration) : Option Instant :=
  ofTicks? (t.ticks + d.ticks)

end Instant

inductive ClockStep where
  | advance (span : Duration)
  | set (time : Instant)
  deriving DecidableEq

namespace ClockStep

/-- What the clock shows afterwards; none when it would leave the range of instants. -/
def next? (now : Instant) : ClockStep → Option Instant
  | .advance d => now.add? d
  | .set t => some t

def readings? (now : Instant) : List ClockStep → Option (List Instant)
  | [] => some []
  | step :: steps => do
    let next ← step.next? now
    let rest ← readings? next steps
    return next :: rest

end ClockStep

end StorageCalls
