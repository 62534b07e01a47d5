import StorageCalls.Decimal
import StorageCalls.Json.Text

namespace StorageCalls.Json

open StorageCalls.Text

def isDigit (b : UInt8) : Bool := 0x30 ≤ b && b ≤ 0x39

def digitsOf (bs : List UInt8) : List Nat := bs.map (·.toNat - 48)

structure Number where
  whole : List Nat
  fraction : List Nat
  exponent : Option (Bool × Nat)

def digits (atEnd : Fault) : Reader (List Nat)
  | [] => .error atEnd
  | b :: s =>
    if isDigit b then .ok (digitsOf ((b :: s).takeWhile isDigit), s.dropWhile isDigit)
    else .error .malformed

def wholePart (atEnd : Fault) : Reader (List Nat) := fun s => do
  let (ds, s) ← digits atEnd s
  if ds.head? = some 0 ∧ ds.length ≠ 1 then throw .malformed
  return (ds, s)

def fractionPart (atEnd : Fault) : Reader (List Nat)
  | [] => .ok ([], [])
  | b :: s => if b = byte '.' then digits atEnd s else .ok ([], b :: s)

def exponentPart (atEnd : Fault) : Reader (Option (Bool × Nat))
  | [] => .ok (none, [])
  | b :: s =>
    if b = byte 'e' ∨ b = byte 'E' then do
      let (negative, s) := match s with
        | c :: r => if c = byte '+' then (false, r) else if c = byte '-' then (true, r) else (false, s)
        | [] => (false, s)
      let (ds, s) ← digits atEnd s
      return (some (negative, ofDigits 10 ds), s)
    else .ok (none, b :: s)

def unsignedNumber (atEnd : Fault) : Reader Number := fun s => do
  let (whole, s) ← wholePart atEnd s
  let (fraction, s) ← fractionPart atEnd s
  let (exponent, s) ← exponentPart atEnd s
  return (⟨whole, fraction, exponent⟩, s)

def dropMinus : List UInt8 → List UInt8
  | [] => []
  | b :: s => if b = byte '-' then s else b :: s

def number (atEnd : Fault) : Reader Number := fun s => unsignedNumber atEnd (dropMinus s)

def hasRoom (significand digit : Nat) : Bool := significand * 10 + digit < 0x10000000000000000

def significand : Nat → List Nat → Nat × Nat
  | n, [] => (n, 0)
  | n, d :: ds => if hasRoom n d then significand (n * 10 + d) ds else (n, ds.length + 1)

namespace Number

/-- Significand and exponent: digits for which there is no room count before the point, and are
dropped after it. -/
def parts (n : Number) : Nat × Int :=
  let (whole, dropped) := significand 0 n.whole
  let (all, ignored) := significand whole n.fraction
  (all, (dropped : Int) - (n.fraction.length - ignored : Nat))

/-- Whether the number is too large: the product of the rounded significand and the rounded power of
ten must be finite, and exponents must fit in 32 bits. -/
def isTooLarge (n : Number) : Bool :=
  let (m, scale) := n.parts
  let fits (e : Int) := match e with
    | .ofNat e =>
      e ≤ 308 &&
        Decimal.roundTo53 m * Decimal.roundTo53 (Nat.pow 10 e) < Decimal.overflowLimit
    | .negSucc _ => true
  if m = 0 then false
  else
    match n.exponent with
    | none => !fits scale
    | some (true, e) => if e < 0x80000000 then !fits (scale - e) else false
    | some (false, e) => if e < 0x80000000 then !fits (scale + e) else true

end Number

end StorageCalls.Json
