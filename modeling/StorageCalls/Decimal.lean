namespace StorageCalls.Decimal

def overflowLimit : Nat := Nat.pow 2 1024 - Nat.pow 2 970

def roundTo53 (n : Nat) : Nat :=
  let unit := Nat.pow 2 (n.log2 - 52)
  let q := n / unit
  let r := n % unit
  if 2 * r < unit then q * unit
  else if unit < 2 * r then (q + 1) * unit
  else if q % 2 = 0 then q * unit else (q + 1) * unit

/-- Whether `mantissa * 10 ^ exponent` rounds to infinity. Exponents that decide this by their size
alone are not computed with. -/
def overflows (mantissa : Nat) (exponent : Int) : Bool :=
  let digits := (Nat.toDigits 10 mantissa).length
  if mantissa = 0 then false
  else if 310 < digits + exponent then true
  else if digits + exponent < 300 then false
  else
    match exponent with
    | .ofNat e => overflowLimit ≤ mantissa * Nat.pow 10 e
    | .negSucc e => overflowLimit * Nat.pow 10 (e + 1) ≤ mantissa

end StorageCalls.Decimal
