namespace StorageCalls.Url.Punycode

def digit? (c : Char) : Option Nat :=
  if 'a' ≤ c ∧ c ≤ 'z' then some (c.toNat - 97)
  else if 'A' ≤ c ∧ c ≤ 'Z' then some (c.toNat - 65)
  else if '0' ≤ c ∧ c ≤ '9' then some (c.toNat - 22)
  else none

def adapt (delta count : Nat) (first : Bool) : Nat :=
  let delta := if first then delta / 700 else delta / 2
  let delta := delta + delta / count
  scale delta delta 0
where
  scale : Nat → Nat → Nat → Nat
    | 0, delta, k => k + 36 * delta / (delta + 38)
    | fuel + 1, delta, k =>
      if delta > 455 then scale fuel (delta / 35) (k + 36) else k + 36 * delta / (delta + 38)

def number? (bias : Nat) : List Char → (k weight value : Nat) → Option (Nat × List Char)
  | [], _, _, _ => none
  | c :: cs, k, weight, value => do
    let d ← digit? c
    let value := value + d * weight
    let threshold := if k ≤ bias then 1 else if k ≥ bias + 26 then 26 else k - bias
    let weight' := weight * (36 - threshold)
    if value ≥ 0x100000000 then none
    else if d < threshold then some (value, cs)
    else if weight' ≥ 0x100000000 then none
    else number? bias cs (k + 36) weight' value

/-- Inserts one character for each number. `first` holds before the first insertion. -/
def insertions? : (fuel : Nat) → (first : Bool) → (output : List Char) → (n bias i : Nat) →
    List Char → Option (List Char)
  | 0, _, _, _, _, _, _ => none
  | _ + 1, _, output, _, _, _, [] => some output
  | fuel + 1, first, output, n, bias, i, cs => do
    let (delta, rest) ← number? bias cs 36 1 0
    let count := output.length + 1
    let n := n + (i + delta) / count
    let place := (i + delta) % count
    if n.isValidChar then
      insertions? fuel false (output.take place ++ Char.ofNat n :: output.drop place) n
        (adapt delta count first) (place + 1) rest
    else none

/-- The text before the last hyphen is taken over, the rest tells what to insert. With nothing to
take over there is no hyphen. -/
def decode? (cs : List Char) : Option (List Char) :=
  let tail := (cs.reverse.takeWhile (· != '-')).reverse
  let head := cs.take (cs.length - tail.length)
  if head = ['-'] ∨ cs.any (·.toNat ≥ 0x80) then none
  else insertions? (cs.length + 1) true head.dropLast 128 72 0 tail

end StorageCalls.Url.Punycode
