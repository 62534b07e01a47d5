import StorageCalls.Decimal
import StorageCalls.Toml.Text
import StorageCalls.Toml.Tree

namespace StorageCalls.Toml

open StorageCalls.Text

def digits (count : Nat) : Reader Nat := fun s =>
  let ds := s.take count
  if ds.length = count ∧ ds.all Char.isDigit then
    some (ofDigits 10 (ds.map (·.toNat - 48)), s.drop count)
  else none

def bounded (count low high : Nat) : Reader Nat := fun s => do
  let (n, s) ← digits count s
  if low ≤ n ∧ n ≤ high then some (n, s) else none

def sign : List Char → Bool × List Char
  | '+' :: s => (false, s)
  | '-' :: s => (true, s)
  | s => (false, s)

def after? (c : Char) : List Char → Option (List Char)
  | d :: s => if c = d then some s else none
  | [] => none

def isLeapYear (year : Nat) : Bool :=
  year % 4 == 0 && (year % 100 != 0 || year % 400 == 0)

def daysInMonth (year month : Nat) : Nat :=
  if month = 2 then (if isLeapYear year then 29 else 28)
  else if month ∈ [4, 6, 9, 11] then 30 else 31

def afterDate? (s : List Char) : Option (List Char) := do
  let (year, s) ← digits 4 s
  let (month, s) ← bounded 2 1 12 (← after? '-' s)
  let (_, s) ← bounded 2 1 (daysInMonth year month) (← after? '-' s)
  return s

def afterTime? (s : List Char) : Option (List Char) := do
  let (_, s) ← bounded 2 0 23 s
  let (_, s) ← bounded 2 0 59 (← after? ':' s)
  let (_, s) ← bounded 2 0 60 (← after? ':' s)
  match s with
  | '.' :: d :: s => if d.isDigit then return s.dropWhile Char.isDigit else none
  | '.' :: [] => none
  | s => return s

def afterOffset? : List Char → Option (List Char)
  | 'Z' :: s | 'z' :: s => some s
  | '+' :: s | '-' :: s => do
    let (_, s) ← bounded 2 0 23 s
    let (_, s) ← bounded 2 0 59 (← after? ':' s)
    return s
  | s => some s

/-- The time of a date follows after one of three separators. A date may also stand alone. -/
def afterDateTime? (s : List Char) : Option (List Char) := do
  let s ← afterDate? s
  match s with
  | c :: rest =>
    if c = 'T' ∨ c = 't' ∨ c = ' ' then
      match afterTime? rest with
      | some rest => afterOffset? rest
      | none => some s
    else some s
  | [] => some s

def digitRun (isDigit : Char → Bool) : Reader (List Char)
  | [] => none
  | c :: s => if isDigit c then go [c] s else none
where
  go (acc : List Char) : Reader (List Char)
    | '_' :: c :: s => if isDigit c then go (c :: acc) s else none
    | c :: s =>
      if isDigit c then go (c :: acc) s
      else if c = '_' then none
      else some (acc.reverse, c :: s)
    | [] => some (acc.reverse, [])

def wholeDigits : Reader (List Char)
  | '0' :: s => some (['0'], s)
  | s => digitRun Char.isDigit s

def decimalValue (ds : List Char) : Nat := ofDigits 10 (ds.map (·.toNat - 48))

def fraction : Reader (List Char)
  | '.' :: s => digitRun Char.isDigit s
  | s => some ([], s)

def exponent (s : List Char) : Option (Int × List Char) :=
  match s with
  | 'e' :: s | 'E' :: s => do
    let (negative, s) := sign s
    let (ds, s) ← digitRun Char.isDigit s
    let e : Int := decimalValue ds
    return (if negative then -e else e, s)
  | _ => some (0, s)

def integer? (n : Int) : Option Value :=
  if -0x8000000000000000 ≤ n ∧ n < 0x8000000000000000 then some (.integer n) else none

/-- Floats must not round to infinity, unless they are negative. -/
def decimal (s : List Char) : Option (Value × List Char) := do
  let (negative, s) := sign s
  let (whole, s) ← wholeDigits s
  if s.head?.any (fun c => c == '.' || c == 'e' || c == 'E') then
    let (frac, s) ← fraction s
    let (e, s) ← exponent s
    if !negative && Decimal.overflows (decimalValue (whole ++ frac)) (e - frac.length) then none
    else return (.float, s)
  else
    let n : Int := decimalValue whole
    return (← integer? (if negative then -n else n), s)

def based (base : Nat) (s : List Char) : Option (Value × List Char) := do
  let isDigit c := match hexValue? c with
    | some v => decide (v < base)
    | none => false
  let (ds, s) ← digitRun isDigit s
  return (← integer? (ofDigits base (← ds.mapM hexValue?)), s)

def afterWord? (word : String) (s : List Char) : Option (List Char) :=
  if word.toList.isPrefixOf s then some (s.drop word.length) else none

def number (s : List Char) : Option (Value × List Char) :=
  match afterDateTime? s <|> afterTime? s with
  | some s => some (.datetime, s)
  | none =>
    match afterWord? "inf" (sign s).2 <|> afterWord? "nan" (sign s).2 with
    | some s => some (.float, s)
    | none =>
      match s with
      | '0' :: 'x' :: s => based 16 s
      | '0' :: 'o' :: s => based 8 s
      | '0' :: 'b' :: s => based 2 s
      | s => decimal s

def scalar (s : List Char) : Option (Value × List Char) :=
  match afterWord? "true" s, afterWord? "false" s with
  | some s, _ => some (.boolean true, s)
  | _, some s => some (.boolean false, s)
  | none, none => number s

end StorageCalls.Toml
