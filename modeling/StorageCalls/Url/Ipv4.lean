import StorageCalls.Text.Bytes
import StorageCalls.Text.Split

namespace StorageCalls.Url.Ipv4

open Text

def digitsIn? (base : Nat) (cs : List Char) : Option (List Nat) :=
  cs.mapM fun c => (hexValue? c).bind fun d => if d < base then some d else none

def number? (cs : List Char) : Option Nat :=
  let inBase (base : Nat) (ds : List Char) := (digitsIn? base ds).map (ofDigits base)
  match cs with
  | [] => none
  | '0' :: 'x' :: ds => inBase 16 ds
  | '0' :: 'X' :: ds => inBase 16 ds
  | '0' :: d :: ds => inBase 8 (d :: ds)
  | ds => inBase 10 ds

def labels (domain : List Char) : List (List Char) :=
  let parts := splitAtEach (· == '.') domain
  if parts.length > 1 ∧ parts.getLast? = some [] then parts.dropLast else parts

def endsInNumber (domain : List Char) : Bool :=
  match (labels domain).getLast? with
  | none => false
  | some last => (!last.isEmpty && last.all Char.isDigit) || (number? last).isSome

def ofDomain? (domain : List Char) : Option Nat := do
  let parts := labels domain
  let numbers ← parts.mapM number?
  let last ← numbers.getLast?
  let front := numbers.dropLast
  if parts.length > 4 ∨ front.any (· > 255) ∨ last ≥ Nat.pow 256 (4 - front.length) then none
  else some (ofDigits 256 front * Nat.pow 256 (4 - front.length) + last)

end StorageCalls.Url.Ipv4
