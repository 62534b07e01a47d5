import StorageCalls.Text.Bytes

namespace StorageCalls.Base64

open StorageCalls.Text

def pad : UInt8 := 61

def symbol (n : Nat) : UInt8 :=
  UInt8.ofNat <|
    if n < 26 then 65 + n
    else if n < 52 then 71 + n
    else if n < 62 then n - 4
    else if n = 62 then 43 else 47

def value? (b : UInt8) : Option Nat :=
  let n := b.toNat
  if 65 ≤ n ∧ n ≤ 90 then some (n - 65)
  else if 97 ≤ n ∧ n ≤ 122 then some (n - 71)
  else if 48 ≤ n ∧ n ≤ 57 then some (n + 4)
  else if n = 43 then some 62
  else if n = 47 then some 63
  else none

def encodeBytes : List UInt8 → List UInt8
  | [] => []
  | [a] =>
    let n := a.toNat * 16
    [symbol (n / 64), symbol (n % 64), pad, pad]
  | [a, b] =>
    let n := (a.toNat * 256 + b.toNat) * 4
    [symbol (n / 4096), symbol (n / 64 % 64), symbol (n % 64), pad]
  | a :: b :: c :: rest =>
    let n := (a.toNat * 256 + b.toNat) * 256 + c.toNat
    symbol (n / 262144) :: symbol (n / 4096 % 64) :: symbol (n / 64 % 64) :: symbol (n % 64) ::
      encodeBytes rest

def encode (bytes : List UInt8) : String :=
  String.ofList ((encodeBytes bytes).map fun b => Char.ofNat b.toNat)

inductive Fault where
  | symbol (byte : UInt8) (offset : Nat)
  | inputLength (n : Nat)
  | lastSymbol (byte : UInt8) (offset : Nat)
  | padding
  deriving DecidableEq, Repr

def Fault.message : Fault → String
  | .symbol byte offset =>
    "Invalid symbol " ++ toString byte.toNat ++ ", offset " ++ toString offset ++ "."
  | .inputLength n => "Invalid input length: " ++ toString n
  | .lastSymbol byte offset =>
    "Invalid last symbol " ++ toString byte.toNat ++ ", offset " ++ toString offset ++ "."
  | .padding => "Invalid padding"

def values (offset : Nat) : List UInt8 → Except Fault (List Nat)
  | [] => .ok []
  | b :: bs =>
    match value? b with
    | none => .error (.symbol b offset)
    | some v => do return v :: (← values (offset + 1) bs)

def bytesOf (a b c d : Nat) : List UInt8 :=
  let n := ((a * 64 + b) * 64 + c) * 64 + d
  [UInt8.ofNat (n / 65536), UInt8.ofNat (n / 256), UInt8.ofNat n]

/-- The bytes of the symbols of the last group. Bits that belong to no byte must be zero. -/
def lastBytes (offset : Nat) (body : List UInt8) : List Nat → Except Fault (List UInt8)
  | [a, b] =>
    if b % 16 = 0 then .ok ((bytesOf a b 0 0).take 1)
    else .error (.lastSymbol (body.getLastD 0) (offset + 1))
  | [a, b, c] =>
    if c % 4 = 0 then .ok ((bytesOf a b c 0).take 2)
    else .error (.lastSymbol (body.getLastD 0) (offset + 2))
  | [a, b, c, d] => .ok (bytesOf a b c d)
  | _ => .ok []

def decodeLast (offset : Nat) (group : List UInt8) : Except Fault (List UInt8) := do
  let body := group.takeWhile (· != pad)
  let padding := group.dropWhile (· != pad)
  let vs ← values offset body
  if padding ≠ [] ∧ (body.length < 2 ∨ padding.any (· != pad)) then
    throw (.symbol pad (offset + body.length))
  if group ≠ [] ∧ body.length < 2 then throw (.inputLength (offset + body.length))
  if group.length % 4 ≠ 0 then throw .padding
  lastBytes offset body vs

def decodeGroups (offset : Nat) : List UInt8 → Except Fault (List UInt8)
  | a :: b :: c :: d :: e :: rest => do
    match ← values offset [a, b, c, d] with
    | [a, b, c, d] => return bytesOf a b c d ++ (← decodeGroups (offset + 4) (e :: rest))
    | _ => return []
  | group => decodeLast offset group

def decodeBytes (bytes : List UInt8) : Except Fault (List UInt8) :=
  match bytes.getLast? with
  | none => .ok []
  | some last =>
    if bytes.length % 4 = 1 ∧ last ≠ pad ∧ value? last = none then
      .error (.symbol last (bytes.length - 1))
    else decodeGroups 0 bytes

def decode (text : String) : Except Fault (List UInt8) :=
  decodeBytes (utf8Bytes text)

end StorageCalls.Base64
