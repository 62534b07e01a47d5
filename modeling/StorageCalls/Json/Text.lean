import StorageCalls.Text.Bytes
import StorageCalls.Text.Split

namespace StorageCalls.Json

open StorageCalls.Text

inductive Fault where
  | malformed
  | unfit
  | truncated
  deriving DecidableEq, Repr

abbrev Reader (α : Type) := List UInt8 → Except Fault (α × List UInt8)

def byte (c : Char) : UInt8 := UInt8.ofNat c.toNat

def escapeChar (c : Char) : List Char :=
  if c = '"' then ['\\', '"']
  else if c = '\\' then ['\\', '\\']
  else if c = '\x08' then ['\\', 'b']
  else if c = '\x0c' then ['\\', 'f']
  else if c = '\n' then ['\\', 'n']
  else if c = '\r' then ['\\', 'r']
  else if c = '\t' then ['\\', 't']
  else if c.toNat < 0x20 then
    ['\\', 'u', '0', '0', hexDigit (c.toNat / 16), hexDigit (c.toNat % 16)]
  else [c]

def quoted (s : String) : List Char :=
  '"' :: s.toList.flatMap escapeChar ++ ['"']

def isBlank (b : UInt8) : Bool :=
  b == 0x20 || b == 0x0a || b == 0x09 || b == 0x0d

def dropBlanks (s : List UInt8) : List UInt8 := s.dropWhile isBlank

def hexOf? (b : UInt8) : Option Nat := hexValue? (Char.ofNat b.toNat)

def hexUnit : Reader Nat
  | a :: b :: c :: d :: s =>
    match [a, b, c, d].mapM hexOf? with
    | some ds => .ok (ofDigits 16 ds, s)
    | none => .error .malformed
  | _ => .error .truncated

def expect (c : Char) : List UInt8 → Except Fault (List UInt8)
  | [] => .error .truncated
  | b :: s => if b = byte c then .ok s else .error .malformed

def isLeading (n : Nat) : Bool := 0xd800 ≤ n && n ≤ 0xdbff
def isTrailing (n : Nat) : Bool := 0xdc00 ≤ n && n ≤ 0xdfff

/-- A code point after `\u`. Beyond the first 65536 it takes a pair of units. -/
def codePoint : Reader Nat := fun s => do
  let (n, s) ← hexUnit s
  if isTrailing n then throw .malformed
  if !isLeading n then return (n, s)
  let (m, s) ← hexUnit (← expect 'u' (← expect '\\' s))
  if isTrailing m then return (0x10000 + (n - 0xd800) * 0x400 + (m - 0xdc00), s)
  throw .malformed

def shortEscape? (b : UInt8) : Option Char :=
  (("\"\\/bfnrt".toList.map byte).zip "\"\\/\x08\x0c\n\r\t".toList).lookup b

def escape : Reader (List UInt8)
  | [] => .error .truncated
  | b :: s =>
    if b = byte 'u' then do
      let (n, s) ← codePoint s
      return (String.utf8EncodeChar (Char.ofNat n), s)
    else
      match shortEscape? b with
      | some c => .ok ([byte c], s)
      | none => .error .malformed

def stringBytes : Nat → Reader (List UInt8)
  | 0, _ => .error .truncated
  | _ + 1, [] => .error .truncated
  | fuel + 1, b :: s =>
    if b = byte '"' then .ok ([], s)
    else if b = byte '\\' then do
      let (e, s) ← escape s
      let (bs, s) ← stringBytes fuel s
      return (e ++ bs, s)
    else if b < 0x20 then .error .malformed
    else do
      let (bs, s) ← stringBytes fuel s
      return (b :: bs, s)

def text : Reader String := fun s => do
  let (bytes, s) ← stringBytes (s.length + 1) s
  match utf8Chars? bytes with
  | some cs => return (String.ofList cs, s)
  | none => throw .malformed

def skipEscape : List UInt8 → Except Fault (List UInt8)
  | [] => .error .truncated
  | b :: s =>
    if b = byte 'u' then (hexUnit s).map (·.2)
    else if (shortEscape? b).isSome then .ok s
    else .error .malformed

def skipString : Nat → List UInt8 → Except Fault (List UInt8)
  | 0, _ => .error .truncated
  | _ + 1, [] => .error .truncated
  | fuel + 1, b :: s =>
    if b = byte '"' then .ok s
    else if b = byte '\\' then do skipString fuel (← skipEscape s)
    else if b < 0x20 then .error .malformed
    else skipString fuel s

end StorageCalls.Json
