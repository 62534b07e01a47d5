import StorageCalls.Json.Number

namespace StorageCalls.Json

def word : List Char → List UInt8 → Except Fault (List UInt8)
  | [], s => .ok s
  | c :: cs, s => do word cs (← expect c s)

def wordOf? (b : UInt8) : Option (List Char) :=
  if b = byte 'n' then some "ull".toList
  else if b = byte 't' then some "rue".toList
  else if b = byte 'f' then some "alse".toList
  else none

/-- The fault of a value that does not have the wanted shape. Words, numbers and strings are read to
their end, which may uncover another fault. -/
def mismatch (s : List UInt8) : Fault :=
  let found : Except Fault Unit := do
    match s with
    | [] => throw .truncated
    | b :: rest =>
      match wordOf? b with
      | some w => discard (word w rest)
      | none =>
        if b = byte '-' ∨ isDigit b then
          let (n, _) ← number .truncated s
          if n.isTooLarge then throw .malformed
        else if b = byte '"' then discard (text rest)
        else if b ≠ byte '[' ∧ b ≠ byte '\x7b' then throw .malformed
  match found with
  | .ok _ => .unfit
  | .error fault => fault

inductive Bracket where
  | square
  | curly
  deriving DecidableEq

def Bracket.close : Bracket → Char
  | .square => ']'
  | .curly => '\x7d'

def skipKey (s : List UInt8) : Except Fault (List UInt8) := do
  let s ← expect '"' (dropBlanks s)
  let s ← skipString (s.length + 1) s
  expect ':' (dropBlanks s)

mutual

def skipValue : Nat → List Bracket → List UInt8 → Except Fault (List UInt8)
  | 0, _, _ => .error .truncated
  | fuel + 1, opened, s =>
    match dropBlanks s with
    | [] => .error .truncated
    | b :: s =>
      match wordOf? b with
      | some w => do skipRest fuel true opened (← word w s)
      | none =>
        if b = byte '-' ∨ isDigit b then do
          let (_, s) ← number .malformed (b :: s)
          skipRest fuel true opened s
        else if b = byte '"' then do skipRest fuel true opened (← skipString (s.length + 1) s)
        else if b = byte '[' then skipRest fuel false (.square :: opened) s
        else if b = byte '\x7b' then skipRest fuel false (.curly :: opened) s
        else .error .malformed

/-- Passes over what follows a value, or an opening bracket, up to the close of the outermost
bracket. -/
def skipRest : Nat → Bool → List Bracket → List UInt8 → Except Fault (List UInt8)
  | 0, _, _, _ => .error .truncated
  | _ + 1, _, [], s => .ok s
  | fuel + 1, afterItem, bracket :: opened, s =>
    match dropBlanks s with
    | [] => .error .truncated
    | b :: s =>
      if b = byte bracket.close then skipRest fuel true opened s
      else if afterItem && b != byte ',' then .error .malformed
      else do
        let s := if afterItem then s else b :: s
        let s ← match bracket with
          | .square => pure s
          | .curly => skipKey s
        skipValue fuel (bracket :: opened) s

end

def skip (s : List UInt8) : Except Fault (List UInt8) :=
  skipValue (2 * s.length + 2) [] s

def textValue : Reader String := fun s =>
  match dropBlanks s with
  | [] => .error .truncated
  | b :: s => if b = byte '"' then text s else .error (mismatch (b :: s))

inductive Next where
  | close (rest : List UInt8)
  | item (rest : List UInt8)

def nextKey (first : Bool) (s : List UInt8) : Except Fault Next :=
  match dropBlanks s with
  | [] => .error .truncated
  | b :: s =>
    if b = byte '\x7d' then .ok (.close s)
    else if first then
      if b = byte '"' then .ok (.item s) else .error .malformed
    else if b = byte ',' then (expect '"' (dropBlanks s)).map .item
    else .error .malformed

def nextElement (first : Bool) (s : List UInt8) : Except Fault Next :=
  match dropBlanks s with
  | [] => .error .truncated
  | b :: s =>
    if b = byte ']' then .ok (.close s)
    else if first then .ok (.item (b :: s))
    else if b = byte ',' then
      match dropBlanks s with
      | [] => .error .truncated
      | c :: s => if c = byte ']' then .error .malformed else .ok (.item (c :: s))
    else .error .malformed

end StorageCalls.Json
