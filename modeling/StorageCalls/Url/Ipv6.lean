import StorageCalls.Text.Bytes
import StorageCalls.Text.Split

namespace StorageCalls.Url.Ipv6

open Text

def hexRun : Nat → List Char → List Nat × List Char
  | 0, cs => ([], cs)
  | _, [] => ([], [])
  | limit + 1, c :: cs =>
    match hexValue? c with
    | some d => let (ds, rest) := hexRun limit cs; (d :: ds, rest)
    | none => ([], c :: cs)

def quadNumber? (cs : List Char) : Option Nat :=
  if cs = [] ∨ ¬ cs.all Char.isDigit ∨ (cs.length > 1 ∧ cs.head? = some '0') then none
  else
    let n := ofDigits 10 (cs.map (fun c => c.toNat - 48))
    if n ≤ 255 then some n else none

def quad? (cs : List Char) : Option (List (Option Nat)) := do
  match splitAtEach (· == '.') cs with
  | [a, b, c, d] =>
    let a ← quadNumber? a
    let b ← quadNumber? b
    let c ← quadNumber? c
    let d ← quadNumber? d
    return [some (256 * a + b), some (256 * c + d)]
  | _ => none

/-- Reads at most `room` pieces, `none` for a `::`. In `cs` the first colon of a `::` has already
been read after a piece, and `seen` tells whether there was a `::` before. -/
def readPieces : (room : Nat) → (seen : Bool) → List Char → Option (List (Option Nat))
  | _, _, [] => some []
  | 0, _, _ :: _ => none
  | room + 1, seen, c :: cs =>
    if c = ':' then
      if seen then none else (readPieces room true cs).map (none :: ·)
    else
      let (ds, rest) := hexRun 4 (c :: cs)
      if ds = [] then none
      else match rest with
        | [] => some [some (ofDigits 16 ds)]
        | '.' :: _ => if room = 0 then none else quad? (c :: cs)
        | ':' :: [] => none
        | ':' :: rest => (readPieces room seen rest).map (some (ofDigits 16 ds) :: ·)
        | _ => none

def expand? (tokens : List (Option Nat)) : Option (List Nat) :=
  let before := (tokens.takeWhile Option.isSome).filterMap id
  match tokens.dropWhile Option.isSome with
  | [] => if before.length = 8 then some before else none
  | _ :: after =>
    let after := after.filterMap id
    some (before ++ List.replicate (8 - before.length - after.length) 0 ++ after)

def ofChars? (cs : List Char) : Option (List Nat) :=
  match cs with
  | ':' :: ':' :: rest => (readPieces 7 true rest).bind (fun ts => expand? (none :: ts))
  | ':' :: _ => none
  | cs => (readPieces 8 false cs).bind expand?

def zerosAt (pieces : List Nat) (i : Nat) : Nat :=
  ((pieces.drop i).takeWhile (· == 0)).length

/-- Where the first of the longest runs of zeros starts, and its length. -/
def longestZeros (pieces : List Nat) : Nat × Nat :=
  (List.range pieces.length).foldl
    (fun best i => if best.2 < zerosAt pieces i then (i, zerosAt pieces i) else best) (0, 0)

def pieceChars (n : Nat) : List Char :=
  Nat.toDigits 16 n

def toChars (pieces : List Nat) : List Char :=
  let (start, length) := longestZeros pieces
  let written (ps : List Nat) := joinWith [':'] (ps.map pieceChars)
  if length < 2 then written pieces
  else written (pieces.take start) ++ [':', ':'] ++ written (pieces.drop (start + length))

end StorageCalls.Url.Ipv6
