import StorageCalls.Text.CombiningClass
import StorageCalls.Text.CompositionTable

namespace StorageCalls.Text

def syllable? (first second : Nat) : Option Nat :=
  if 0x1100 ≤ first ∧ first < 0x1113 ∧ 0x1161 ≤ second ∧ second < 0x1176 then
    some (0xac00 + ((first - 0x1100) * 21 + (second - 0x1161)) * 28)
  else if 0xac00 ≤ first ∧ first < 0xd7a4 ∧ (first - 0xac00) % 28 = 0 ∧
      0x11a8 ≤ second ∧ second < 0x11c3 then
    some (first + (second - 0x11a7))
  else none

def composite? (first second : Char) : Option Char :=
  let n := second.toNat
  if n < 0x300 then none
  else match syllable? first.toNat n with
    | some syllable => some (Char.ofNat syllable)
    | none => do
      let (_, firsts) ← compositions.find? fun (mark, _) => mark == n
      let (_, composite) ← firsts.find? fun (letter, _) => letter == first.toNat
      some (Char.ofNat composite)

def parts (c : Char) : List Char :=
  let n := c.toNat
  if n < 0xc0 then [c]
  else if 0xac00 ≤ n ∧ n < 0xd7a4 then
    let i := n - 0xac00
    if i % 28 = 0 then [Char.ofNat (0x1100 + i / 588), Char.ofNat (0x1161 + i % 588 / 28)]
    else [Char.ofNat (n - i % 28), Char.ofNat (0x11a7 + i % 28)]
  else
    let pair? := compositions.findSome? fun (mark, firsts) =>
      (firsts.find? fun (_, composite) => composite == n).map fun (letter, _) => (letter, mark)
    match pair? with
    | some (letter, mark) => [Char.ofNat letter, Char.ofNat mark]
    | none => [c]

/-- Nothing is composed of more than a letter and three marks. -/
def decompose (cs : List Char) : List Char :=
  Nat.repeat (fun cs => cs.flatMap parts) 3 cs

def insertMark (c : Char) : List Char → List Char
  | [] => [c]
  | d :: ds =>
    if combiningClass d ≠ 0 ∧ combiningClass d < combiningClass c then d :: insertMark c ds
    else c :: d :: ds

def orderMarks (cs : List Char) : List Char :=
  cs.foldr insertMark []

/-- Whether a character of the given class still reaches its letter past the marks after it, the
last one first. -/
def isReached (marks : List Char) (order : Nat) : Bool :=
  match marks with
  | [] => true
  | mark :: _ => combiningClass mark < order

/-- Composes what follows a letter with it. The marks that stay are kept last one first. -/
def composeAfter (letter : Char) (marks : List Char) : List Char → List Char
  | [] => letter :: marks.reverse
  | c :: cs =>
    let order := combiningClass c
    match if isReached marks order then composite? letter c else none with
    | some composite => composeAfter composite marks cs
    | none =>
      if order = 0 then letter :: marks.reverse ++ composeAfter c [] cs
      else composeAfter letter (c :: marks) cs

def composeOrdered : List Char → List Char
  | [] => []
  | c :: cs => if combiningClass c = 0 then composeAfter c [] cs else c :: composeOrdered cs

def compose (cs : List Char) : List Char :=
  composeOrdered (orderMarks (decompose cs))

end StorageCalls.Text
