import StorageCalls.Text.Bytes
import StorageCalls.Text.Composition
import StorageCalls.Text.Direction
import StorageCalls.Text.Joining
import StorageCalls.Text.Split
import StorageCalls.Url.DomainTable
import StorageCalls.Url.Punycode

namespace StorageCalls.Url

open Text

def encodeChar (c : Char) : List Char :=
  if 0x20 ≤ c.toNat ∧ c.toNat < 0x7f then [c]
  else (String.utf8EncodeChar c).flatMap fun b => '%' :: (hexOfByte b).map Char.toUpper

def percentEncode (cs : List Char) : List Char :=
  cs.flatMap encodeChar

def percentDecode : List UInt8 → List UInt8
  | 37 :: hi :: lo :: rest =>
    match hexValue? (Char.ofNat hi.toNat), hexValue? (Char.ofNat lo.toNat) with
    | some h, some l => UInt8.ofNat (16 * h + l) :: percentDecode rest
    | _, _ => 37 :: percentDecode (hi :: lo :: rest)
  | b :: rest => b :: percentDecode rest
  | [] => []

namespace Domain

def isForbidden (c : Char) : Bool :=
  c.toNat ≤ 0x20 || c.toNat == 0x7f || "#/:<>?@[\\]^|%".toList.contains c

def shifted? (n : Nat) : Option Char :=
  (shiftedRuns.find? fun (first, last, step, _) =>
      first ≤ n && n ≤ last && (n - first) % step == 0).map
    fun (first, _, _, image) => Char.ofNat (image + (n - first))

def spellings : List (Nat × List (List Char)) :=
  letterRuns.map (fun (first, text) => (first, text.toList.map ([·]))) ++
    wordRuns.map (fun (first, text) => (first, splitAtEach (· == ' ') text.toList))

def spelling? (n : Nat) : Option (List Char) :=
  spellings.findSome? fun (first, texts) => if first ≤ n then texts[n - first]? else none

def mapChar? (c : Char) : Option (List Char) :=
  let n := c.toNat
  if n < 0x80 then some [c.toLower]
  else if inRanges refusedRanges n then none
  else if inRanges ignoredRanges n then some []
  else match shifted? n with
    | some image => some [image]
    | none => some ((spelling? n).getD [c])

def normalize? (cs : List Char) : Option (List Char) :=
  (cs.mapM mapChar?).map fun texts => compose texts.flatten

/-- The characters that a label stands for. A label in ASCII form has to stand for some outside
ASCII that are in normal form. -/
def unicodeLabel? (label : List Char) : Option (List Char) :=
  match label with
  | 'x' :: 'n' :: '-' :: '-' :: code =>
    if code.length > 2000 then none
    else match Punycode.decode? code with
      | none => none
      | some text =>
        if text.any (·.toNat ≥ 0x80) && normalize? text == some text then some text else none
  | label => some label

def joins (side : Joining) : List Char → Bool
  | [] => false
  | c :: cs =>
    match Joining.ofChar c with
    | .transparent => joins side cs
    | joining => joining = side || joining = .both

def isJoiner (c : Char) : Bool :=
  c.toNat == 0x200c || c.toNat == 0x200d

/-- A joiner follows a virama, or it is a non-joiner and parts two letters that would join.
`before` is what precedes it, the nearest first. -/
def joinerFits (before : List Char) (c : Char) (after : List Char) : Bool :=
  match before with
  | [] => false
  | b :: _ => isVirama b || c.toNat == 0x200c && joins .after before && joins .before after

def joinersFit (before : List Char) : List Char → Bool
  | [] => true
  | c :: cs => (!isJoiner c || joinerFits before c cs) && joinersFit (c :: before) cs

def isLabel (label : List Char) : Bool :=
  !label.head?.any isMark && joinersFit [] label &&
    (label.length ≤ 1000 || label.all (·.toNat < 0x80))

/-- Whether a label can be told apart in a domain that is written from the right in part: its
first and last characters have the same direction, with numbers of one kind at most. -/
def isDirected (label : List Direction) : Bool :=
  match label with
  | [] => true
  | first :: rest =>
    let last? := rest.reverse.find? (· ≠ .nonspacing)
    match first with
    | .left =>
      last?.all (fun d => d = .left || d = .europeanNumber) &&
        rest.all (fun d => d ≠ .right && d ≠ .arabicNumber)
    | .right =>
      last?.all (fun d => d = .right || d = .europeanNumber || d = .arabicNumber) &&
        !rest.contains .left &&
        !(rest.contains .europeanNumber && rest.contains .arabicNumber)
    | _ => false

def areDirected (labels : List (List Direction)) : Bool :=
  labels.flatten.all (fun d => d ≠ .right && d ≠ .arabicNumber) || labels.all isDirected

/-- The mapped domain, its labels outside ASCII left in Unicode; none when it is not valid. -/
def ofHost? (host : List Char) : Option (List Char) := do
  let bytes := percentDecode (host.flatMap String.utf8EncodeChar)
  let chars ← utf8Chars? bytes
  let domain ← normalize? chars
  let labels ← (splitAtEach (· == '.') domain).mapM unicodeLabel?
  if domain.any isForbidden then none
  else if labels.all isLabel && areDirected (labels.map (·.map Direction.ofChar)) then some domain
  else none

end Domain

end StorageCalls.Url
