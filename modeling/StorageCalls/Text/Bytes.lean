namespace StorageCalls.Text

def utf8Bytes (s : String) : List UInt8 :=
  s.toList.flatMap String.utf8EncodeChar

/-- The characters whose encoding the bytes are; none when the bytes are not well formed. -/
def utf8Chars? (bytes : List UInt8) : Option (List Char) :=
  bytes.toByteArray.utf8Decode?.map Array.toList

theorem utf8Chars?_flatMap_encode (cs : List Char) :
    utf8Chars? (cs.flatMap String.utf8EncodeChar) = some cs := by
  have h : cs.utf8Encode.utf8Decode? = some cs.toArray := List.utf8Decode?_utf8Encode
  rw [List.utf8Encode] at h
  simp [utf8Chars?, h]

def hexDigit (n : Nat) : Char :=
  if n < 10 then Char.ofNat (48 + n) else Char.ofNat (87 + n)

def hexOfByte (b : UInt8) : List Char :=
  [hexDigit (b.toNat / 16), hexDigit (b.toNat % 16)]

def hexChars (bytes : List UInt8) : List Char :=
  bytes.flatMap hexOfByte

def hex (bytes : List UInt8) : String :=
  String.ofList (hexChars bytes)

def hexValue? (c : Char) : Option Nat :=
  if '0' ≤ c ∧ c ≤ '9' then some (c.toNat - 48)
  else if 'a' ≤ c ∧ c ≤ 'f' then some (c.toNat - 87)
  else if 'A' ≤ c ∧ c ≤ 'F' then some (c.toNat - 55)
  else none

def bytesOfHex? : List Char → Option (List UInt8)
  | [] => some []
  | [_] => none
  | hi :: lo :: rest => do
    let h ← hexValue? hi
    let l ← hexValue? lo
    let bs ← bytesOfHex? rest
    return UInt8.ofNat (16 * h + l) :: bs

end StorageCalls.Text
