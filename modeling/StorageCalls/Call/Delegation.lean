import StorageCalls.Base64
import StorageCalls.Json.Value
import StorageCalls.Storage.Resolved

namespace StorageCalls

structure ServerInfo where
  address : String
  token : String
  deriving DecidableEq

namespace Delegation

open Json

inductive Fault where
  | base64 (fault : Base64.Fault)
  | json (fault : Json.Fault)
  deriving DecidableEq

def document (s : ResolvedStorage) : List Char :=
  '\x7b' :: Json.quoted s.name ++ ':' :: '\x7b' :: Json.quoted "address" ++
    ':' :: Json.quoted s.address.raw ++ ',' :: Json.quoted "token" ++
    ':' :: Json.quoted s.token ++ ['\x7d', '\x7d']

def encode (s : ResolvedStorage) : String :=
  Base64.encode ((document s).flatMap String.utf8EncodeChar)

/-- The fields of a server, in any order. Fields of other names are passed over. -/
def serverFields : Nat → (first : Bool) → (address token : Option String) → Reader ServerInfo
  | 0, _, _, _, _ => .error .truncated
  | fuel + 1, first, address, token, s => do
    match ← nextKey first s with
    | .close s =>
      match address, token with
      | some address, some token => return (⟨address, token⟩, s)
      | _, _ => throw .unfit
    | .item s =>
      let (name, s) ← text s
      if name = "address" then
        if address.isSome then throw .unfit
        let (value, s) ← textValue (← expect ':' (dropBlanks s))
        serverFields fuel false (some value) token s
      else if name = "token" then
        if token.isSome then throw .unfit
        let (value, s) ← textValue (← expect ':' (dropBlanks s))
        serverFields fuel false address (some value) s
      else
        serverFields fuel false address token (← skip (← expect ':' (dropBlanks s)))

def serverElements : Reader ServerInfo := fun s => do
  match ← nextElement true s with
  | .close _ => throw .unfit
  | .item s =>
    let (address, s) ← textValue s
    match ← nextElement false s with
    | .close _ => throw .unfit
    | .item s =>
      let (token, s) ← textValue s
      return (⟨address, token⟩, ← expect ']' (dropBlanks s))

def server : Reader ServerInfo := fun s =>
  match dropBlanks s with
  | [] => .error .truncated
  | b :: s =>
    if b = byte '\x7b' then serverFields (s.length + 1) true none none s
    else if b = byte '[' then serverElements s
    else .error (mismatch (b :: s))

/-- The servers by name. A later one replaces an earlier one of the same name. -/
def servers : Nat → (first : Bool) → Table ServerInfo → Reader (Table ServerInfo)
  | 0, _, _, _ => .error .truncated
  | fuel + 1, first, acc, s => do
    match ← nextKey first s with
    | .close s => return (acc, s)
    | .item s =>
      let (name, s) ← text s
      let (info, s) ← server (← expect ':' (dropBlanks s))
      servers fuel false (acc.insert name info) s

def readServers (s : List UInt8) : Except Json.Fault (Table ServerInfo) :=
  match dropBlanks s with
  | [] => .error .truncated
  | b :: s =>
    if b = byte '\x7b' then do
      let (table, s) ← servers (s.length + 1) true .empty s
      if (dropBlanks s).isEmpty then return table else throw .malformed
    else .error (mismatch (b :: s))

def decode (value : String) : Except Fault (Table ServerInfo) :=
  match Base64.decode value with
  | .error fault => .error (.base64 fault)
  | .ok bytes => (readServers bytes).mapError .json

end Delegation

end StorageCalls
