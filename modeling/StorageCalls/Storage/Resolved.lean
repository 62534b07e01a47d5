import StorageCalls.Call.Error
import StorageCalls.Config.Basic

namespace StorageCalls

structure ResolvedStorage where
  name : String
  address : StorageAddress
  token : String
  deriving DecidableEq

namespace ClientConfig

def nonempty? (token : Option String) : Option String :=
  token.filter (fun t => !t.isEmpty)

/-- The storage's own token, else that of the client. An empty token is none. -/
def effectiveToken? (c : ClientConfig) (s : StorageConfig) : Option String :=
  nonempty? s.token <|> nonempty? c.token

def find (c : ClientConfig) (storage : String) : Except ConfigurationFault StorageConfig :=
  match c.storage? storage with
  | some s => .ok s
  | none => .error (.unknownStorage storage)

def tokenOf (c : ClientConfig) (storage : String) : Except ConfigurationFault String := do
  let s ← c.find storage
  match c.effectiveToken? s with
  | some token => .ok token
  | none => .error (.missingToken storage)

/-- The address is looked at before the token. -/
def resolve (c : ClientConfig) (storage : String) : Except ConfigurationFault ResolvedStorage := do
  let s ← c.find storage
  match StorageAddress.parse s.address with
  | .error _ => .error (.badStorageAddress s.address storage)
  | .ok address => return ⟨storage, address, ← c.tokenOf storage⟩

end ClientConfig

end StorageCalls
