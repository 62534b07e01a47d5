import StorageCalls.Call.Error
import StorageCalls.Config.Basic
import StorageCalls.Toml.Document

namespace StorageCalls

open Toml (Value lookup)

namespace ClientConfig

def text? : Value → Option String
  | .text s => some s
  | _ => none

def boolean? : Value → Option Bool
  | .boolean b => some b
  | _ => none

def seconds? : Value → Option Duration
  | .integer (.ofNat n) => Duration.ofParts? n 0
  | _ => none

def environment? : Value → Option Environment
  | .text s => Environment.ofName? s
  | .table [(name, .table [])] | .table [(name, .array [])] => Environment.ofName? name
  | _ => none

def fields? (keys : List String) : Value → Option (String → Option Value)
  | .table entries => some (lookup entries)
  | .array items => some (lookup (keys.zip items))
  | .datetime => some (fun _ => none)
  | _ => none

def storageOf? (key : String) (v : Value) : Option StorageConfig := do
  let field ← fields? ["name", "address", "token"] v
  let _ ← (field "name").mapM text?
  let address ← (field "address").mapM text?
  let token ← (field "token").mapM text?
  return ⟨key, address.getD "", token⟩

def storagesOf? : Value → Option (Table StorageConfig)
  | .table entries => do
    let storages ← entries.mapM fun e => do return (e.1, ← storageOf? e.1 e.2)
    return .ofList storages
  | _ => none

def timeoutsOf? (v : Value) : Option Timeouts := do
  let field ← fields? ["default", "medium", "fast"] v
  let d : Timeouts := default
  let standard ← (field "default").mapM seconds?
  let medium ← (field "medium").mapM seconds?
  let fast ← (field "fast").mapM seconds?
  return ⟨standard.getD d.standard, medium.getD d.medium, fast.getD d.fast⟩

def ofEntries? (entries : List (String × Value)) : Option ClientConfig := do
  let field := lookup entries
  let d : ClientConfig := default
  let storages ← (field "storages").mapM storagesOf?
  let token ← (field "token").mapM text?
  let clientName ← (field "client_name").mapM text?
  let environment ← (field "environment").mapM environment?
  let limitsDisabled ← (field "disable_request_limits").mapM boolean?
  let caBundle ← (field "ca_bundle").mapM text?
  let timeouts ← (field "timeouts").mapM timeoutsOf?
  return {
    storages := storages.getD d.storages
    token
    clientName := clientName.getD d.clientName
    environment := environment.getD d.environment
    limitsDisabled := limitsDisabled.getD d.limitsDisabled
    caBundle
    timeouts := timeouts.getD d.timeouts }

def parse (document : String) : Except CallError ClientConfig :=
  match Toml.parse document >>= ofEntries? with
  | some c => .ok c
  | none => .error (.configuration .malformedDocument)

def load (files : Files) (path : String) : Except CallError ClientConfig :=
  match Files.readText files path with
  | .ok document => parse document
  | .error fault => .error (.configuration (.unreadableDocument path fault))

def sample : ClientConfig :=
  let c : ClientConfig := { (default : ClientConfig) with
    token := some "fallback-secret", environment := .test }
  (c.addStorage ⟨"default", "tcp://gitaly-1.internal:8075", none⟩).addStorage
    ⟨"replica", "unix:/var/run/gitaly/gitaly.socket", some "replica-secret"⟩

end ClientConfig

end StorageCalls
