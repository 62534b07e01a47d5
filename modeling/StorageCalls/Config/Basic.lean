import StorageCalls.Budget.Policy
import StorageCalls.Request.Context
import StorageCalls.Table
import StorageCalls.Text.Split

namespace StorageCalls

/-- One storage node. Without a token of its own it uses the token of the client. -/
structure StorageConfig where
  name : String
  address : String
  token : Option String
  deriving DecidableEq

instance : Inhabited StorageConfig := ⟨"", "", none⟩

structure Timeouts where
  standard : Duration
  medium : Duration
  fast : Duration
  deriving DecidableEq

instance : Inhabited Timeouts := ⟨.ofSeconds 55, .ofSeconds 30, .ofSeconds 10⟩

structure ClientConfig where
  storages : Table StorageConfig
  token : Option String
  clientName : String
  environment : Environment
  limitsDisabled : Bool
  caBundle : Option String
  timeouts : Timeouts

instance : Inhabited ClientConfig :=
  ⟨.empty, none, "depot-client", .development, false, none, default⟩

namespace ClientConfig

def addStorage (c : ClientConfig) (s : StorageConfig) : ClientConfig :=
  { c with storages := c.storages.insert s.name s }

def storage? (c : ClientConfig) (name : String) : Option StorageConfig :=
  c.storages.get? name

def longTimeout (c : ClientConfig) : RequestKind → Duration
  | .background => .ofSeconds 21600
  | .web _ => c.timeouts.standard

def limitsVariable : String := "GITALY_DISABLE_REQUEST_LIMITS"

def isTruthy (value : String) : Bool :=
  ["1", "true", "yes", "on"].contains
    (String.ofList ((Text.trimChars value.toList).map Char.toLower))

/-- Overrides by variables. They can turn the ceiling off, and nothing turns it on again. -/
def override (lookup : String → Option String) (c : ClientConfig) : ClientConfig :=
  if (lookup limitsVariable).any isTruthy then { c with limitsDisabled := true } else c

end ClientConfig

end StorageCalls
