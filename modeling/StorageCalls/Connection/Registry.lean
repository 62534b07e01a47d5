import StorageCalls.Connection.Interceptor
import StorageCalls.Connection.Network
import StorageCalls.Stage
import StorageCalls.Storage.Resolved

namespace StorageCalls

/-- A channel with the interceptors that its calls pass through. Its serial number is the number of
channels built before it. -/
structure Connection where
  serial : Nat
  target : ChannelTarget
  interceptors : List Interceptor

structure Transport where
  connections : List Connection
  network : Network

instance : Inhabited Transport := ⟨⟨[], .empty⟩⟩

namespace Connection

def isFor (service storage : String) (c : Connection) : Bool :=
  c.target.service == service && c.target.storage == storage

def invoke (c : Connection) (rpc : String) (request : Bytes) (options : CallOptions) :
    Stage Transport (Except Status Bytes) := fun t =>
  match Interceptor.runAll c.target.service rpc c.interceptors options with
  | (events, .error status) => ⟨t, events, .ok (.error status)⟩
  | (events, .ok options) =>
    let sent : Invocation := ⟨c.target.storage, c.target.service, rpc, request, options⟩
    ⟨{ t with network := t.network.record sent }, events, .ok (t.network.answer rpc request)⟩

def healthService : String := "health"
def healthRpc : String := "check"

/-- Asks the channel for its health, through the interceptors. On the channel this is a call of the
health service, whatever service the connection is for. -/
def checkHealth (c : Connection) (options : CallOptions) :
    Stage Transport (Except Status HealthStatus) := fun t =>
  match Interceptor.runAll c.target.service healthRpc c.interceptors options with
  | (events, .error status) => ⟨t, events, .ok (.error status)⟩
  | (events, .ok options) =>
    let sent : Invocation := ⟨c.target.storage, healthService, healthRpc, [], options⟩
    ⟨{ t with network := t.network.record sent }, events, .ok t.network.health⟩

end Connection

structure Registry where
  config : ClientConfig
  interceptors : List Interceptor

namespace Registry

def find? (connections : List Connection) (service storage : String) : Option Connection :=
  connections.find? (Connection.isFor service storage)

def target (r : Registry) (files : Files) (service storage : String) :
    Except ConfigurationFault ChannelTarget := do
  let resolved ← r.config.resolve storage
  let credentials ← Credentials.forScheme files r.config.caBundle resolved.address.scheme
  return ⟨service, storage, resolved.address.target, credentials, default⟩

/-- Makes a connection and keeps it. A refused build leaves no trace. -/
def connect (r : Registry) (t : ChannelTarget) : Stage Transport Connection := fun s =>
  match s.network.refusal t with
  | some reason => ⟨s, [], .error (.configuration (.stated reason))⟩
  | none =>
    let c : Connection := ⟨s.network.builds.length, t, r.interceptors⟩
    ⟨⟨s.connections ++ [c], s.network.build t⟩, [.connectionCreated t], .ok c⟩

def connectionFor (r : Registry) (files : Files) (service storage : String) :
    Stage Transport Connection := fun s =>
  match find? s.connections service storage with
  | some c => ⟨s, [], .ok c⟩
  | none =>
    match r.target files service storage with
    | .error fault => ⟨s, [], .error (.configuration fault)⟩
    | .ok t => r.connect t s

def clear : Stage Transport Unit := fun s =>
  ⟨{ s with connections := [] }, [.registryCleared s.connections.length], .ok ()⟩

end Registry

end StorageCalls
