import StorageCalls.Call.Status
import StorageCalls.Connection.Target

namespace StorageCalls

structure Invocation where
  storage : String
  service : String
  rpc : String
  request : Bytes
  options : CallOptions

structure Network where
  builds : List ChannelTarget
  invocations : List Invocation
  responses : Table (Except Status Bytes)
  health : Except Status HealthStatus
  /-- Why a channel to a target cannot be built. -/
  refusal : ChannelTarget → Option String

namespace Network

def empty : Network := ⟨[], [], .empty, .ok .serving, fun _ => none⟩

instance : Inhabited Network := ⟨empty⟩

def build (n : Network) (t : ChannelTarget) : Network := { n with builds := n.builds ++ [t] }

def record (n : Network) (i : Invocation) : Network :=
  { n with invocations := n.invocations ++ [i] }

def script (n : Network) (rpc : String) (answer : Except Status Bytes) : Network :=
  { n with responses := n.responses.insert rpc answer }

def setHealth (n : Network) (health : Except Status HealthStatus) : Network :=
  { n with health }

def refuse (n : Network) (reason : Option String) : Network := { n with refusal := fun _ => reason }

/-- A call that is not scripted is answered with its request. -/
def answer (n : Network) (rpc : String) (request : Bytes) : Except Status Bytes :=
  (n.responses.get? rpc).getD (.ok request)

end Network

end StorageCalls
