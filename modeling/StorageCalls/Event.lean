import StorageCalls.Call.Error
import StorageCalls.Connection.Target

namespace StorageCalls

inductive Level where
  | debug
  | info
  | warn
  deriving DecidableEq, Repr

namespace Level

def name : Level → String
  | debug => "DEBUG"
  | info => "INFO"
  | warn => "WARN"

def rank : Level → Nat
  | debug => 0
  | info => 1
  | warn => 2

end Level

inductive FieldValue where
  | text (s : String)
  | number (n : Nat)
  | flag (b : Bool)
  deriving DecidableEq, Repr

inductive Event where
  | unenforcedOverrun (callSite : String) (invocationCount limit : Nat)
  | overrun (overrun : Overrun) (enforcedCount requestEnforced : Nat)
  | countersReset (actual enforced : Nat)
  | connectionCreated (target : ChannelTarget)
  | registryCleared (count : Nat)
  | outboundCall (service rpc correlationId : String) (hasDeadline : Bool)
  | callCompleted (storage service rpc : String)
  | callFailed (storage service rpc : String) (code : StatusCode)
  | healthChecked (storage : String) (health : HealthStatus)
  deriving DecidableEq

namespace Event

def level : Event → Level
  | unenforcedOverrun .. | overrun .. | callFailed .. => .warn
  | connectionCreated _ | registryCleared _ => .info
  | countersReset .. | outboundCall .. | callCompleted .. | healthChecked .. => .debug

def message : Event → String
  | unenforcedOverrun .. => "Call site exceeded request budget (not enforced)"
  | overrun .. => "Call site exceeded request budget"
  | countersReset .. => "Resetting request call counters"
  | connectionCreated _ => "Created storage connection"
  | registryCleared _ => "Cleared storage connection registry"
  | outboundCall .. => "Outbound storage call"
  | callCompleted .. => "Storage call completed"
  | callFailed .. => "Storage call failed"
  | healthChecked .. => "Storage health check"

def fields : Event → List (String × FieldValue)
  | unenforcedOverrun site count limit =>
    [("call_site", .text site), ("invocation_count", .number count), ("limit", .number limit)]
  | overrun o enforced requestEnforced =>
    [("call_site", .text o.callSite), ("invocation_count", .number o.invocationCount),
      ("enforced_count", .number enforced), ("request_enforced", .number requestEnforced),
      ("max_call_count", .number o.maxCallCount)]
  | countersReset actual enforced =>
    [("previous", .number actual), ("previous_enforced", .number enforced)]
  | connectionCreated t =>
    [("service", .text t.service), ("storage", .text t.storage), ("endpoint", .text t.endpoint),
      ("tls", .flag t.credentials.isTls)]
  | registryCleared count => [("cleared", .number count)]
  | outboundCall service rpc correlationId hasDeadline =>
    [("service", .text service), ("rpc", .text rpc), ("correlation_id", .text correlationId),
      ("has_deadline", .flag hasDeadline)]
  | callCompleted storage service rpc =>
    [("storage", .text storage), ("service", .text service), ("rpc", .text rpc)]
  | callFailed storage service rpc code =>
    [("storage", .text storage), ("service", .text service), ("rpc", .text rpc),
      ("code", .text code.name)]
  | healthChecked storage health =>
    [("storage", .text storage), ("status", .text health.title)]

def atLeast (level : Level) (events : List Event) : List Event :=
  events.filter fun e => level.rank ≤ e.level.rank

end Event

end StorageCalls
