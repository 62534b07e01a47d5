import StorageCalls.Budget.Ceiling
import StorageCalls.Budget.Policy
import StorageCalls.Connection.Registry
import StorageCalls.Request.Context

namespace StorageCalls

structure Client extends Registry where
  flags : FeatureFlags
  policy : EnforcementPolicy
  /-- The session ids, in the order in which they are given out. -/
  sessionIds : Nat → String

structure Surroundings where
  now : Instant
  files : Files
  elapsed : Duration

structure CallState where
  store : Option RequestStore
  issued : Nat
  transport : Transport

/-- Works on the store of a tracked request, and does nothing for any other. -/
def onStore (x : Stage RequestStore Unit) : Stage CallState Unit := fun s =>
  match s.store with
  | none => ⟨s, [], .ok ()⟩
  | some store =>
    let o := x store
    ⟨{ s with store := some o.state }, o.events, o.result⟩

def onTransport {α : Type} (x : Stage Transport α) : Stage CallState α :=
  x.zoom (·.transport) (fun t s => { s with transport := t })

namespace Client

def isEnforcing (x : Client) : Bool := x.policy.isEnforcing x.config.environment

def enforce (x : Client) (ctx : RequestContext) (site : String) : Stage CallState Unit :=
  onStore (Budget.enforce x.isEnforcing ctx.signature site)

/-- The session id of the request, given out when it is first needed. A request that is not tracked
gets another one each time. -/
def sessionId (x : Client) : Stage CallState String := fun s =>
  let fresh := x.sessionIds s.issued
  match s.store with
  | none => ⟨{ s with issued := s.issued + 1 }, [], .ok fresh⟩
  | some store =>
    match store.sessionId with
    | some id => ⟨s, [], .ok id⟩
    | none =>
      ⟨{ s with store := some { store with sessionId := some fresh }, issued := s.issued + 1 }, [],
        .ok fresh⟩

end Client

end StorageCalls
