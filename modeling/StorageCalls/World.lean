import StorageCalls.Call.Run
import StorageCalls.Time.Instant

namespace StorageCalls

structure World where
  now : Instant
  stores : List RequestStore
  contexts : List RequestContext
  issued : Nat
  transport : Transport

/-- What has to be undone later: a frame to leave, an exemption to end, or a setting to restore. -/
inductive Guard where
  | frame (context id : Nat)
  | exemption (store : Nat)
  | refNameCaching (store : Nat) (previous : Bool)
  deriving DecidableEq, Repr

/-- What holds within a scope: calls are exempt from the ceiling, or reference names may or may not
be used as keys of caches. -/
inductive Scope where
  | exemption
  | refNameCaching (allowed : Bool)
  deriving DecidableEq, Repr

namespace World

def start (now : Instant) : World := ⟨now, [], [], 0, default⟩

def store? (w : World) (ctx : RequestContext) : Option RequestStore :=
  ctx.store.bind (w.stores[·]?)

def modifyStore (w : World) (i : Nat) (f : RequestStore → RequestStore) : World :=
  { w with stores := w.stores.modify i f }

def modifyContext (w : World) (i : Nat) (f : RequestContext → RequestContext) : World :=
  { w with contexts := w.contexts.modify i f }

def startRequest (w : World) (kind : RequestKind) (tracked : Bool) (caller : Caller)
    (correlationId : Option String) : World :=
  let store := if tracked then some w.stores.length else none
  { w with
    stores := if tracked then w.stores ++ [.empty] else w.stores
    contexts := w.contexts ++ [⟨kind, store, caller, correlationId, .empty⟩] }

def fork (w : World) (ctx : RequestContext) : World :=
  { w with contexts := w.contexts ++ [ctx.child] }

def enterFrame (w : World) (i : Nat) (label : String) : World × Option Guard :=
  match w.contexts[i]? with
  | none => (w, none)
  | some ctx => (w.modifyContext i (·.enter label), some (.frame i ctx.frames.next))

/-- Enters a scope; nothing is to be undone on a context that is not tracked. -/
def enterScope (w : World) (ctx : RequestContext) (scope : Scope) : World × Option Guard :=
  match ctx.store, w.store? ctx with
  | some i, some store =>
    match scope with
    | .exemption => (w.modifyStore i (·.beginExemption), some (.exemption i))
    | .refNameCaching allowed =>
      (w.modifyStore i (·.setRefNameCaching allowed),
        some (.refNameCaching i store.refNameCaching))
  | _, _ => (w, none)

def release (w : World) : Guard → World
  | .frame i id => w.modifyContext i (·.leave id)
  | .exemption i => w.modifyStore i (·.endExemption)
  | .refNameCaching i previous => w.modifyStore i (·.setRefNameCaching previous)

def releaseSome (w : World) : Option Guard → World
  | some g => w.release g
  | none => w

def callState (w : World) (ctx : RequestContext) : CallState :=
  ⟨w.store? ctx, w.issued, w.transport⟩

def absorb (w : World) (ctx : RequestContext) (s : CallState) : World :=
  { w with
    stores := match ctx.store, s.store with
      | some i, some store => w.stores.set i store
      | _, _ => w.stores
    issued := s.issued
    transport := s.transport }

def within {α : Type} (ctx : RequestContext) (x : Stage CallState α) : Stage World α := fun w =>
  let o := x (w.callState ctx)
  ⟨w.absorb ctx o.state, o.events, o.result⟩

def transported {α : Type} (x : Stage Transport α) : Stage World α :=
  x.zoom (·.transport) (fun t w => { w with transport := t })

def moveClock (step : ClockStep) : Stage World Unit := fun w =>
  match step.next? w.now with
  | some now => ⟨{ w with now }, [], .ok ()⟩
  | none => ⟨w, [], .error .timeOverflow⟩

end World

end StorageCalls
