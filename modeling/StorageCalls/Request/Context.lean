import StorageCalls.Request.Frames
import StorageCalls.Time.Instant

namespace StorageCalls

/-- An interactive request may have a deadline of its own, background work has none. -/
inductive RequestKind where
  | web (deadline : Option Instant)
  | background
  deriving DecidableEq

namespace RequestKind

def isBackground : RequestKind → Bool
  | .web _ => false
  | .background => true

def deadline : RequestKind → Option Instant
  | .web deadline => deadline
  | .background => none

end RequestKind

structure Caller where
  username : Option String
  userId : Option String
  remoteIp : Option String
  deriving DecidableEq, Repr

def Caller.nobody : Caller := ⟨none, none, none⟩

structure RequestContext where
  kind : RequestKind
  store : Option Nat
  caller : Caller
  correlationId : Option String
  frames : Frames
  deriving DecidableEq

namespace RequestContext

def isTracked (c : RequestContext) : Bool := c.store.isSome

/-- A context for one branch. It begins with the frames of the context that it comes from. -/
def child (c : RequestContext) : RequestContext := c

def enter (c : RequestContext) (label : String) : RequestContext :=
  { c with frames := c.frames.enter label }

def leave (c : RequestContext) (id : Nat) : RequestContext :=
  { c with frames := c.frames.leave id }

def callSite (c : RequestContext) : Option String := c.frames.callSite

def signature (c : RequestContext) : String := c.frames.signature

end RequestContext

end StorageCalls
