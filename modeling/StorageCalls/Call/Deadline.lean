import StorageCalls.Request.Context

namespace StorageCalls

inductive DeadlineKind where
  | regular
  | limited
  deriving DecidableEq, Repr

def DeadlineKind.name : DeadlineKind → String
  | .regular => "regular"
  | .limited => "limited"

/-- Without an expiry a call is unbounded; background work has no classification. -/
structure Deadline where
  expiresAt : Option Instant
  kind : Option DeadlineKind
  deriving DecidableEq

namespace Deadline

def unbounded : Deadline := ⟨none, none⟩

def isLimited (d : Deadline) : Bool := d.kind == some .limited

/-- A zero timeout stands for none, and so does one that ends beyond the range of instants, except
that the deadline of an interactive request still holds. -/
def compute (now : Instant) (kind : RequestKind) (timeout : Duration) : Deadline :=
  if timeout.isZero then unbounded
  else
    let regular := now.add? timeout
    match kind with
    | .background => ⟨regular, none⟩
    | .web (some limit) =>
      match regular with
      | none => ⟨some limit, some .limited⟩
      | some regular =>
        if limit < regular then ⟨some limit, some .limited⟩ else ⟨some regular, some .regular⟩
    | .web none =>
      match regular with
      | none => unbounded
      | some regular => ⟨some regular, some .regular⟩

def hasPassed (now : Instant) (kind : RequestKind) : Bool :=
  match kind.deadline with
  | none => false
  | some limit => limit ≤ now

end Deadline

end StorageCalls
