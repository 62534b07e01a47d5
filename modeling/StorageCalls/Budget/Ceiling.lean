import StorageCalls.Request.Store
import StorageCalls.Stage

namespace StorageCalls.Budget

def ceiling : Nat := 30

/-- The stacks seen most often are those of the whole request. -/
def overrunOf (s : RequestStore) (site : String) : Overrun :=
  ⟨site, s.actualCount site, s.worstStacks.1, s.worstStacks.2⟩

/-- Accounts for one call of `site`, made from the stack with the given signature. -/
def enforce (enforcing : Bool) (signature site : String) : Stage RequestStore Unit := fun s =>
  let counted := s.countActual site
  if !enforcing then
    let events :=
      if counted.actualCount site = ceiling + 1 then
        [.unenforcedOverrun site (counted.actualCount site) ceiling]
      else []
    ⟨counted, events, .ok ()⟩
  else if 0 < counted.exemptions then ⟨counted, [], .ok ()⟩
  else
    let charged := (counted.countEnforced site).recordStack signature
    if charged.enforcedCount site ≤ ceiling then ⟨charged, [], .ok ()⟩
    else
      let overrun := overrunOf charged site
      ⟨charged, [.overrun overrun (charged.enforcedCount site) charged.enforcedTotal],
        .error (.tooManyInvocations overrun)⟩

def resetCounts : Stage RequestStore Unit := fun s =>
  ⟨s.resetTotals, [.countersReset s.actualTotal s.enforcedTotal], .ok ()⟩

end StorageCalls.Budget
