import StorageCalls.Proofs.ProcessSound

namespace StorageCalls.Process

open Scenario (Answer)

variable {α : Type} {p : Process} {k i : Nat} {ctx : RequestContext}
  {x : RequestContext → Stage CallState α} {f : α → Answer}

/-- What calls read and change in the contexts that work on the store of a number. -/
def stateOn (p : Process) (k : Nat) : CallState :=
  ⟨some (p.storeAt k), p.world.issued, p.world.transport⟩

theorem Sound.callState_eq (hs : p.Sound) (hctx : p.contextOn k i = some ctx) :
    p.world.callState ctx = p.stateOn k := by
  obtain ⟨hc, hk⟩ := contextOn_eq_some.1 hctx
  rw [World.callState, hs.store? hc hk]
  rfl

theorem Sound.lt_of_contextOn (hs : p.Sound) (hctx : p.contextOn k i = some ctx) :
    k < p.world.stores.length := by
  obtain ⟨hc, hk⟩ := contextOn_eq_some.1 hctx
  exact hs.contexts ctx (List.mem_of_getElem? hc) k hk

theorem within_eq (hctx : p.contextOn k i = some ctx) :
    p.within i x f = p.onWorld (World.within ctx (x ctx)) f := by
  rw [within, withContext, (contextOn_eq_some.1 hctx).1]

theorem answer_within (hs : p.Sound) (hctx : p.contextOn k i = some ctx) :
    (p.within i x f).2 = .ofResult f ((x ctx).run (p.stateOn k)).result := by
  rw [within_eq hctx, ← hs.callState_eq hctx]
  rfl

theorem stateOn_within (hs : p.Sound) (hctx : p.contextOn k i = some ctx)
    (hstore : ((x ctx).run (p.stateOn k)).state.store.isSome) :
    (p.within i x f).1.stateOn k = ((x ctx).run (p.stateOn k)).state := by
  obtain ⟨store, hrun⟩ := Option.isSome_iff_exists.1 hstore
  have hk := (contextOn_eq_some.1 hctx).2
  have hlt := hs.lt_of_contextOn hctx
  rw [← hs.callState_eq hctx] at hrun
  have hstores := stores_within (p := p) (x ctx) f hk hrun
  rw [← hs.callState_eq hctx]
  rw [within_eq hctx, stateOn, storeAt, hstores, List.getElem?_set_self hlt, Option.getD_some,
    ← hrun]
  rfl

theorem storeAt_within_of_ne (hctx : p.contextOn k i = some ctx) {l : Nat} (hne : k ≠ l) :
    (p.within i x f).1.storeAt l = p.storeAt l := by
  have hk := (contextOn_eq_some.1 hctx).2
  rw [within_eq hctx]
  cases hrun : ((x ctx).run (p.world.callState ctx)).state.store with
  | some store => rw [storeAt, stores_within (x ctx) f hk hrun, List.getElem?_set_ne hne, storeAt]
  | none =>
    apply storeAt_eq
    change (p.world.absorb ctx ((x ctx).run (p.world.callState ctx)).state).stores = _
    simp only [World.absorb, hk, hrun]

end StorageCalls.Process
