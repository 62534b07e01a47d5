import StorageCalls.Proofs.RefNames

namespace StorageCalls

/-- A branch, known by its context, enters a scope or leaves the innermost of its own. -/
inductive ScopeTurn where
  | enter (context : Nat) (allowed : Bool)
  | leave (context : Nat)

structure Entrance where
  context : Nat
  before : World
  guard : Guard

/-- Branches with the scopes that they are in, the newest first. -/
structure Overlap where
  world : World
  entrances : List Entrance
  lastLeft : Option Entrance

namespace Overlap

def start (w : World) : Overlap := ⟨w, [], none⟩

def enter (s : Overlap) (i : Nat) (allowed : Bool) (ctx : RequestContext) : Overlap :=
  let r := s.world.enterScope ctx (.refNameCaching allowed)
  { s with world := r.1, entrances := (r.2.map (⟨i, s.world, ·⟩)).toList ++ s.entrances }

def leave (s : Overlap) (e : Entrance) : Overlap where
  world := s.world.release e.guard
  entrances := s.entrances.eraseP (·.context == e.context)
  lastLeft := some e

def take (s : Overlap) : ScopeTurn → Overlap
  | .enter i allowed => ((s.world.contexts[i]?).map (s.enter i allowed)).getD s
  | .leave i => ((s.entrances.find? (·.context == i)).map s.leave).getD s

def run (s : Overlap) (turns : List ScopeTurn) : Overlap := turns.foldl take s

/-- The world before the scope that was left last had been entered. -/
def origin (w : World) (s : Overlap) : World := (s.lastLeft.map (·.before)).getD w

variable {w : World} {s : Overlap} {ctx c : RequestContext} {e : Entrance} {k : Nat}

theorem allowsRefNames_modify {w : World} (hk : k < w.stores.length) (hctx : ctx.store = some k)
    (allowed : Bool) :
    (w.modifyStore k (·.setRefNameCaching allowed)).allowsRefNames ctx = allowed := by
  simp [World.allowsRefNames, World.store?, World.modifyStore, hctx, hk,
    RequestStore.setRefNameCaching]

/-- What is true whenever a turn was taken, of branches that all work on one store. -/
structure Inv (w : World) (ctx : RequestContext) (k : Nat) (s : Overlap) : Prop where
  contexts : s.world.contexts = w.contexts
  store : k < s.world.stores.length
  saved : ∀ e ∈ s.entrances, e.guard = .refNameCaching k (e.before.allowsRefNames ctx)
  idle : s.entrances = [] → s.world.allowsRefNames ctx = (s.origin w).allowsRefNames ctx

theorem inv_start (hk : k < w.stores.length) : (start w).Inv w ctx k where
  contexts := rfl
  store := hk
  saved _ h := (List.not_mem_nil h).elim
  idle _ := rfl

theorem Inv.enter (h : s.Inv w ctx k) (hctx : ctx.store = some k) (hc : c.store = some k) (i : Nat)
    (allowed : Bool) : (s.enter i allowed c).Inv w ctx k := by
  obtain ⟨store, hget⟩ : ∃ store, s.world.stores[k]? = some store :=
    ⟨_, List.getElem?_eq_getElem h.store⟩
  have hallows : s.world.allowsRefNames ctx = store.refNameCaching := by
    simp [World.allowsRefNames, World.store?, hctx, hget]
  have henter : s.enter i allowed c =
      { s with
        world := s.world.modifyStore k (·.setRefNameCaching allowed)
        entrances := ⟨i, s.world, .refNameCaching k (s.world.allowsRefNames ctx)⟩ ::
          s.entrances } := by
    simp [Overlap.enter, World.enterScope, World.store?, hc, hget, hallows]
  rw [henter]
  refine ⟨h.contexts, ?_, fun e he => ?_, fun hnil => ?_⟩
  · exact (List.length_modify ..).symm ▸ h.store
  · obtain rfl | he := List.mem_cons.1 he
    · rfl
    · exact h.saved e he
  · cases hnil

theorem Inv.leave (h : s.Inv w ctx k) (hctx : ctx.store = some k) (he : e ∈ s.entrances) :
    (s.leave e).Inv w ctx k := by
  have hguard := h.saved e he
  have hworld : (s.leave e).world =
      s.world.modifyStore k (·.setRefNameCaching (e.before.allowsRefNames ctx)) := by
    rw [Overlap.leave, hguard]
    rfl
  refine ⟨?_, ?_, fun e' he' => h.saved e' (List.mem_of_mem_eraseP he'), fun _ => ?_⟩
  · rw [hworld]
    exact h.contexts
  · rw [hworld]
    exact (List.length_modify ..).symm ▸ h.store
  · rw [hworld, allowsRefNames_modify h.store hctx]
    rfl

theorem Inv.take (h : s.Inv w ctx k) (hctx : ctx.store = some k) (t : ScopeTurn)
    (ht : ∀ i allowed, t = .enter i allowed → ∀ c, w.contexts[i]? = some c → c.store = some k) :
    (s.take t).Inv w ctx k := by
  cases t with
  | enter i allowed =>
    rw [Overlap.take, h.contexts]
    cases hc : w.contexts[i]? with
    | none => exact h
    | some c => exact h.enter hctx (ht i allowed rfl c hc) i allowed
  | leave i =>
    rw [Overlap.take]
    cases he : s.entrances.find? (·.context == i) with
    | none => exact h
    | some e => exact h.leave hctx (List.mem_of_find?_eq_some he)

theorem Inv.run (h : s.Inv w ctx k) (hctx : ctx.store = some k) (turns : List ScopeTurn)
    (ht : ∀ i allowed, .enter i allowed ∈ turns → ∀ c, w.contexts[i]? = some c →
      c.store = some k) : (s.run turns).Inv w ctx k := by
  induction turns generalizing s with
  | nil => exact h
  | cons t turns ih =>
    apply ih (h.take hctx t ?_)
    · exact fun i allowed hmem => ht i allowed (.tail _ hmem)
    · rintro i allowed rfl
      exact ht i allowed (.head _)

/-- Once every scope has been left, the setting is back where it was just if the scope that was left
last had found it so. -/
theorem restored_iff (w : World) (ctx : RequestContext) (turns : List ScopeTurn)
    (hctx : ctx.store = some k) (hk : k < w.stores.length)
    (hone : ∀ i allowed, .enter i allowed ∈ turns → ∀ c, w.contexts[i]? = some c →
      c.store = some k)
    (hleft : ((start w).run turns).entrances = []) :
    ((start w).run turns).world.allowsRefNames ctx = w.allowsRefNames ctx ↔
      ∀ e, ((start w).run turns).lastLeft = some e →
        e.before.allowsRefNames ctx = w.allowsRefNames ctx := by
  rw [((inv_start hk).run hctx turns hone).idle hleft, origin]
  cases ((start w).run turns).lastLeft with
  | none => simp
  | some e => simp

def twoBranches : World :=
  ((Process.start .epoch).run [.startRequest .background true .nobody none, .fork 0, .fork 0]).world

/-- The branch that was the last to enter a scope is the first to leave it. -/
theorem restored_iff_of_nested :
    let turns : List ScopeTurn := [.enter 1 true, .enter 2 false, .leave 2, .leave 1]
    let ctx : RequestContext := ⟨.background, some 0, .nobody, none, .empty⟩
    let s := (start twoBranches).run turns
    (ctx.store = some 0 ∧ 0 < twoBranches.stores.length ∧
      (∀ i allowed, .enter i allowed ∈ turns → ∀ c, twoBranches.contexts[i]? = some c →
        c.store = some 0) ∧
      s.entrances = []) ∧
    (s.world.allowsRefNames ctx = twoBranches.allowsRefNames ctx ↔
      ∀ e, s.lastLeft = some e →
        e.before.allowsRefNames ctx = twoBranches.allowsRefNames ctx) ∧
    s.world.allowsRefNames ctx = false := by
  intro turns ctx s
  have hk : 0 < twoBranches.stores.length := by decide
  have hall : ∀ c ∈ twoBranches.contexts, c.store = some 0 := by decide
  have hone : ∀ i allowed, .enter i allowed ∈ turns → ∀ c, twoBranches.contexts[i]? = some c →
      c.store = some 0 := fun _ _ _ c hc => hall c (List.mem_of_getElem? hc)
  exact ⟨⟨rfl, hk, hone, rfl⟩, restored_iff twoBranches ctx turns rfl hk hone rfl, by decide⟩

/-- Two branches may use reference names, and the one that began first is done first. It saved the
setting of the request and the other one that of the first. -/
theorem leaks_from_overlap :
    let turns : List ScopeTurn := [.enter 1 true, .enter 2 true, .leave 1, .leave 2]
    ((start twoBranches).run turns).entrances = [] ∧ ∀ ctx ∈ twoBranches.contexts,
      twoBranches.allowsRefNames ctx = false ∧
        ((start twoBranches).run turns).world.allowsRefNames ctx = true :=
  ⟨rfl, by decide⟩

end Overlap

end StorageCalls
