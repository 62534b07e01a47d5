import StorageCalls.Proofs.BudgetPart
import StorageCalls.Proofs.Process

namespace StorageCalls.Process

open Scenario (Answer)

variable {α : Type} {p : Process}

def contextOn (p : Process) (k i : Nat) : Option RequestContext :=
  (p.world.contexts[i]?).filter fun ctx => ctx.store = some k

def chargedBy (p : Process) (k : Nat) (x : Client) (i : Nat) (site : String) (s : RequestStore) :
    RequestStore :=
  match p.contextOn k i with
  | none => s
  | some ctx => Budget.charge x.isEnforcing ctx.signature site s

/-- The store after an operation, as far as the budget goes. -/
def effect (p : Process) (k : Nat) (s : RequestStore) : Operation → RequestStore
  | .enforce x i site => p.chargedBy k x i site s
  | .call x _ _ i c => p.chargedBy k x i c.rpc s
  | .checkHealth x _ _ i _ => p.chargedBy k x i Connection.healthRpc s
  | .resetCounts i => if (p.contextOn k i).isSome then s.resetTotals else s
  | .enterScope i .exemption => if (p.contextOn k i).isSome then s.beginExemption else s
  | .drop n => if p.guards[n]? = some (.exemption k) then s.endExemption else s
  | _ => s

theorem storeAt_eq {q : Process} (h : q.world.stores = p.world.stores) (k : Nat) :
    q.storeAt k = p.storeAt k := by
  rw [storeAt, storeAt, h]

theorem storeAt_of_lt {k : Nat} (h : k < p.world.stores.length) :
    p.world.stores[k]? = some (p.storeAt k) := by
  rw [storeAt, List.getElem?_eq_getElem h, Option.getD_some]

theorem storeAt_modify {q : Process} {f : RequestStore → RequestStore} {i : Nat}
    (h : q.world.stores = p.world.stores.modify i f) (hi : i < p.world.stores.length) (k : Nat) :
    q.storeAt k = if i = k then f (p.storeAt k) else p.storeAt k := by
  rw [storeAt, h, List.getElem?_modify]
  split
  · subst i
    rw [storeAt_of_lt hi]
    rfl
  · rw [id_map']
    rfl

theorem budgetPart_modify {q : Process} {f : RequestStore → RequestStore} {i : Nat}
    (h : q.world.stores = p.world.stores.modify i f) (hf : ∀ s, (f s).budgetPart = s.budgetPart)
    (k : Nat) : (q.storeAt k).budgetPart = (p.storeAt k).budgetPart := by
  rw [storeAt, h, List.getElem?_modify, storeAt]
  split
  · cases p.world.stores[k]? with
    | none => rfl
    | some s => exact hf s
  · rw [id_map']

theorem Sound.store? (hs : p.Sound) {i j : Nat} {ctx : RequestContext}
    (hc : p.world.contexts[i]? = some ctx) (hj : ctx.store = some j) :
    p.world.store? ctx = some (p.storeAt j) := by
  rw [World.store?, hj, Option.bind_some]
  exact storeAt_of_lt (hs.contexts ctx (List.mem_of_getElem? hc) j hj)

theorem stores_absorb {w : World} {ctx : RequestContext} {s : CallState} {j : Nat}
    {store : RequestStore} (hctx : ctx.store = some j) (hs : s.store = some store) :
    (w.absorb ctx s).stores = w.stores.set j store := by
  simp only [World.absorb, hctx, hs]

theorem stores_absorb_untracked {w : World} {ctx : RequestContext} {s : CallState}
    (hctx : ctx.store = none) : (w.absorb ctx s).stores = w.stores := by
  simp only [World.absorb, hctx]

theorem stores_within (x : Stage CallState α) (f : α → Answer) {ctx : RequestContext} {j : Nat}
    {s : RequestStore} (hctx : ctx.store = some j)
    (hx : (x.run (p.world.callState ctx)).state.store = some s) :
    (p.onWorld (World.within ctx x) f).1.world.stores = p.world.stores.set j s :=
  stores_absorb hctx hx

theorem stores_within_untracked (x : Stage CallState α) (f : α → Answer) {ctx : RequestContext}
    (hctx : ctx.store = none) :
    (p.onWorld (World.within ctx x) f).1.world.stores = p.world.stores :=
  stores_absorb_untracked hctx

theorem budgetPart_within {x : RequestContext → Stage CallState α} {f : α → Answer}
    {g : RequestContext → RequestStore → RequestStore} (hs : p.Sound) (i k : Nat)
    (hx : ∀ ctx s, ((x ctx).run s).state.budget = s.store.map fun t => (g ctx t).budgetPart) :
    ((p.within i x f).1.storeAt k).budgetPart =
      (match p.contextOn k i with
        | none => p.storeAt k
        | some ctx => g ctx (p.storeAt k)).budgetPart := by
  unfold within withContext contextOn
  cases hc : p.world.contexts[i]? with
  | none => rfl
  | some ctx =>
    simp only [Option.filter_some, decide_eq_true_eq]
    cases hstore : ctx.store with
    | none =>
      rw [storeAt_eq (stores_within_untracked (x ctx) f hstore)]
      rfl
    | some j =>
      have hj := hs.contexts ctx (List.mem_of_getElem? hc) j hstore
      have hbefore : (p.world.callState ctx).store = some (p.storeAt j) := hs.store? hc hstore
      have hafter := hx ctx (p.world.callState ctx)
      rw [hbefore, Option.map_some, CallState.budget, Option.map_eq_some_iff] at hafter
      obtain ⟨s, hrun, hbudget⟩ := hafter
      rw [storeAt, stores_within (x ctx) f hstore hrun, List.getElem?_set]
      by_cases hjk : j = k
      · subst j
        simp only [if_true, hj, Option.getD_some]
        exact hbudget
      · simp only [hjk, if_false, Option.some.injEq]
        rfl

theorem budgetPart_within_of_keeps {x : RequestContext → Stage CallState α} {f : α → Answer}
    (hs : p.Sound) (i k : Nat) (hx : ∀ ctx, (x ctx).Keeps CallState.budget) :
    ((p.within i x f).1.storeAt k).budgetPart = (p.storeAt k).budgetPart := by
  rw [budgetPart_within (g := fun _ s => s) hs i k fun ctx s => hx ctx s]
  cases p.contextOn k i <;> rfl

theorem budgetPart_within_of_accounts {y : RequestContext → Stage CallState α} {f : α → Answer}
    {x : Client} {site : String} (hs : p.Sound) (i k : Nat)
    (hy : ∀ ctx, Accounts x ctx site (y ctx)) :
    ((p.within i y f).1.storeAt k).budgetPart =
      (p.chargedBy k x i site (p.storeAt k)).budgetPart := by
  apply budgetPart_within hs i k
  intro ctx s
  rw [hy ctx s, CallState.budget, Client.charged, Option.map_map]
  rfl

theorem contextOn_eq_some {k i : Nat} {ctx : RequestContext} :
    p.contextOn k i = some ctx ↔ p.world.contexts[i]? = some ctx ∧ ctx.store = some k := by
  rw [contextOn, Option.filter_eq_some_iff, decide_eq_true_eq]

theorem enterScope_of_store (hs : p.Sound) {i j : Nat} {ctx : RequestContext}
    (hc : p.world.contexts[i]? = some ctx) (hj : ctx.store = some j) (scope : Scope) :
    p.world.enterScope ctx scope =
      match scope with
      | .exemption => (p.world.modifyStore j (·.beginExemption), some (.exemption j))
      | .refNameCaching allowed =>
        (p.world.modifyStore j (·.setRefNameCaching allowed),
          some (.refNameCaching j (p.storeAt j).refNameCaching)) := by
  cases scope <;> simp only [World.enterScope, hj, hs.store? hc hj]

theorem enterScope_untracked {ctx : RequestContext} (h : ctx.store = none) (scope : Scope) :
    p.world.enterScope ctx scope = (p.world, none) := by
  simp only [World.enterScope, h]

theorem stores_enterScope (hs : p.Sound) {i j : Nat} {ctx : RequestContext}
    (hc : p.world.contexts[i]? = some ctx) (hj : ctx.store = some j) (scope : Scope) :
    (p.perform (.enterScope i scope)).1.world.stores =
      p.world.stores.modify j (match scope with
        | .exemption => (·.beginExemption)
        | .refNameCaching allowed => (·.setRefNameCaching allowed)) := by
  simp only [perform, withContext, hc, keep, enterScope_of_store hs hc hj]
  cases scope <;> rfl

theorem stores_drop {n : Nat} {g : Guard} (hg : p.guards[n]? = some g) :
    (p.perform (.drop n)).1.world.stores = (p.world.release g).stores := by
  simp only [perform, hg]

theorem budgetPart_enterScope (hs : p.Sound) (i : Nat) (scope : Scope) (k : Nat) :
    ((p.perform (.enterScope i scope)).1.storeAt k).budgetPart =
      (p.effect k (p.storeAt k) (.enterScope i scope)).budgetPart := by
  cases hc : p.world.contexts[i]? with
  | none =>
    simp only [perform, withContext, hc]
    cases scope <;> simp [effect, contextOn, hc]
  | some ctx =>
    cases hstore : ctx.store with
    | none =>
      simp only [perform, withContext, hc, keep, enterScope_untracked hstore]
      cases scope <;> simp [effect, contextOn, hc, hstore, storeAt]
    | some j =>
      have hlt := hs.contexts ctx (List.mem_of_getElem? hc) j hstore
      cases scope with
      | exemption =>
        rw [storeAt_modify (stores_enterScope hs hc hstore .exemption) hlt]
        simp [effect, contextOn, hc, hstore]
      | refNameCaching allowed =>
        exact budgetPart_modify (stores_enterScope hs hc hstore (.refNameCaching allowed))
          (fun _ => rfl) k

theorem budgetPart_drop (hs : p.Sound) (n k : Nat) :
    ((p.perform (.drop n)).1.storeAt k).budgetPart =
      (p.effect k (p.storeAt k) (.drop n)).budgetPart := by
  cases hg : p.guards[n]? with
  | none => simp [perform, effect, hg]
  | some g =>
    cases g with
    | frame i id =>
      rw [storeAt_eq (stores_drop hg)]
      simp [effect, hg]
    | exemption i =>
      rw [storeAt_modify (stores_drop hg) (hs.guards i (List.mem_of_getElem? hg))]
      simp [effect, hg]
    | refNameCaching i previous =>
      rw [budgetPart_modify (stores_drop hg) (fun _ => rfl)]
      simp [effect, hg]

theorem storeAt_startRequest (kind : RequestKind) (tracked : Bool) (caller : Caller)
    (correlationId : Option String) (k : Nat) :
    (p.perform (.startRequest kind tracked caller correlationId)).1.storeAt k = p.storeAt k := by
  cases tracked with
  | false => rfl
  | true =>
    change ((p.world.stores ++ [.empty])[k]?).getD .empty = p.storeAt k
    obtain hlt | heq | hgt := Nat.lt_trichotomy k p.world.stores.length
    · rw [List.getElem?_append_left hlt]
      rfl
    · rw [heq, List.getElem?_concat_length, storeAt, List.getElem?_eq_none (Nat.le_refl _)]
      rfl
    · rw [List.getElem?_eq_none (by rw [List.length_append]; exact hgt), storeAt,
        List.getElem?_eq_none (Nat.le_of_lt hgt)]

/-- Every operation has the effect that it is said to have. -/
theorem budgetPart_perform (hs : p.Sound) (op : Operation) (k : Nat) :
    ((p.perform op).1.storeAt k).budgetPart = (p.effect k (p.storeAt k) op).budgetPart := by
  cases op with
  | startRequest kind tracked caller correlationId =>
    rw [storeAt_startRequest]
    rfl
  | fork i =>
    simp only [perform, withContext]
    cases p.world.contexts[i]? <;> rfl
  | enterFrame i label =>
    simp only [perform, World.enterFrame]
    cases p.world.contexts[i]? <;> rfl
  | enterScope i scope => exact budgetPart_enterScope hs i scope k
  | drop n => exact budgetPart_drop hs n k
  | enforce x i site =>
    exact budgetPart_within_of_accounts hs i k fun ctx => Accounts.enforce x ctx site
  | resetCounts i =>
    have hreset := budgetPart_within (f := fun _ => Answer.done)
      (x := fun _ => onStore Budget.resetCounts) (g := fun _ s => s.resetTotals) hs i k
      fun ctx s => by obtain ⟨_ | store, issued, transport⟩ := s <;> rfl
    rw [perform, hreset, effect]
    cases p.contextOn k i <;> rfl
  | markQuarantined i =>
    exact budgetPart_within_of_keeps hs i k fun _ => .budgetOnStore fun _ => rfl
  | keepDetails i =>
    exact budgetPart_within_of_keeps hs i k fun _ => .budgetOnStore fun _ => rfl
  | sessionId x i => exact budgetPart_within_of_keeps hs i k fun _ => .budgetSessionId x
  | call x files elapsed i c =>
    exact budgetPart_within_of_accounts hs i k fun ctx => Accounts.call x _ ctx c
  | checkHealth x files elapsed i storage =>
    exact budgetPart_within_of_accounts hs i k fun ctx => Accounts.checkHealth x _ ctx storage
  | connectionFor r files service storage => rfl
  | clear => rfl
  | moveClock step =>
    rw [storeAt_eq]
    · rfl
    · change (World.moveClock step p.world).state.stores = p.world.stores
      unfold World.moveClock
      split <;> rfl
  | script responses health refusal => rfl

theorem exemptions_perform (hs : p.Sound) (op : Operation) (k : Nat) :
    ((p.perform op).1.storeAt k).exemptions = (p.effect k (p.storeAt k) op).exemptions := by
  have h := congrArg RequestStore.exemptions (budgetPart_perform hs op k)
  exact h

end StorageCalls.Process
