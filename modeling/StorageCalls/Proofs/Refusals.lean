import StorageCalls.Proofs.BudgetHistory
import StorageCalls.Proofs.CallTraces
import StorageCalls.Proofs.StoreStates

namespace StorageCalls

open Scenario (Answer)

variable {α : Type}

/-- What an answer says of a call that was refused for being above the ceiling. -/
def Scenario.Answer.overrun? : Answer → Option Overrun
  | .failed (.tooManyInvocations overrun) => some overrun
  | _ => none

def overrunOf? : Except CallError α → Option Overrun
  | .error (.tooManyInvocations overrun) => some overrun
  | _ => none

theorem overrun?_ofResult {f : α → Answer} (hf : ∀ a, (f a).overrun? = none)
    (r : Except CallError α) : (Answer.ofResult f r).overrun? = overrunOf? r := by
  cases r with
  | ok a => exact hf a
  | error e => cases e <;> rfl

theorem overrunOf?_eq_none_of_not_refusal {r : Except CallError α} (h : isRefusal r = false) :
    overrunOf? r = none := by
  cases r with
  | ok a => rfl
  | error e =>
    cases e with
    | tooManyInvocations overrun => cases h
    | _ => rfl

def Budget.overrun? (enforcing : Bool) (signature site : String) (s : RequestStore) :
    Option Overrun :=
  if counts enforcing s ∧ ceiling ≤ s.enforcedCount site then
    some (overrunOf (charge enforcing signature site s) site)
  else none

theorem Budget.refusal_eq (enforcing : Bool) (signature site : String) (s : RequestStore) :
    refusal enforcing signature site s =
      (overrun? enforcing signature site s).map .tooManyInvocations := by
  unfold refusal overrun?
  split <;> rfl

namespace Client

variable (x : Client) (env : Surroundings) (ctx : RequestContext) (c : Call)

/-- A stage that is refused when a call of the site is above the ceiling, and else never. -/
def RefusedLike (site : String) (y : Stage CallState α) : Prop :=
  ∀ s, overrunOf? (y.run s).result =
    s.store.bind (Budget.overrun? x.isEnforcing ctx.signature site)

variable {x ctx}

theorem refusedLike_of_first {site : String} {y : Stage CallState α}
    (hr : ∀ s, isRefusal (y.run s).result =
      (s.store.bind (Budget.refusal x.isEnforcing ctx.signature site)).isSome)
    (hfirst : ∀ s e, ((x.enforce ctx site).run s).result = .error e → (y.run s).result = .error e) :
    x.RefusedLike ctx site y := by
  intro s
  have hrefusal : s.store.bind (Budget.refusal x.isEnforcing ctx.signature site) =
      (s.store.bind (Budget.overrun? x.isEnforcing ctx.signature site)).map
        .tooManyInvocations := by
    cases s.store with
    | none => rfl
    | some store => exact Budget.refusal_eq ..
  have henforce := (x.run_enforce ctx s site).2
  have hy := hr s
  rw [hrefusal] at hy henforce
  cases ho : s.store.bind (Budget.overrun? x.isEnforcing ctx.signature site) with
  | none =>
    rw [ho] at hy
    exact overrunOf?_eq_none_of_not_refusal hy
  | some overrun =>
    rw [ho] at henforce
    rw [hfirst s _ henforce]
    rfl

variable (x ctx)

theorem refusedLike_enforce (site : String) : x.RefusedLike ctx site (x.enforce ctx site) :=
  refusedLike_of_first (x.isRefusal_enforce ctx · site) fun _ _ h => h

theorem prepare_of_refused {s : CallState} {e : CallError}
    (h : ((x.enforce ctx c.rpc).run s).result = .error e) :
    ((x.prepare env ctx c).run s).result = .error e := Stage.result_bind_of_error h

theorem refusedLike_call : x.RefusedLike ctx c.rpc (x.call env ctx c) := by
  apply refusedLike_of_first (x.isRefusal_call env ctx c)
  intro s e h
  rw [call_eq]
  exact Stage.result_bind_of_error (x.prepare_of_refused env ctx c h)

theorem refusedLike_checkHealth (storage : String) :
    x.RefusedLike ctx Connection.healthRpc (x.checkHealth env ctx storage) := by
  apply refusedLike_of_first (x.isRefusal_checkHealth env ctx · storage)
  intro s e h
  rw [checkHealth_eq]
  exact Stage.result_bind_of_error (x.prepare_of_refused env ctx (x.healthCall storage) h)

end Client

/-- The client of an operation that is accounted for, with the context and the site. -/
def Operation.accounted? : Operation → Option (Client × Nat × String)
  | .enforce x i site => some (x, i, site)
  | .call x _ _ i c => some (x, i, c.rpc)
  | .checkHealth x _ _ i _ => some (x, i, Connection.healthRpc)
  | _ => none

namespace Process

variable {p : Process} {k i : Nat} {ctx : RequestContext} {x : Client} {site : String}
  {op : Operation}

theorem overrun?_within {y : RequestContext → Stage CallState α} {f : α → Answer}
    (hf : ∀ a, (f a).overrun? = none) (hy : ∀ ctx, x.RefusedLike ctx site (y ctx)) (i : Nat) :
    (p.within i y f).2.overrun? =
      p.world.contexts[i]?.bind fun ctx =>
        (p.world.callState ctx).store.bind
          (Budget.overrun? x.isEnforcing ctx.signature site) := by
  unfold within withContext
  cases p.world.contexts[i]? with
  | none => rfl
  | some ctx => exact (overrun?_ofResult hf _).trans (hy ctx (p.world.callState ctx))

theorem overrun?_onWorld_of_permissive {y : Stage World α} {f : α → Answer}
    (hf : ∀ a, (f a).overrun? = none) (hy : y.Permissive) :
    (p.onWorld y f).2.overrun? = none :=
  (overrun?_ofResult hf _).trans (overrunOf?_eq_none_of_not_refusal (hy p.world))

theorem overrun?_within_of_permissive {y : RequestContext → Stage CallState α} {f : α → Answer}
    (hf : ∀ a, (f a).overrun? = none) (hy : ∀ ctx, (y ctx).Permissive) (i : Nat) :
    (p.within i y f).2.overrun? = none := by
  unfold within withContext
  cases p.world.contexts[i]? with
  | none => rfl
  | some ctx =>
    exact (overrun?_ofResult hf _).trans (overrunOf?_eq_none_of_not_refusal (hy ctx _))

theorem permissive_update (f : RequestStore → RequestStore) :
    (onStore (.update f)).Permissive := by
  rintro ⟨_ | store, issued, transport⟩ <;> rfl

/-- An operation is refused just when it is accounted for in a context with a store that has no
budget left for it. -/
theorem overrun?_perform (p : Process) (op : Operation) :
    (p.perform op).2.overrun? =
      op.accounted?.bind fun (x, i, site) =>
        p.world.contexts[i]?.bind fun ctx =>
          (p.world.callState ctx).store.bind
            (Budget.overrun? x.isEnforcing ctx.signature site) := by
  cases op with
  | enforce x i site => exact overrun?_within (fun _ => rfl) (x.refusedLike_enforce · site) i
  | call x files elapsed i c =>
    exact overrun?_within (fun _ => rfl) (x.refusedLike_call _ · c) i
  | checkHealth x files elapsed i storage =>
    exact overrun?_within (fun _ => rfl) (x.refusedLike_checkHealth _ · storage) i
  | fork i | enterScope i scope =>
    simp only [perform, withContext]
    cases p.world.contexts[i]? <;> rfl
  | drop n =>
    simp only [perform]
    cases p.guards[n]? <;> rfl
  | resetCounts i =>
    apply overrun?_within_of_permissive fun _ => rfl
    rintro ctx ⟨_ | store, issued, transport⟩ <;> rfl
  | markQuarantined i | keepDetails i =>
    exact overrun?_within_of_permissive (fun _ => rfl) (fun _ => permissive_update _) i
  | sessionId x i =>
    apply overrun?_within_of_permissive fun _ => rfl
    intro ctx s
    rw [x.run_sessionId]
    rfl
  | connectionFor r files service storage =>
    apply overrun?_onWorld_of_permissive fun _ => rfl
    intro w
    exact (⟨r, default, .fixed false, fun _ => ""⟩ : Client).permissive_connectionFor files service
      storage ⟨none, 0, w.transport⟩
  | clear => rfl
  | moveClock step =>
    apply overrun?_onWorld_of_permissive fun _ => rfl
    intro w
    simp only [Stage.run, World.moveClock]
    split <;> rfl
  | startRequest kind tracked caller correlationId => rfl
  | enterFrame i label => rfl
  | script responses health refusal => rfl

theorem overrun?_perform_of_records (hs : p.Sound) {h : List Entry}
    (hr : (p.storeAt k).Records h) (ho : op.accounted? = some (x, i, site))
    (hctx : p.contextOn k i = some ctx) :
    (p.perform op).2.overrun? =
      if p.eligible k x ∧ Budget.ceiling ≤ h.countP fun e => e.isEligible && e.isOf site then
        some (Budget.overrunOf (Budget.charge x.isEnforcing ctx.signature site (p.storeAt k)) site)
      else none := by
  obtain ⟨hc, hk⟩ := contextOn_eq_some.1 hctx
  have hstore : (p.world.callState ctx).store = some (p.storeAt k) := hs.store? hc hk
  simp only [overrun?_perform, ho, hc, hstore, Option.bind_some]
  rw [Budget.overrun?, hs.counts_eq, hr.enforced, ← eligible]

theorem overrun?_perform_untracked (ho : op.accounted? = some (x, i, site))
    (hctx : p.world.contexts[i]? = some ctx) (hk : ctx.store = none) :
    (p.perform op).2.overrun? = none := by
  have hstore : (p.world.callState ctx).store = none := by
    rw [World.callState, World.store?, hk]
    rfl
  simp only [overrun?_perform, ho, hctx, hstore, Option.bind_some, Option.bind_none]

theorem entry_of_accounted (ho : op.accounted? = some (x, i, site)) :
    p.entry k op = p.attempt k x i site := by
  cases op <;> cases ho <;> rfl

/-- Whatever is refused was an eligible call of its site, on a store that had seen as many of them
as there may be. -/
theorem exists_of_overrun? (hs : p.Sound) {overrun : Overrun}
    (h : (p.perform op).2.overrun? = some overrun) :
    ∃ x i site k ctx, op.accounted? = some (x, i, site) ∧ p.contextOn k i = some ctx ∧
      Budget.overrun? x.isEnforcing ctx.signature site (p.storeAt k) = some overrun := by
  rw [overrun?_perform, Option.bind_eq_some_iff] at h
  obtain ⟨⟨x, i, site⟩, ho, h⟩ := h
  obtain ⟨ctx, hc, h⟩ := Option.bind_eq_some_iff.1 h
  obtain ⟨store, hstore, h⟩ := Option.bind_eq_some_iff.1 h
  cases hk : ctx.store with
  | none =>
    rw [World.callState, World.store?, hk] at hstore
    cases hstore
  | some k =>
    have hat : (p.world.callState ctx).store = some (p.storeAt k) := hs.store? hc hk
    obtain rfl : p.storeAt k = store := Option.some.inj (hat.symm.trans hstore)
    exact ⟨x, i, site, k, ctx, ho, contextOn_eq_some.2 ⟨hc, hk⟩, h⟩

theorem history_append (p : Process) (k : Nat) (ops later : List Operation) :
    p.history k (ops ++ later) = p.history k ops ++ (p.run ops).history k later := by
  induction ops generalizing p with
  | nil => rfl
  | cons op ops ih => rw [List.cons_append, history, history, ih, run_cons, List.append_assoc]

end Process

end StorageCalls
