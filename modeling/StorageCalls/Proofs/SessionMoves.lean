import StorageCalls.Proofs.Amplification
import StorageCalls.Proofs.Punctuality
import StorageCalls.Proofs.RefNames
import StorageCalls.Proofs.SessionIds
import StorageCalls.Proofs.StoreStates

namespace StorageCalls

open Scenario (Answer)

namespace Operation

def client? : Operation → Option Client
  | .enforce x .. | .sessionId x .. | .call x .. | .checkHealth x .. => some x
  | _ => none

def context? : Operation → Option Nat
  | .fork i | .enterFrame i _ | .enterScope i _ | .enforce _ i _ | .resetCounts i
  | .markQuarantined i | .keepDetails i | .sessionId _ i | .call _ _ _ i _
  | .checkHealth _ _ _ i _ => some i
  | _ => none

/-- The operation gets session ids from the given supply, and nothing that it brings along touches
those of calls. -/
structure LeavesSessions (ids : Nat → String) (op : Operation) : Prop where
  supply : ∀ x ∈ op.client?, x.sessionIds = ids
  mutate : ∀ x i c, op.Calls x i c → ∀ o, (c.mutate o).session = o.session
  interceptors : ∀ j ∈ op.interceptors, j.KeepsSession

theorem LeavesSessions.of_no_client {ids : Nat → String} {op : Operation} (hc : op.client? = none)
    (hi : op.interceptors = []) : op.LeavesSessions ids where
  supply x hx := by
    rw [hc] at hx
    cases hx
  mutate x i c hcalls := by cases hcalls <;> cases hc
  interceptors j hj := by
    rw [hi] at hj
    exact absurd hj List.not_mem_nil

end Operation

/-- An invocation, and the store of the context that it was sent from, if there is one. -/
structure Delivery where
  origin : Option Nat
  sent : Invocation

def Delivery.session (d : Delivery) : Option String := d.sent.options.session

namespace Process

variable (p : Process) (ids : Nat → String)

def originOf (op : Operation) : Option Nat :=
  (op.context?.bind (p.world.contexts[·]?)).bind (·.store)

/-- What an operation sends. -/
def deliveries (op : Operation) : List Delivery :=
  ((p.perform op).1.invocations.drop p.invocations.length).map fun inv => ⟨p.originOf op, inv⟩

/-- The session id of a store, once it has one. -/
def sessionAt (k : Nat) : Option String := (p.storeAt k).sessionId

/-- All that an operation can do to session ids, and what it sends meanwhile: nothing new, a first
id for a store, or an id for a context without a store. -/
inductive SessionMove (p q : Process) (new : List Delivery) : Prop
  | kept (hs : ∀ k, q.sessionAt k = p.sessionAt k) (hi : q.world.issued = p.world.issued)
      (hnew : ∀ d ∈ new, ∃ k id, d.origin = some k ∧ d.session = some id ∧
        p.sessionAt k = some id)
  | first (k : Nat) (hk : p.sessionAt k = none) (hk' : q.sessionAt k = some (ids p.world.issued))
      (hs : ∀ l, l ≠ k → q.sessionAt l = p.sessionAt l)
      (hi : q.world.issued = p.world.issued + 1)
      (hnew : ∀ d ∈ new, d.origin = some k ∧ d.session = some (ids p.world.issued))
  | apart (hs : ∀ k, q.sessionAt k = p.sessionAt k) (hi : q.world.issued = p.world.issued + 1)
      (hone : new.length ≤ 1)
      (hnew : ∀ d ∈ new, d.origin = none ∧ d.session = some (ids p.world.issued))

variable {p ids} {α : Type} {op : Operation}

theorem deliveries_of_log {new : List Invocation}
    (h : (p.perform op).1.invocations = p.invocations ++ new) :
    p.deliveries op = new.map fun inv => ⟨p.originOf op, inv⟩ := by
  rw [deliveries, h, List.drop_left]

theorem SessionMove.of_quiet {q : Process} (hq : (p.perform op).1 = q)
    (hs : ∀ k, q.sessionAt k = p.sessionAt k) (hi : q.world.issued = p.world.issued)
    (hlog : q.invocations = p.invocations) :
    SessionMove ids p (p.perform op).1 (p.deliveries op) := by
  subst hq
  refine .kept hs hi fun d hd => ?_
  rw [deliveries_of_log (hlog.trans (List.append_nil _).symm)] at hd
  exact absurd hd List.not_mem_nil

theorem SessionMove.of_onStore {i : Nat} {y : RequestContext → Stage RequestStore Unit}
    {f : Unit → Answer} (hs : p.Sound)
    (hq : p.perform op = p.within i (fun ctx => onStore (y ctx)) f)
    (hy : ∀ ctx, (y ctx).Keeps (·.sessionId)) :
    SessionMove ids p (p.perform op).1 (p.deliveries op) := by
  have hkeeps (ctx : RequestContext) := Client.keeps_sessions_onStore (hy ctx)
  refine .of_quiet (congrArg Prod.fst hq) (fun k => ?_) ?_ ?_
  · exact storePart_within (π := (·.sessionId)) hs
      (fun ctx s => congrArg Prod.fst (hkeeps ctx s)) i k
  · rw [within, withContext]
    cases p.world.contexts[i]? with
    | none => rfl
    | some ctx => exact congrArg Prod.snd (hkeeps ctx (p.world.callState ctx))
  · exact invocations_withContext fun ctx => Stage.Keeps.sentOnStore _ _

theorem origin_of_context {i : Nat} {ctx : RequestContext} (hi : op.context? = some i)
    (hc : p.world.contexts[i]? = some ctx) : p.originOf op = ctx.store := by
  rw [originOf, hi, Option.bind_some, hc, Option.bind_some]

variable {x : Client} {i : Nat} {y : RequestContext → Stage CallState α} {f : α → Answer}
  {ctx : RequestContext} {new : List Invocation}

theorem SessionMove.of_untracked (hc : p.world.contexts[i]? = some ctx) (hstore : ctx.store = none)
    (hp : p.perform op = p.within i y f) (hi : op.context? = some i) (hx : x.sessionIds = ids)
    (hlog : (p.perform op).1.invocations = p.invocations ++ new)
    (hout : x.HandsOut (p.world.callState ctx) ((y ctx).run (p.world.callState ctx)).state new) :
    SessionMove ids p (p.perform op).1 (p.deliveries op) := by
  have hq : p.perform op = p.onWorld (World.within ctx (y ctx)) f := by
    rw [hp, within, withContext, hc]
  have hs (k : Nat) : (p.perform op).1.sessionAt k = p.sessionAt k := by
    rw [hq, sessionAt, storeAt_eq (stores_within_untracked (y ctx) f hstore), sessionAt]
  have hnone : (p.world.callState ctx).store = none := by
    rw [World.callState, World.store?, hstore, Option.bind_none]
  have hissued : (p.perform op).1.world.issued =
      ((y ctx).run (p.world.callState ctx)).state.issued := by
    rw [hq]
    rfl
  rw [deliveries_of_log hlog, origin_of_context hi hc, hstore]
  cases hout with
  | nothing h =>
    exact .kept hs (hissued.trans (congrArg Prod.snd h)) fun d hd => absurd hd List.not_mem_nil
  | session h hone hnew =>
    have hgiven : (x.withSession (p.world.callState ctx)).issued = p.world.issued + 1 := by
      rw [Client.withSession, hnone]
      rfl
    have hnext : x.nextSession (p.world.callState ctx) = ids p.world.issued := by
      rw [Client.nextSession, hnone, hx]
      rfl
    refine .apart hs (hissued.trans ((congrArg Prod.snd h).trans hgiven))
      (by rwa [List.length_map]) fun d hd => ?_
    obtain ⟨inv, hinv, rfl⟩ := List.mem_map.1 hd
    exact ⟨rfl, (hnew inv hinv).trans (congrArg some hnext)⟩

theorem SessionMove.of_tracked {k : Nat} (hs : p.Sound) (hctx : p.contextOn k i = some ctx)
    (hp : p.perform op = p.within i y f) (hi : op.context? = some i) (hx : x.sessionIds = ids)
    (hlog : (p.perform op).1.invocations = p.invocations ++ new)
    (hout : x.HandsOut (p.stateOn k) ((y ctx).run (p.stateOn k)).state new) :
    SessionMove ids p (p.perform op).1 (p.deliveries op) := by
  obtain ⟨hc, hstore⟩ := contextOn_eq_some.1 hctx
  have hother (l : Nat) (hl : l ≠ k) : (p.perform op).1.sessionAt l = p.sessionAt l := by
    rw [hp, sessionAt, storeAt_within_of_ne hctx (Ne.symm hl), sessionAt]
  have hsome : ((y ctx).run (p.stateOn k)).state.store.isSome := by
    have h : (((y ctx).run (p.stateOn k)).state.store.map (·.sessionId)).isSome := by
      cases hout with
      | nothing h => exact congrArg (Option.isSome ∘ Prod.fst) h
      | session h => exact congrArg (Option.isSome ∘ Prod.fst) h
    simpa using h
  have hafter : ((p.perform op).1.stateOn k).sessions =
      ((y ctx).run (p.stateOn k)).state.sessions := by
    rw [hp, stateOn_within hs hctx hsome]
  rw [deliveries_of_log hlog, origin_of_context hi hc, hstore]
  cases hout with
  | nothing h =>
    obtain ⟨hid, hissued⟩ := Prod.mk.inj (hafter.trans h)
    refine .kept (fun l => ?_) hissued fun d hd => absurd hd List.not_mem_nil
    by_cases hl : l = k
    · rw [hl]
      exact Option.some.inj hid
    · exact hother l hl
  | session h hone hnew =>
    have hnext : x.nextSession (p.stateOn k) = (p.sessionAt k).getD (ids p.world.issued) := by
      rw [← hx]
      rfl
    have hgiven : ((p.perform op).1.stateOn k).sessions =
        (some (some (x.nextSession (p.stateOn k))),
          if (p.sessionAt k).isSome then p.world.issued else p.world.issued + 1) := hafter.trans h
    obtain ⟨hid, hissued⟩ := Prod.mk.inj hgiven
    have hid : (p.perform op).1.sessionAt k = some (x.nextSession (p.stateOn k)) :=
      Option.some.inj hid
    cases hbefore : p.sessionAt k with
    | some id =>
      rw [hbefore] at hnext hissued
      rw [hnext] at hid hnew
      refine .kept (fun l => ?_) hissued fun d hd => ?_
      · by_cases hl : l = k
        · rw [hl, hid, hbefore]
          rfl
        · exact hother l hl
      · obtain ⟨inv, hinv, rfl⟩ := List.mem_map.1 hd
        exact ⟨k, id, rfl, hnew inv hinv, hbefore⟩
    | none =>
      rw [hbefore] at hnext hissued
      rw [hnext] at hid hnew
      refine .first k hbefore hid hother hissued fun d hd => ?_
      obtain ⟨inv, hinv, rfl⟩ := List.mem_map.1 hd
      exact ⟨rfl, hnew inv hinv⟩

theorem SessionMove.of_within (hs : p.Sound) (hp : p.perform op = p.within i y f)
    (hi : op.context? = some i) (hx : x.sessionIds = ids)
    (hy : ∀ ctx, p.world.contexts[i]? = some ctx → x.Hands (y ctx) (p.world.callState ctx)) :
    SessionMove ids p (p.perform op).1 (p.deliveries op) := by
  cases hc : p.world.contexts[i]? with
  | none =>
    have hq : (p.perform op).1 = p := by
      rw [hp, within, withContext, hc]
    exact .of_quiet hq (fun _ => rfl) rfl rfl
  | some ctx =>
    obtain ⟨new, hsent, hout⟩ := hy ctx hc
    have hlog : (p.perform op).1.invocations = p.invocations ++ new := by
      rw [hp, within, withContext, hc]
      exact hsent
    cases hstore : ctx.store with
    | none => exact .of_untracked hc hstore hp hi hx hlog hout
    | some k =>
      have hctx : p.contextOn k i = some ctx := contextOn_eq_some.2 ⟨hc, hstore⟩
      rw [hs.callState_eq hctx] at hout
      exact .of_tracked hs hctx hp hi hx hlog hout

theorem sessionAt_modify {q : Process} {g : RequestStore → RequestStore} {j : Nat}
    (h : q.world.stores = p.world.stores.modify j g) (hg : ∀ s, (g s).sessionId = s.sessionId)
    (k : Nat) : q.sessionAt k = p.sessionAt k := by
  rw [sessionAt, storeAt, h, List.getElem?_modify, sessionAt, storeAt]
  split
  · cases p.world.stores[k]? with
    | none => rfl
    | some s => exact hg s
  · rw [id_map']

theorem SessionMove.fork (i : Nat) :
    SessionMove ids p (p.perform (.fork i)).1 (p.deliveries (.fork i)) := by
  cases hc : p.world.contexts[i]? with
  | none =>
    have hq : (p.perform (.fork i)).1 = p := by rw [perform, withContext, hc]
    exact .of_quiet hq (fun _ => rfl) rfl rfl
  | some ctx =>
    have hq : (p.perform (.fork i)).1 = { p with world := p.world.fork ctx } := by
      rw [perform, withContext, hc]
    exact .of_quiet hq (fun _ => rfl) rfl rfl

theorem SessionMove.enterFrame (i : Nat) (label : String) :
    SessionMove ids p (p.perform (.enterFrame i label)).1 (p.deliveries (.enterFrame i label)) := by
  have hq : (p.perform (.enterFrame i label)).1 = (p.keep (p.world.enterFrame i label)).1 := rfl
  rw [World.enterFrame] at hq
  cases hc : p.world.contexts[i]? with
  | none =>
    rw [hc] at hq
    exact .of_quiet hq (fun _ => rfl) rfl rfl
  | some ctx =>
    rw [hc] at hq
    exact .of_quiet hq (fun _ => rfl) rfl rfl

theorem SessionMove.enterScope (hs : p.Sound) (i : Nat) (scope : Scope) :
    SessionMove ids p (p.perform (.enterScope i scope)).1 (p.deliveries (.enterScope i scope)) := by
  cases hc : p.world.contexts[i]? with
  | none =>
    have hq : (p.perform (.enterScope i scope)).1 = p := by rw [perform, withContext, hc]
    exact .of_quiet hq (fun _ => rfl) rfl rfl
  | some ctx =>
    have hq : (p.perform (.enterScope i scope)).1 =
        (p.keep (p.world.enterScope ctx scope)).1 := by
      rw [perform, withContext, hc]
    cases hstore : ctx.store with
    | none =>
      rw [enterScope_untracked hstore] at hq
      exact .of_quiet hq (fun _ => rfl) rfl rfl
    | some j =>
      rw [enterScope_of_store hs hc hstore] at hq
      cases scope with
      | exemption => exact .of_quiet hq (sessionAt_modify rfl fun _ => rfl) rfl rfl
      | refNameCaching allowed => exact .of_quiet hq (sessionAt_modify rfl fun _ => rfl) rfl rfl

theorem SessionMove.drop (n : Nat) :
    SessionMove ids p (p.perform (.drop n)).1 (p.deliveries (.drop n)) := by
  cases hg : p.guards[n]? with
  | none =>
    have hq : (p.perform (.drop n)).1 = p := by rw [perform, hg]
    exact .of_quiet hq (fun _ => rfl) rfl rfl
  | some g =>
    have hq : (p.perform (.drop n)).1 = ⟨p.world.release g, p.guards.eraseIdx n⟩ := by
      rw [perform, hg]
    cases g with
    | frame j id => exact .of_quiet hq (fun _ => rfl) rfl rfl
    | exemption j => exact .of_quiet hq (sessionAt_modify rfl fun _ => rfl) rfl rfl
    | refNameCaching j previous => exact .of_quiet hq (sessionAt_modify rfl fun _ => rfl) rfl rfl

theorem SessionMove.moveClock (step : ClockStep) :
    SessionMove ids p (p.perform (.moveClock step)).1 (p.deliveries (.moveClock step)) := by
  have hq : (p.perform (.moveClock step)).1 =
      { p with world := (World.moveClock step p.world).state } := rfl
  rw [World.moveClock] at hq
  cases hnow : step.next? p.world.now with
  | none =>
    rw [hnow] at hq
    exact .of_quiet hq (fun _ => rfl) rfl rfl
  | some now =>
    rw [hnow] at hq
    exact .of_quiet hq (fun _ => rfl) rfl rfl

def LeavesSessions (p : Process) : Prop :=
  ∀ conn ∈ p.world.transport.connections, ∀ j ∈ conn.interceptors, j.KeepsSession

theorem LeavesSessions.perform (h : p.LeavesSessions) (hop : op.LeavesSessions ids) :
    (p.perform op).1.LeavesSessions := by
  intro conn hconn j hj
  obtain hold | hnew := connections_perform op conn hconn
  · exact h conn hold j hj
  · exact hop.interceptors j (hnew ▸ hj)

theorem LeavesSessions.interceptors (h : p.LeavesSessions)
    (hx : ∀ j ∈ x.interceptors, j.KeepsSession) (ctx : RequestContext) (service storage : String) :
    ∀ j ∈ (x.outlook (p.world.callState ctx)).interceptors service storage, j.KeepsSession := by
  intro j hj
  simp only [Client.outlook] at hj
  cases hf : Registry.find? (p.world.callState ctx).transport.connections service storage with
  | none =>
    rw [hf] at hj
    exact hx j hj
  | some conn =>
    rw [hf] at hj
    exact h conn (List.mem_of_find?_eq_some hf) j hj

/-- What an operation does to session ids. -/
theorem moves_perform (hs : p.Sound) (hl : p.LeavesSessions) (hop : op.LeavesSessions ids) :
    SessionMove ids p (p.perform op).1 (p.deliveries op) := by
  cases op with
  | startRequest kind tracked caller correlationId =>
    exact .of_quiet rfl (fun k => congrArg (·.sessionId) (storeAt_startRequest ..)) rfl rfl
  | fork i => exact .fork i
  | enterFrame i label => exact .enterFrame i label
  | enterScope i scope => exact .enterScope hs i scope
  | drop n => exact .drop n
  | enforce x i site =>
    refine .of_onStore hs rfl fun ctx s => ?_
    rw [Stage.run, Budget.state_enforce]
    rfl
  | resetCounts i => exact .of_onStore hs rfl fun _ _ => rfl
  | markQuarantined i => exact .of_onStore hs rfl fun _ _ => rfl
  | keepDetails i => exact .of_onStore hs rfl fun _ _ => rfl
  | sessionId x i =>
    exact .of_within hs rfl rfl (hop.supply x rfl) fun _ _ => Client.hands_sessionId
  | call x files elapsed i c =>
    exact .of_within hs rfl rfl (hop.supply x rfl) fun ctx _ =>
      Client.hands_call (hop.mutate x i c (.call ..)) (hl.interceptors hop.interceptors ctx _ _)
  | checkHealth x files elapsed i storage =>
    exact .of_within hs rfl rfl (hop.supply x rfl) fun ctx _ =>
      Client.hands_checkHealth (hl.interceptors hop.interceptors ctx _ _)
  | connectionFor r files service storage =>
    exact .of_quiet rfl (fun _ => rfl) rfl
      (Stage.Keeps.sentConnectionFor r files service storage ⟨none, 0, p.world.transport⟩)
  | clear => exact .of_quiet rfl (fun _ => rfl) rfl rfl
  | moveClock step => exact .moveClock step
  | script responses health refusal => exact .of_quiet rfl (fun _ => rfl) rfl rfl

end Process

end StorageCalls
