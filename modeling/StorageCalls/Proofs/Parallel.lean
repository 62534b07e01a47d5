import StorageCalls.Proofs.SteadyTransport

namespace StorageCalls

variable {α β : Type}

/-- The store without what depends on how long calls took. -/
def RequestStore.untimed (s : RequestStore) : RequestStore :=
  { s with queryTime := .zero, details := s.details.map fun r => { r with duration := .zero } }

def Client.supplied (x : Client) (ids : Nat → String) : Client := { x with sessionIds := ids }

/-- What stays the same while a request does one thing in both runs. -/
structure Pair where
  client : Client
  ids : Nat → String
  files : Files
  network : Network
  /-- The session id of the request, given out already or next. -/
  next : String
  next' : String
  /-- What was sent before. -/
  sent : List Invocation
  sent' : List Invocation

namespace Pair

def other (P : Pair) : Client := P.client.supplied P.ids

/-- The states of both runs. Of the query times, only what is given is known. -/
structure Alike (P : Pair) (T : Duration → Duration → Prop) (s s' : CallState) : Prop where
  tracked : s.store.isSome
  store : s.store.map (·.untimed) = s'.store.map (·.untimed)
  time : ∀ store ∈ s.store, ∀ store' ∈ s'.store, T store.queryTime store'.queryTime
  next : P.client.nextSession s = P.next
  next' : P.other.nextSession s' = P.next'
  steady : P.client.Steady P.files P.network s.transport
  steady' : P.client.Steady P.files P.network s'.transport
  sent : ∃ new, s.sent = P.sent ++ new ∧ s'.sent = P.sent' ++ new

def Related (Q : α → α → Prop) : Except CallError α → Except CallError α → Prop
  | .ok a, .ok b => Q a b
  | .error e, .error e' => e = e'
  | _, _ => False

theorem Related.of_ok {Q : α → α → Prop} {a : α} {r : Except CallError α}
    (h : Related Q (.ok a) r) : ∃ b, r = .ok b ∧ Q a b := by
  cases r with
  | ok b => exact ⟨b, rfl, h⟩
  | error e => exact h.elim

theorem Related.of_error {Q : α → α → Prop} {e : CallError} {r : Except CallError α}
    (h : Related Q (.error e) r) : r = .error e := by
  cases r with
  | ok b => exact h.elim
  | error e' => exact congrArg Except.error h.symm

def HasSession (s : CallState) : Prop := (s.store.bind (·.sessionId)).isSome

/-- A stage that does the same in both runs. The session id needs to be the same only if the stage
is known to have one given out. -/
structure Parallel (P : Pair) (R R' : CallState → CallState → Prop) (Q : α → α → Prop)
    (y z : Stage CallState α) : Prop where
  mono : ∀ s, HasSession s → HasSession (y.run s).state
  state : ∀ s s', R s s' → (HasSession (y.run s).state → P.next = P.next') →
    R' (y.run s).state (z.run s').state
  result : ∀ s s', R s s' → (HasSession (y.run s).state → P.next = P.next') →
    Related Q (y.run s).result (z.run s').result

namespace Parallel

variable {P : Pair} {R R' R'' : CallState → CallState → Prop} {Q : α → α → Prop}
  {T : β → β → Prop} {y z : Stage CallState α} {f g : α → Stage CallState β}

theorem bind (hy : P.Parallel R R' Q y z) (hrefl : ∀ a, Q a a) (hweak : ∀ s s', R' s s' → R'' s s')
    (hf : ∀ a b, Q a b → P.Parallel R' R'' T (f a) (g b)) :
    P.Parallel R R'' T (y >>= f) (z >>= g) := by
  have hmono : ∀ a s, HasSession s → HasSession ((f a).run s).state :=
    fun a => (hf a a (hrefl a)).mono
  have hstep : ∀ s s', R s s' → (HasSession ((y >>= f).run s).state → P.next = P.next') →
      R'' ((y >>= f).run s).state ((z >>= g).run s').state ∧
        Related T ((y >>= f).run s).result ((z >>= g).run s').result := by
    intro s s' h hsession
    cases hr : (y.run s).result with
    | ok a =>
      rw [Stage.state_bind_of_ok hr] at hsession ⊢
      rw [Stage.result_bind_of_ok hr]
      have hfirst : HasSession (y.run s).state → P.next = P.next' :=
        fun hs => hsession (hmono a _ hs)
      have hmid := hy.state s s' h hfirst
      have hres := hy.result s s' h hfirst
      rw [hr] at hres
      obtain ⟨b, hr', hQ⟩ := hres.of_ok
      rw [Stage.state_bind_of_ok hr', Stage.result_bind_of_ok hr']
      exact ⟨(hf a b hQ).state _ _ hmid hsession, (hf a b hQ).result _ _ hmid hsession⟩
    | error e =>
      rw [Stage.state_bind_of_error hr] at hsession ⊢
      rw [Stage.result_bind_of_error hr]
      have hmid := hy.state s s' h hsession
      have hres := hy.result s s' h hsession
      rw [hr] at hres
      have hr' := hres.of_error
      rw [Stage.state_bind_of_error hr', Stage.result_bind_of_error hr']
      exact ⟨hweak _ _ hmid, rfl⟩
  refine ⟨fun s hs => ?_, fun s s' h hsession => (hstep s s' h hsession).1,
    fun s s' h hsession => (hstep s s' h hsession).2⟩
  cases hr : (y.run s).result with
  | ok a =>
    rw [Stage.state_bind_of_ok hr]
    exact hmono a _ (hy.mono s hs)
  | error e =>
    rw [Stage.state_bind_of_error hr]
    exact hy.mono s hs

theorem weaken (h : P.Parallel R R' Q y z) (hweak : ∀ s s', R' s s' → R'' s s') :
    P.Parallel R R'' Q y z :=
  { h with state := fun s s' hs hsession => hweak _ _ (h.state s s' hs hsession) }

theorem of_still {r r' : Except CallError α} (hy : ∀ s, y.run s = ⟨s, (y.run s).events, r⟩)
    (hz : ∀ s, z.run s = ⟨s, (z.run s).events, r'⟩) (hr : Related Q r r') :
    P.Parallel R R Q y z where
  mono s hs := by
    rw [hy s]
    exact hs
  state s s' h _ := by
    rw [hy s, hz s']
    exact h
  result s s' _ _ := by
    rw [hy s, hz s']
    exact hr

theorem pure {a b : α} (h : Q a b) : P.Parallel R R Q (pure a) (pure b) :=
  of_still (fun _ => rfl) (fun _ => rfl) h

theorem fail (e : CallError) : P.Parallel R R Q (Stage.fail e : Stage CallState α) (.fail e) :=
  of_still (fun _ => rfl) (fun _ => rfl) rfl

theorem log (e : Event) : P.Parallel R R Eq (Stage.log e : Stage CallState Unit) (.log e) :=
  of_still (fun _ => rfl) (fun _ => rfl) rfl

theorem ofConfiguration (r : Except ConfigurationFault α) :
    P.Parallel R R Eq (Stage.ofConfiguration r : Stage CallState α) (.ofConfiguration r) := by
  cases r with
  | ok a => exact pure rfl
  | error fault => exact fail _

end Parallel

variable {P : Pair} {T U : Duration → Duration → Prop} {s s' : CallState}

theorem Alike.mono (h : P.Alike T s s') (hT : ∀ d d', T d d' → U d d') : P.Alike U s s' :=
  { h with time := fun store hs store' hs' => hT _ _ (h.time store hs store' hs') }

theorem Alike.stores (h : P.Alike T s s') :
    ∃ store store', s.store = some store ∧ s'.store = some store' ∧
      store.untimed = store'.untimed ∧ T store.queryTime store'.queryTime := by
  obtain ⟨store, hs⟩ := Option.isSome_iff_exists.1 h.tracked
  have hstore := h.store
  rw [hs, Option.map_some, eq_comm, Option.map_eq_some_iff] at hstore
  obtain ⟨store', hs', heq⟩ := hstore
  exact ⟨store, store', hs, hs', heq.symm, h.time store hs store' hs'⟩

structure Matched (U : Duration → Duration → Prop) (o o' : Outcome RequestStore Unit) : Prop where
  state : o.state.untimed = o'.state.untimed
  result : o.result = o'.result
  time : U o.state.queryTime o'.state.queryTime

theorem parallel_onStore {y z : Stage RequestStore Unit} (hid : y.Keeps (·.sessionId))
    (hid' : z.Keeps (·.sessionId))
    (h : ∀ s s' : RequestStore, s.untimed = s'.untimed → T s.queryTime s'.queryTime →
      Matched U (y.run s) (z.run s')) :
    P.Parallel (P.Alike T) (P.Alike U) Eq (onStore y) (onStore z) where
  mono s hs := by
    obtain ⟨_ | store, issued, transport⟩ := s
    · exact hs
    · have hkeep : (y store).state.sessionId = store.sessionId := hid store
      simpa [HasSession, Stage.run, onStore, hkeep] using hs
  state s s' hl _ := by
    obtain ⟨store, store', hs, hs', heq, ht⟩ := hl.stores
    have hm := h store store' heq ht
    have hkeep : (y.run store).state.sessionId = store.sessionId := hid store
    have hkeep' : (z.run store').state.sessionId = store'.sessionId := hid' store'
    rw [run_onStore_some y hs, run_onStore_some z hs']
    refine { hl with
      tracked := rfl
      store := congrArg some hm.state
      time := ?_
      next := ?_
      next' := ?_ }
    · rintro _ ⟨⟩ _ ⟨⟩
      exact hm.time
    · rw [← hl.next]
      simp only [Client.nextSession, hs, Option.bind_some]
      exact congrArg (fun id => Option.getD id _) hkeep
    · rw [← hl.next']
      simp only [Client.nextSession, hs', Option.bind_some]
      exact congrArg (fun id => Option.getD id _) hkeep'
  result s s' hl _ := by
    obtain ⟨store, store', hs, hs', heq, ht⟩ := hl.stores
    have hm := h store store' heq ht
    rw [run_onStore_some y hs, run_onStore_some z hs']
    have hresult : (y store).result = (z store').result := hm.result
    simp only [hresult]
    cases (z store').result <;> rfl

theorem parallel_enforce (ctx : RequestContext) (site : String) :
    P.Parallel (P.Alike T) (P.Alike T) Eq (P.client.enforce ctx site)
      (P.other.enforce ctx site) := by
  have hid : (Budget.enforce P.client.isEnforcing ctx.signature site).Keeps (·.sessionId) := by
    intro s
    rw [Stage.run, Budget.state_enforce]
    rfl
  apply parallel_onStore hid hid
  intro s s' heq ht
  have hstate := congrArg (Budget.charge P.client.isEnforcing ctx.signature site) heq
  have hrefusal := congrArg (Budget.refusal P.client.isEnforcing ctx.signature site) heq
  constructor
  · rw [Stage.run, Stage.run, Budget.state_enforce, Budget.state_enforce]
    exact hstate
  · rw [Stage.run, Stage.run, Budget.result_enforce, Budget.result_enforce]
    exact congrArg verdict hrefusal
  · rw [Stage.run, Stage.run, Budget.state_enforce, Budget.state_enforce]
    exact ht

theorem Alike.next_eq (h : P.Alike T s s')
    (hsession : HasSession (P.client.sessionId.run s).state → P.next = P.next') :
    P.client.nextSession s = P.other.nextSession s' := by
  obtain ⟨store, -, hs, -⟩ := h.stores
  rw [h.next, h.next']
  apply hsession
  rw [P.client.run_sessionId, HasSession, Client.withSession, hs]
  rfl

theorem parallel_sessionId :
    P.Parallel (P.Alike T) (P.Alike T) Eq P.client.sessionId P.other.sessionId where
  mono s hs := by
    rw [P.client.run_sessionId]
    obtain ⟨_ | store, issued, transport⟩ := s
    · exact hs
    · rfl
  state s s' hl hsession := by
    obtain ⟨store, store', hs, hs', heq, ht⟩ := hl.stores
    have hnext := hl.next_eq hsession
    have hnew := congrArg
      (fun st : RequestStore => { st with sessionId := some (P.other.nextSession s') }) heq
    rw [P.client.run_sessionId, P.other.run_sessionId]
    simp only [Client.withSession, hs, hs', Option.map_some, hnext]
    refine { hl with
      tracked := rfl
      store := congrArg some hnew
      time := ?_
      next := hnext ▸ hl.next
      next' := hl.next' }
    rintro _ ⟨⟩ _ ⟨⟩
    exact ht
  result s s' hl hsession := by
    have hnext := hl.next_eq hsession
    rw [P.client.run_sessionId, P.other.run_sessionId]
    exact hnext

structure Carried (Q : α → α → Prop) (t t' : Transport) (o o' : Outcome Transport α) : Prop where
  sent : ∃ new, o.state.network.invocations = t.network.invocations ++ new ∧
    o'.state.network.invocations = t'.network.invocations ++ new
  result : Related Q o.result o'.result

theorem parallel_onTransport {Q : α → α → Prop} {y z : Stage Transport α}
    (hy : y.Preserves (P.client.Steady P.files P.network))
    (hz : z.Preserves (P.client.Steady P.files P.network))
    (h : ∀ t t' : Transport, P.client.Steady P.files P.network t →
      P.client.Steady P.files P.network t' → Carried Q t t' (y.run t) (z.run t')) :
    P.Parallel (P.Alike T) (P.Alike T) Q (onTransport y) (onTransport z) where
  mono s hs := hs
  state s s' hl _ := by
    obtain ⟨old, hold, hold'⟩ := hl.sent
    obtain ⟨new, hnew, hnew'⟩ := (h s.transport s'.transport hl.steady hl.steady').sent
    rw [run_onTransport, run_onTransport]
    refine { hl with
      steady := hy _ hl.steady
      steady' := hz _ hl.steady'
      sent := ⟨old ++ new, ?_, ?_⟩ }
    · rw [← List.append_assoc, ← hold]
      exact hnew
    · rw [← List.append_assoc, ← hold']
      exact hnew'
  result s s' hl _ := by
    rw [run_onTransport, run_onTransport]
    exact (h s.transport s'.transport hl.steady hl.steady').result

end Pair

end StorageCalls
