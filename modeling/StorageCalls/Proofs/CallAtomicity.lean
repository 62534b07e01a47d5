import StorageCalls.Proofs.CallOutcome

namespace StorageCalls.Client

variable (x : Client) (env : Surroundings) (ctx : RequestContext) (c : Call) (s : CallState)

/-- The store of the request after one call to the same site was accounted for. -/
def enforcedStore : Option RequestStore :=
  s.store.map fun store => (Budget.enforce x.isEnforcing ctx.signature c.rpc store).state

/-- What can be said of every call by looking at its phases in the state before it. -/
structure DecidedByPhases : Prop where
  /-- The first phase that fails decides the result. -/
  result :
    match Phase.all.findSome? (x.fault env ctx c s) with
    | some e => ((x.call env ctx c).run s).result = .error e
    | none =>
      ∃ response, s.transport.network.answer c.rpc c.request = .ok response ∧
        ((x.call env ctx c).run s).result = .ok response
  /-- A failure before the interceptors leaves no trace but in the budget, and in the session id
  when the metadata was reached. -/
  early :
    (∃ p ∈ Phase.early, x.fault env ctx c s p ≠ none) →
      let after := ((x.call env ctx c).run s).state
      after.transport = s.transport ∧
        (after.store = x.enforcedStore ctx c s ∨
          x.fault env ctx c s .budget = none ∧ x.fault env ctx c s .deadline = none ∧
            SessionGiven (x.enforcedStore ctx c s) after.store) ∧
        ∀ old new, s.store = some old → after.store = some new →
          new.details = old.details ∧ new.queryTime = old.queryTime
  /-- Otherwise there is a connection, and one invocation on it unless an interceptor rejects. -/
  late :
    (∀ p ∈ Phase.early, x.fault env ctx c s p = none) →
      let after := ((x.call env ctx c).run s).state
      ∃ conn options, x.connectionOf env c s = some conn ∧
        x.plannedOptions env ctx c s = some options ∧
        after.transport.connections =
          (if (cached c s).isSome then s.transport.connections
            else s.transport.connections ++ [conn]) ∧
        after.transport.network.builds =
          (if (cached c s).isSome then s.transport.network.builds
            else s.transport.network.builds ++ [conn.target]) ∧
        after.transport.network.invocations =
          s.transport.network.invocations ++
            (match conn.intercepted c.rpc options with
              | .ok o => [⟨c.storage, c.service, c.rpc, c.request, o⟩]
              | .error _ => []) ∧
        ∃ given, SessionGiven (x.enforcedStore ctx c s) given ∧
          after.store = given.map (noted env ctx c
            (.of (conn.reply c.rpc c.request options s.transport.network)))

variable {x env ctx c s}

theorem enforcedStore_eq : x.enforcedStore ctx c s = (x.charged ctx s c.rpc).store := by
  simp only [enforcedStore, charged, Budget.state_enforce]

theorem connectionOf_target {conn : Connection} (h : x.connectionOf env c s = some conn) :
    conn.target.service = c.service ∧ conn.target.storage = c.storage := by
  unfold connectionOf at h
  cases hc : cached c s with
  | some kept =>
    rw [hc] at h
    cases h
    exact Registry.isFor_iff.1 (List.find?_some hc)
  | none =>
    rw [hc, Option.none_or, Option.map_eq_some_iff] at h
    obtain ⟨t, ht, rfl⟩ := h
    unfold plannedTarget at ht
    cases hok : x.target env.files c.service c.storage with
    | error fault =>
      rw [hok] at ht
      cases ht
    | ok target =>
      rw [hok] at ht
      cases ht
      exact Registry.target_ok hok

theorem early_none_iff :
    Phase.early.findSome? (x.fault env ctx c s) = none ↔
      ∀ p ∈ Phase.early, x.fault env ctx c s p = none :=
  List.findSome?_eq_none_iff

theorem early_trace {e : CallError} (h : Phase.early.findSome? (x.fault env ctx c s) = some e) :
    let after := ((x.call env ctx c).run s).state
    after.transport = s.transport ∧
      (after.store = x.enforcedStore ctx c s ∨
        x.fault env ctx c s .budget = none ∧ x.fault env ctx c s .deadline = none ∧
          SessionGiven (x.enforcedStore ctx c s) after.store) ∧
      ∀ old new, s.store = some old → after.store = some new →
        new.details = old.details ∧ new.queryTime = old.queryTime := by
  intro after
  have hp := x.prepare_spec env ctx c s
  rw [h] at hp
  have hafter : after = ((x.prepare env ctx c).run s).state := (run_call_of_fault _ _ _ _ hp.1).1
  rw [enforcedStore_eq, hafter]
  obtain hstate | ⟨hb, hd, hstate⟩ := hp.2 <;> rw [hstate]
  · refine ⟨rfl, .inl rfl, fun old new hold hnew => ?_⟩
    simp only [charged, hold, Option.map_some, Option.some.injEq] at hnew
    exact ⟨by rw [← hnew]; rfl, by rw [← hnew]; rfl⟩
  · refine ⟨rfl, .inr ⟨hb, hd, withSession_given _ _⟩, fun old new hold hnew => ?_⟩
    simp only [withSession, charged, hold, Option.map_some, Option.some.injEq] at hnew
    exact ⟨by rw [← hnew]; rfl, by rw [← hnew]; rfl⟩

theorem run_call_late (h : Phase.early.findSome? (x.fault env ctx c s) = none)
    (hq : ∀ store, s.store = some store → (store.queryTime.add? env.elapsed).isSome) :
    ∃ conn options, x.connectionOf env c s = some conn ∧
      x.plannedOptions env ctx c s = some options ∧
      ((x.call env ctx c).run s).result =
        (conn.reply c.rpc c.request options s.transport.network).mapError .transport ∧
      ((x.call env ctx c).run s).state =
        { x.withSession (x.charged ctx s c.rpc) with
          store := (x.withSession (x.charged ctx s c.rpc)).store.map
            (noted env ctx c (.of (conn.reply c.rpc c.request options s.transport.network)))
          transport := { withConnection c s conn with
            network := { (withConnection c s conn).network with
              invocations := s.transport.network.invocations ++
                conn.dispatched c.rpc c.request options } } } := by
  have hp := x.prepare_spec env ctx c s
  rw [h] at hp
  obtain ⟨conn, options, hconn, hoptions, hresult, hstate⟩ := hp
  have hq' : ∀ store, (x.withSession (x.charged ctx s c.rpc)).store = some store →
      (store.queryTime.add? env.elapsed).isSome := by
    intro store hstore
    simp only [withSession, charged, Option.map_map, Option.map_eq_some_iff] at hstore
    obtain ⟨old, hold, rfl⟩ := hstore
    exact hq old hold
  obtain ⟨hs, hr⟩ := run_call_of_prepared x ctx c s hresult hstate hq'
  have hinv : (withConnection c s conn).network.invocations = s.transport.network.invocations := by
    unfold withConnection
    split <;> rfl
  have hanswer : conn.reply c.rpc c.request options (withConnection c s conn).network =
      conn.reply c.rpc c.request options s.transport.network := by
    unfold withConnection
    split <;> rfl
  simp only [hanswer, hinv] at hs hr
  exact ⟨conn, options, hconn, hoptions, hr, hs⟩

theorem decided_by_phases
    (hq : ∀ store, s.store = some store → (store.queryTime.add? env.elapsed).isSome) :
    x.DecidedByPhases env ctx c s where
  result := by
    rw [Phase.all, List.findSome?_append]
    cases h : Phase.early.findSome? (x.fault env ctx c s) with
    | some e =>
      have hp := x.prepare_spec env ctx c s
      rw [h] at hp
      exact (run_call_of_fault _ _ _ _ hp.1).2
    | none =>
      obtain ⟨conn, options, hconn, hoptions, hresult, -⟩ := run_call_late h hq
      have hi : x.fault env ctx c s .interceptors =
          errorOf .transport (conn.intercepted c.rpc options) := by
        simp [fault, outgoing, hconn, hoptions]
      rw [hresult, Option.none_or, List.findSome?_cons, hi, Connection.reply]
      cases conn.intercepted c.rpc options with
      | error status => rfl
      | ok o =>
        simp only [errorOf, List.findSome?_singleton, fault, bind, Except.bind]
        cases s.transport.network.answer c.rpc c.request with
        | error status => rfl
        | ok response => exact ⟨response, rfl, rfl⟩
  early := by
    rintro ⟨p, hp, hfault⟩
    cases h : Phase.early.findSome? (x.fault env ctx c s) with
    | none => exact absurd (early_none_iff.1 h p hp) hfault
    | some e => exact early_trace h
  late := by
    intro hnone
    obtain ⟨conn, options, hconn, hoptions, -, hstate⟩ := run_call_late (early_none_iff.2 hnone) hq
    obtain ⟨hservice, hstorage⟩ := connectionOf_target hconn
    refine ⟨conn, options, hconn, hoptions, ?_, ?_, ?_, _, ?_, by rw [hstate]⟩
    · rw [hstate]
      simp only [withConnection]
      split <;> rfl
    · rw [hstate]
      simp only [withConnection]
      split <;> rfl
    · rw [hstate, ← hservice, ← hstorage]
      rfl
    · rw [enforcedStore_eq]
      exact withSession_given _ _

/-- The call is sent, and the two seconds that it takes are the query time of the request. -/
theorem decided_by_phases_on_new_store :
    let storage : StorageConfig := ⟨"default", "unix:/run/storage.sock", some "secret"⟩
    let x : Client := ⟨⟨(default : ClientConfig).addStorage storage, [.tracing]⟩, default,
      .fixed true, fun n => s!"session-{n}"⟩
    let env : Surroundings := ⟨.epoch, .empty, .ofSeconds 2⟩
    let ctx : RequestContext := ⟨.web none, some 0, .nobody, none, .empty⟩
    let c : Call := ⟨"default", "repository", "find", [], .ofSeconds 30, none, id⟩
    let s : CallState := ⟨some .empty, 0, default⟩
    let after := ((x.call env ctx c).run s).state
    (∀ store, s.store = some store → (store.queryTime.add? env.elapsed).isSome) ∧
      x.DecidedByPhases env ctx c s ∧
      after.transport.network.invocations.map (·.rpc) = ["find"] ∧
      after.store.map (·.queryTime) = some (.ofSeconds 2) := by
  intro storage x env ctx c s after
  have hq : ∀ store, s.store = some store → (store.queryTime.add? env.elapsed).isSome := by
    intro store hstore
    cases hstore
    rfl
  exact ⟨hq, decided_by_phases hq, by decide +kernel, by decide +kernel⟩

end StorageCalls.Client
