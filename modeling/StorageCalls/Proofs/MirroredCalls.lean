import StorageCalls.Proofs.AnonymousCalls
import StorageCalls.Proofs.CallDelivery
import StorageCalls.Proofs.Parallel

namespace StorageCalls

variable {α β : Type}

namespace Duration

def tooManyTicks : Nat := 0x10000000000000000 * ticksPerSecond

theorem add?_eq_none_iff {a b : Duration} :
    a.add? b = none ↔ tooManyTicks ≤ a.ticks + b.ticks := by
  unfold add? ofTicks?
  split
  · next h => exact iff_of_false (by simp) (Nat.not_le.2 h)
  · next h => exact iff_of_true rfl (Nat.not_lt.1 h)

end Duration

/-- What is known of the store of a request that is not in quarantine. -/
structure RequestStore.Plain (limit : Nat) (s : RequestStore) : Prop where
  unquarantined : s.quarantined = false
  time : s.queryTime.ticks ≤ limit

/-- The state in a request that is tracked, next to that in one that is not. -/
structure CallState.Mirrors (limit : Nat) (s s' : CallState) : Prop where
  untracked : s'.store = none
  plain : ∀ store ∈ s.store, store.Plain limit
  transport : s.transport.anonymous = s'.transport.anonymous
  blind : ∀ conn ∈ s.transport.connections, conn.Blind

theorem RequestStore.Plain.mono {limit later : Nat} {s : RequestStore} (h : s.Plain limit)
    (hle : limit ≤ later) : s.Plain later := ⟨h.unquarantined, Nat.le_trans h.time hle⟩

theorem CallState.Mirrors.mono {limit later : Nat} {s s' : CallState} (h : s.Mirrors limit s')
    (hle : limit ≤ later) : s.Mirrors later s' :=
  { h with plain := fun store hstore => (h.plain store hstore).mono hle }

/-- Stages that do the same, each in a state of its own, but for the store and the session ids. -/
def Stage.Mirrored (Q : α → α → Prop) (y z : Stage CallState α) : Prop :=
  ∀ limit s s', CallState.Mirrors limit s s' →
    CallState.Mirrors limit (y.run s).state (z.run s').state ∧
      Pair.Related Q (y.run s).result (z.run s').result

namespace Stage.Mirrored

variable {Q : α → α → Prop} {T : β → β → Prop} {y z : Stage CallState α}
  {f g : α → Stage CallState β}

theorem bind (hy : Mirrored Q y z) (hf : ∀ a b, Q a b → Mirrored T (f a) (g b)) :
    Mirrored T (y >>= f) (z >>= g) := by
  intro limit s s' h
  obtain ⟨hstate, hresult⟩ := hy limit s s' h
  cases hr : (y.run s).result with
  | ok a =>
    rw [hr] at hresult
    obtain ⟨b, hr', hQ⟩ := hresult.of_ok
    rw [state_bind_of_ok hr, state_bind_of_ok hr', result_bind_of_ok hr, result_bind_of_ok hr']
    exact hf a b hQ limit _ _ hstate
  | error e =>
    rw [hr] at hresult
    have hr' := hresult.of_error
    rw [state_bind_of_error hr, state_bind_of_error hr', result_bind_of_error hr,
      result_bind_of_error hr']
    exact ⟨hstate, rfl⟩

theorem pure {a b : α} (h : Q a b) : Mirrored Q (Pure.pure a) (Pure.pure b) :=
  fun _ _ _ hs => ⟨hs, h⟩

theorem fail (e : CallError) : Mirrored Q (Stage.fail e) (Stage.fail e) := fun _ _ _ hs => ⟨hs, rfl⟩

theorem log (e : Event) : Mirrored Eq (Stage.log e : Stage CallState Unit) (Stage.log e) :=
  fun _ _ _ hs => ⟨hs, rfl⟩

theorem read : Mirrored (fun s s' => ∃ limit, s.Mirrors limit s') Stage.read Stage.read :=
  fun limit _ _ hs => ⟨hs, limit, hs⟩

theorem ofConfiguration (r : Except ConfigurationFault α) :
    Mirrored Eq (Stage.ofConfiguration r : Stage CallState α) (.ofConfiguration r) := by
  cases r with
  | ok a => exact pure rfl
  | error fault => exact fail _

theorem onStore {y : Stage RequestStore Unit}
    (hplain : ∀ limit s, RequestStore.Plain limit s → (y.run s).state.Plain limit)
    (hresult : ∀ s, (y.run s).result = .ok ()) :
    Mirrored Eq (StorageCalls.onStore y) (StorageCalls.onStore y) := by
  rintro limit ⟨store, issued, transport⟩ ⟨_, issued', transport'⟩ ⟨rfl, hs, ht, hb⟩
  cases store with
  | none => exact ⟨⟨rfl, hs, ht, hb⟩, rfl⟩
  | some store =>
    rw [run_onStore_some y rfl]
    refine ⟨⟨rfl, ?_, ht, hb⟩, ?_⟩
    · rintro _ ⟨⟩
      exact hplain limit store (hs store rfl)
    · have hr : (y store).result = .ok () := hresult store
      rw [hr]
      rfl

theorem onTransport {y z : Stage Transport α}
    (h : ∀ t t' : Transport, t.anonymous = t'.anonymous → (∀ conn ∈ t.connections, conn.Blind) →
      (y.run t).state.anonymous = (z.run t').state.anonymous ∧
        (∀ conn ∈ (y.run t).state.connections, conn.Blind) ∧
          Pair.Related Q (y.run t).result (z.run t').result) :
    Mirrored Q (StorageCalls.onTransport y) (StorageCalls.onTransport z) := by
  intro limit s s' hs
  obtain ⟨htransport, hblind, hresult⟩ := h s.transport s'.transport hs.transport hs.blind
  rw [run_onTransport, run_onTransport]
  exact ⟨⟨hs.untracked, hs.plain, htransport, hblind⟩, hresult⟩

end Stage.Mirrored

namespace Client

variable (x : Client) (env : Surroundings) (ctx : RequestContext)

theorem mirrored_enforce (hoff : x.isEnforcing = false) (site : String) :
    Stage.Mirrored Eq (x.enforce ctx site) (x.enforce ctx site) := by
  apply Stage.Mirrored.onStore
  · intro limit s hs
    rw [Stage.run, Budget.state_enforce]
    exact ⟨hs.unquarantined, hs.time⟩
  · intro s
    rw [Stage.run, Budget.result_enforce, Budget.refusal, Budget.counts, hoff, Bool.false_and,
      if_neg (by simp)]
    rfl

theorem mirrored_ensureTimeLeft :
    Stage.Mirrored Eq (ensureTimeLeft env ctx) (ensureTimeLeft env ctx) := by
  unfold ensureTimeLeft
  split
  · exact .fail _
  · exact .pure rfl

theorem mirrored_sessionId : Stage.Mirrored (fun _ _ => True) x.sessionId x.sessionId := by
  intro limit s s' hs
  rw [x.run_sessionId, x.run_sessionId]
  refine ⟨⟨?_, ?_, hs.transport, hs.blind⟩, trivial⟩
  · rw [withSession, hs.untracked]
    rfl
  · intro store hstore
    obtain ⟨old, hold, rfl⟩ := Option.map_eq_some_iff.1 hstore
    obtain ⟨hunquarantined, htime⟩ := hs.plain old hold
    exact ⟨hunquarantined, htime⟩

theorem mirrored_delegation {m m' : Metadata} (h : m.anonymous = m'.anonymous)
    (remote : Option String) :
    Stage.Mirrored (fun m m' : Metadata => m.anonymous = m'.anonymous)
      (.ofConfiguration (x.delegation m remote)) (.ofConfiguration (x.delegation m' remote)) := by
  cases remote with
  | none => exact .pure h
  | some name =>
    simp only [delegation]
    cases x.config.resolve name with
    | error fault => exact .fail (.configuration fault)
    | ok resolved => exact .pure (Metadata.anonymous_insert h _ _)

theorem mirrored_buildOptions (storage : String) (timeout : Duration) (remote : Option String) :
    Stage.Mirrored (fun o o' => o.anonymous = o'.anonymous)
      (x.buildOptions env ctx storage timeout remote)
      (x.buildOptions env ctx storage timeout remote) := by
  apply Stage.Mirrored.bind (.ofConfiguration _)
  rintro token _ rfl
  apply Stage.Mirrored.bind (x.mirrored_sessionId)
  intro id id' _
  have hidentity := x.anonymous_identity env ctx token id id'
  apply Stage.Mirrored.bind (x.mirrored_delegation hidentity remote)
  intro m m' hm
  apply Stage.Mirrored.bind .read
  rintro s s' ⟨limit, hs⟩
  have hquarantined : s.store.any (·.quarantined) = false := by
    cases hstore : s.store with
    | none => rfl
    | some store => exact (hs.plain store hstore).unquarantined
  rw [hquarantined, hs.untracked]
  apply Stage.Mirrored.pure
  simp only [routing, Option.any_none, Bool.false_eq_true, if_false, CallOptions.anonymous,
    anonymous_labelDeadline hm]

end Client

namespace Registry

variable (r : Registry) (files : Files) (service storage : String)

theorem mirrored_connectionFor (hr : ∀ i ∈ r.interceptors, i.Blind) :
    Stage.Mirrored (fun c d => c = d ∧ c.Blind)
      (onTransport (r.connectionFor files service storage))
      (onTransport (r.connectionFor files service storage)) := by
  apply Stage.Mirrored.onTransport
  intro t t' htransport ht
  have hrun := r.connectionFor_anonymous files service storage t
  rw [htransport, connectionFor_anonymous] at hrun
  obtain ⟨hstate, -, hresult⟩ := Outcome.mk.inj hrun
  obtain ⟨hblind, hfound⟩ := r.blind_connectionFor files service storage hr ht
  refine ⟨hstate.symm, hblind, ?_⟩
  rw [hresult]
  cases hc : ((r.connectionFor files service storage).run t).result with
  | error e => rfl
  | ok conn => exact ⟨rfl, hfound conn hc⟩

end Registry

namespace Connection

variable {conn : Connection} {o o' : CallOptions}

theorem mirrored_send {y : CallOptions → Stage Transport (Except Status α)} (hconn : conn.Blind)
    (rpc : String) (sent : CallOptions → Invocation) (answer : Network → Except Status α)
    (hy : ∀ o t, (y o).run t =
      match Interceptor.runAll conn.target.service rpc conn.interceptors o with
      | (events, .error status) => ⟨t, events, .ok (.error status)⟩
      | (events, .ok out) =>
        ⟨{ t with network := t.network.record (sent out) }, events, .ok (answer t.network)⟩)
    (hsent : ∀ o o', o.anonymous = o'.anonymous → (sent o).anonymous = (sent o').anonymous)
    (hanswer : ∀ n : Network, answer n.anonymous = answer n) (h : o.anonymous = o'.anonymous) :
    Stage.Mirrored Eq (onTransport (y o)) (onTransport (y o')) := by
  apply Stage.Mirrored.onTransport
  intro t t' ht hblind
  have hi := anonymous_intercepted hconn rpc h
  unfold intercepted at hi
  rw [← Interceptor.runAll_eq_foldlM, ← Interceptor.runAll_eq_foldlM] at hi
  obtain ⟨hconnections, hnetwork⟩ := Transport.mk.inj ht
  rw [hy, hy]
  generalize Interceptor.runAll conn.target.service rpc conn.interceptors o = r at hi ⊢
  generalize Interceptor.runAll conn.target.service rpc conn.interceptors o' = r' at hi ⊢
  obtain ⟨events, status | out⟩ := r
  · obtain ⟨events', status' | out'⟩ := r'
    · cases hi
      exact ⟨ht, hblind, rfl⟩
    · cases hi
  · obtain ⟨events', status' | out'⟩ := r'
    · cases hi
    · have hout := hsent out out' (Except.ok.inj hi)
      have hanswers : answer t.network = answer t'.network := by
        rw [← hanswer, hnetwork, hanswer]
      refine ⟨?_, hblind, hanswers⟩
      simp only [Transport.anonymous, Transport.mk.injEq]
      refine ⟨hconnections, ?_⟩
      rw [Network.anonymous_record, Network.anonymous_record, hnetwork, hout]

theorem mirrored_invoke (hconn : conn.Blind) (rpc : String) (request : Bytes)
    (h : o.anonymous = o'.anonymous) :
    Stage.Mirrored Eq (onTransport (conn.invoke rpc request o))
      (onTransport (conn.invoke rpc request o')) := by
  apply mirrored_send hconn rpc
    (fun out => ⟨conn.target.storage, conn.target.service, rpc, request, out⟩)
    (fun n => n.answer rpc request) (fun _ _ => rfl) _ (fun _ => rfl) h
  intro out out' hout
  simp only [Invocation.anonymous, hout]

theorem mirrored_checkHealth (hconn : conn.Blind) (h : o.anonymous = o'.anonymous) :
    Stage.Mirrored Eq (onTransport (conn.checkHealth o)) (onTransport (conn.checkHealth o')) := by
  apply mirrored_send hconn healthRpc
    (fun out => ⟨conn.target.storage, healthService, healthRpc, [], out⟩)
    (fun n => n.health) (fun _ _ => rfl) _ (fun _ => rfl) h
  intro out out' hout
  simp only [Invocation.anonymous, hout]

end Connection

namespace Client

variable {x : Client} (env : Surroundings) (ctx : RequestContext) {c : Call} {limit : Nat}
  {s s' : CallState}

theorem mirrored_prepare (hoff : x.isEnforcing = false) (hx : ∀ i ∈ x.interceptors, i.Blind)
    (hm : CallOptions.BlindChange c.mutate) :
    Stage.Mirrored (fun p q => p.1.anonymous = q.1.anonymous ∧ p.2 = q.2 ∧ p.2.Blind)
      (x.prepare env ctx c) (x.prepare env ctx c) := by
  apply Stage.Mirrored.bind (x.mirrored_enforce ctx hoff c.rpc)
  rintro _ _ -
  apply Stage.Mirrored.bind (mirrored_ensureTimeLeft env ctx)
  rintro _ _ -
  apply Stage.Mirrored.bind (x.mirrored_buildOptions env ctx c.storage c.timeout c.remote)
  intro o o' ho
  apply Stage.Mirrored.bind (x.toRegistry.mirrored_connectionFor env.files c.service c.storage hx)
  rintro conn _ ⟨rfl, hconn⟩
  exact .pure ⟨hm o o' ho, rfl, hconn⟩

variable (x c) in
def exchange : Stage CallState (Except Status Bytes) := do
  let p ← x.prepare env ctx c
  onTransport (p.2.invoke c.rpc c.request p.1)

theorem call_eq_exchange : x.call env ctx c = x.exchange env ctx c >>= settle env ctx c := by
  rw [call_eq, exchange, Stage.bind_assoc]

theorem mirrored_exchange (hoff : x.isEnforcing = false) (hx : ∀ i ∈ x.interceptors, i.Blind)
    (hm : CallOptions.BlindChange c.mutate) :
    Stage.Mirrored Eq (x.exchange env ctx c) (x.exchange env ctx c) := by
  apply Stage.Mirrored.bind (mirrored_prepare env ctx hoff hx hm)
  rintro ⟨o, conn⟩ ⟨o', _⟩ ⟨ho, rfl, hconn⟩
  exact Connection.mirrored_invoke hconn c.rpc c.request ho

theorem mirrored_checkHealth (hoff : x.isEnforcing = false) (hx : ∀ i ∈ x.interceptors, i.Blind)
    (storage : String) :
    Stage.Mirrored Eq (x.checkHealth env ctx storage) (x.checkHealth env ctx storage) := by
  rw [checkHealth_eq]
  apply Stage.Mirrored.bind (mirrored_prepare env ctx hoff hx fun _ _ h => h)
  rintro ⟨o, conn⟩ ⟨o', _⟩ ⟨ho, rfl, hconn⟩
  apply Stage.Mirrored.bind (Connection.mirrored_checkHealth hconn ho)
  rintro reply _ rfl
  cases reply with
  | ok health =>
    apply Stage.Mirrored.bind (.log _)
    rintro _ _ -
    exact .pure rfl
  | error status => exact .fail _

theorem state_settle (c : Call) (s : CallState) (reply : Except Status Bytes) :
    ((settle env ctx c reply).run s).state = s ∨
      ((settle env ctx c reply).run s).state =
        { s with store := s.store.map (noted env ctx c (.of reply)) } := by
  have hlast (result : CallResult) (last : Stage CallState Bytes) (hl : last.Keeps id) :
      ((record env ctx c result >>= fun _ => last).run s).state =
        ((record env ctx c result).run s).state := by
    cases hr : ((record env ctx c result).run s).result with
    | ok _ =>
      rw [Stage.state_bind_of_ok hr]
      exact hl _
    | error e => rw [Stage.state_bind_of_error hr]
  cases reply with
  | ok response =>
    rw [settle, Stage.state_log_bind, hlast _ _ (.pure _)]
    exact state_record env ctx c .ok s
  | error status =>
    rw [settle, Stage.state_log_bind, hlast _ _ (.fail _)]
    exact state_record env ctx c (.failed status.code) s

theorem plain_noted (result : CallResult) {store : RequestStore} (h : store.Plain limit) :
    (noted env ctx c result store).Plain (limit + env.elapsed.ticks) := by
  refine ⟨h.unquarantined, ?_⟩
  have htime := h.time
  simp only [noted]
  split
  · cases hd : store.queryTime.add? env.elapsed with
    | none => exact Nat.le_add_right_of_le htime
    | some d =>
      rw [Option.getD_some, Duration.add?_eq_some_iff.1 hd]
      omega
  · exact Nat.le_add_right_of_le htime

theorem mirrors_settle (reply : Except Status Bytes) (h : s.Mirrors limit s') :
    CallState.Mirrors (limit + env.elapsed.ticks) ((settle env ctx c reply).run s).state
      ((settle env ctx c reply).run s').state := by
  have hright : ((settle env ctx c reply).run s').state = s' := by
    obtain hstate | hstate := state_settle env ctx c s' reply
    · exact hstate
    · rw [hstate, h.untracked, Option.map_none, ← h.untracked]
  rw [hright]
  obtain hstate | hstate := state_settle env ctx c s reply
  · rw [hstate]
    exact h.mono (Nat.le_add_right _ _)
  · rw [hstate]
    refine { h with plain := fun store hstore => ?_ }
    obtain ⟨old, hold, rfl⟩ := Option.map_eq_some_iff.1 hstore
    exact plain_noted env ctx _ (h.plain old hold)

theorem result_settle_mirrors (reply : Except Status Bytes) (h : s.Mirrors limit s') :
    ((settle env ctx c reply).run s).result = ((settle env ctx c reply).run s').result ∨
      ((settle env ctx c reply).run s).result = .error .timeOverflow ∧
        (∃ response, ((settle env ctx c reply).run s').result = .ok response) ∧
          Duration.tooManyTicks ≤ limit + env.elapsed.ticks := by
  rw [result_settle, result_settle]
  cases reply with
  | error status => exact .inl rfl
  | ok response =>
    have hright : told env.elapsed s' (.ok response) = .ok response := by
      rw [told, recordOf, h.untracked]
      rfl
    rw [hright, told, recordOf]
    cases hstore : s.store with
    | none => exact .inl rfl
    | some store =>
      rw [Option.map_some, Option.all_some]
      cases hd : store.queryTime.add? env.elapsed with
      | some d => exact .inl rfl
      | none =>
        have hover := Duration.add?_eq_none_iff.1 hd
        have htime := (h.plain store hstore).time
        refine .inr ⟨rfl, ⟨response, rfl⟩, ?_⟩
        omega

/-- A call in a request that is tracked, next to the same call in one that is not. -/
theorem mirrors_call (hoff : x.isEnforcing = false) (hx : ∀ i ∈ x.interceptors, i.Blind)
    (hm : CallOptions.BlindChange c.mutate) (h : s.Mirrors limit s') :
    CallState.Mirrors (limit + env.elapsed.ticks) ((x.call env ctx c).run s).state
        ((x.call env ctx c).run s').state ∧
      (((x.call env ctx c).run s).result = ((x.call env ctx c).run s').result ∨
        ((x.call env ctx c).run s).result = .error .timeOverflow ∧
          (∃ response, ((x.call env ctx c).run s').result = .ok response) ∧
            Duration.tooManyTicks ≤ limit + env.elapsed.ticks) := by
  obtain ⟨hstate, hresult⟩ := mirrored_exchange env ctx hoff hx hm limit s s' h
  -- only the record can fail on one side alone, and it comes after all that others see of the call
  rw [call_eq_exchange]
  cases hr : ((x.exchange env ctx c).run s).result with
  | ok reply =>
    rw [hr] at hresult
    obtain ⟨_, hr', rfl⟩ := hresult.of_ok
    rw [Stage.state_bind_of_ok hr, Stage.state_bind_of_ok hr', Stage.result_bind_of_ok hr,
      Stage.result_bind_of_ok hr']
    exact ⟨mirrors_settle env ctx reply hstate, result_settle_mirrors env ctx reply hstate⟩
  | error e =>
    rw [hr] at hresult
    have hr' := hresult.of_error
    rw [Stage.state_bind_of_error hr, Stage.state_bind_of_error hr',
      Stage.result_bind_of_error hr, Stage.result_bind_of_error hr']
    exact ⟨hstate.mono (Nat.le_add_right _ _), .inl rfl⟩

end Client

end StorageCalls
