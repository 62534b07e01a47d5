import StorageCalls.Proofs.BudgetPart
import StorageCalls.Proofs.Sending

namespace StorageCalls

variable {α β τ : Type}

/-- A part of the state that nothing in a call changes, up to the point where it is put on record.
-/
structure Client.Leaves (x : Client) (part : CallState → τ) : Prop where
  enforce : ∀ ctx site, (x.enforce ctx site).Keeps part
  sessionId : x.sessionId.Keeps part
  connection : ∀ files service storage,
    (onTransport (x.connectionFor files service storage)).Keeps part
  invoke : ∀ (conn : Connection) rpc request options,
    (onTransport (conn.invoke rpc request options)).Keeps part
  health : ∀ (conn : Connection) options, (onTransport (conn.checkHealth options)).Keeps part

namespace Client

def settleHealth (storage : String) : Except Status HealthStatus → Stage CallState HealthStatus
  | .ok health => do
    .log (.healthChecked storage health)
    return health
  | .error status => .fail (.transport status)

theorem checkHealth_eq (x : Client) (env : Surroundings) (ctx : RequestContext) (storage : String) :
    x.checkHealth env ctx storage = (do
      let p ← x.prepare env ctx (x.healthCall storage)
      let reply ← onTransport (p.2.checkHealth p.1)
      settleHealth storage reply) := rfl

theorem keeps_settleHealth (part : CallState → τ) (storage : String)
    (reply : Except Status HealthStatus) : (settleHealth storage reply).Keeps part := by
  cases reply with
  | ok health => exact (Stage.Keeps.log _).bind fun _ => .pure _
  | error status => exact .fail _

end Client

namespace Client.Leaves

variable {x : Client} {part : CallState → τ}

theorem prepare (h : x.Leaves part) (env : Surroundings) (ctx : RequestContext) (c : Call) :
    (x.prepare env ctx c).Keeps part :=
  (h.enforce ctx c.rpc).bind fun _ => (Stage.Keeps.ensureTimeLeft env ctx).bind fun _ =>
    (Stage.Keeps.buildOptions env ctx _ _ _ h.sessionId).bind fun _ =>
      (h.connection _ _ _).bind fun _ => .pure _

theorem call (h : x.Leaves part) {env : Surroundings} {ctx : RequestContext} {c : Call}
    (hr : ∀ result, (Client.record env ctx c result).Keeps part) :
    (x.call env ctx c).Keeps part := by
  apply (h.prepare env ctx c).bind
  intro p
  apply Stage.Keeps.bind (h.invoke _ _ _ _)
  intro reply
  cases reply with
  | ok response => exact (Stage.Keeps.log _).bind fun _ => (hr _).bind fun _ => .pure _
  | error status => exact (Stage.Keeps.log _).bind fun _ => (hr _).bind fun _ => .fail _

theorem checkHealth (h : x.Leaves part) (env : Surroundings) (ctx : RequestContext)
    (storage : String) : (x.checkHealth env ctx storage).Keeps part :=
  (h.prepare env ctx (x.healthCall storage)).bind fun _ =>
    Stage.Keeps.bind (h.health _ _) fun reply => Client.keeps_settleHealth part storage reply

end Client.Leaves

theorem Client.leaves_store {π : RequestStore → τ}
    (hb : ∀ enforcing signature site s, π (Budget.charge enforcing signature site s) = π s)
    (hid : ∀ id s, π { s with sessionId := id } = π s) (x : Client) :
    x.Leaves fun s => s.store.map π where
  enforce ctx site s := by
    rw [(x.run_enforce ctx s site).1]
    obtain ⟨_ | store, issued, transport⟩ := s
    · rfl
    · exact congrArg some (hb ..)
  sessionId s := by
    rw [x.run_sessionId]
    obtain ⟨_ | store, issued, transport⟩ := s
    · rfl
    · exact congrArg some (hid ..)
  connection files service storage _ := rfl
  invoke conn rpc request options _ := rfl
  health conn options _ := rfl

/-- What the options and the interceptors of calls go by, apart from the calls themselves. A request
that is not tracked has no session that lasts. -/
structure Outlook where
  session : Option String
  quarantined : Bool
  interceptors : String → String → List Interceptor

namespace Client

def outlook (x : Client) (s : CallState) : Outlook where
  session := s.store.map fun _ => x.nextSession s
  quarantined := s.store.any (·.quarantined)
  interceptors service storage :=
    ((Registry.find? s.transport.connections service storage).map (·.interceptors)).getD
      x.interceptors

variable (x : Client)

theorem keeps_onStore_outlook {y : Stage RequestStore Unit}
    (hid : y.Keeps (·.sessionId)) (hq : y.Keeps (·.quarantined)) :
    (onStore y).Keeps x.outlook := by
  rintro ⟨_ | store, issued, transport⟩
  · rfl
  · have hid' : (y store).state.sessionId = store.sessionId := hid store
    have hq' : (y store).state.quarantined = store.quarantined := hq store
    simp [Stage.run, onStore, outlook, nextSession, hid', hq']

theorem keeps_onTransport_outlook {y : Stage Transport α}
    (h : ∀ t service storage,
      ((Registry.find? (y.run t).state.connections service storage).map (·.interceptors)).getD
          x.interceptors =
        ((Registry.find? t.connections service storage).map (·.interceptors)).getD
          x.interceptors) :
    (onTransport y).Keeps x.outlook := by
  intro s
  rw [run_onTransport, outlook, outlook]
  simp only [h]
  rfl

theorem leaves_outlook : x.Leaves x.outlook where
  enforce ctx site := by
    apply keeps_onStore_outlook
    · intro s
      rw [Stage.run, Budget.state_enforce]
      rfl
    · intro s
      rw [Stage.run, Budget.state_enforce]
      rfl
  sessionId s := by
    rw [x.run_sessionId]
    obtain ⟨_ | store, issued, transport⟩ := s <;> rfl
  connection files service storage := by
    apply keeps_onTransport_outlook
    intro t service' storage'
    simp only [Stage.run, Registry.connectionFor]
    cases hf : Registry.find? t.connections service storage with
    | some conn => rfl
    | none =>
      cases ht : x.target files service storage with
      | error fault => rfl
      | ok target =>
        simp only [Registry.connect]
        cases t.network.refusal target with
        | some reason => rfl
        | none =>
          simp only [Registry.find?_concat]
          cases Registry.find? t.connections service' storage' with
          | some conn => rfl
          | none =>
            rw [Option.none_or]
            split <;> rfl
  invoke conn rpc request options := by
    apply keeps_onTransport_outlook
    intro t _ _
    rw [(conn.run_invoke rpc request options t).1]
  health conn options := by
    apply keeps_onTransport_outlook
    intro t _ _
    simp only [Stage.run, Connection.checkHealth]
    split <;> rfl

variable (env : Surroundings) (ctx : RequestContext) (c : Call)

theorem state_record (result : CallResult) (s : CallState) :
    ((record env ctx c result).run s).state = s ∨
      ((record env ctx c result).run s).state =
        { s with store := s.store.map (noted env ctx c result) } := by
  obtain ⟨_ | store, issued, transport⟩ := s
  · exact .inl rfl
  · cases hd : store.queryTime.add? env.elapsed with
    | some d =>
      right
      apply (run_record ctx c result _).1
      rintro _ ⟨⟩
      rw [hd]
      rfl
    | none =>
      rw [record, run_onStore_some _ rfl]
      cases result with
      | ok =>
        left
        have hspend : spend env.elapsed .ok store = ⟨store, [], .error .timeOverflow⟩ := by
          simp [spend, RequestStore.addQueryTime?, hd]
        simp only [bind, hspend, Outcome.andThen]
      | failed code =>
        right
        simp only [bind, spend, pure, Outcome.andThen, Stage.update]
        simp only [noted, RequestStore.addDetail, Option.map_some]
        split <;> simp

theorem keeps_outlook_record (result : CallResult) :
    (record env ctx c result).Keeps x.outlook := by
  intro s
  obtain h | h := state_record env ctx c result s
  · rw [h]
  · rw [h]
    obtain ⟨_ | store, issued, transport⟩ := s <;> rfl

/-- No call changes what the calls after it go by. -/
theorem keeps_outlook_call : (x.call env ctx c).Keeps x.outlook :=
  x.leaves_outlook.call (keeps_outlook_record x env ctx c)

theorem keeps_outlook_checkHealth (storage : String) :
    (x.checkHealth env ctx storage).Keeps x.outlook :=
  x.leaves_outlook.checkHealth env ctx storage

def detailsOf (s : CallState) : List CallRecord := (s.store.map (·.details)).getD []

theorem leaves_detailsOf : x.Leaves detailsOf where
  enforce ctx site s := by
    rw [(x.run_enforce ctx s site).1]
    obtain ⟨_ | store, issued, transport⟩ := s <;> rfl
  sessionId s := by
    rw [x.run_sessionId]
    obtain ⟨_ | store, issued, transport⟩ := s <;> rfl
  connection files service storage _ := rfl
  invoke conn rpc request options _ := rfl
  health conn options _ := rfl

/-- A stage that adds to the details only what is noted for the given call site. -/
def Notes (site : Option String) (y : Stage CallState α) : Prop :=
  ∀ s, ∃ new, detailsOf (y.run s).state = detailsOf s ++ new ∧ ∀ r ∈ new, r.callSite = site

namespace Notes

variable {site : Option String}

theorem of_keeps {y : Stage CallState α} (h : y.Keeps detailsOf) : Notes site y := by
  intro s
  refine ⟨[], ?_, by simp⟩
  rw [h s, List.append_nil]

theorem bind {y : Stage CallState α} {f : α → Stage CallState β} (hy : Notes site y)
    (hf : ∀ a, Notes site (f a)) : Notes site (y >>= f) := by
  intro s
  cases h : (y.run s).result with
  | ok a =>
    rw [Stage.state_bind_of_ok h]
    obtain ⟨new, hnew, hsite⟩ := hy s
    obtain ⟨more, hmore, hsite'⟩ := hf a (y.run s).state
    refine ⟨new ++ more, by rw [hmore, hnew, List.append_assoc], fun r hr => ?_⟩
    exact (List.mem_append.1 hr).elim (hsite r) (hsite' r)
  | error e =>
    rw [Stage.state_bind_of_error h]
    exact hy s

theorem record (result : CallResult) : Notes ctx.callSite (record env ctx c result) := by
  intro s
  obtain h | h := state_record env ctx c result s <;> rw [h]
  · exact ⟨[], (List.append_nil _).symm, by simp⟩
  · obtain ⟨_ | store, issued, transport⟩ := s
    · exact ⟨[], rfl, by simp⟩
    · cases hk : store.keepsDetails with
      | true =>
        refine ⟨[⟨ctx.callSite, c.storage, c.service, c.rpc, env.elapsed, result⟩], ?_, ?_⟩
        · simp [detailsOf, noted, hk]
        · simp
      | false => exact ⟨[], by simp [detailsOf, noted, hk], by simp⟩

theorem call : Notes ctx.callSite (x.call env ctx c) := by
  apply (of_keeps (x.leaves_detailsOf.prepare env ctx c)).bind
  intro p
  apply (of_keeps (x.leaves_detailsOf.invoke _ _ _ _)).bind
  intro reply
  cases reply with
  | ok response =>
    exact (of_keeps (.log _)).bind fun _ => (record env ctx c _).bind fun _ => of_keeps (.pure _)
  | error status =>
    exact (of_keeps (.log _)).bind fun _ => (record env ctx c _).bind fun _ => of_keeps (.fail _)

end Notes

end Client

end StorageCalls
