import StorageCalls.Proofs.CallPhases

namespace StorageCalls

theorem Interceptor.runAll_eq_foldlM (service rpc : String) (is : List Interceptor)
    (options : CallOptions) :
    (Interceptor.runAll service rpc is options).2 =
      is.foldlM (fun o i => (i service rpc o).2) options := by
  induction is generalizing options with
  | nil => rfl
  | cons i rest ih =>
    rw [Interceptor.runAll, List.foldlM_cons]
    obtain ⟨events, status | next⟩ := i service rpc options
    · rfl
    · exact ih next

namespace Connection

variable (conn : Connection) (rpc : String) (request : Bytes) (options : CallOptions)

def dispatched : List Invocation :=
  match conn.intercepted rpc options with
  | .ok o => [⟨conn.target.storage, conn.target.service, rpc, request, o⟩]
  | .error _ => []

def reply (n : Network) : Except Status Bytes :=
  conn.intercepted rpc options >>= fun _ => n.answer rpc request

theorem run_invoke (t : Transport) :
    ((conn.invoke rpc request options).run t).state =
        { t with network := { t.network with
          invocations := t.network.invocations ++ conn.dispatched rpc request options } } ∧
      ((conn.invoke rpc request options).run t).result =
        .ok (conn.reply rpc request options t.network) := by
  have h := Interceptor.runAll_eq_foldlM conn.target.service rpc conn.interceptors options
  unfold dispatched reply intercepted
  rw [← h, Stage.run, invoke]
  obtain ⟨events, status | o⟩ :=
    Interceptor.runAll conn.target.service rpc conn.interceptors options
  · exact ⟨by rw [List.append_nil], rfl⟩
  · exact ⟨rfl, rfl⟩

end Connection

/-- At most the session id is new. -/
def SessionGiven (before after : Option RequestStore) : Prop :=
  ∃ id, after = before.map (fun store => { store with sessionId := some id }) ∧
    ∀ store ∈ before, store.sessionId = none ∨ store.sessionId = some id

def CallResult.of : Except Status Bytes → CallResult
  | .ok _ => .ok
  | .error status => .failed status.code

namespace Client

variable (x : Client) (env : Surroundings) (ctx : RequestContext) (c : Call) (s : CallState)

def noted (result : CallResult) (store : RequestStore) : RequestStore :=
  { store with
    queryTime :=
      if result = .ok then (store.queryTime.add? env.elapsed).getD store.queryTime
      else store.queryTime
    details :=
      if store.keepsDetails then
        store.details ++ [⟨ctx.callSite, c.storage, c.service, c.rpc, env.elapsed, result⟩]
      else store.details }

def settle : Except Status Bytes → Stage CallState Bytes
  | .ok response => do
    .log (.callCompleted c.storage c.service c.rpc)
    record env ctx c .ok
    return response
  | .error status => do
    .log (.callFailed c.storage c.service c.rpc status.code)
    record env ctx c (.failed status.code)
    .fail (.transport status)

theorem call_eq : x.call env ctx c = (do
    let p ← x.prepare env ctx c
    let reply ← onTransport (p.2.invoke c.rpc c.request p.1)
    settle env ctx c reply) := rfl

theorem withSession_given : SessionGiven s.store (x.withSession s).store := by
  refine ⟨x.nextSession s, rfl, ?_⟩
  intro store hs
  rw [Option.mem_def] at hs
  cases hid : store.sessionId with
  | none => exact .inl rfl
  | some id => exact .inr (by simp [nextSession, hs, hid])

variable {env}

theorem run_record (result : CallResult) {s : CallState}
    (hq : ∀ store, s.store = some store → (store.queryTime.add? env.elapsed).isSome) :
    ((record env ctx c result).run s).state =
        { s with store := s.store.map (noted env ctx c result) } ∧
      ((record env ctx c result).run s).result = .ok () := by
  obtain ⟨_ | store, issued, transport⟩ := s
  · exact ⟨rfl, rfl⟩
  · obtain ⟨d, hd⟩ := Option.isSome_iff_exists.1 (hq store rfl)
    rw [record, run_onStore_some _ rfl]
    cases result with
    | ok =>
      have hspend : spend env.elapsed .ok store = ⟨{ store with queryTime := d }, [], .ok ()⟩ := by
        simp [spend, RequestStore.addQueryTime?, hd]
      simp only [bind, hspend, Outcome.andThen, Stage.update]
      refine ⟨?_, trivial⟩
      simp only [noted, RequestStore.addDetail, Option.map_some, hd]
      split <;> simp
    | failed code =>
      simp only [bind, spend, pure, Outcome.andThen, Stage.update]
      refine ⟨?_, trivial⟩
      simp only [noted, RequestStore.addDetail, Option.map_some]
      split <;> simp

theorem run_settle (reply : Except Status Bytes) {s : CallState}
    (hq : ∀ store, s.store = some store → (store.queryTime.add? env.elapsed).isSome) :
    ((settle env ctx c reply).run s).state =
        { s with store := s.store.map (noted env ctx c (.of reply)) } ∧
      ((settle env ctx c reply).run s).result = reply.mapError .transport := by
  cases reply with
  | ok response =>
    obtain ⟨hs, hr⟩ := run_record ctx c .ok hq
    rw [settle, Stage.state_log_bind, Stage.result_log_bind, Stage.state_bind_of_ok hr,
      Stage.result_bind_of_ok hr]
    exact ⟨hs, rfl⟩
  | error status =>
    obtain ⟨hs, hr⟩ := run_record ctx c (.failed status.code) hq
    rw [settle, Stage.state_log_bind, Stage.result_log_bind, Stage.state_bind_of_ok hr,
      Stage.result_bind_of_ok hr]
    exact ⟨hs, rfl⟩

/-- A call that gets a connection sends what the interceptors let through. -/
theorem run_call_of_prepared {options : CallOptions} {conn : Connection} {t : CallState}
    (hr : ((x.prepare env ctx c).run s).result = .ok (options, conn))
    (ht : ((x.prepare env ctx c).run s).state = t)
    (hq : ∀ store, t.store = some store → (store.queryTime.add? env.elapsed).isSome) :
    let reply := conn.reply c.rpc c.request options t.transport.network
    ((x.call env ctx c).run s).state =
        { t with
          store := t.store.map (noted env ctx c (.of reply))
          transport := { t.transport with network := { t.transport.network with
            invocations := t.transport.network.invocations ++
              conn.dispatched c.rpc c.request options } } } ∧
      ((x.call env ctx c).run s).result = reply.mapError .transport := by
  intro reply
  obtain ⟨hstate, hresult⟩ := conn.run_invoke c.rpc c.request options t.transport
  have hi : ((onTransport (conn.invoke c.rpc c.request options)).run t).result = .ok reply := by
    rw [run_onTransport, hresult]
  rw [call_eq, Stage.state_bind_of_ok hr, Stage.result_bind_of_ok hr, ht,
    Stage.state_bind_of_ok hi, Stage.result_bind_of_ok hi, run_onTransport, hstate]
  exact run_settle ctx c reply hq

theorem run_call_of_fault {e : CallError} (h : ((x.prepare env ctx c).run s).result = .error e) :
    ((x.call env ctx c).run s).state = ((x.prepare env ctx c).run s).state ∧
      ((x.call env ctx c).run s).result = .error e := by
  rw [call_eq]
  exact ⟨Stage.state_bind_of_error h, Stage.result_bind_of_error h⟩

end Client

end StorageCalls
