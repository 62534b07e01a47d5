import StorageCalls.Proofs.Parallel

namespace StorageCalls

variable {α : Type}

def Connection.Like (c d : Connection) : Prop :=
  c.target = d.target ∧ c.interceptors = d.interceptors

namespace Connection.Like

variable {c d : Connection}

theorem invoke_eq (h : c.Like d) : c.invoke = d.invoke := by
  funext rpc request options t
  rw [invoke, invoke, h.1, h.2]

theorem checkHealth_eq (h : c.Like d) : c.checkHealth = d.checkHealth := by
  funext options t
  rw [checkHealth, checkHealth, h.1, h.2]

end Connection.Like

namespace Pair

variable {P : Pair} {T U : Duration → Duration → Prop}

theorem parallel_connectionFor (service storage : String) :
    P.Parallel (P.Alike T) (P.Alike T) Connection.Like
      (onTransport (P.client.connectionFor P.files service storage))
      (onTransport (P.other.connectionFor P.files service storage)) := by
  apply parallel_onTransport (Registry.Steady.upholds.connectionFor service storage)
    (Registry.Steady.upholds.connectionFor service storage)
  intro t t' ht ht'
  have hl := Registry.looked ht service storage
  have hl' := Registry.looked ht' service storage
  refine ⟨⟨[], hl.sent.trans (List.append_nil _).symm, hl'.sent.trans (List.append_nil _).symm⟩, ?_⟩
  have hr := hl.result
  have hr' := hl'.result
  change Related _ _ ((P.client.connectionFor P.files service storage).run t').result
  cases ht : P.client.target P.files service storage with
  | error fault =>
    simp only [ht] at hr hr'
    rw [hr, hr']
    rfl
  | ok target =>
    simp only [ht] at hr hr'
    cases hn : P.network.refusal target with
    | some reason =>
      simp only [hn] at hr hr'
      rw [hr, hr']
      rfl
    | none =>
      simp only [hn] at hr hr'
      obtain ⟨c, hc, htarget, hinterceptors⟩ := hr
      obtain ⟨d, hd, htarget', hinterceptors'⟩ := hr'
      rw [hc, hd]
      exact ⟨htarget.trans htarget'.symm, hinterceptors.trans hinterceptors'.symm⟩

theorem parallel_send {y : Stage Transport (Except Status α)} (sent : List Invocation)
    (reply : Except Status α) (hy : y.Preserves (P.client.Steady P.files P.network))
    (hsent : ∀ t, (y.run t).state.network.invocations = t.network.invocations ++ sent)
    (hreply : ∀ t : Transport, t.network.Like P.network → (y.run t).result = .ok reply) :
    P.Parallel (P.Alike T) (P.Alike T) Eq (onTransport y) (onTransport y) := by
  apply parallel_onTransport hy hy
  intro t t' ht ht'
  refine ⟨⟨sent, hsent t, hsent t'⟩, ?_⟩
  rw [hreply t ht.network, hreply t' ht'.network]
  rfl

theorem parallel_invoke {c d : Connection} (h : c.Like d) (rpc : String) (request : Bytes)
    (options : CallOptions) :
    P.Parallel (P.Alike T) (P.Alike T) Eq (onTransport (c.invoke rpc request options))
      (onTransport (d.invoke rpc request options)) := by
  rw [← h.invoke_eq]
  apply parallel_send (c.dispatched rpc request options) (c.reply rpc request options P.network)
    (Registry.Steady.upholds.invoke c rpc request options)
  · intro t
    rw [(c.run_invoke rpc request options t).1]
  · intro t hlike
    rw [(c.run_invoke rpc request options t).2, Connection.reply, Connection.reply,
      hlike.answer_eq]

theorem parallel_checkHealth_on {c d : Connection} (h : c.Like d) (options : CallOptions) :
    P.Parallel (P.Alike T) (P.Alike T) Eq (onTransport (c.checkHealth options))
      (onTransport (d.checkHealth options)) := by
  rw [← h.checkHealth_eq]
  cases hrun : Interceptor.runAll c.target.service Connection.healthRpc c.interceptors options with
  | mk events result =>
    cases result with
    | error status =>
      apply parallel_send [] (.error status) (Registry.Steady.upholds.checkHealth c options)
      · intro t
        rw [Stage.run, Connection.checkHealth, hrun, List.append_nil]
      · intro t _
        rw [Stage.run, Connection.checkHealth, hrun]
    | ok o =>
      apply parallel_send
        [⟨c.target.storage, Connection.healthService, Connection.healthRpc, [], o⟩]
        P.network.health (Registry.Steady.upholds.checkHealth c options)
      · intro t
        rw [Stage.run, Connection.checkHealth, hrun]
        rfl
      · intro t hlike
        rw [Stage.run, Connection.checkHealth, hrun, ← hlike.health]

theorem parallel_read :
    P.Parallel (P.Alike T) (P.Alike T)
      (fun s s' => s.store.any (·.quarantined) = s'.store.any (·.quarantined)) Stage.read
      Stage.read where
  mono _ hs := hs
  state _ _ h _ := h
  result s s' h _ := by
    obtain ⟨store, store', hs, hs', heq, -⟩ := h.stores
    have hq : store.untimed.quarantined = store'.untimed.quarantined := congrArg _ heq
    change s.store.any (·.quarantined) = s'.store.any (·.quarantined)
    rw [hs, hs']
    exact hq

variable (now : Instant) (e e' : Duration) (ctx : RequestContext) (c : Call)

theorem parallel_buildOptions (storage : String) (timeout : Duration) (remote : Option String) :
    P.Parallel (P.Alike T) (P.Alike T) Eq
      (P.client.buildOptions ⟨now, P.files, e⟩ ctx storage timeout remote)
      (P.other.buildOptions ⟨now, P.files, e'⟩ ctx storage timeout remote) := by
  apply Parallel.bind (.ofConfiguration _) (fun _ => rfl) fun _ _ h => h
  rintro token _ rfl
  apply Parallel.bind parallel_sessionId (fun _ => rfl) fun _ _ h => h
  rintro session _ rfl
  apply Parallel.bind (.ofConfiguration _) (fun _ => rfl) fun _ _ h => h
  rintro metadata _ rfl
  apply Parallel.bind parallel_read (fun _ => rfl) fun _ _ h => h
  intro s s' hq
  apply Parallel.pure
  simp only [hq]

theorem parallel_prepare :
    P.Parallel (P.Alike T) (P.Alike T)
      (fun p q => p.1 = q.1 ∧ p.2.Like q.2) (P.client.prepare ⟨now, P.files, e⟩ ctx c)
      (P.other.prepare ⟨now, P.files, e'⟩ ctx c) := by
  apply Parallel.bind (parallel_enforce ctx c.rpc) (fun _ => rfl) fun _ _ h => h
  rintro _ _ rfl
  apply Parallel.bind (Q := Eq) _ (fun _ => rfl) fun _ _ h => h
  · rintro _ _ rfl
    apply Parallel.bind (parallel_buildOptions now e e' ctx c.storage c.timeout c.remote)
      (fun _ => rfl) fun _ _ h => h
    rintro options _ rfl
    apply Parallel.bind (parallel_connectionFor c.service c.storage) (fun _ => ⟨rfl, rfl⟩)
      fun _ _ h => h
    intro conn conn' hlike
    exact .pure ⟨rfl, hlike⟩
  · unfold Client.ensureTimeLeft
    split
    · exact .fail _
    · exact .pure rfl

end Pair

namespace Client

def noting (env : Surroundings) (ctx : RequestContext) (c : Call) (result : CallResult) :
    Stage RequestStore Unit := do
  spend env.elapsed result
  .update (·.addDetail ⟨ctx.callSite, c.storage, c.service, c.rpc, env.elapsed, result⟩)

variable (env : Surroundings) (ctx : RequestContext) (c : Call) (result : CallResult)

theorem record_eq : record env ctx c result = onStore (noting env ctx c result) := rfl

theorem keeps_sessionId_noting : (noting env ctx c result).Keeps (·.sessionId) := by
  apply Stage.Keeps.bind
  · intro s
    cases result with
    | failed code => rfl
    | ok =>
      simp only [Stage.run, spend, RequestStore.addQueryTime?]
      cases s.queryTime.add? env.elapsed <;> rfl
  · intro _ s
    simp only [Stage.run, Stage.update, RequestStore.addDetail]
    split <;> rfl

theorem run_noting_ok (s : RequestStore) :
    (noting env ctx c .ok).run s =
      match s.queryTime.add? env.elapsed with
      | some d => ⟨{ s with queryTime := d }.addDetail
          ⟨ctx.callSite, c.storage, c.service, c.rpc, env.elapsed, .ok⟩, [], .ok ()⟩
      | none => ⟨s, [], .error .timeOverflow⟩ := by
  simp only [noting, Stage.run, bind, spend, RequestStore.addQueryTime?]
  cases s.queryTime.add? env.elapsed <;> rfl

end Client

namespace RequestStore

theorem untimed_addDetail (s : RequestStore) (r : CallRecord) :
    (s.addDetail r).untimed = s.untimed.addDetail { r with duration := .zero } := by
  cases h : s.keepsDetails <;> simp [addDetail, untimed, h]

theorem queryTime_addDetail (s : RequestStore) (r : CallRecord) :
    (s.addDetail r).queryTime = s.queryTime := by
  rw [addDetail]
  split <;> rfl

end RequestStore

structure Spends (e e' : Duration) (T U : Duration → Duration → Prop) : Prop where
  weaken : ∀ d d', T d d' → U d d'
  add : ∀ d d', T d d' → Option.Rel U (d.add? e) (d'.add? e')

namespace Pair

variable {P : Pair} {T U : Duration → Duration → Prop} (now : Instant) {e e' : Duration}
  (ctx : RequestContext) (c : Call)

theorem matched_noting (result : CallResult) (hT : Spends e e' T U) {s s' : RequestStore}
    (heq : s.untimed = s'.untimed) (ht : T s.queryTime s'.queryTime) :
    Matched U ((Client.noting ⟨now, P.files, e⟩ ctx c result).run s)
      ((Client.noting ⟨now, P.files, e'⟩ ctx c result).run s') := by
  have hdetail : ∀ {s s' : RequestStore}, s.untimed = s'.untimed →
      (s.addDetail ⟨ctx.callSite, c.storage, c.service, c.rpc, e, result⟩).untimed =
        (s'.addDetail ⟨ctx.callSite, c.storage, c.service, c.rpc, e', result⟩).untimed := by
    intro s s' heq
    rw [RequestStore.untimed_addDetail, RequestStore.untimed_addDetail, heq]
  cases result with
  | failed code =>
    refine ⟨hdetail heq, rfl, ?_⟩
    have hweak := hT.weaken _ _ ht
    rw [← s.queryTime_addDetail, ← s'.queryTime_addDetail] at hweak
    exact hweak
  | ok =>
    have hadd := hT.add _ _ ht
    rw [Client.run_noting_ok, Client.run_noting_ok]
    generalize s.queryTime.add? e = sum at hadd
    generalize s'.queryTime.add? e' = sum' at hadd
    cases hadd with
    | some hU =>
      refine ⟨hdetail heq, rfl, ?_⟩
      rw [RequestStore.queryTime_addDetail, RequestStore.queryTime_addDetail]
      exact hU
    | none => exact ⟨heq, rfl, hT.weaken _ _ ht⟩

theorem parallel_record (result : CallResult) (hT : Spends e e' T U) :
    P.Parallel (P.Alike T) (P.Alike U) Eq (Client.record ⟨now, P.files, e⟩ ctx c result)
      (Client.record ⟨now, P.files, e'⟩ ctx c result) := by
  rw [Client.record_eq, Client.record_eq]
  apply parallel_onStore (Client.keeps_sessionId_noting _ ctx c result)
    (Client.keeps_sessionId_noting _ ctx c result)
  exact fun s s' heq ht => matched_noting now ctx c result hT heq ht

theorem parallel_settle (reply : Except Status Bytes) (hT : Spends e e' T U) :
    P.Parallel (P.Alike T) (P.Alike U) Eq (Client.settle ⟨now, P.files, e⟩ ctx c reply)
      (Client.settle ⟨now, P.files, e'⟩ ctx c reply) := by
  have hweak : ∀ s s', P.Alike T s s' → P.Alike U s s' := fun _ _ h => h.mono hT.weaken
  cases reply with
  | ok response =>
    apply Parallel.bind (.log _) (fun _ => rfl) hweak
    rintro _ _ rfl
    apply Parallel.bind (parallel_record now ctx c _ hT) (fun _ => rfl) fun _ _ h => h
    rintro _ _ rfl
    exact .pure rfl
  | error status =>
    apply Parallel.bind (.log _) (fun _ => rfl) hweak
    rintro _ _ rfl
    apply Parallel.bind (parallel_record now ctx c _ hT) (fun _ => rfl) fun _ _ h => h
    rintro _ _ rfl
    exact .fail _

theorem parallel_call (hT : Spends e e' T U) :
    P.Parallel (P.Alike T) (P.Alike U) Eq (P.client.call ⟨now, P.files, e⟩ ctx c)
      (P.other.call ⟨now, P.files, e'⟩ ctx c) := by
  have hweak : ∀ s s', P.Alike T s s' → P.Alike U s s' := fun _ _ h => h.mono hT.weaken
  rw [Client.call_eq, Client.call_eq]
  apply Parallel.bind (parallel_prepare now e e' ctx c) (fun _ => ⟨rfl, rfl, rfl⟩) hweak
  rintro ⟨options, conn⟩ ⟨_, conn'⟩ ⟨rfl, hlike⟩
  apply Parallel.bind (parallel_invoke hlike c.rpc c.request options) (fun _ => rfl) hweak
  rintro reply _ rfl
  exact parallel_settle now ctx c reply hT

theorem parallel_checkHealth (e e' : Duration) (storage : String) :
    P.Parallel (P.Alike T) (P.Alike T) Eq (P.client.checkHealth ⟨now, P.files, e⟩ ctx storage)
      (P.other.checkHealth ⟨now, P.files, e'⟩ ctx storage) := by
  rw [Client.checkHealth_eq, Client.checkHealth_eq]
  apply Parallel.bind (parallel_prepare now e e' ctx (P.client.healthCall storage))
    (fun _ => ⟨rfl, rfl, rfl⟩) fun _ _ h => h
  rintro ⟨options, conn⟩ ⟨_, conn'⟩ ⟨rfl, hlike⟩
  apply Parallel.bind (parallel_checkHealth_on hlike options) (fun _ => rfl) fun _ _ h => h
  rintro reply _ rfl
  cases reply with
  | ok health =>
    apply Parallel.bind (.log _) (fun _ => rfl) fun _ _ h => h
    rintro _ _ rfl
    exact .pure rfl
  | error status => exact .fail _

end Pair

end StorageCalls
