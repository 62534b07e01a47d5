import StorageCalls.Proofs.CallAtomicity
import StorageCalls.Proofs.CallParts

namespace StorageCalls

variable {α β τ : Type}

theorem Interceptor.part_of_foldlM {part : CallOptions → τ} {is : List Interceptor}
    {service rpc : String}
    (h : ∀ i ∈ is, ∀ options o, (i service rpc options).2 = .ok o → part o = part options)
    {options o : CallOptions} (ho : is.foldlM (fun o i => (i service rpc o).2) options = .ok o) :
    part o = part options := by
  induction is generalizing options with
  | nil =>
    cases ho
    rfl
  | cons i is ih =>
    rw [List.foldlM_cons] at ho
    cases hi : (i service rpc options).2 with
    | error status =>
      rw [hi] at ho
      cases ho
    | ok next =>
      rw [hi] at ho
      rw [ih (fun j hj => h j (.tail _ hj)) ho]
      exact h i (.head _) options next hi

namespace Client

variable (x : Client) (env : Surroundings) (ctx : RequestContext) (c : Call) (s : CallState)

/-- What a call puts on its channel if it gets there: nothing when an interceptor rejects it. -/
def letThrough : List Invocation :=
  match x.plannedOptions env ctx c s with
  | none => []
  | some options =>
    match ((x.outlook s).interceptors c.service c.storage).foldlM
      (fun o i => (i c.service c.rpc o).2) options with
    | .ok o => [⟨c.storage, c.service, c.rpc, c.request, o⟩]
    | .error _ => []

variable {x env ctx c s}

theorem built_of_plannedOptions {options : CallOptions}
    (h : x.plannedOptions env ctx c s = some options) :
    ∃ built, ((x.buildOptions env ctx c.storage c.timeout c.remote).run s).result = .ok built ∧
      options = c.mutate built := by
  rw [plannedOptions, Option.map_eq_some_iff] at h
  obtain ⟨built, hbuilt, rfl⟩ := h
  cases hrun : ((x.buildOptions env ctx c.storage c.timeout c.remote).run s).result with
  | error e =>
    rw [hrun] at hbuilt
    cases hbuilt
  | ok options =>
    rw [hrun] at hbuilt
    exact ⟨built, congrArg Except.ok (Option.some.inj hbuilt), rfl⟩

theorem part_of_letThrough {part : CallOptions → τ} (hm : ∀ o, part (c.mutate o) = part o)
    (hi : ∀ i ∈ (x.outlook s).interceptors c.service c.storage, ∀ options o,
      (i c.service c.rpc options).2 = .ok o → part o = part options) :
    ∀ inv ∈ x.letThrough env ctx c s, ∃ built,
      ((x.buildOptions env ctx c.storage c.timeout c.remote).run s).result = .ok built ∧
        part inv.options = part built := by
  intro inv hinv
  unfold letThrough at hinv
  split at hinv
  · exact absurd hinv List.not_mem_nil
  · next options hoptions =>
    split at hinv
    · next o ho =>
      obtain ⟨built, hbuilt, rfl⟩ := built_of_plannedOptions hoptions
      rw [List.mem_singleton.1 hinv]
      exact ⟨built, hbuilt, (Interceptor.part_of_foldlM hi ho).trans (hm built)⟩
    · exact absurd hinv List.not_mem_nil

theorem plannedOptions_congr {env' : Surroundings} {s' : CallState} (hnow : env.now = env'.now)
    (h : x.nextSession s = x.nextSession s')
    (hq : s.store.any (·.quarantined) = s'.store.any (·.quarantined)) :
    x.plannedOptions env ctx c s = x.plannedOptions env' ctx c s' := by
  unfold plannedOptions
  rw [run_buildOptions, run_buildOptions, h, hq]
  cases x.config.tokenOf c.storage with
  | error fault => rfl
  | ok token =>
    have hid : x.identity env ctx token (x.nextSession s') =
        x.identity env' ctx token (x.nextSession s') := by
      unfold identity
      rw [hnow]
    simp only [hnow, hid]
    cases x.delegation (x.identity env' ctx token (x.nextSession s')) c.remote <;> rfl

theorem letThrough_congr {env' : Surroundings} {s' : CallState} (hnow : env.now = env'.now)
    (h : x.outlook s = x.outlook s') (ht : s.store.isSome) :
    x.letThrough env ctx c s = x.letThrough env' ctx c s' := by
  have hsession : s.store.map (fun _ => x.nextSession s) =
      s'.store.map fun _ => x.nextSession s' := congrArg Outlook.session h
  have hq : s.store.any (·.quarantined) = s'.store.any (·.quarantined) :=
    congrArg Outlook.quarantined h
  have hnext : x.nextSession s = x.nextSession s' := by
    obtain ⟨store, hstore⟩ := Option.isSome_iff_exists.1 ht
    rw [hstore, Option.map_some, eq_comm, Option.map_eq_some_iff] at hsession
    obtain ⟨_, -, hsession⟩ := hsession
    exact hsession.symm
  unfold letThrough
  rw [h, plannedOptions_congr hnow hnext hq]

theorem interceptors_of_connectionOf {conn : Connection} (h : x.connectionOf env c s = some conn) :
    conn.interceptors = (x.outlook s).interceptors c.service c.storage := by
  unfold connectionOf cached at h
  simp only [outlook]
  cases hf : Registry.find? s.transport.connections c.service c.storage with
  | some kept =>
    rw [hf] at h
    cases h
    rfl
  | none =>
    rw [hf, Option.none_or, Option.map_eq_some_iff] at h
    obtain ⟨t, -, rfl⟩ := h
    rfl

theorem dispatched_eq_letThrough {conn : Connection} {options : CallOptions}
    (hconn : x.connectionOf env c s = some conn)
    (hoptions : x.plannedOptions env ctx c s = some options) :
    conn.dispatched c.rpc c.request options = x.letThrough env ctx c s := by
  obtain ⟨hservice, hstorage⟩ := connectionOf_target hconn
  have hrun : conn.intercepted c.rpc options =
      ((x.outlook s).interceptors c.service c.storage).foldlM
        (fun o i => (i c.service c.rpc o).2) options := by
    rw [Connection.intercepted, interceptors_of_connectionOf hconn, hservice]
  cases h : ((x.outlook s).interceptors c.service c.storage).foldlM
    (fun o i => (i c.service c.rpc o).2) options with
  | ok o => simp only [letThrough, hoptions, Connection.dispatched, hrun, h, hservice, hstorage]
  | error status => simp only [letThrough, hoptions, Connection.dispatched, hrun, h]

theorem prepared {options : CallOptions} {conn : Connection}
    (h : ((x.prepare env ctx c).run s).result = .ok (options, conn)) :
    x.connectionOf env c s = some conn ∧ x.plannedOptions env ctx c s = some options := by
  have hp := x.prepare_spec env ctx c s
  split at hp
  · rw [h] at hp
    cases hp.1
  · obtain ⟨conn', options', hconn, hoptions, hresult, -⟩ := hp
    rw [h] at hresult
    cases hresult
    exact ⟨hconn, hoptions⟩

theorem Connection.run_checkHealth {conn : Connection}
    (h : conn.target.service = Connection.healthService) (options : CallOptions) (t : Transport) :
    ((conn.checkHealth options).run t).state =
        { t with network := { t.network with
          invocations := t.network.invocations ++
            conn.dispatched Connection.healthRpc [] options } } ∧
      ((conn.checkHealth options).run t).result =
        .ok (conn.intercepted Connection.healthRpc options >>= fun _ => t.network.health) := by
  have hrun := Interceptor.runAll_eq_foldlM conn.target.service Connection.healthRpc
    conn.interceptors options
  unfold Connection.dispatched Connection.intercepted
  rw [← hrun, Stage.run, Connection.checkHealth]
  obtain ⟨events, status | o⟩ :=
    Interceptor.runAll conn.target.service Connection.healthRpc conn.interceptors options
  · exact ⟨by rw [List.append_nil], rfl⟩
  · exact ⟨by rw [h]; rfl, rfl⟩

variable (x env ctx c s)

/-- A call sends what it is expected to send, or nothing. -/
theorem sent_call :
    ∃ new, ((x.call env ctx c).run s).state.sent = s.sent ++ new ∧
      (new = [] ∨ new = x.letThrough env ctx c s) := by
  have hkeep := Stage.Keeps.sentPrepare x env ctx c s
  cases h : ((x.prepare env ctx c).run s).result with
  | error e =>
    rw [call_eq, Stage.state_bind_of_error h, hkeep]
    exact ⟨[], (List.append_nil _).symm, .inl rfl⟩
  | ok p =>
    obtain ⟨options, conn⟩ := p
    obtain ⟨hconn, hoptions⟩ := prepared h
    obtain ⟨hstate, hresult⟩ :=
      conn.run_invoke c.rpc c.request options ((x.prepare env ctx c).run s).state.transport
    have hinvoke : ((onTransport (conn.invoke c.rpc c.request options)).run
        ((x.prepare env ctx c).run s).state).result = .ok _ := hresult
    rw [call_eq, Stage.state_bind_of_ok h, Stage.state_bind_of_ok hinvoke,
      Stage.Keeps.sentSettle, run_onTransport, hstate, ← hkeep]
    exact ⟨_, rfl, .inr (dispatched_eq_letThrough hconn hoptions)⟩

theorem sent_checkHealth (storage : String) :
    ∃ new, ((x.checkHealth env ctx storage).run s).state.sent = s.sent ++ new ∧
      (new = [] ∨ new = x.letThrough env ctx (x.healthCall storage) s) := by
  have hkeep := Stage.Keeps.sentPrepare x env ctx (x.healthCall storage) s
  cases h : ((x.prepare env ctx (x.healthCall storage)).run s).result with
  | error e =>
    rw [checkHealth_eq, Stage.state_bind_of_error h, hkeep]
    exact ⟨[], (List.append_nil _).symm, .inl rfl⟩
  | ok p =>
    obtain ⟨options, conn⟩ := p
    obtain ⟨hconn, hoptions⟩ := prepared h
    obtain ⟨hstate, hresult⟩ := Connection.run_checkHealth (connectionOf_target hconn).1 options
      ((x.prepare env ctx (x.healthCall storage)).run s).state.transport
    have hcheck : ((onTransport (conn.checkHealth options)).run
        ((x.prepare env ctx (x.healthCall storage)).run s).state).result = .ok _ := hresult
    rw [checkHealth_eq, Stage.state_bind_of_ok h, Stage.state_bind_of_ok hcheck,
      keeps_settleHealth CallState.sent, run_onTransport, CallState.sent, hstate, ← hkeep]
    exact ⟨_, rfl, .inr (dispatched_eq_letThrough (c := x.healthCall storage) hconn hoptions)⟩

end Client

def isRefusal : Except CallError α → Bool
  | .error (.tooManyInvocations _) => true
  | _ => false

/-- A stage that never refuses a call for being above the ceiling. -/
def Stage.Permissive {σ : Type} (y : Stage σ α) : Prop := ∀ s, isRefusal (y.run s).result = false

namespace Stage.Permissive

variable {σ : Type} {y : Stage σ α} {f : α → Stage σ β}

theorem pure (a : α) : (Pure.pure a : Stage σ α).Permissive := fun _ => rfl

theorem log (e : Event) : (Stage.log e : Stage σ Unit).Permissive := fun _ => rfl

theorem ofConfiguration (r : Except ConfigurationFault α) :
    (Stage.ofConfiguration r : Stage σ α).Permissive := by
  cases r <;> exact fun _ => rfl

theorem isRefusal_bind (hf : ∀ a, (f a).Permissive) (s : σ) :
    isRefusal ((y >>= f).run s).result = isRefusal (y.run s).result := by
  cases h : (y.run s).result with
  | ok a => rw [Stage.result_bind_of_ok h, hf a]; rfl
  | error e => rw [Stage.result_bind_of_error h]; cases e <;> rfl

theorem bind (hy : y.Permissive) (hf : ∀ a, (f a).Permissive) : (y >>= f).Permissive := by
  intro s
  rw [isRefusal_bind hf]
  exact hy s

end Stage.Permissive

namespace Client

variable (x : Client) (env : Surroundings) (ctx : RequestContext) (c : Call)

theorem permissive_connectionFor (files : Files) (service storage : String) :
    (onTransport (x.connectionFor files service storage)).Permissive := by
  intro s
  rw [run_onTransport]
  simp only [Stage.run, Registry.connectionFor, Registry.connect]
  split
  · rfl
  · split
    · rfl
    · split <;> rfl

theorem isRefusal_enforce (s : CallState) (site : String) :
    isRefusal ((x.enforce ctx site).run s).result =
      (s.store.bind (Budget.refusal x.isEnforcing ctx.signature site)).isSome := by
  rw [(x.run_enforce ctx s site).2]
  obtain ⟨_ | store, issued, transport⟩ := s
  · rfl
  · simp only [Option.bind_some, Budget.refusal]
    split <;> rfl

theorem permissive_buildOptions (storage : String) (timeout : Duration) (remote : Option String) :
    (x.buildOptions env ctx storage timeout remote).Permissive := by
  apply (Stage.Permissive.ofConfiguration _).bind
  intro token
  apply Stage.Permissive.bind (y := x.sessionId)
  · intro s
    rw [x.run_sessionId]
    rfl
  · intro session
    exact (Stage.Permissive.ofConfiguration _).bind fun m => fun _ => rfl

theorem isRefusal_prepare (s : CallState) :
    isRefusal ((x.prepare env ctx c).run s).result =
      (s.store.bind (Budget.refusal x.isEnforcing ctx.signature c.rpc)).isSome := by
  rw [← isRefusal_enforce]
  apply Stage.Permissive.isRefusal_bind
  intro _
  apply Stage.Permissive.bind
  · unfold ensureTimeLeft
    split <;> exact fun _ => rfl
  · intro _
    exact (x.permissive_buildOptions env ctx _ _ _).bind fun _ =>
      (x.permissive_connectionFor _ _ _).bind fun _ => .pure _

theorem permissive_record (result : CallResult) : (record env ctx c result).Permissive := by
  rintro ⟨_ | store, issued, transport⟩
  · rfl
  · rw [record, run_onStore_some _ rfl]
    cases result with
    | failed code => rfl
    | ok =>
      simp only [bind, spend]
      cases store.addQueryTime? env.elapsed <;> rfl

theorem permissive_settle (reply : Except Status Bytes) : (settle env ctx c reply).Permissive := by
  cases reply with
  | ok response =>
    exact (Stage.Permissive.log _).bind fun _ => (permissive_record env ctx c _).bind fun _ =>
      .pure _
  | error status =>
    exact (Stage.Permissive.log _).bind fun _ => (permissive_record env ctx c _).bind fun _ =>
      fun _ => rfl

theorem permissive_settleHealth (storage : String) (reply : Except Status HealthStatus) :
    (settleHealth storage reply).Permissive := by
  cases reply with
  | ok health => exact (Stage.Permissive.log _).bind fun _ => .pure _
  | error status => exact fun _ => rfl

/-- A call is told that it is above the ceiling just when the budget refuses it. -/
theorem isRefusal_call (s : CallState) :
    isRefusal ((x.call env ctx c).run s).result =
      (s.store.bind (Budget.refusal x.isEnforcing ctx.signature c.rpc)).isSome := by
  rw [← x.isRefusal_prepare env ctx c, call_eq]
  apply Stage.Permissive.isRefusal_bind
  intro p
  apply Stage.Permissive.bind
  · intro s
    rw [run_onTransport, (p.2.run_invoke ..).2]
    rfl
  · exact permissive_settle env ctx c

theorem isRefusal_checkHealth (s : CallState) (storage : String) :
    isRefusal ((x.checkHealth env ctx storage).run s).result =
      (s.store.bind (Budget.refusal x.isEnforcing ctx.signature Connection.healthRpc)).isSome := by
  refine Eq.trans ?_ (x.isRefusal_prepare env ctx (x.healthCall storage) s)
  rw [checkHealth_eq]
  apply Stage.Permissive.isRefusal_bind
  intro p
  apply Stage.Permissive.bind
  · intro s
    rw [run_onTransport]
    simp only [Stage.run, Connection.checkHealth]
    split <;> rfl
  · exact permissive_settleHealth storage

/-- What can be said of a stage that makes a call, whatever the answer and the connections are. -/
structure Makes (y : Stage CallState α) : Prop where
  accounts : Accounts x ctx c.rpc y
  refusal : ∀ s, isRefusal (y.run s).result =
    (s.store.bind (Budget.refusal x.isEnforcing ctx.signature c.rpc)).isSome
  sends : ∀ s, ∃ new, (y.run s).state.sent = s.sent ++ new ∧
    (new = [] ∨ new = x.letThrough env ctx c s)
  notes : Notes ctx.callSite y
  outlook : y.Keeps x.outlook

theorem makes_call : x.Makes env ctx c (x.call env ctx c) where
  accounts := .call x env ctx c
  refusal := x.isRefusal_call env ctx c
  sends := x.sent_call env ctx c
  notes := .call x env ctx c
  outlook := x.keeps_outlook_call env ctx c

theorem makes_checkHealth (storage : String) :
    x.Makes env ctx (x.healthCall storage) (x.checkHealth env ctx storage) where
  accounts := .checkHealth x env ctx storage
  refusal s := x.isRefusal_checkHealth env ctx s storage
  sends s := x.sent_checkHealth env ctx s storage
  notes := .of_keeps (x.leaves_detailsOf.checkHealth env ctx storage)
  outlook := x.keeps_outlook_checkHealth env ctx storage

end Client

end StorageCalls
