import StorageCalls.Proofs.CallTraces

namespace StorageCalls

/-- The phases that a call goes through before it reaches its channel. -/
def Phase.beforeChannel : List Phase := early ++ [.interceptors]

def RequestStore.unrecorded (s : RequestStore) : RequestStore :=
  { s with details := [], queryTime := .zero }

def CallState.unrecorded (s : CallState) : CallState :=
  { s with store := s.store.map (·.unrecorded) }

namespace Client

def recordOf (s : CallState) : Option (List CallRecord × Duration) :=
  s.store.map fun store => (store.details, store.queryTime)

/-- What a caller is told of what came back. A response is lost if its time cannot be added to that
of the calls before. -/
def told (elapsed : Duration) (s : CallState) : Except Status Bytes → Except CallError Bytes
  | .error status => .error (.transport status)
  | .ok response =>
    if (recordOf s).all fun r => (r.2.add? elapsed).isSome then .ok response
    else .error .timeOverflow

variable (x : Client) (env : Surroundings) (ctx : RequestContext) (c : Call) (s : CallState)

/-- What is said of a health check of a storage next to a call, both begun in the same state. -/
structure GoesLike (storage : String) : Prop where
  /-- Of the state they leave, all but the record is the same. -/
  state : ((x.checkHealth env ctx storage).run s).state.unrecorded =
    ((x.call env ctx c).run s).state.unrecorded
  record : recordOf ((x.checkHealth env ctx storage).run s).state = recordOf s
  /-- Whatever stops one of them before the channel also stops the other. -/
  stopped : ∀ e, Phase.beforeChannel.findSome? (x.fault env ctx c s) = some e →
    ((x.checkHealth env ctx storage).run s).result = .error e ∧
      ((x.call env ctx c).run s).result = .error e ∧
      ((x.checkHealth env ctx storage).run s).state.sent = s.sent
  /-- Otherwise both send the same, and the channel answers each in its own way. -/
  answered : Phase.beforeChannel.findSome? (x.fault env ctx c s) = none →
    ((x.checkHealth env ctx storage).run s).result =
        s.transport.network.health.mapError .transport ∧
      ((x.call env ctx c).run s).result =
        told env.elapsed s (s.transport.network.answer c.rpc c.request) ∧
      ∃ o, x.outgoing env ctx c s = some (.ok o) ∧
        ((x.checkHealth env ctx storage).run s).state.sent =
          s.sent ++ [⟨c.storage, c.service, c.rpc, c.request, o⟩]

theorem leaves_recordOf : x.Leaves recordOf :=
  leaves_store (π := fun store => (store.details, store.queryTime)) (fun _ _ _ _ => rfl)
    (fun _ _ => rfl) x

theorem keeps_unrecorded_record (result : CallResult) :
    (record env ctx c result).Keeps CallState.unrecorded := by
  intro s
  obtain h | h := state_record env ctx c result s <;> rw [h]
  obtain ⟨_ | store, issued, transport⟩ := s <;> rfl

theorem keeps_unrecorded_settle (reply : Except Status Bytes) :
    (settle env ctx c reply).Keeps CallState.unrecorded := by
  cases reply with
  | ok response =>
    exact (Stage.Keeps.log _).bind fun _ => (keeps_unrecorded_record env ctx c _).bind fun _ =>
      .pure _
  | error status =>
    exact (Stage.Keeps.log _).bind fun _ => (keeps_unrecorded_record env ctx c _).bind fun _ =>
      .fail _

theorem result_record (result : CallResult) :
    ((record env ctx c result).run s).result =
      if result = .ok ∧ ¬ (recordOf s).all fun r => (r.2.add? env.elapsed).isSome then
        .error .timeOverflow
      else .ok () := by
  obtain ⟨_ | store, issued, transport⟩ := s
  · simp only [recordOf, Option.map_none, Option.all_none, not_true, and_false, if_false]
    rfl
  · rw [record, run_onStore_some _ rfl]
    cases result with
    | failed code => rfl
    | ok =>
      simp only [bind, spend, RequestStore.addQueryTime?, recordOf, Option.map_some,
        Option.all_some]
      cases store.queryTime.add? env.elapsed <;> rfl

theorem result_settle (reply : Except Status Bytes) :
    ((settle env ctx c reply).run s).result = told env.elapsed s reply := by
  cases reply with
  | ok response =>
    have hr := result_record env ctx c s .ok
    rw [settle, Stage.result_log_bind, told]
    split at hr
    · next h => rw [Stage.result_bind_of_error hr, if_neg h.2]
    · next h =>
      rw [Stage.result_bind_of_ok hr, if_pos (by simpa using h)]
      rfl
  | error status =>
    have hr := result_record env ctx c s (.failed status.code)
    rw [if_neg (by simp)] at hr
    rw [settle, Stage.result_log_bind, Stage.result_bind_of_ok hr]
    rfl

variable {x env ctx c s}

theorem told_congr {s' : CallState} {elapsed : Duration} (h : recordOf s = recordOf s') :
    told elapsed s = told elapsed s' := by
  funext reply
  cases reply with
  | error status => rfl
  | ok response => rw [told, told, h]

theorem outgoing_of_prepared {options : CallOptions} {conn : Connection}
    (h : ((x.prepare env ctx c).run s).result = .ok (options, conn)) :
    x.outgoing env ctx c s = some (conn.intercepted c.rpc options) := by
  obtain ⟨hconn, hoptions⟩ := prepared h
  rw [outgoing, hconn, hoptions]
  rfl

/-- What channels answer does not depend on what is done before. -/
theorem scripts_prepare (x : Client) (env : Surroundings) (ctx : RequestContext) (c : Call) :
    (x.prepare env ctx c).Keeps fun s =>
      (s.transport.network.responses, s.transport.network.health) := by
  intro s
  have hp := x.prepare_spec env ctx c s
  split at hp
  · obtain hstate | ⟨-, -, hstate⟩ := hp.2 <;> rw [hstate] <;> rfl
  · obtain ⟨conn, options, -, -, -, hstate⟩ := hp
    rw [hstate]
    simp only [withConnection]
    split <;> rfl

def handedOver (c : Call) (conn : Connection) (options : CallOptions) (s : CallState) : CallState :=
  { s with transport := { s.transport with network := { s.transport.network with
      invocations := s.transport.network.invocations ++
        conn.dispatched c.rpc c.request options } } }

variable {options : CallOptions} {conn : Connection} {storage : String}

theorem call_of_prepared (h : ((x.prepare env ctx c).run s).result = .ok (options, conn)) :
    ((x.call env ctx c).run s).state.unrecorded =
        (handedOver c conn options ((x.prepare env ctx c).run s).state).unrecorded ∧
      ((x.call env ctx c).run s).result =
        told env.elapsed s (conn.reply c.rpc c.request options s.transport.network) := by
  have hrecord : recordOf ((x.prepare env ctx c).run s).state = recordOf s :=
    x.leaves_recordOf.prepare env ctx c s
  have hscripts := Prod.mk.inj (scripts_prepare x env ctx c s)
  have hreply : conn.reply c.rpc c.request options
        ((x.prepare env ctx c).run s).state.transport.network =
      conn.reply c.rpc c.request options s.transport.network := by
    rw [Connection.reply, Connection.reply, Network.answer, Network.answer, hscripts.1]
  obtain ⟨hstate, hresult⟩ := conn.run_invoke c.rpc c.request options
    ((x.prepare env ctx c).run s).state.transport
  have hi : ((onTransport (conn.invoke c.rpc c.request options)).run
      ((x.prepare env ctx c).run s).state).result = .ok _ := hresult
  have ht : ((onTransport (conn.invoke c.rpc c.request options)).run
      ((x.prepare env ctx c).run s).state).state =
        handedOver c conn options ((x.prepare env ctx c).run s).state := by
    rw [run_onTransport, hstate]
    rfl
  rw [call_eq, Stage.state_bind_of_ok h, Stage.state_bind_of_ok hi, Stage.result_bind_of_ok h,
    Stage.result_bind_of_ok hi, ht, keeps_unrecorded_settle, result_settle, hreply]
  exact ⟨rfl, congrFun (told_congr hrecord) _⟩

theorem checkHealth_of_prepared
    (h : ((x.prepare env ctx (x.healthCall storage)).run s).result = .ok (options, conn)) :
    ((x.checkHealth env ctx storage).run s).state = handedOver (x.healthCall storage) conn options
        ((x.prepare env ctx (x.healthCall storage)).run s).state ∧
      ((x.checkHealth env ctx storage).run s).result =
        (conn.intercepted Connection.healthRpc options >>= fun _ =>
          s.transport.network.health).mapError .transport := by
  have hscripts := Prod.mk.inj (scripts_prepare x env ctx (x.healthCall storage) s)
  have hservice := (connectionOf_target (prepared h).1).1
  obtain ⟨hstate, hresult⟩ := Connection.run_checkHealth hservice options
    ((x.prepare env ctx (x.healthCall storage)).run s).state.transport
  rw [hscripts.2] at hresult
  have hi : ((onTransport (conn.checkHealth options)).run
      ((x.prepare env ctx (x.healthCall storage)).run s).state).result = .ok _ := hresult
  have hsettle : ∀ reply t, ((settleHealth storage reply).run t).state = t ∧
      ((settleHealth storage reply).run t).result = reply.mapError .transport := by
    intro reply t
    exact ⟨keeps_settleHealth id storage reply t, by cases reply <;> rfl⟩
  rw [checkHealth_eq, Stage.state_bind_of_ok h, Stage.state_bind_of_ok hi,
    Stage.result_bind_of_ok h, Stage.result_bind_of_ok hi, (hsettle ..).1, (hsettle ..).2,
    run_onTransport, hstate]
  exact ⟨rfl, rfl⟩

theorem first_beforeChannel (x : Client) (env : Surroundings) (ctx : RequestContext) (c : Call)
    (s : CallState) : Phase.beforeChannel.findSome? (x.fault env ctx c s) =
      (Phase.early.findSome? (x.fault env ctx c s)).or (x.fault env ctx c s .interceptors) := by
  rw [Phase.beforeChannel, List.findSome?_append, List.findSome?_singleton]

theorem goesLike_of_early {e : CallError}
    (h : Phase.early.findSome? (x.fault env ctx (x.healthCall storage) s) = some e) :
    x.GoesLike env ctx (x.healthCall storage) s storage := by
  have hp := x.prepare_spec env ctx (x.healthCall storage) s
  have hfirst := first_beforeChannel x env ctx (x.healthCall storage) s
  rw [h] at hp hfirst
  have hcall := run_call_of_fault x ctx (x.healthCall storage) s hp.1
  have hstate : ((x.checkHealth env ctx storage).run s).state =
      ((x.prepare env ctx (x.healthCall storage)).run s).state := by
    rw [checkHealth_eq, Stage.state_bind_of_error hp.1]
  have hresult : ((x.checkHealth env ctx storage).run s).result = .error e := by
    rw [checkHealth_eq, Stage.result_bind_of_error hp.1]
  constructor
  · rw [hstate, hcall.1]
  · exact x.leaves_recordOf.checkHealth env ctx storage s
  · intro e' he
    rw [hfirst] at he
    cases he
    exact ⟨hresult, hcall.2, by rw [hstate, Stage.Keeps.sentPrepare]⟩
  · intro hnone
    rw [hfirst] at hnone
    cases hnone

theorem goesLike_of_prepared
    (h : ((x.prepare env ctx (x.healthCall storage)).run s).result = .ok (options, conn))
    (hearly : Phase.early.findSome? (x.fault env ctx (x.healthCall storage) s) = none) :
    x.GoesLike env ctx (x.healthCall storage) s storage := by
  obtain ⟨hservice, hstorage⟩ := connectionOf_target (prepared h).1
  obtain ⟨hstate, hresult⟩ := checkHealth_of_prepared h
  obtain ⟨hcallState, hcallResult⟩ := call_of_prepared h
  have hgoing := outgoing_of_prepared h
  have hsent : ((x.checkHealth env ctx storage).run s).state.sent =
      s.sent ++ conn.dispatched Connection.healthRpc [] options := by
    rw [hstate, ← Stage.Keeps.sentPrepare x env ctx (x.healthCall storage) s]
    rfl
  have hfirst : Phase.beforeChannel.findSome? (x.fault env ctx (x.healthCall storage) s) =
      errorOf .transport (conn.intercepted Connection.healthRpc options) := by
    rw [first_beforeChannel, hearly, Option.none_or, fault, hgoing]
    rfl
  constructor
  · rw [hstate, hcallState]
  · exact x.leaves_recordOf.checkHealth env ctx storage s
  · intro e he
    rw [hfirst] at he
    cases hi : conn.intercepted Connection.healthRpc options with
    | ok o =>
      rw [hi] at he
      cases he
    | error status =>
      rw [hi] at he
      cases he
      have hreply : conn.reply Connection.healthRpc [] options s.transport.network =
          .error status := by
        rw [Connection.reply, hi]
        rfl
      refine ⟨by rw [hresult, hi]; rfl, ?_, ?_⟩
      · exact hcallResult.trans (congrArg (told env.elapsed s) hreply)
      · rw [hsent, Connection.dispatched, hi, List.append_nil]
  · intro hnone
    rw [hfirst] at hnone
    cases hi : conn.intercepted Connection.healthRpc options with
    | error status =>
      rw [hi] at hnone
      cases hnone
    | ok o =>
      have hreply : conn.reply Connection.healthRpc [] options s.transport.network =
          s.transport.network.answer Connection.healthRpc [] := by
        rw [Connection.reply, hi]
        rfl
      refine ⟨by rw [hresult, hi]; rfl, ?_, o, hgoing.trans (congrArg some hi), ?_⟩
      · exact hcallResult.trans (congrArg (told env.elapsed s) hreply)
      · rw [hsent, Connection.dispatched, hi, hservice, hstorage]
        rfl

/-- There is no other way to a channel for a health check than that of calls. -/
theorem health_check_goes_like_call (x : Client) (env : Surroundings) (ctx : RequestContext)
    (s : CallState) (storage : String) :
    x.GoesLike env ctx ⟨storage, "health", "check", [], x.config.timeouts.fast, none, id⟩ s
      storage := by
  change x.GoesLike env ctx (x.healthCall storage) s storage
  cases h : Phase.early.findSome? (x.fault env ctx (x.healthCall storage) s) with
  | some e => exact goesLike_of_early h
  | none =>
    have hp := x.prepare_spec env ctx (x.healthCall storage) s
    rw [h] at hp
    obtain ⟨conn, options, -, -, hprepared, -⟩ := hp
    exact goesLike_of_prepared hprepared h

end Client

end StorageCalls
