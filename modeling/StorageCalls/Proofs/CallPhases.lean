import StorageCalls.Call.Run
import StorageCalls.Proofs.Charge
import StorageCalls.Proofs.Targets

namespace StorageCalls

inductive Phase where
  | budget
  | deadline
  | token
  | remote
  | address
  | credentials
  | build
  | interceptors
  | channel
  deriving DecidableEq

namespace Phase

def early : List Phase := [.budget, .deadline, .token, .remote, .address, .credentials, .build]

def all : List Phase := early ++ [.interceptors, .channel]

end Phase

def Connection.intercepted (conn : Connection) (rpc : String) (options : CallOptions) :
    Except Status CallOptions :=
  conn.interceptors.foldlM (fun o i => (i conn.target.service rpc o).2) options

namespace Client

variable (x : Client) (env : Surroundings) (ctx : RequestContext) (c : Call) (s : CallState)

def charged (site : String) : CallState :=
  { s with store := s.store.map (Budget.charge x.isEnforcing ctx.signature site) }

def nextSession : String := (s.store.bind (·.sessionId)).getD (x.sessionIds s.issued)

def withSession : CallState :=
  { s with
    store := s.store.map fun store => { store with sessionId := some (x.nextSession s) }
    issued := if (s.store.bind (·.sessionId)).isSome then s.issued else s.issued + 1 }

def cached : Option Connection := Registry.find? s.transport.connections c.service c.storage

def plannedTarget : Option ChannelTarget := (x.target env.files c.service c.storage).toOption

def connectionOf : Option Connection :=
  (cached c s).or
    ((x.plannedTarget env c).map fun t => ⟨s.transport.network.builds.length, t, x.interceptors⟩)

def withConnection (conn : Connection) : Transport :=
  if (cached c s).isSome then s.transport
  else ⟨s.transport.connections ++ [conn], s.transport.network.build conn.target⟩

def plannedOptions : Option CallOptions :=
  ((x.buildOptions env ctx c.storage c.timeout c.remote).run s).result.toOption.map c.mutate

/-- The options that a call reaches its channel with, or the status it is rejected with. -/
def outgoing : Option (Except Status CallOptions) := do
  return (← x.connectionOf env c s).intercepted c.rpc (← x.plannedOptions env ctx c s)

def equip : Stage CallState (CallOptions × Connection) := do
  let options ← x.buildOptions env ctx c.storage c.timeout c.remote
  let connection ← onTransport (x.connectionFor env.files c.service c.storage)
  return (c.mutate options, connection)

/-- The error with which a call fails in a phase, as far as the phases before it do not fail. -/
def fault : Phase → Option CallError
  | .budget => s.store.bind (Budget.refusal x.isEnforcing ctx.signature c.rpc)
  | .deadline =>
    if Deadline.hasPassed env.now ctx.kind then some .requestDeadlinePassed else none
  | .token => errorOf .configuration (x.config.tokenOf c.storage)
  | .remote => c.remote.bind fun remote => errorOf .configuration (x.config.resolve remote)
  | .address =>
    if (cached c s).isSome then none else errorOf .configuration (x.config.resolve c.storage)
  | .credentials =>
    if (cached c s).isSome then none
    else
      (x.config.resolve c.storage).toOption.bind fun resolved =>
        errorOf .configuration
          (Credentials.forScheme env.files x.config.caBundle resolved.address.scheme)
  | .build =>
    if (cached c s).isSome then none
    else
      ((x.plannedTarget env c).bind s.transport.network.refusal).map
        fun reason => .configuration (.stated reason)
  | .interceptors => (x.outgoing env ctx c s).bind (errorOf .transport)
  | .channel => errorOf .transport (s.transport.network.answer c.rpc c.request)

theorem run_enforce (site : String) :
    ((x.enforce ctx site).run s).state = x.charged ctx s site ∧
      ((x.enforce ctx site).run s).result =
        verdict (s.store.bind (Budget.refusal x.isEnforcing ctx.signature site)) := by
  obtain ⟨_ | store, issued, transport⟩ := s
  · exact ⟨rfl, rfl⟩
  · rw [enforce, run_onStore_some _ rfl, Budget.state_enforce, Budget.result_enforce]
    exact ⟨rfl, rfl⟩

theorem run_ensureTimeLeft :
    (ensureTimeLeft env ctx).run s = ⟨s, [], verdict (x.fault env ctx c s .deadline)⟩ := by
  unfold ensureTimeLeft fault
  split <;> rfl

theorem run_sessionId :
    x.sessionId.run s = ⟨x.withSession s, [], .ok (x.nextSession s)⟩ := by
  obtain ⟨_ | store, issued, transport⟩ := s
  · rfl
  · cases h : store.sessionId with
    | none => simp [Stage.run, sessionId, withSession, nextSession, h]
    | some id =>
      have hstore : ({ store with sessionId := some id } : RequestStore) = store := by rw [← h]
      simp [Stage.run, sessionId, withSession, nextSession, h, hstore]

theorem errorOf_delegation (m : Metadata) (remote : Option String) :
    errorOf .configuration (x.delegation m remote) =
      remote.bind fun r => errorOf .configuration (x.config.resolve r) := by
  cases remote with
  | none => rfl
  | some r =>
    simp only [delegation, Option.bind_some]
    cases x.config.resolve r <;> rfl

theorem run_buildOptions (storage : String) (timeout : Duration) (remote : Option String) :
    (x.buildOptions env ctx storage timeout remote).run s =
      match x.config.tokenOf storage with
      | .error fault => ⟨s, [], .error (.configuration fault)⟩
      | .ok token =>
        match x.delegation (x.identity env ctx token (x.nextSession s)) remote with
        | .error fault => ⟨x.withSession s, [], .error (.configuration fault)⟩
        | .ok m =>
          let d := Deadline.compute env.now ctx.kind timeout
          let quarantined := s.store.any (·.quarantined)
          ⟨x.withSession s, [], .ok ⟨labelDeadline d (routing quarantined m), d.expiresAt⟩⟩ := by
  unfold buildOptions
  cases x.config.tokenOf storage with
  | error fault => rfl
  | ok token =>
    rw [Stage.run_bind, Stage.run_ofConfiguration_ok]
    simp only [Outcome.andThen, Stage.run_bind, run_sessionId]
    cases x.delegation (x.identity env ctx token (x.nextSession s)) remote with
    | error fault => rfl
    | ok m =>
      obtain ⟨_ | store, issued, transport⟩ := s <;> rfl

theorem nextSession_charged (site : String) :
    x.nextSession (x.charged ctx s site) = x.nextSession s := by
  obtain ⟨_ | store, issued, transport⟩ := s <;> rfl

theorem quarantined_charged (site : String) :
    (x.charged ctx s site).store.any (·.quarantined) = s.store.any (·.quarantined) := by
  obtain ⟨_ | store, issued, transport⟩ := s <;> rfl

theorem plannedOptions_charged (site : String) :
    x.plannedOptions env ctx c (x.charged ctx s site) = x.plannedOptions env ctx c s := by
  unfold plannedOptions
  rw [run_buildOptions, run_buildOptions, nextSession_charged, quarantined_charged]
  cases x.config.tokenOf c.storage with
  | error fault => rfl
  | ok token =>
    simp only
    cases x.delegation (x.identity env ctx token (x.nextSession s)) c.remote <;> rfl

variable {x env ctx c s}

theorem buildOptions_of_token {e : CallError} (h : x.fault env ctx c s .token = some e) :
    (x.buildOptions env ctx c.storage c.timeout c.remote).run s = ⟨s, [], .error e⟩ := by
  rw [run_buildOptions]
  simp only [fault] at h
  cases ht : x.config.tokenOf c.storage with
  | error fault =>
    rw [ht] at h
    cases h
    rfl
  | ok token =>
    rw [ht] at h
    cases h

theorem buildOptions_of_remote {e : CallError} (ht : x.fault env ctx c s .token = none)
    (h : x.fault env ctx c s .remote = some e) :
    (x.buildOptions env ctx c.storage c.timeout c.remote).run s =
      ⟨x.withSession s, [], .error e⟩ := by
  rw [run_buildOptions]
  simp only [fault] at ht h
  cases hk : x.config.tokenOf c.storage with
  | error fault =>
    rw [hk] at ht
    cases ht
  | ok token =>
    rw [← x.errorOf_delegation (x.identity env ctx token (x.nextSession s))] at h
    cases hm : x.delegation (x.identity env ctx token (x.nextSession s)) c.remote with
    | error fault =>
      rw [hm] at h
      cases h
      simp only [hm]
    | ok m =>
      rw [hm] at h
      cases h

theorem buildOptions_of_none (ht : x.fault env ctx c s .token = none)
    (h : x.fault env ctx c s .remote = none) :
    ∃ options, (x.buildOptions env ctx c.storage c.timeout c.remote).run s =
      ⟨x.withSession s, [], .ok options⟩ := by
  rw [run_buildOptions]
  simp only [fault] at ht h
  cases hk : x.config.tokenOf c.storage with
  | error fault =>
    rw [hk] at ht
    cases ht
  | ok token =>
    rw [← x.errorOf_delegation (x.identity env ctx token (x.nextSession s))] at h
    cases hm : x.delegation (x.identity env ctx token (x.nextSession s)) c.remote with
    | error fault =>
      rw [hm] at h
      cases h
    | ok m => exact ⟨_, by simp only [hm]; rfl⟩

theorem connectionFor_of_cached {conn : Connection} (h : cached c s = some conn) :
    (x.connectionFor env.files c.service c.storage).run s.transport =
      ⟨s.transport, [], .ok conn⟩ := by
  unfold cached at h
  simp only [Stage.run, Registry.connectionFor, h]

theorem connectionFor_of_target_error {fault : ConfigurationFault} (h : cached c s = none)
    (ht : x.target env.files c.service c.storage = .error fault) :
    (x.connectionFor env.files c.service c.storage).run s.transport =
      ⟨s.transport, [], .error (.configuration fault)⟩ := by
  unfold cached at h
  simp only [Stage.run, Registry.connectionFor, h, ht]

theorem connectionFor_of_target {t : ChannelTarget} (h : cached c s = none)
    (ht : x.target env.files c.service c.storage = .ok t) :
    (x.connectionFor env.files c.service c.storage).run s.transport =
      (x.connect t).run s.transport := by
  unfold cached at h
  simp only [Stage.run, Registry.connectionFor, h, ht]

variable (x env ctx c s)

/-- Either one of the three phases fails and the transport stays as it was, or there is a
connection. -/
theorem connectionFor_spec :
    match [Phase.address, .credentials, .build].findSome? (x.fault env ctx c s) with
    | some e =>
      ((x.connectionFor env.files c.service c.storage).run s.transport).state = s.transport ∧
        ((x.connectionFor env.files c.service c.storage).run s.transport).result = .error e
    | none =>
      ∃ conn, x.connectionOf env c s = some conn ∧
        ((x.connectionFor env.files c.service c.storage).run s.transport).state =
          withConnection c s conn ∧
        ((x.connectionFor env.files c.service c.storage).run s.transport).result = .ok conn := by
  cases hc : cached c s with
  | some conn =>
    simp only [List.findSome?_cons, List.findSome?_nil, fault, hc, Option.isSome_some, if_true,
      connectionFor_of_cached hc]
    exact ⟨conn, by simp [connectionOf, hc], by simp [withConnection, hc], rfl⟩
  | none =>
    cases hr : x.config.resolve c.storage with
    | error f =>
      have ht : x.target env.files c.service c.storage = .error f :=
        Registry.target_of_unresolved hr
      simp only [List.findSome?_cons, fault, hc, hr, Option.isSome_none, Bool.false_eq_true,
        if_false, errorOf, connectionFor_of_target_error hc ht, and_self]
    | ok resolved =>
      have htarget := x.toRegistry.target_of_resolved env.files c.service hr
      cases hf : Credentials.forScheme env.files x.config.caBundle resolved.address.scheme with
      | error f =>
        have ht : x.target env.files c.service c.storage = .error f := by
          rw [htarget, hf]
          rfl
        simp only [List.findSome?_cons, fault, hc, hr, hf, Option.isSome_none, Bool.false_eq_true,
          if_false, errorOf, Except.toOption, Option.bind_some,
          connectionFor_of_target_error hc ht, and_self]
      | ok credentials =>
        have ht : x.target env.files c.service c.storage =
            .ok ⟨c.service, c.storage, resolved.address.target, credentials, default⟩ := by
          rw [htarget, hf]
          rfl
        generalize (⟨c.service, c.storage, resolved.address.target, credentials, default⟩ :
          ChannelTarget) = t at ht
        simp only [List.findSome?_cons, List.findSome?_nil, fault, plannedTarget, ht, hc, hr, hf,
          Option.isSome_none, Bool.false_eq_true, if_false, errorOf, Except.toOption,
          Option.bind_some, connectionFor_of_target hc ht]
        cases hn : s.transport.network.refusal t with
        | some reason => simp [Stage.run, Registry.connect, hn]
        | none =>
          simp only [Option.map_none, Stage.run, Registry.connect, hn]
          exact ⟨_, by simp [connectionOf, plannedTarget, hc, ht, Except.toOption],
            by simp [withConnection, hc], rfl⟩

/-- A failure leaves the transport alone, and at most gives out the session id. -/
theorem equip_spec :
    match [Phase.token, .remote, .address, .credentials, .build].findSome?
        (x.fault env ctx c s) with
    | some e =>
      ((x.equip env ctx c).run s).result = .error e ∧
        (((x.equip env ctx c).run s).state = s ∨
          ((x.equip env ctx c).run s).state = x.withSession s)
    | none =>
      ∃ conn options, x.connectionOf env c s = some conn ∧
        x.plannedOptions env ctx c s = some options ∧
        ((x.equip env ctx c).run s).result = .ok (options, conn) ∧
        ((x.equip env ctx c).run s).state =
          { x.withSession s with transport := withConnection c s conn } := by
  rw [List.findSome?_cons]
  cases ht : x.fault env ctx c s .token with
  | some e =>
    have hb := buildOptions_of_token ht
    simp only [equip, Stage.run_bind, hb, Outcome.andThen]
    exact ⟨trivial, .inl trivial⟩
  | none =>
    simp only
    rw [List.findSome?_cons]
    cases hm : x.fault env ctx c s .remote with
    | some e =>
      have hb := buildOptions_of_remote ht hm
      simp only [equip, Stage.run_bind, hb, Outcome.andThen]
      exact ⟨trivial, .inr trivial⟩
    | none =>
      obtain ⟨options, hb⟩ := buildOptions_of_none ht hm
      have hp : x.plannedOptions env ctx c s = some (c.mutate options) := by
        rw [plannedOptions, hb]
        rfl
      have hx := connectionFor_spec x env ctx c s
      have hrun : (x.equip env ctx c).run s =
          ((onTransport (x.connectionFor env.files c.service c.storage)).run
            (x.withSession s)).andThen fun conn => (pure (c.mutate options, conn) :
              Stage CallState _).run := by
        rw [equip, Stage.run_bind, hb]
        simp only [Outcome.andThen, List.nil_append]
        rfl
      have htr : (x.withSession s).transport = s.transport := rfl
      simp only
      rw [hrun, run_onTransport, htr]
      cases hf : [Phase.address, .credentials, .build].findSome? (x.fault env ctx c s) with
      | some e =>
        rw [hf] at hx
        simp only [Outcome.andThen, hx.1, hx.2]
        exact ⟨trivial, .inr rfl⟩
      | none =>
        rw [hf] at hx
        obtain ⟨conn, hconn, hstate, hresult⟩ := hx
        simp only [Outcome.andThen, hstate, hresult]
        exact ⟨conn, _, hconn, hp, rfl, rfl⟩

/-- The session id is given out only after the budget and the deadline let the call pass. -/
theorem prepare_spec :
    match Phase.early.findSome? (x.fault env ctx c s) with
    | some e =>
      ((x.prepare env ctx c).run s).result = .error e ∧
        (((x.prepare env ctx c).run s).state = x.charged ctx s c.rpc ∨
          x.fault env ctx c s .budget = none ∧ x.fault env ctx c s .deadline = none ∧
            ((x.prepare env ctx c).run s).state = x.withSession (x.charged ctx s c.rpc))
    | none =>
      ∃ conn options, x.connectionOf env c s = some conn ∧
        x.plannedOptions env ctx c s = some options ∧
        ((x.prepare env ctx c).run s).result = .ok (options, conn) ∧
        ((x.prepare env ctx c).run s).state =
          { x.withSession (x.charged ctx s c.rpc) with transport := withConnection c s conn } := by
  obtain ⟨hstate, hresult⟩ := x.run_enforce ctx s c.rpc
  have hdef : x.prepare env ctx c = (do
      x.enforce ctx c.rpc
      ensureTimeLeft env ctx
      x.equip env ctx c) := rfl
  rw [Phase.early, List.findSome?_cons, hdef]
  change _ = verdict (x.fault env ctx c s .budget) at hresult
  cases hb : x.fault env ctx c s .budget with
  | some e =>
    rw [hb] at hresult
    rw [Stage.state_bind_of_error hresult, Stage.result_bind_of_error hresult]
    exact ⟨rfl, .inl hstate⟩
  | none =>
    rw [hb] at hresult
    rw [Stage.state_bind_of_ok hresult, Stage.result_bind_of_ok hresult, hstate]
    simp only
    have hd : x.fault env ctx c (x.charged ctx s c.rpc) .deadline =
      x.fault env ctx c s .deadline := rfl
    rw [List.findSome?_cons, Stage.run_bind, x.run_ensureTimeLeft env ctx c, hd]
    cases hf : x.fault env ctx c s .deadline with
    | some e => exact ⟨rfl, .inl rfl⟩
    | none =>
      have he := equip_spec x env ctx c (x.charged ctx s c.rpc)
      have hl : [Phase.token, .remote, .address, .credentials, .build].findSome?
          (x.fault env ctx c (x.charged ctx s c.rpc)) =
        [Phase.token, .remote, .address, .credentials, .build].findSome?
          (x.fault env ctx c s) := rfl
      rw [plannedOptions_charged, hl] at he
      simp only [verdict, Outcome.andThen]
      cases hr : [Phase.token, .remote, .address, .credentials, .build].findSome?
          (x.fault env ctx c s) with
      | some e =>
        rw [hr] at he
        exact ⟨he.1, he.2.imp id fun h => ⟨trivial, trivial, h⟩⟩
      | none =>
        rw [hr] at he
        exact he

end Client

namespace Stage.Keeps

variable {τ : Type} {part : CallState → τ}

theorem ensureTimeLeft (env : Surroundings) (ctx : RequestContext) :
    Keeps part (Client.ensureTimeLeft env ctx) := by
  unfold Client.ensureTimeLeft
  split
  · exact fail _
  · exact pure _

theorem buildOptions {x : Client} (env : Surroundings) (ctx : RequestContext) (storage : String)
    (timeout : Duration) (remote : Option String) (h : Keeps part x.sessionId) :
    Keeps part (x.buildOptions env ctx storage timeout remote) :=
  (ofConfiguration _).bind fun _ => h.bind fun _ =>
    (ofConfiguration _).bind fun _ => read.bind fun _ => pure _

end Stage.Keeps

end StorageCalls
