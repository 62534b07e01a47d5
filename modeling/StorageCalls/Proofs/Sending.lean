import StorageCalls.Proofs.CallOutcome

namespace StorageCalls

def CallState.sent (s : CallState) : List Invocation := s.transport.network.invocations

def AtMostOne (rpc : String) (new : List Invocation) : Prop :=
  new = [] ∨ ∃ i, new = [i] ∧ i.rpc = rpc

/-- A stage that sends at most one invocation. -/
def Sends {α : Type} (rpc : String) (x : Stage CallState α) : Prop :=
  ∀ s, ∃ new, (x.run s).state.sent = s.sent ++ new ∧ AtMostOne rpc new

/-- A stage that sends at most one invocation, and none when the budget refuses the call. -/
def SendsIfAllowed {α : Type} (x : Client) (ctx : RequestContext) (rpc : String)
    (y : Stage CallState α) : Prop :=
  ∀ s, ∃ new, (y.run s).state.sent = s.sent ++ new ∧ AtMostOne rpc new ∧
    (new ≠ [] → s.store.bind (Budget.refusal x.isEnforcing ctx.signature rpc) = none)

variable {α β : Type} {rpc : String}

namespace Stage.Keeps

theorem sentOnStore (x : Stage RequestStore Unit) : Keeps CallState.sent (onStore x) := by
  rintro ⟨_ | store, issued, transport⟩ <;> rfl

theorem sentSessionId (x : Client) : Keeps CallState.sent x.sessionId := by
  intro s
  rw [x.run_sessionId]
  rfl

theorem sentConnectionFor (r : Registry) (files : Files) (service storage : String) :
    Keeps CallState.sent (onTransport (r.connectionFor files service storage)) := by
  intro s
  rw [run_onTransport]
  simp only [CallState.sent, Stage.run, Registry.connectionFor]
  cases Registry.find? s.transport.connections service storage with
  | some conn => rfl
  | none =>
    cases r.target files service storage with
    | error fault => rfl
    | ok t =>
      simp only [Registry.connect]
      cases s.transport.network.refusal t <;> rfl

theorem sentPrepare (x : Client) (env : Surroundings) (ctx : RequestContext) (c : Call) :
    Keeps CallState.sent (x.prepare env ctx c) :=
  (sentOnStore _).bind fun _ => (ensureTimeLeft env ctx).bind fun _ =>
    (buildOptions env ctx _ _ _ (sentSessionId x)).bind fun _ =>
      (sentConnectionFor _ _ _ _).bind fun _ => pure _

theorem sentSettle (env : Surroundings) (ctx : RequestContext) (c : Call)
    (reply : Except Status Bytes) : Keeps CallState.sent (Client.settle env ctx c reply) := by
  cases reply with
  | ok response => exact (log _).bind fun _ => (sentOnStore _).bind fun _ => pure _
  | error status => exact (log _).bind fun _ => (sentOnStore _).bind fun _ => fail _

end Stage.Keeps

namespace Sends

theorem bind {x : Stage CallState α} {f : α → Stage CallState β} (hx : Sends rpc x)
    (hf : ∀ a, (f a).Keeps CallState.sent) : Sends rpc (x >>= f) := by
  intro s
  cases h : (x.run s).result with
  | ok a =>
    rw [Stage.state_bind_of_ok h, hf a]
    exact hx s
  | error e =>
    rw [Stage.state_bind_of_error h]
    exact hx s

theorem invoke (conn : Connection) (rpc : String) (request : Bytes) (options : CallOptions) :
    Sends rpc (onTransport (conn.invoke rpc request options)) := by
  intro s
  rw [run_onTransport, CallState.sent, (conn.run_invoke rpc request options s.transport).1]
  refine ⟨conn.dispatched rpc request options, rfl, ?_⟩
  unfold Connection.dispatched
  split
  · exact .inr ⟨_, rfl, rfl⟩
  · exact .inl rfl

theorem health (conn : Connection) (options : CallOptions) :
    Sends Connection.healthRpc (onTransport (conn.checkHealth options)) := by
  intro s
  rw [run_onTransport]
  simp only [CallState.sent, Stage.run, Connection.checkHealth]
  obtain ⟨events, status | o⟩ :=
    Interceptor.runAll conn.target.service Connection.healthRpc conn.interceptors options
  · exact ⟨[], (List.append_nil _).symm, .inl rfl⟩
  · exact ⟨_, rfl, .inr ⟨_, rfl, rfl⟩⟩

end Sends

namespace SendsIfAllowed

variable {x : Client} {env : Surroundings} {ctx : RequestContext} {c : Call}

theorem of_keeps {y : Stage CallState α} (h : y.Keeps CallState.sent) :
    SendsIfAllowed x ctx rpc y := by
  intro s
  refine ⟨[], ?_, .inl rfl, fun hne => absurd rfl hne⟩
  rw [h s, List.append_nil]

theorem result_prepare {s : CallState} {e : CallError}
    (h : s.store.bind (Budget.refusal x.isEnforcing ctx.signature c.rpc) = some e) :
    ((x.prepare env ctx c).run s).result = .error e := by
  have hr := (x.run_enforce ctx s c.rpc).2
  rw [h] at hr
  exact Stage.result_bind_of_error hr

/-- Whatever is done on a connection, it is done only when the budget lets the call pass. -/
theorem prepare_bind {f : CallOptions × Connection → Stage CallState α}
    (hf : ∀ p, Sends c.rpc (f p)) : SendsIfAllowed x ctx c.rpc (x.prepare env ctx c >>= f) := by
  intro s
  have hkeep := Stage.Keeps.sentPrepare x env ctx c s
  cases h : ((x.prepare env ctx c).run s).result with
  | error e =>
    rw [Stage.state_bind_of_error h, hkeep]
    exact ⟨[], (List.append_nil _).symm, .inl rfl, fun hne => absurd rfl hne⟩
  | ok p =>
    rw [Stage.state_bind_of_ok h, ← hkeep]
    obtain ⟨new, hnew, hone⟩ := hf p ((x.prepare env ctx c).run s).state
    refine ⟨new, hnew, hone, fun _ => ?_⟩
    cases hb : s.store.bind (Budget.refusal x.isEnforcing ctx.signature c.rpc) with
    | none => rfl
    | some e =>
      rw [result_prepare hb] at h
      cases h

variable (x env ctx)

theorem enforce (site : String) : SendsIfAllowed x ctx site (x.enforce ctx site) :=
  of_keeps (.sentOnStore _)

theorem call (c : Call) : SendsIfAllowed x ctx c.rpc (x.call env ctx c) :=
  prepare_bind fun _ => (Sends.invoke _ _ _ _).bind fun reply => .sentSettle env ctx c reply

theorem checkHealth (storage : String) :
    SendsIfAllowed x ctx Connection.healthRpc (x.checkHealth env ctx storage) := by
  apply prepare_bind (c := x.healthCall storage)
  intro p
  apply (Sends.health p.2 p.1).bind
  intro r
  cases r with
  | ok health => exact (Stage.Keeps.log _).bind fun _ => .pure _
  | error status => exact .fail _

end SendsIfAllowed

end StorageCalls
