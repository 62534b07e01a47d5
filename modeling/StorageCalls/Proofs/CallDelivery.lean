import Mathlib.Data.List.Induction
import StorageCalls.Proofs.HealthChecks
import StorageCalls.Proofs.Punctuality

namespace StorageCalls

open Scenario (Answer)

namespace Interceptor

variable {service rpc : String} {before after : List Interceptor} {i : Interceptor}
  {options mid : CallOptions} {status : Status}

theorem runAll_of_rejected
    (hbefore : before.foldlM (fun o j => (j service rpc o).2) options = .ok mid)
    (hi : (i service rpc mid).2 = .error status) :
    runAll service rpc (before ++ i :: after) options =
      ((runAll service rpc (before ++ [i]) options).1, .error status) := by
  induction before generalizing options with
  | nil =>
    rw [← Except.ok.inj hbefore] at hi
    rw [List.nil_append, List.nil_append, runAll, runAll]
    generalize i service rpc options = asked at hi
    obtain ⟨events, result⟩ := asked
    obtain rfl : result = .error status := hi
    rfl
  | cons j before ih =>
    rw [List.foldlM_cons] at hbefore
    rw [List.cons_append, List.cons_append, runAll, runAll]
    generalize j service rpc options = asked at hbefore
    obtain ⟨events, rejected | next⟩ := asked
    · cases hbefore
    · simp only
      rw [ih hbefore]

end Interceptor

namespace Stage

variable {σ α β γ : Type}

theorem bind_assoc (x : Stage σ α) (f : α → Stage σ β) (g : β → Stage σ γ) :
    (x >>= f) >>= g = x >>= fun a => f a >>= g := by
  funext s
  change (x s |>.andThen fun a => f a).andThen (fun b => g b) =
    (x s).andThen fun a s => (f a s).andThen fun b => g b
  obtain ⟨state, events, e | a⟩ := x s
  · rfl
  · simp only [Outcome.andThen]
    obtain ⟨state', events', e | b⟩ := f a state
    · rfl
    · simp only [List.append_assoc]

theorem pure_bind (a : α) (f : α → Stage σ β) : (pure a : Stage σ α) >>= f = f a := rfl

theorem events_bind_of_ok {x : Stage σ α} {f : α → Stage σ β} {s : σ} {a : α}
    (h : (x.run s).result = .ok a) :
    ((x >>= f).run s).events = (x.run s).events ++ ((f a).run (x.run s).state).events := by
  rw [run_bind, Outcome.andThen, h]

theorem run_bind_of_error {x : Stage σ α} {f : α → Stage σ β} {s : σ} {e : CallError}
    (h : (x.run s).result = .error e) :
    (x >>= f).run s = ⟨(x.run s).state, (x.run s).events, .error e⟩ := by
  rw [run_bind, Outcome.andThen, h]

end Stage

namespace Client

variable (x : Client) (env : Surroundings) (ctx : RequestContext) (c : Call)

def plan : Stage CallState CallOptions := do
  x.enforce ctx c.rpc
  ensureTimeLeft env ctx
  x.buildOptions env ctx c.storage c.timeout c.remote

/-- A call that changes its options by a stage, which may log, fail, and change whatever a call has
to do with. -/
def callChanging (change : CallOptions → Stage CallState CallOptions) : Stage CallState Bytes := do
  let options ← x.plan env ctx c
  let options ← change options
  let connection ← onTransport (x.connectionFor env.files c.service c.storage)
  let reply ← onTransport (connection.invoke c.rpc c.request options)
  settle env ctx c reply

theorem callChanging_pure :
    x.callChanging env ctx c (fun options => pure (c.mutate options)) = x.call env ctx c := by
  rw [call_eq, prepare]
  unfold callChanging plan
  simp only [Stage.bind_assoc, Stage.pure_bind]

variable {x env ctx c} {s : CallState} {options mid : CallOptions} {conn : Connection}

theorem transport_of_prepared (h : ((x.prepare env ctx c).run s).result = .ok (options, conn)) :
    let t := withConnection c s conn
    ((x.call env ctx c).run s).state.transport =
      { t with network := { t.network with
        invocations := s.transport.network.invocations ++
          conn.dispatched c.rpc c.request options } } := by
  intro t
  have hp := x.prepare_spec env ctx c s
  split at hp
  · rw [h] at hp
    cases hp.1
  · obtain ⟨conn', options', -, -, hresult, hstate⟩ := hp
    rw [h] at hresult
    cases hresult
    have hcall := congrArg CallState.transport (call_of_prepared h).1
    have hsent : t.network.invocations = s.transport.network.invocations := by
      simp only [t, withConnection]
      split <;> rfl
    rw [hstate] at hcall
    rw [← hsent]
    exact hcall

theorem find?_withConnection (h : x.connectionOf env c s = some conn) :
    Registry.find? (withConnection c s conn).connections c.service c.storage = some conn := by
  have hfor : conn.isFor c.service c.storage := Registry.isFor_iff.2 (connectionOf_target h)
  cases hc : cached c s with
  | some kept =>
    rw [connectionOf, hc, Option.some_or] at h
    rw [withConnection, hc, Option.isSome_some, if_pos rfl, ← h]
    exact hc
  | none =>
    rw [withConnection, hc, Option.isSome_none, if_neg Bool.false_ne_true,
      Registry.find?_concat, if_pos hfor]
    unfold cached at hc
    rw [hc, Option.none_or]

theorem events_settle_error (status : Status) (s : CallState) :
    ((settle env ctx c (.error status)).run s).events =
      [.callFailed c.storage c.service c.rpc status.code] := by
  obtain ⟨_ | store, issued, transport⟩ := s <;> rfl

theorem call_of_rejected {before after : List Interceptor} {i : Interceptor} {status : Status}
    (h : ((x.prepare env ctx c).run s).result = .ok (options, conn))
    (hconn : conn.interceptors = before ++ i :: after)
    (hbefore : before.foldlM (fun o j => (j c.service c.rpc o).2) options = .ok mid)
    (hi : (i c.service c.rpc mid).2 = .error status) :
    ((x.call env ctx c).run s).state.sent = s.sent ∧
      ((x.call env ctx c).run s).result = .error (.transport status) ∧
      ((x.call env ctx c).run s).events = ((x.prepare env ctx c).run s).events ++
        (Interceptor.runAll c.service c.rpc (before ++ [i]) options).1 ++
          [.callFailed c.storage c.service c.rpc status.code] := by
  have hservice := (connectionOf_target (prepared h).1).1
  have hrun : Interceptor.runAll c.service c.rpc (before ++ i :: after) options = _ :=
    Interceptor.runAll_of_rejected hbefore hi
  rw [← hservice, ← hconn] at hrun
  have hrejected : conn.intercepted c.rpc options = .error status := by
    rw [Connection.intercepted, ← Interceptor.runAll_eq_foldlM, hrun]
  have hinvoke (t : CallState) : (onTransport (conn.invoke c.rpc c.request options)).run t =
      ⟨t, (Interceptor.runAll c.service c.rpc (before ++ [i]) options).1, .ok (.error status)⟩ := by
    rw [run_onTransport, Stage.run, Connection.invoke, hrun, hservice]
  have hreply (t : CallState) : ((onTransport (conn.invoke c.rpc c.request options)).run t).result =
      .ok (.error status) := by
    rw [hinvoke]
  refine ⟨?_, ?_, ?_⟩
  · rw [CallState.sent, transport_of_prepared h, Connection.dispatched, hrejected, List.append_nil]
    rfl
  · rw [(call_of_prepared h).2, Connection.reply, hrejected]
    rfl
  · rw [call_eq, Stage.events_bind_of_ok h, Stage.events_bind_of_ok (hreply _), hinvoke,
      events_settle_error, List.append_assoc]

end Client

/-- The connection was made by an operation of the run, with the interceptors that this came with,
and was kept from then on. -/
def Process.MadeBy (p : Process) (ops : List Operation) (conn : Connection) (maker : Operation) :
    Prop :=
  ∃ before after, ops = before ++ maker :: after ∧
    conn ∉ (p.run before).world.transport.connections ∧
    (∀ mid, mid <+: after → conn ∈ (p.run (before ++ maker :: mid)).world.transport.connections) ∧
    conn.interceptors = maker.interceptors

/-- Of the operations after which a connection was not yet there, the last one is followed by the
one that made it. -/
theorem Process.exists_madeBy {p : Process} {ops : List Operation} {conn : Connection}
    (hnew : conn ∉ p.world.transport.connections)
    (h : conn ∈ (p.run ops).world.transport.connections) : ∃ maker, p.MadeBy ops conn maker := by
  induction ops using List.reverseRecOn with
  | nil => exact absurd h hnew
  | append_singleton ops op ih =>
    by_cases hbefore : conn ∈ (p.run ops).world.transport.connections
    · obtain ⟨maker, before, after, rfl, habsent, hkept, hmaker⟩ := ih hbefore
      refine ⟨maker, before, after ++ [op], by simp, habsent, fun mid hmid => ?_, hmaker⟩
      obtain rfl | hmid := List.prefix_concat_iff.1 hmid
      · simpa using h
      · exact hkept mid hmid
    · have hmade := h
      rw [run_append] at hmade
      have hinterceptors := (connections_perform op conn hmade).resolve_left hbefore
      refine ⟨op, ops, [], rfl, hbefore, fun mid hmid => ?_, hinterceptors⟩
      rwa [List.prefix_nil.1 hmid]

/-- A call that a run ends with. -/
structure LastCall where
  now : Instant
  before : List Operation
  client : Client
  files : Files
  elapsed : Duration
  context : Nat
  call : Call

namespace LastCall

variable (a : LastCall) (ctx : RequestContext)

def operations : List Operation :=
  a.before ++ [.call a.client a.files a.elapsed a.context a.call]

def initial : Process := (Process.start a.now).run a.before

def final : Process := (Process.start a.now).run a.operations

def answer : Answer :=
  (a.initial.perform (.call a.client a.files a.elapsed a.context a.call)).2

def surroundings : Surroundings := a.initial.surroundings a.files a.elapsed

def outcome {α : Type} (y : Stage CallState α) : Outcome CallState α :=
  y.run (a.initial.world.callState ctx)

def prepare : Stage CallState (CallOptions × Connection) :=
  a.client.prepare a.surroundings ctx a.call

/-- The call has come by these options and this connection, which that operation made. -/
structure Equipped (built : CallOptions) (conn : Connection) (maker : Operation) : Prop where
  prepared : (a.outcome ctx (a.prepare ctx)).result = .ok (a.call.mutate built, conn)
  built : (a.outcome ctx (a.client.buildOptions a.surroundings ctx a.call.storage a.call.timeout
    a.call.remote)).result = .ok built
  found : Registry.find? a.final.world.transport.connections a.call.service a.call.storage =
    some conn
  made : (Process.start a.now).MadeBy a.operations conn maker

def through (interceptors : List Interceptor) (options : CallOptions) : Except Status CallOptions :=
  interceptors.foldlM (fun o i => (i a.call.service a.call.rpc o).2) options

def invocation (options : CallOptions) : Invocation :=
  ⟨a.call.storage, a.call.service, a.call.rpc, a.call.request, options⟩

/-- What becomes of the call. -/
structure Delivered : Prop where
  sent : a.final.invocations = a.initial.invocations ∨ ∃ built conn maker options,
    a.Equipped ctx built conn maker ∧
      a.through maker.interceptors (a.call.mutate built) = .ok options ∧
      a.final.invocations = a.initial.invocations ++ [a.invocation options]
  equipped : ∀ options conn, (a.outcome ctx (a.prepare ctx)).result = .ok (options, conn) →
    ∃ built maker, options = a.call.mutate built ∧ a.Equipped ctx built conn maker
  accepted : ∀ built conn maker options, a.Equipped ctx built conn maker →
    a.through maker.interceptors (a.call.mutate built) = .ok options →
      a.final.invocations = a.initial.invocations ++ [a.invocation options]
  /-- Of the interceptors those have run that come before the rejection, and the one that rejects.
  -/
  rejected : ∀ built conn maker before i after options status, a.Equipped ctx built conn maker →
    maker.interceptors = before ++ i :: after →
    a.through before (a.call.mutate built) = .ok options →
    (i a.call.service a.call.rpc options).2 = .error status →
      a.final.invocations = a.initial.invocations ∧ a.answer = .failed (.transport status) ∧
      (a.outcome ctx (a.client.call a.surroundings ctx a.call)).events =
        (a.outcome ctx (a.prepare ctx)).events ++
          (Interceptor.runAll a.call.service a.call.rpc (before ++ [i]) (a.call.mutate built)).1 ++
            [.callFailed a.call.storage a.call.service a.call.rpc status.code]
  /-- The change that the call brings along is a stage of its own, which is not run if one before it
  fails. -/
  unchanged : a.client.callChanging a.surroundings ctx a.call (fun o => pure (a.call.mutate o)) =
      a.client.call a.surroundings ctx a.call ∧
    ∀ e, (a.outcome ctx (a.client.plan a.surroundings ctx a.call)).result = .error e → ∀ change,
      a.outcome ctx (a.client.callChanging a.surroundings ctx a.call change) =
        ⟨(a.outcome ctx (a.client.plan a.surroundings ctx a.call)).state,
          (a.outcome ctx (a.client.plan a.surroundings ctx a.call)).events, .error e⟩

variable {a ctx} {built options : CallOptions} {conn : Connection} {maker : Operation}

theorem final_eq (hc : a.initial.world.contexts[a.context]? = some ctx) :
    let o := a.outcome ctx (a.client.call a.surroundings ctx a.call)
    a.final.world.transport = o.state.transport ∧ a.answer = .ofResult .response o.result := by
  have hrun : a.initial.perform (.call a.client a.files a.elapsed a.context a.call) =
      a.initial.onWorld (World.within ctx (a.client.call a.surroundings ctx a.call)) .response := by
    rw [Process.perform, Process.within, Process.withContext, hc]
    rfl
  rw [final, operations, Process.run_append, answer]
  change (a.initial.perform _).1.world.transport = _ ∧ _
  rw [hrun]
  exact ⟨rfl, rfl⟩

theorem invocations_final (hc : a.initial.world.contexts[a.context]? = some ctx) :
    a.final.invocations =
      (a.outcome ctx (a.client.call a.surroundings ctx a.call)).state.sent :=
  congrArg (·.network.invocations) (final_eq hc).1

theorem exists_equipped (hc : a.initial.world.contexts[a.context]? = some ctx)
    (h : (a.outcome ctx (a.prepare ctx)).result = .ok (options, conn)) :
    ∃ built maker, options = a.call.mutate built ∧ a.Equipped ctx built conn maker := by
  obtain ⟨built, hbuilt, rfl⟩ := Client.built_of_plannedOptions (Client.prepared h).2
  have hfound : Registry.find? a.final.world.transport.connections a.call.service a.call.storage =
      some conn := by
    rw [(final_eq hc).1, outcome, Client.transport_of_prepared h]
    exact Client.find?_withConnection (Client.prepared h).1
  have hnew : conn ∉ (Process.start a.now).world.transport.connections := List.not_mem_nil
  obtain ⟨maker, hmade⟩ := Process.exists_madeBy hnew (List.mem_of_find?_eq_some hfound)
  exact ⟨built, maker, rfl, h, hbuilt, hfound, hmade⟩

namespace Equipped

variable (h : a.Equipped ctx built conn maker)

include h

theorem interceptors : conn.interceptors = maker.interceptors := by
  obtain ⟨-, -, -, -, -, hinterceptors⟩ := h.made
  exact hinterceptors

/-- The call goes through the interceptors that came with the operation that made its connection. -/
theorem dispatched : conn.dispatched a.call.rpc a.call.request (a.call.mutate built) =
    match a.through maker.interceptors (a.call.mutate built) with
    | .ok options => [a.invocation options]
    | .error _ => [] := by
  obtain ⟨hservice, hstorage⟩ := Client.connectionOf_target (Client.prepared h.prepared).1
  rw [Connection.dispatched, Connection.intercepted, hservice, hstorage, h.interceptors]
  rfl

theorem invocations (hc : a.initial.world.contexts[a.context]? = some ctx) :
    a.final.invocations = a.initial.invocations ++
      match a.through maker.interceptors (a.call.mutate built) with
      | .ok options => [a.invocation options]
      | .error _ => [] := by
  rw [invocations_final hc, ← h.dispatched, CallState.sent, outcome,
    Client.transport_of_prepared h.prepared]
  rfl

end Equipped

/-- Whatever was done before it, by whatever clients. -/
theorem calls_delivered (a : LastCall) (ctx : RequestContext)
    (hc : a.initial.world.contexts[a.context]? = some ctx) : a.Delivered ctx where
  sent := by
    cases h : (a.outcome ctx (a.prepare ctx)).result with
    | error e =>
      left
      have hstate := (Client.run_call_of_fault _ ctx a.call _ h).1
      rw [invocations_final hc, outcome, CallState.sent, hstate]
      exact Stage.Keeps.sentPrepare ..
    | ok p =>
      obtain ⟨options, conn⟩ := p
      obtain ⟨built, maker, rfl, hequipped⟩ := exists_equipped hc h
      have hsent := hequipped.invocations hc
      cases ht : a.through maker.interceptors (a.call.mutate built) with
      | error status =>
        rw [ht] at hsent
        exact .inl (hsent.trans (List.append_nil _))
      | ok out =>
        rw [ht] at hsent
        exact .inr ⟨built, conn, maker, out, hequipped, ht, hsent⟩
  equipped _ _ h := exists_equipped hc h
  accepted built conn maker options h ht := by
    rw [h.invocations hc, ht]
  rejected built conn maker before i after options status h hsplit hbefore hi := by
    have hconn := h.interceptors.trans hsplit
    obtain ⟨hsent, hresult, hevents⟩ := Client.call_of_rejected h.prepared hconn hbefore hi
    refine ⟨(invocations_final hc).trans hsent, ?_, hevents⟩
    rw [(final_eq hc).2, outcome, hresult]
    rfl
  unchanged := by
    refine ⟨Client.callChanging_pure .., fun e h change => ?_⟩
    exact Stage.run_bind_of_error h

/-- The connection was made for a client that appends to the metadata, so a call of a client whose
own interceptor rejects everything gets through. -/
theorem calls_delivered_of_two_clients :
    let storage : StorageConfig := ⟨"default", "unix:/run/storage.sock", some "secret"⟩
    let config := (default : ClientConfig).addStorage storage
    let maker : Client := ⟨⟨config, [.tracing, .appending "region" "north"]⟩, default, .fixed true,
      fun n => s!"session-{n}"⟩
    let x : Client := ⟨⟨config, [.rejecting (.unavailable "closed")]⟩, default, .fixed true,
      fun n => s!"session-{n}"⟩
    let c : Call := ⟨"default", "repository", "find", [], .zero, none,
      fun o => { o with metadata := o.metadata.insert "region" "far" }⟩
    let ctx : RequestContext := ⟨.background, some 0, .nobody, none, .empty⟩
    let a : LastCall := ⟨.epoch, [.startRequest .background true .nobody none,
      .call maker .empty .zero 0 { c with mutate := id }], x, .empty, .zero, 0, c⟩
    a.initial.world.contexts[a.context]? = some ctx ∧ a.Delivered ctx ∧
      a.final.invocations.map (·.options.metadata.get? "region") =
        [some "north(repository/find)", some "farnorth(repository/find)"] := by
  intro storage config maker x c ctx a
  have hc : a.initial.world.contexts[a.context]? = some ctx := rfl
  exact ⟨hc, calls_delivered a ctx hc, by decide +kernel⟩

end LastCall

end StorageCalls
