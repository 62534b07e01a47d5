import StorageCalls.Proofs.CallDelivery

namespace StorageCalls

namespace Event

def isUnenforcedOverrun (e : Event) : Bool :=
  e.level == .warn && e.message == "Call site exceeded request budget (not enforced)"

def unenforced (events : List Event) : List Event := events.filter isUnenforcedOverrun

theorem unenforced_append (events more : List Event) :
    unenforced (events ++ more) = unenforced events ++ unenforced more :=
  List.filter_append ..

end Event

open Event (unenforced)

namespace Stage

variable {σ τ α β : Type} {x : Stage σ α} {f : α → Stage σ β} {s : σ}

/-- A stage that does not warn of sites above the ceiling. -/
def Quiet (x : Stage σ α) : Prop := ∀ s, unenforced (x.run s).events = []

theorem unenforced_bind
    (h : ∀ a, (x.run s).result = .ok a →
      unenforced ((f a).run (x.run s).state).events = []) :
    unenforced ((x >>= f).run s).events = unenforced (x.run s).events := by
  cases hr : (x.run s).result with
  | error e => rw [run_bind_of_error hr]
  | ok a => rw [events_bind_of_ok hr, Event.unenforced_append, h a hr, List.append_nil]

namespace Quiet

theorem pure (a : α) : Quiet (Pure.pure a : Stage σ α) := fun _ => rfl

theorem fail (e : CallError) : Quiet (Stage.fail e : Stage σ α) := fun _ => rfl

theorem log {e : Event} (h : e.isUnenforcedOverrun = false) : Quiet (Stage.log e : Stage σ Unit) :=
  fun _ => List.filter_cons_of_neg (Bool.eq_false_iff.1 h)

theorem read : Quiet (Stage.read : Stage σ σ) := fun _ => rfl

theorem update (g : σ → σ) : Quiet (Stage.update g) := fun _ => rfl

theorem ofConfiguration (r : Except ConfigurationFault α) :
    Quiet (Stage.ofConfiguration r : Stage σ α) := by
  cases r <;> exact fun _ => rfl

theorem bind (hx : x.Quiet) (hf : ∀ a, (f a).Quiet) : (x >>= f).Quiet := by
  intro s
  rw [unenforced_bind fun a _ => hf a _, hx s]

end Quiet

end Stage

theorem Stage.Quiet.onStore {x : Stage RequestStore Unit} (hx : x.Quiet) : (onStore x).Quiet := by
  rintro ⟨_ | store, issued, transport⟩
  · rfl
  · exact hx store

theorem Stage.Quiet.onTransport {α : Type} {x : Stage Transport α} (hx : x.Quiet) :
    (onTransport x).Quiet := fun s => hx s.transport

/-- Interceptors can log what they like; one of this kind leaves the warning to the budget. -/
def Interceptor.Quiet (i : Interceptor) : Prop :=
  ∀ service rpc options, unenforced (i service rpc options).1 = []

theorem Interceptor.unenforced_runAll {is : List Interceptor} (h : ∀ i ∈ is, i.Quiet)
    (service rpc : String) (options : CallOptions) :
    unenforced (runAll service rpc is options).1 = [] := by
  induction is generalizing options with
  | nil => rfl
  | cons i rest ih =>
    have hi := h i (.head _) service rpc options
    rw [runAll]
    generalize i service rpc options = asked at hi
    obtain ⟨events, status | next⟩ := asked
    · exact hi
    · rw [Event.unenforced_append, hi, ih (fun j hj => h j (.tail _ hj)) next]
      rfl

namespace Connection

variable {conn : Connection}

def Quiet (conn : Connection) : Prop := ∀ i ∈ conn.interceptors, i.Quiet

theorem Quiet.invoke (h : conn.Quiet) (rpc : String) (request : Bytes) (options : CallOptions) :
    (conn.invoke rpc request options).Quiet := by
  intro t
  have hrun := Interceptor.unenforced_runAll h conn.target.service rpc options
  rw [Stage.run, Connection.invoke]
  split <;> simpa [*] using hrun

theorem Quiet.checkHealth (h : conn.Quiet) (options : CallOptions) :
    (conn.checkHealth options).Quiet := by
  intro t
  have hrun := Interceptor.unenforced_runAll h conn.target.service healthRpc options
  rw [Stage.run, Connection.checkHealth]
  split <;> simpa [*] using hrun

end Connection

theorem Registry.quiet_connectionFor (r : Registry) (files : Files) (service storage : String) :
    (r.connectionFor files service storage).Quiet := by
  intro t
  simp only [Stage.run, connectionFor]
  cases find? t.connections service storage with
  | some conn => rfl
  | none =>
    cases r.target files service storage with
    | error fault => rfl
    | ok target =>
      simp only [connect]
      cases t.network.refusal target <;> rfl

namespace Client

variable (x : Client) (env : Surroundings) (ctx : RequestContext) (c : Call) (s : CallState)

theorem quiet_sessionId : x.sessionId.Quiet := by
  intro s
  rw [run_sessionId]
  rfl

theorem quiet_buildOptions (storage : String) (timeout : Duration) (remote : Option String) :
    (x.buildOptions env ctx storage timeout remote).Quiet :=
  (Stage.Quiet.ofConfiguration _).bind fun _ => x.quiet_sessionId.bind fun _ =>
    (Stage.Quiet.ofConfiguration _).bind fun _ => Stage.Quiet.read.bind fun _ => .pure _

theorem quiet_record (result : CallResult) : (record env ctx c result).Quiet := by
  refine Stage.Quiet.onStore (Stage.Quiet.bind ?_ fun _ => .update _)
  intro store
  cases result with
  | ok =>
    simp only [spend, Stage.run]
    split <;> rfl
  | failed code => rfl

theorem quiet_settle (reply : Except Status Bytes) : (settle env ctx c reply).Quiet := by
  cases reply with
  | ok response =>
    exact (Stage.Quiet.log rfl).bind fun _ => (quiet_record env ctx c _).bind fun _ => .pure _
  | error status =>
    exact (Stage.Quiet.log rfl).bind fun _ => (quiet_record env ctx c _).bind fun _ => .fail _

theorem quiet_settleHealth (storage : String) (reply : Except Status HealthStatus) :
    (settleHealth storage reply).Quiet := by
  cases reply with
  | ok health => exact (Stage.Quiet.log rfl).bind fun _ => .pure _
  | error status => exact .fail _

theorem unenforced_prepare :
    unenforced ((x.prepare env ctx c).run s).events =
      unenforced ((x.enforce ctx c.rpc).run s).events := by
  have htime : (ensureTimeLeft env ctx).Quiet := by
    unfold ensureTimeLeft
    split
    · exact .fail _
    · exact .pure _
  apply Stage.unenforced_bind
  intro _ _
  exact (htime.bind fun _ => (x.quiet_buildOptions env ctx _ _ _).bind fun _ =>
    (x.quiet_connectionFor _ _ _).onTransport.bind fun _ => .pure _) _

variable {x env ctx c s}

theorem quiet_of_prepared {options : CallOptions} {conn : Connection}
    (hx : ∀ i ∈ x.interceptors, i.Quiet) (hs : ∀ conn ∈ s.transport.connections, conn.Quiet)
    (h : ((x.prepare env ctx c).run s).result = .ok (options, conn)) : conn.Quiet := by
  have hconn := (prepared h).1
  unfold connectionOf at hconn
  obtain hkept | ⟨-, hnew⟩ := Option.or_eq_some_iff.1 hconn
  · exact hs conn (List.mem_of_find?_eq_some hkept)
  · obtain ⟨t, -, rfl⟩ := Option.map_eq_some_iff.1 hnew
    exact hx

theorem unenforced_call (hx : ∀ i ∈ x.interceptors, i.Quiet)
    (hs : ∀ conn ∈ s.transport.connections, conn.Quiet) :
    unenforced ((x.call env ctx c).run s).events =
      unenforced ((x.enforce ctx c.rpc).run s).events := by
  rw [call_eq, ← unenforced_prepare x env]
  apply Stage.unenforced_bind
  rintro ⟨options, conn⟩ hprepared
  have hconn := quiet_of_prepared hx hs hprepared
  exact ((hconn.invoke _ _ _).onTransport.bind (quiet_settle env ctx c)) _

theorem unenforced_checkHealth {storage : String} (hx : ∀ i ∈ x.interceptors, i.Quiet)
    (hs : ∀ conn ∈ s.transport.connections, conn.Quiet) :
    unenforced ((x.checkHealth env ctx storage).run s).events =
      unenforced ((x.enforce ctx Connection.healthRpc).run s).events := by
  rw [checkHealth_eq]
  refine Eq.trans ?_ (unenforced_prepare x env ctx (x.healthCall storage) s)
  apply Stage.unenforced_bind
  rintro ⟨options, conn⟩ hprepared
  have hconn := quiet_of_prepared hx hs hprepared
  exact ((hconn.checkHealth _).onTransport.bind (quiet_settleHealth storage)) _

end Client

end StorageCalls
