import StorageCalls.Proofs.CallOutcome
import StorageCalls.Proofs.Tallies

namespace StorageCalls

variable {β : Type}

namespace Table

variable (t : Table β) {key other : String}

theorem erase_insert_self (value : β) : (t.insert key value).erase key = t.erase key := by
  apply ext_get?
  intro k
  rw [get?_erase, get?_erase, get?_insert]
  by_cases h : k = key <;> simp only [h, if_true, if_false]

theorem erase_insert_of_ne (h : other ≠ key) (value : β) :
    (t.insert other value).erase key = (t.erase key).insert other value := by
  apply ext_get?
  intro k
  rw [get?_erase, get?_insert, get?_insert, get?_erase]
  by_cases hk : k = key
  · rw [if_pos hk, if_pos hk, if_neg fun ho => h (ho.symm.trans hk)]
  · rw [if_neg hk, if_neg hk]

end Table

def Metadata.anonymous (m : Metadata) : Metadata := Table.erase m Metadata.sessionId

namespace Metadata

variable {m m' : Metadata}

theorem anonymous_insert (h : m.anonymous = m'.anonymous) (key value : String) :
    anonymous (m.insert key value) = anonymous (m'.insert key value) := by
  unfold anonymous at h ⊢
  by_cases hkey : key = Metadata.sessionId
  · rw [hkey, Table.erase_insert_self, Table.erase_insert_self, h]
  · rw [Table.erase_insert_of_ne _ hkey, Table.erase_insert_of_ne _ hkey, h]

theorem anonymous_insert_sessionId (h : m.anonymous = m'.anonymous) (id id' : String) :
    anonymous (m.insert sessionId id) = anonymous (m'.insert sessionId id') := by
  unfold anonymous at h ⊢
  rw [Table.erase_insert_self, Table.erase_insert_self, h]

theorem anonymous_insertSome (h : m.anonymous = m'.anonymous) (key : String)
    (value : Option String) :
    anonymous (m.insertSome key value) = anonymous (m'.insertSome key value) := by
  cases value with
  | none => exact h
  | some value => exact anonymous_insert h key value

theorem anonymous_addFlags (h : m.anonymous = m'.anonymous) (flags : List (String × Bool)) :
    anonymous (Client.addFlags flags m) = anonymous (Client.addFlags flags m') := by
  unfold Client.addFlags
  induction flags generalizing m m' with
  | nil => exact h
  | cons flag flags ih => exact ih (anonymous_insert h _ _)

theorem anonymous_get? (h : m.anonymous = m'.anonymous) {key : String}
    (hkey : key ≠ Metadata.sessionId) : m.get? key = m'.get? key := by
  have hget := congrArg (Table.get? · key) h
  simp only [anonymous, Table.get?_erase, if_neg hkey] at hget
  exact hget

end Metadata

def CallOptions.anonymous (o : CallOptions) : CallOptions :=
  { o with metadata := o.metadata.anonymous }

def Invocation.anonymous (i : Invocation) : Invocation := { i with options := i.options.anonymous }

def Network.anonymous (n : Network) : Network :=
  { n with invocations := n.invocations.map (·.anonymous) }

theorem Network.anonymous_record (n : Network) (i : Invocation) :
    (n.record i).anonymous = n.anonymous.record i.anonymous := by
  simp only [record, anonymous, List.map_append, List.map_singleton]

def Transport.anonymous (t : Transport) : Transport := { t with network := t.network.anonymous }

def CallOptions.BlindChange (f : CallOptions → CallOptions) : Prop :=
  ∀ o o' : CallOptions, o.anonymous = o'.anonymous → (f o).anonymous = (f o').anonymous

/-- An interceptor that does not look at the session id. -/
def Interceptor.Blind (i : Interceptor) : Prop :=
  ∀ service rpc (o o' : CallOptions), o.anonymous = o'.anonymous →
    (i service rpc o).2.map (·.anonymous) = (i service rpc o').2.map (·.anonymous)

namespace Interceptor

theorem blind_tracing : tracing.Blind := fun _ _ _ _ h => congrArg Except.ok h

theorem blind_appending (key value : String) : (appending key value).Blind := by
  intro service rpc o o' h
  obtain ⟨hmetadata, hdeadline⟩ := CallOptions.mk.inj h
  simp only [appending, Except.map, CallOptions.anonymous, hdeadline]
  by_cases hkey : key = Metadata.sessionId
  · rw [hkey, Metadata.anonymous_insert_sessionId hmetadata]
  · rw [Metadata.anonymous_get? hmetadata hkey, Metadata.anonymous_insert hmetadata]

end Interceptor

theorem anonymous_bind {r r' : Except Status CallOptions}
    {f : CallOptions → Except Status CallOptions}
    (h : r.map (·.anonymous) = r'.map (·.anonymous))
    (hf : ∀ o o', o.anonymous = o'.anonymous → (f o).map (·.anonymous) = (f o').map (·.anonymous)) :
    (r >>= f).map (·.anonymous) = (r' >>= f).map (·.anonymous) := by
  cases r with
  | error status =>
    cases r' with
    | error status' =>
      cases h
      rfl
    | ok o' => cases h
  | ok o =>
    cases r' with
    | error status' => cases h
    | ok o' => exact hf o o' (Except.ok.inj h)

namespace Connection

def Blind (conn : Connection) : Prop := ∀ i ∈ conn.interceptors, i.Blind

variable {conn : Connection} {o o' : CallOptions}

theorem anonymous_intercepted (hconn : conn.Blind) (rpc : String) (h : o.anonymous = o'.anonymous) :
    (conn.intercepted rpc o).map (·.anonymous) = (conn.intercepted rpc o').map (·.anonymous) := by
  obtain ⟨serial, target, interceptors⟩ := conn
  unfold intercepted
  simp only [Blind] at hconn ⊢
  induction interceptors generalizing o o' with
  | nil => exact congrArg Except.ok h
  | cons i rest ih =>
    rw [List.foldlM_cons, List.foldlM_cons]
    apply anonymous_bind (hconn i (.head _) target.service rpc o o' h)
    intro next next' hnext
    exact ih hnext fun j hj => hconn j (.tail _ hj)

end Connection

namespace Client

theorem anonymous_identity (x : Client) (env : Surroundings) (ctx : RequestContext)
    (token id id' : String) :
    (x.identity env ctx token id).anonymous = (x.identity env ctx token id').anonymous := by
  unfold identity
  apply Metadata.anonymous_addFlags
  apply Metadata.anonymous_insertSome
  apply Metadata.anonymous_insertSome
  apply Metadata.anonymous_insertSome
  exact Metadata.anonymous_insert_sessionId rfl id id'

theorem anonymous_labelDeadline {m m' : Metadata} (h : m.anonymous = m'.anonymous) (d : Deadline) :
    (labelDeadline d m).anonymous = (labelDeadline d m').anonymous := by
  unfold labelDeadline
  split
  · exact Metadata.anonymous_insert h _ _
  · exact h

end Client

namespace Registry

variable (r : Registry) (files : Files) (service storage : String)

theorem connectionFor_anonymous (t : Transport) :
    (r.connectionFor files service storage).run t.anonymous =
      ⟨((r.connectionFor files service storage).run t).state.anonymous,
        ((r.connectionFor files service storage).run t).events,
        ((r.connectionFor files service storage).run t).result⟩ := by
  simp only [Stage.run, connectionFor, Transport.anonymous]
  cases find? t.connections service storage with
  | some conn => rfl
  | none =>
    cases r.target files service storage with
    | error fault => rfl
    | ok target =>
      simp only [connect, Network.anonymous]
      cases t.network.refusal target <;> rfl

theorem blind_connectionFor (hr : ∀ i ∈ r.interceptors, i.Blind) {t : Transport}
    (ht : ∀ conn ∈ t.connections, conn.Blind) :
    (∀ conn ∈ ((r.connectionFor files service storage).run t).state.connections, conn.Blind) ∧
      ∀ conn, ((r.connectionFor files service storage).run t).result = .ok conn → conn.Blind := by
  simp only [Stage.run, connectionFor]
  cases hfound : find? t.connections service storage with
  | some conn =>
    refine ⟨ht, ?_⟩
    rintro _ ⟨⟩
    exact ht conn (List.mem_of_find?_eq_some hfound)
  | none =>
    cases r.target files service storage with
    | error fault => exact ⟨ht, by simp⟩
    | ok target =>
      simp only [connect]
      cases t.network.refusal target with
      | some reason => exact ⟨ht, by simp⟩
      | none =>
        refine ⟨fun conn hconn => ?_, ?_⟩
        · obtain hold | hnew := List.mem_append.1 hconn
          · exact ht conn hold
          · rw [List.mem_singleton.1 hnew]
            exact hr
        · rintro _ ⟨⟩
          exact hr

end Registry

end StorageCalls
