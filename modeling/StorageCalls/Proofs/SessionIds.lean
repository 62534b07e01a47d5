import StorageCalls.Proofs.CallMetadata
import StorageCalls.Proofs.CallTraces

namespace StorageCalls

variable {α : Type}

def CallOptions.session (o : CallOptions) : Option String := o.metadata.get? Metadata.sessionId

/-- An interceptor that leaves the session id as it finds it, if it lets the call pass. -/
def Interceptor.KeepsSession (i : Interceptor) : Prop :=
  ∀ service rpc options o, (i service rpc options).2 = .ok o → o.session = options.session

namespace Interceptor

theorem keepsSession_tracing : tracing.KeepsSession := by
  intro service rpc options o h
  cases h
  rfl

theorem keepsSession_appending {key : String} (hkey : key ≠ Metadata.sessionId) (value : String) :
    (appending key value).KeepsSession := by
  intro service rpc options o h
  cases h
  rw [CallOptions.session, Table.get?_insert, if_neg (Ne.symm hkey)]
  rfl

end Interceptor

def CallState.sessions (s : CallState) : Option (Option String) × Nat :=
  (s.store.map (·.sessionId), s.issued)

/-- What a stage does to session ids, next to what it sends. -/
inductive Client.HandsOut (x : Client) (s t : CallState) : List Invocation → Prop
  | nothing (h : t.sessions = s.sessions) : x.HandsOut s t []
  | session {new : List Invocation} (h : t.sessions = (x.withSession s).sessions)
      (hone : new.length ≤ 1)
      (hnew : ∀ inv ∈ new, inv.options.session = some (x.nextSession s)) : x.HandsOut s t new

/-- What a stage sends goes with the session id that it hands out. -/
def Client.Hands (x : Client) (y : Stage CallState α) (s : CallState) : Prop :=
  ∃ new, (y.run s).state.sent = s.sent ++ new ∧ x.HandsOut s (y.run s).state new

namespace Client

variable {x : Client} {env : Surroundings} {ctx : RequestContext} {c : Call} {s : CallState}

theorem keeps_sessions_onStore {y : Stage RequestStore Unit} (h : y.Keeps (·.sessionId)) :
    (onStore y).Keeps CallState.sessions := by
  rintro ⟨_ | store, issued, transport⟩
  · rfl
  · have hid : (y store).state.sessionId = store.sessionId := h store
    simp [Stage.run, onStore, CallState.sessions, hid]

theorem keeps_sessions_record (result : CallResult) :
    (record env ctx c result).Keeps CallState.sessions := by
  intro s
  obtain h | h := state_record env ctx c result s <;> rw [h]
  obtain ⟨_ | store, issued, transport⟩ := s <;> rfl

theorem keeps_sessions_settle (reply : Except Status Bytes) :
    (settle env ctx c reply).Keeps CallState.sessions := by
  cases reply with
  | ok response =>
    exact (Stage.Keeps.log _).bind fun _ => (keeps_sessions_record _).bind fun _ => .pure _
  | error status =>
    exact (Stage.Keeps.log _).bind fun _ => (keeps_sessions_record _).bind fun _ => .fail _

theorem sessions_charged (site : String) : (x.charged ctx s site).sessions = s.sessions := by
  obtain ⟨_ | store, issued, transport⟩ := s <;> rfl

theorem sessions_withSession_charged (site : String) :
    (x.withSession (x.charged ctx s site)).sessions = (x.withSession s).sessions := by
  obtain ⟨_ | store, issued, transport⟩ := s <;> rfl

theorem length_letThrough : (x.letThrough env ctx c s).length ≤ 1 := by
  unfold letThrough
  split
  · exact Nat.zero_le _
  · split
    · exact Nat.le_refl _
    · exact Nat.zero_le _

theorem session_of_letThrough (hm : ∀ o, (c.mutate o).session = o.session)
    (hi : ∀ i ∈ (x.outlook s).interceptors c.service c.storage, i.KeepsSession) :
    ∀ inv ∈ x.letThrough env ctx c s, inv.options.session = some (x.nextSession s) := by
  intro inv hinv
  obtain ⟨built, hbuilt, hsame⟩ :=
    part_of_letThrough hm (fun i hmem => hi i hmem c.service c.rpc) inv hinv
  rw [hsame]
  exact ((describes_of_ok hbuilt).metadata _ _).2 .sessionId

theorem hands_prepare_bind {f : CallOptions × Connection → Stage CallState α}
    (hm : ∀ o, (c.mutate o).session = o.session)
    (hi : ∀ i ∈ (x.outlook s).interceptors c.service c.storage, i.KeepsSession)
    (hf : ∀ p, (f p).Keeps CallState.sessions)
    (hsent : ∃ new, ((x.prepare env ctx c >>= f).run s).state.sent = s.sent ++ new ∧
      (new = [] ∨ new = x.letThrough env ctx c s)) :
    x.Hands (x.prepare env ctx c >>= f) s := by
  obtain ⟨new, hnew, hlet⟩ := hsent
  refine ⟨new, hnew, ?_⟩
  have hp := x.prepare_spec env ctx c s
  split at hp
  · obtain ⟨hresult, hstate⟩ := hp
    rw [Stage.state_bind_of_error hresult] at hnew ⊢
    rw [Stage.Keeps.sentPrepare x env ctx c s, List.self_eq_append_right] at hnew
    subst hnew
    obtain hstate | ⟨-, -, hstate⟩ := hstate
    · exact .nothing (by rw [hstate, sessions_charged])
    · exact .session (by rw [hstate, sessions_withSession_charged]) (Nat.zero_le _)
        fun inv hinv => absurd hinv List.not_mem_nil
  · obtain ⟨conn, options, -, -, hresult, hstate⟩ := hp
    refine .session ?_ ?_ fun inv hinv => ?_
    · rw [Stage.state_bind_of_ok hresult, hf, hstate, ← sessions_withSession_charged c.rpc]
      rfl
    · obtain rfl | rfl := hlet
      · exact Nat.zero_le _
      · exact length_letThrough
    · obtain rfl | rfl := hlet
      · exact absurd hinv List.not_mem_nil
      · exact session_of_letThrough hm hi inv hinv

theorem hands_call (hm : ∀ o, (c.mutate o).session = o.session)
    (hi : ∀ i ∈ (x.outlook s).interceptors c.service c.storage, i.KeepsSession) :
    x.Hands (x.call env ctx c) s := by
  refine hands_prepare_bind hm hi (fun p => ?_) (x.sent_call env ctx c s)
  exact Stage.Keeps.bind (fun _ => rfl) keeps_sessions_settle

theorem hands_checkHealth {storage : String}
    (hi : ∀ i ∈ (x.outlook s).interceptors Connection.healthService storage, i.KeepsSession) :
    x.Hands (x.checkHealth env ctx storage) s := by
  refine hands_prepare_bind (c := x.healthCall storage) (fun _ => rfl) hi (fun p => ?_)
    (x.sent_checkHealth env ctx s storage)
  exact Stage.Keeps.bind (fun _ => rfl) fun reply => keeps_settleHealth _ storage reply

theorem hands_sessionId : x.Hands x.sessionId s := by
  rw [Hands, run_sessionId]
  exact ⟨[], (List.append_nil _).symm, .session rfl (Nat.zero_le _)
    fun inv hinv => absurd hinv List.not_mem_nil⟩

end Client

end StorageCalls
