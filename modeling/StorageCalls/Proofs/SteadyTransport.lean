import StorageCalls.Proofs.CallTraces

namespace StorageCalls

variable {α β σ : Type}

/-- A stage that an invariant survives. -/
def Stage.Preserves (I : σ → Prop) (y : Stage σ α) : Prop := ∀ s, I s → I (y.run s).state

theorem Stage.Preserves.bind {I : σ → Prop} {y : Stage σ α} {f : α → Stage σ β}
    (hy : y.Preserves I) (hf : ∀ a, (f a).Preserves I) : (y >>= f).Preserves I := by
  intro s hs
  cases h : (y.run s).result with
  | ok a =>
    rw [Stage.state_bind_of_ok h]
    exact hf a _ (hy s hs)
  | error e =>
    rw [Stage.state_bind_of_error h]
    exact hy s hs

/-- What holds of connections and channels, and no call breaks: making a connection keeps it, and so
does whatever is sent. -/
structure Registry.Upholds (r : Registry) (files : Files) (I : Transport → Prop) : Prop where
  connectionFor : ∀ service storage, (r.connectionFor files service storage).Preserves I
  sent : ∀ t invocations, I t → I { t with network := { t.network with invocations } }

namespace Registry.Upholds

variable {r : Registry} {files : Files} {I : Transport → Prop}

theorem invoke (h : r.Upholds files I) (c : Connection) (rpc : String) (request : Bytes)
    (options : CallOptions) : (c.invoke rpc request options).Preserves I := by
  intro t ht
  rw [(c.run_invoke rpc request options t).1]
  exact h.sent _ _ ht

theorem checkHealth (h : r.Upholds files I) (c : Connection) (options : CallOptions) :
    (c.checkHealth options).Preserves I := by
  intro t ht
  rw [Stage.run, Connection.checkHealth]
  split
  · exact ht
  · exact h.sent _ _ ht

end Registry.Upholds

namespace Client

variable {x : Client} {env : Surroundings} {I : Transport → Prop} (ctx : RequestContext)

theorem preserves_of_keeps {y : Stage CallState α} (h : y.Keeps (·.transport)) :
    y.Preserves fun s => I s.transport := by
  intro s hs
  have ht : (y.run s).state.transport = s.transport := h s
  rw [ht]
  exact hs

theorem keeps_transport_onStore (y : Stage RequestStore Unit) :
    (onStore y).Keeps (·.transport) := by
  rintro ⟨_ | store, issued, transport⟩ <;> rfl

theorem keeps_transport_sessionId : x.sessionId.Keeps (·.transport) := by
  intro s
  rw [x.run_sessionId]
  rfl

theorem preserves_onTransport {y : Stage Transport α} (h : y.Preserves I) :
    (onTransport y).Preserves fun s => I s.transport := fun s hs => h s.transport hs

theorem preserves_prepare (h : x.Upholds env.files I) (c : Call) :
    (x.prepare env ctx c).Preserves fun s => I s.transport := by
  apply (preserves_of_keeps (keeps_transport_onStore _)).bind
  intro _
  apply (preserves_of_keeps (Stage.Keeps.ensureTimeLeft env ctx)).bind
  intro _
  apply (preserves_of_keeps
    (Stage.Keeps.buildOptions env ctx _ _ _ keeps_transport_sessionId)).bind
  intro options
  exact (preserves_onTransport (h.connectionFor _ _)).bind fun _ => preserves_of_keeps (.pure _)

theorem preserves_settle (c : Call) (reply : Except Status Bytes) :
    (settle env ctx c reply).Preserves fun s => I s.transport := by
  apply preserves_of_keeps
  cases reply with
  | ok response =>
    exact (Stage.Keeps.log _).bind fun _ => (keeps_transport_onStore _).bind fun _ => .pure _
  | error status =>
    exact (Stage.Keeps.log _).bind fun _ => (keeps_transport_onStore _).bind fun _ => .fail _

theorem preserves_call (h : x.Upholds env.files I) (c : Call) :
    (x.call env ctx c).Preserves fun s => I s.transport := by
  rw [call_eq]
  exact (preserves_prepare ctx h c).bind fun p =>
    (preserves_onTransport (h.invoke p.2 c.rpc c.request p.1)).bind fun reply =>
      preserves_settle ctx c reply

theorem preserves_checkHealth (h : x.Upholds env.files I) (storage : String) :
    (x.checkHealth env ctx storage).Preserves fun s => I s.transport := by
  rw [checkHealth_eq]
  exact (preserves_prepare ctx h _).bind fun p =>
    (preserves_onTransport (h.checkHealth p.2 p.1)).bind fun reply =>
      preserves_of_keeps (keeps_settleHealth _ storage reply)

end Client

structure Network.Like (n n' : Network) : Prop where
  responses : n.responses = n'.responses
  health : n.health = n'.health
  refusal : n.refusal = n'.refusal

theorem Network.Like.answer_eq {n n' : Network} (h : n.Like n') (rpc : String) (request : Bytes) :
    n.answer rpc request = n'.answer rpc request := by
  rw [answer, answer, h.responses]

/-- A connection is what building it anew would give. -/
structure Connection.AsNew (r : Registry) (files : Files) (n : Network) (c : Connection) :
    Prop where
  target : r.target files c.target.service c.target.storage = .ok c.target
  accepted : n.refusal c.target = none
  interceptors : c.interceptors = r.interceptors

namespace Registry

/-- What a registry works with: connections as it would build them anew, and a network like the
given. -/
structure Steady (r : Registry) (files : Files) (n : Network) (t : Transport) : Prop where
  connections : ∀ c ∈ t.connections, c.AsNew r files n
  network : t.network.Like n

variable {r : Registry} {files : Files} {n : Network} {t : Transport} {service storage : String}

/-- What a lookup comes to while every connection is what building it anew would give: that does not
depend on the connections there are. -/
structure Looked (r : Registry) (files : Files) (n : Network) (t : Transport)
    (service storage : String) (o : Outcome Transport Connection) : Prop where
  steady : r.Steady files n o.state
  sent : o.state.network.invocations = t.network.invocations
  result :
    match r.target files service storage with
    | .error fault => o.result = .error (.configuration fault)
    | .ok target =>
      match n.refusal target with
      | some reason => o.result = .error (.configuration (.stated reason))
      | none => ∃ c, o.result = .ok c ∧ c.target = target ∧ c.interceptors = r.interceptors

theorem looked (h : r.Steady files n t) (service storage : String) :
    r.Looked files n t service storage ((r.connectionFor files service storage).run t) := by
  rw [Stage.run, connectionFor]
  cases hf : find? t.connections service storage with
  | some c =>
    have hnew := h.connections c (List.mem_of_find?_eq_some hf)
    obtain ⟨hservice, hstorage⟩ := isFor_iff.1 (List.find?_some hf)
    have htarget := hnew.target
    rw [hservice, hstorage] at htarget
    refine ⟨h, rfl, ?_⟩
    simp only [htarget, hnew.accepted]
    exact ⟨c, rfl, rfl, hnew.interceptors⟩
  | none =>
    cases ht : r.target files service storage with
    | error fault =>
      refine ⟨h, rfl, ?_⟩
      simp only [ht]
    | ok target =>
      simp only [connect, h.network.refusal]
      cases hn : n.refusal target with
      | some reason =>
        refine ⟨h, rfl, ?_⟩
        simp only [ht, hn]
      | none =>
        obtain ⟨hservice, hstorage⟩ := target_ok ht
        refine ⟨⟨?_, h.network.responses, h.network.health, h.network.refusal⟩, rfl, ?_⟩
        · intro c hc
          obtain hold | hnew := List.mem_append.1 hc
          · exact h.connections c hold
          · rw [List.mem_singleton.1 hnew]
            exact ⟨by rw [hservice, hstorage, ht], hn, rfl⟩
        · simp only [ht, hn]
          exact ⟨_, rfl, rfl, rfl⟩

end Registry

namespace Registry.Steady

variable {r : Registry} {files : Files} {n : Network}

/-- Nothing of this is changed by what calls do. -/
theorem upholds : r.Upholds files (r.Steady files n) where
  connectionFor service storage _ h := (looked h service storage).steady
  sent _ _ h := ⟨h.connections, h.network.responses, h.network.health, h.network.refusal⟩

theorem clear : Registry.clear.Preserves (r.Steady files n) :=
  fun _ h => ⟨fun _ hc => (List.not_mem_nil hc).elim, h.network⟩

end Registry.Steady

def Client.SteadyState (x : Client) (files : Files) (n : Network) (s : CallState) : Prop :=
  x.Steady files n s.transport

end StorageCalls
