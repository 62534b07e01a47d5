import StorageCalls.Proofs.CallOutcome

namespace StorageCalls

/-- The store reduced to what the ceiling goes by. -/
def RequestStore.budgetPart (s : RequestStore) : RequestStore :=
  { RequestStore.empty with
    actual := s.actual
    enforced := s.enforced
    actualTotal := s.actualTotal
    enforcedTotal := s.enforcedTotal
    exemptions := s.exemptions
    stackTally := s.stackTally }

def CallState.budget (s : CallState) : Option RequestStore := s.store.map (·.budgetPart)

variable {α β : Type}

/-- A stage that accounts for one call, and keeps the budget apart from that. -/
def Accounts (x : Client) (ctx : RequestContext) (site : String) (y : Stage CallState α) : Prop :=
  ∀ s, (y.run s).state.budget = (x.charged ctx s site).budget

namespace Stage.Keeps

theorem budgetOnStore {x : Stage RequestStore Unit}
    (h : ∀ s, (x.run s).state.budgetPart = s.budgetPart) :
    Keeps CallState.budget (onStore x) := by
  rintro ⟨_ | store, issued, transport⟩
  · rfl
  · exact congrArg some (h store)

theorem budgetSessionId (x : Client) : Keeps CallState.budget x.sessionId := by
  intro s
  rw [x.run_sessionId]
  obtain ⟨_ | store, issued, transport⟩ := s <;> rfl

theorem budgetRecord (env : Surroundings) (ctx : RequestContext) (c : Call) (result : CallResult) :
    Keeps CallState.budget (Client.record env ctx c result) := by
  apply budgetOnStore
  intro s
  have hadd : ∀ (t : RequestStore) (r : CallRecord), (t.addDetail r).budgetPart = t.budgetPart := by
    intro t r
    unfold RequestStore.addDetail
    split <;> rfl
  cases result with
  | failed code => exact hadd s _
  | ok =>
    cases hd : s.queryTime.add? env.elapsed with
    | none =>
      have hspend : (Client.spend env.elapsed .ok).run s = ⟨s, [], .error .timeOverflow⟩ := by
        simp [Stage.run, Client.spend, RequestStore.addQueryTime?, hd]
      rw [Stage.run_bind, hspend]
      rfl
    | some d =>
      have hspend : (Client.spend env.elapsed .ok).run s =
          ⟨{ s with queryTime := d }, [], .ok ()⟩ := by
        simp [Stage.run, Client.spend, RequestStore.addQueryTime?, hd]
      rw [Stage.run_bind, hspend]
      exact hadd _ _

theorem budgetSettle (env : Surroundings) (ctx : RequestContext) (c : Call)
    (reply : Except Status Bytes) : Keeps CallState.budget (Client.settle env ctx c reply) := by
  cases reply with
  | ok response => exact (log _).bind fun _ => (budgetRecord env ctx c .ok).bind fun _ => pure _
  | error status => exact (log _).bind fun _ => (budgetRecord env ctx c _).bind fun _ => fail _

end Stage.Keeps

namespace Accounts

variable {x : Client} {ctx : RequestContext} {site : String}

theorem bind {y : Stage CallState α} {f : α → Stage CallState β} (hy : Accounts x ctx site y)
    (hf : ∀ a, (f a).Keeps CallState.budget) : Accounts x ctx site (y >>= f) := by
  intro s
  cases h : (y.run s).result with
  | ok a => rw [Stage.state_bind_of_ok h, hf a, hy]
  | error e => rw [Stage.state_bind_of_error h, hy]

theorem enforce (x : Client) (ctx : RequestContext) (site : String) :
    Accounts x ctx site (x.enforce ctx site) := by
  intro s
  rw [(x.run_enforce ctx s site).1]

theorem prepare (x : Client) (env : Surroundings) (ctx : RequestContext) (c : Call) :
    Accounts x ctx c.rpc (x.prepare env ctx c) :=
  (enforce x ctx c.rpc).bind fun _ => (Stage.Keeps.ensureTimeLeft env ctx).bind fun _ =>
    (Stage.Keeps.buildOptions env ctx _ _ _ (.budgetSessionId x)).bind fun _ =>
      Stage.Keeps.bind (fun _ => rfl) fun _ => .pure _

theorem call (x : Client) (env : Surroundings) (ctx : RequestContext) (c : Call) :
    Accounts x ctx c.rpc (x.call env ctx c) :=
  (prepare x env ctx c).bind fun _ => Stage.Keeps.bind (fun _ => rfl) fun reply =>
    .budgetSettle env ctx c reply

theorem checkHealth (x : Client) (env : Surroundings) (ctx : RequestContext) (storage : String) :
    Accounts x ctx Connection.healthRpc (x.checkHealth env ctx storage) := by
  apply bind (prepare x env ctx (x.healthCall storage))
  intro p
  apply Stage.Keeps.bind (fun _ => rfl)
  intro r
  cases r with
  | ok health => exact (Stage.Keeps.log _).bind fun _ => .pure _
  | error status => exact .fail _

end Accounts

end StorageCalls
