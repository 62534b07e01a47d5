import StorageCalls.Proofs.CallParts
import StorageCalls.Proofs.ProcessSound

namespace StorageCalls

open Scenario (Answer)

variable {α τ : Type}

/-- Whether an operation begins a setting for reference names that only a later drop ends. -/
def Operation.setsRefNames : Operation → Bool
  | .enterScope _ (.refNameCaching _) => true
  | _ => false

def World.allowsRefNames (w : World) (ctx : RequestContext) : Bool :=
  (w.store? ctx).any (·.refNameCaching)

def CallState.refNames (s : CallState) : Option Bool := s.store.map (·.refNameCaching)

namespace Client

theorem leaves_refNames (x : Client) : x.Leaves CallState.refNames :=
  leaves_store (π := (·.refNameCaching)) (fun _ _ _ _ => rfl) (fun _ _ => rfl) x

theorem keeps_refNames_record (env : Surroundings) (ctx : RequestContext) (c : Call)
    (result : CallResult) : (record env ctx c result).Keeps CallState.refNames := by
  intro s
  obtain h | h := state_record env ctx c result s <;> rw [h]
  obtain ⟨_ | store, issued, transport⟩ := s <;> rfl

theorem keeps_refNames_onStore {y : Stage RequestStore Unit} (h : y.Keeps (·.refNameCaching)) :
    (onStore y).Keeps CallState.refNames := by
  rintro ⟨_ | store, issued, transport⟩
  · rfl
  · exact congrArg some (h store)

end Client

namespace Process

/-- No guard is held that would change a setting when it is dropped. -/
def Unset (p : Process) : Prop := ∀ j allowed, .refNameCaching j allowed ∉ p.guards

variable {p : Process}

theorem allowsRefNames_eq (p : Process) (ctx : RequestContext) :
    p.world.allowsRefNames ctx = ctx.store.any fun k => (p.storeAt k).refNameCaching := by
  unfold World.allowsRefNames World.store? storeAt
  cases ctx.store with
  | none => rfl
  | some k =>
    simp only [Option.bind_some, Option.any_some]
    cases p.world.stores[k]? <;> rfl

theorem storePart_within {π : RequestStore → τ} {x : RequestContext → Stage CallState α}
    {f : α → Answer} (hs : p.Sound) (hx : ∀ ctx, (x ctx).Keeps fun s => s.store.map π) (i k : Nat) :
    π ((p.within i x f).1.storeAt k) = π (p.storeAt k) := by
  unfold within withContext
  cases hc : p.world.contexts[i]? with
  | none => rfl
  | some ctx =>
    simp only
    cases hstore : ctx.store with
    | none => rw [storeAt_eq (stores_within_untracked (x ctx) f hstore)]
    | some j =>
      have hj := hs.contexts ctx (List.mem_of_getElem? hc) j hstore
      have hbefore : (p.world.callState ctx).store = some (p.storeAt j) := hs.store? hc hstore
      have hafter := hx ctx (p.world.callState ctx)
      simp only [hbefore, Option.map_some, Option.map_eq_some_iff] at hafter
      obtain ⟨s, hrun, hpart⟩ := hafter
      rw [storeAt, stores_within (x ctx) f hstore hrun, List.getElem?_set]
      by_cases hjk : j = k
      · subst j
        simp only [if_true, hj, Option.getD_some]
        exact hpart
      · simp only [hjk, if_false]
        rfl

theorem refNames_enterExemption (hs : p.Sound) (i k : Nat) :
    ((p.perform (.enterScope i .exemption)).1.storeAt k).refNameCaching =
      (p.storeAt k).refNameCaching := by
  cases hc : p.world.contexts[i]? with
  | none => simp only [perform, withContext, hc]
  | some ctx =>
    cases hstore : ctx.store with
    | none =>
      simp only [perform, withContext, hc, keep, enterScope_untracked hstore]
      rfl
    | some j =>
      have hlt := hs.contexts ctx (List.mem_of_getElem? hc) j hstore
      rw [storeAt_modify (stores_enterScope hs hc hstore .exemption) hlt]
      split <;> rfl

theorem refNames_drop (hs : p.Sound) (hg : p.Unset) (n k : Nat) :
    ((p.perform (.drop n)).1.storeAt k).refNameCaching = (p.storeAt k).refNameCaching := by
  cases hn : p.guards[n]? with
  | none => simp only [perform, hn]
  | some g =>
    have hmem := List.mem_of_getElem? hn
    cases g with
    | frame i id => rw [storeAt_eq (stores_drop hn)]
    | exemption i =>
      rw [storeAt_modify (stores_drop hn) (hs.guards i hmem)]
      split <;> rfl
    | refNameCaching j allowed => exact absurd hmem (hg j allowed)

/-- An operation that does not enter or leave a setting changes none. -/
theorem refNames_perform (hs : p.Sound) (hg : p.Unset) {op : Operation}
    (hop : op.setsRefNames = false) (k : Nat) :
    ((p.perform op).1.storeAt k).refNameCaching = (p.storeAt k).refNameCaching := by
  cases op with
  | startRequest kind tracked caller correlationId => rw [storeAt_startRequest]
  | fork i =>
    simp only [perform, withContext]
    cases p.world.contexts[i]? <;> rfl
  | enterFrame i label =>
    simp only [perform, World.enterFrame]
    cases p.world.contexts[i]? <;> rfl
  | enterScope i scope =>
    cases scope with
    | exemption => exact refNames_enterExemption hs i k
    | refNameCaching allowed => cases hop
  | drop n => exact refNames_drop hs hg n k
  | enforce x i site =>
    exact storePart_within hs (fun ctx => x.leaves_refNames.enforce ctx site) i k
  | resetCounts i =>
    exact storePart_within hs (fun _ => Client.keeps_refNames_onStore fun _ => rfl) i k
  | markQuarantined i =>
    exact storePart_within hs (fun _ => Client.keeps_refNames_onStore fun _ => rfl) i k
  | keepDetails i =>
    exact storePart_within hs (fun _ => Client.keeps_refNames_onStore fun _ => rfl) i k
  | sessionId x i => exact storePart_within hs (fun _ => x.leaves_refNames.sessionId) i k
  | call x files elapsed i c =>
    exact storePart_within hs
      (fun ctx => x.leaves_refNames.call (Client.keeps_refNames_record _ ctx c)) i k
  | checkHealth x files elapsed i storage =>
    exact storePart_within hs (fun ctx => x.leaves_refNames.checkHealth _ ctx storage) i k
  | connectionFor r files service storage => rfl
  | clear => rfl
  | moveClock step =>
    rw [storeAt_eq]
    change (World.moveClock step p.world).state.stores = p.world.stores
    unfold World.moveClock
    split <;> rfl
  | script responses health refusal => rfl

theorem unset_perform (hg : p.Unset) {op : Operation} (hop : op.setsRefNames = false) :
    (p.perform op).1.Unset := by
  intro j allowed
  cases hlocal : op.isLocal with
  | true =>
    rw [(same_perform hlocal).2.1]
    exact hg j allowed
  | false =>
    cases op with
    | startRequest kind tracked caller correlationId => exact hg j allowed
    | fork i =>
      simp only [perform, withContext]
      cases p.world.contexts[i]? <;> exact hg j allowed
    | enterFrame i label =>
      simp only [perform, World.enterFrame, keep]
      cases p.world.contexts[i]? <;> simpa using hg j allowed
    | enterScope i scope =>
      cases scope with
      | exemption =>
        simp only [perform, withContext]
        cases p.world.contexts[i]? with
        | none => exact hg j allowed
        | some ctx =>
          simp only [keep, World.enterScope]
          split <;> simpa using hg j allowed
      | refNameCaching allowed => cases hop
    | drop n =>
      simp only [perform]
      cases p.guards[n]? with
      | none => exact hg j allowed
      | some g => exact fun hmem => hg j allowed (List.mem_of_mem_eraseIdx hmem)
    | _ => cases hlocal

end Process

end StorageCalls
