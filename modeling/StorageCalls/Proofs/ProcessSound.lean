import Mathlib.Data.List.Perm.Basic
import StorageCalls.Proofs.BudgetEffects

namespace StorageCalls

/-- The operations that neither add a context or a store nor take or drop a guard. -/
def Operation.isLocal : Operation → Bool
  | .startRequest .. | .fork _ | .enterFrame .. | .enterScope .. | .drop _ => false
  | _ => true

namespace Process

open Scenario (Answer)

variable {α : Type} {p : Process}

theorem exemptions_chargedBy (x : Client) (i k : Nat) (site : String) (s : RequestStore) :
    (p.chargedBy k x i site s).exemptions = s.exemptions := by
  unfold chargedBy
  cases p.contextOn k i <;> rfl

theorem Sound.of_same (hs : p.Sound) {q : Process} (hc : q.world.contexts = p.world.contexts)
    (hg : q.guards = p.guards) (hl : q.world.stores.length = p.world.stores.length)
    (he : ∀ k, (q.storeAt k).exemptions = (p.storeAt k).exemptions) : q.Sound where
  contexts := by
    rw [hc, hl]
    exact hs.contexts
  guards := by
    rw [hg, hl]
    exact hs.guards
  exemptions k := by rw [he, hg, hs.exemptions]

theorem same_within (i : Nat) (x : RequestContext → Stage CallState α) (f : α → Answer) :
    (p.within i x f).1.world.contexts = p.world.contexts ∧ (p.within i x f).1.guards = p.guards ∧
      (p.within i x f).1.world.stores.length = p.world.stores.length := by
  unfold within withContext
  cases p.world.contexts[i]? with
  | none => exact ⟨rfl, rfl, rfl⟩
  | some ctx =>
    refine ⟨rfl, rfl, ?_⟩
    change (p.world.absorb ctx ((x ctx).run (p.world.callState ctx)).state).stores.length = _
    unfold World.absorb
    split
    · exact List.length_set
    · rfl

theorem same_perform {op : Operation} (h : op.isLocal) :
    (p.perform op).1.world.contexts = p.world.contexts ∧ (p.perform op).1.guards = p.guards ∧
      (p.perform op).1.world.stores.length = p.world.stores.length := by
  cases op with
  | enforce x i site => exact p.same_within ..
  | resetCounts i => exact p.same_within ..
  | markQuarantined i => exact p.same_within ..
  | keepDetails i => exact p.same_within ..
  | sessionId x i => exact p.same_within ..
  | call x files elapsed i c => exact p.same_within ..
  | checkHealth x files elapsed i storage => exact p.same_within ..
  | connectionFor r files service storage => exact ⟨rfl, rfl, rfl⟩
  | clear => exact ⟨rfl, rfl, rfl⟩
  | moveClock step =>
    change (World.moveClock step p.world).state.contexts = _ ∧ p.guards = p.guards ∧
      (World.moveClock step p.world).state.stores.length = _
    unfold World.moveClock
    split <;> exact ⟨rfl, rfl, rfl⟩
  | script responses health refusal => exact ⟨rfl, rfl, rfl⟩
  | _ => cases h

theorem Sound.within (hs : p.Sound) {i : Nat} {x : RequestContext → Stage CallState α}
    {f : α → Answer}
    (he : ∀ k, ((p.within i x f).1.storeAt k).exemptions = (p.storeAt k).exemptions) :
    (p.within i x f).1.Sound := by
  obtain ⟨hc, hg, hl⟩ := p.same_within i x f
  exact hs.of_same hc hg hl he

theorem count_eraseIdx {gs : List Guard} {n : Nat} {g : Guard} (h : gs[n]? = some g) (g' : Guard) :
    gs.count g' = (gs.eraseIdx n).count g' + if g = g' then 1 else 0 := by
  obtain ⟨hn, hget⟩ := List.getElem?_eq_some_iff.1 h
  rw [← (List.getElem_cons_eraseIdx_perm hn).count_eq g', List.count_cons, hget]
  simp only [beq_iff_eq]

theorem Sound.startRequest (hs : p.Sound) (kind : RequestKind) (tracked : Bool) (caller : Caller)
    (correlationId : Option String) :
    (p.perform (.startRequest kind tracked caller correlationId)).1.Sound := by
  have hlen : p.world.stores.length ≤
      (p.perform (.startRequest kind tracked caller correlationId)).1.world.stores.length := by
    cases tracked with
    | false => exact Nat.le_refl _
    | true => simp [perform, World.startRequest]
  refine ⟨fun ctx hctx k hk => ?_, fun k hk => Nat.lt_of_lt_of_le (hs.guards k hk) hlen,
    fun k => ?_⟩
  · obtain hold | hnew := List.mem_append.1 hctx
    · exact Nat.lt_of_lt_of_le (hs.contexts ctx hold k hk) hlen
    · rw [List.mem_singleton.1 hnew] at hk
      cases tracked with
      | false => exact absurd hk (by simp)
      | true =>
        simp only [if_true, Option.some.injEq] at hk
        simp [perform, World.startRequest, hk]
  · rw [storeAt_startRequest]
    exact hs.exemptions k

theorem Sound.fork (hs : p.Sound) (i : Nat) : (p.perform (.fork i)).1.Sound := by
  simp only [perform, withContext]
  cases hc : p.world.contexts[i]? with
  | none => exact hs
  | some ctx =>
    refine ⟨fun c hmem k hk => ?_, hs.guards, hs.exemptions⟩
    obtain hold | hnew := List.mem_append.1 hmem
    · exact hs.contexts c hold k hk
    · rw [List.mem_singleton.1 hnew] at hk
      exact hs.contexts ctx (List.mem_of_getElem? hc) k hk

theorem store_of_mem_modify {w : World} {f : RequestContext → RequestContext}
    (hf : ∀ ctx, (f ctx).store = ctx.store) {i : Nat} {ctx : RequestContext}
    (h : ctx ∈ (w.modifyContext i f).contexts) : ∃ old ∈ w.contexts, old.store = ctx.store := by
  obtain ⟨j, hj⟩ := List.mem_iff_getElem?.1 h
  rw [World.modifyContext, List.getElem?_modify] at hj
  obtain ⟨old, hold, hctx⟩ := Option.map_eq_some_iff.1 hj
  refine ⟨old, List.mem_of_getElem? hold, ?_⟩
  rw [← hctx]
  split
  · exact (hf old).symm
  · rfl

theorem Sound.enterFrame (hs : p.Sound) (i : Nat) (label : String) :
    (p.perform (.enterFrame i label)).1.Sound := by
  simp only [perform, World.enterFrame, keep]
  cases hc : p.world.contexts[i]? with
  | none =>
    rw [Option.toList_none, List.append_nil]
    exact hs
  | some ctx =>
    refine ⟨fun c hmem k hk => ?_, fun k hk => ?_, fun k => ?_⟩
    · obtain ⟨old, hold, hstore⟩ := store_of_mem_modify (w := p.world) (f := (·.enter label))
        (fun _ => rfl) hmem
      exact hs.contexts old hold k (hstore.trans hk)
    · exact hs.guards k (by simpa using hk)
    · rw [List.count_append]
      exact hs.exemptions k

theorem Sound.enterScope (hs : p.Sound) (i : Nat) (scope : Scope) :
    (p.perform (.enterScope i scope)).1.Sound := by
  cases hc : p.world.contexts[i]? with
  | none =>
    simp only [perform, withContext, hc]
    exact hs
  | some ctx =>
    cases hstore : ctx.store with
    | none =>
      simp only [perform, withContext, hc, keep, enterScope_untracked hstore, Option.toList_none,
        List.append_nil]
      exact hs
    | some j =>
      have hlt := hs.contexts ctx (List.mem_of_getElem? hc) j hstore
      have hq : (p.perform (.enterScope i scope)).1 =
          ⟨(p.world.enterScope ctx scope).1,
            p.guards ++ (p.world.enterScope ctx scope).2.toList⟩ := by
        simp only [perform, withContext, hc, keep]
      have hex := exemptions_perform hs (.enterScope i scope)
      have hlen := congrArg List.length (stores_enterScope hs hc hstore scope)
      rw [List.length_modify] at hlen
      rw [hq] at hex hlen ⊢
      rw [enterScope_of_store hs hc hstore] at hex hlen ⊢
      have hon : ∀ k, (p.contextOn k i).isSome = decide (j = k) := by
        intro k
        simp [contextOn, hc, hstore, Option.isSome_filter]
      cases scope with
      | exemption =>
        refine ⟨?_, fun k hk => ?_, fun k => ?_⟩
        · rw [hlen]
          exact hs.contexts
        · rw [hlen]
          obtain hold | hnew := List.mem_append.1 hk
          · exact hs.guards k hold
          · rw [Option.toList_some, List.mem_singleton, Guard.exemption.injEq] at hnew
            exact hnew ▸ hlt
        · rw [hex, effect, hon, List.count_append, ← hs.exemptions k]
          by_cases hjk : j = k <;> simp [hjk, RequestStore.beginExemption]
      | refNameCaching allowed =>
        refine ⟨?_, fun k hk => ?_, fun k => ?_⟩
        · rw [hlen]
          exact hs.contexts
        · rw [hlen]
          exact hs.guards k (by simpa using hk)
        · rw [List.count_append]
          exact (hex k).trans (hs.exemptions k)

theorem Sound.drop (hs : p.Sound) (n : Nat) : (p.perform (.drop n)).1.Sound := by
  cases hg : p.guards[n]? with
  | none =>
    simp only [perform, hg]
    exact hs
  | some g =>
    have hq : (p.perform (.drop n)).1 = ⟨p.world.release g, p.guards.eraseIdx n⟩ := by
      simp only [perform, hg]
    have hex := exemptions_perform hs (.drop n)
    rw [hq] at hex ⊢
    have hlen : (p.world.release g).stores.length = p.world.stores.length := by
      cases g with
      | frame i id => rfl
      | exemption i => exact List.length_modify ..
      | refNameCaching i previous => exact List.length_modify ..
    refine ⟨fun ctx hctx k hk => ?_, fun k hk => ?_, fun k => ?_⟩
    · rw [hlen]
      cases g with
      | frame i id =>
        obtain ⟨old, hold, hstore⟩ := store_of_mem_modify (w := p.world) (f := (·.leave id))
          (fun _ => rfl) hctx
        exact hs.contexts old hold k (hstore.trans hk)
      | exemption i => exact hs.contexts ctx hctx k hk
      | refNameCaching i previous => exact hs.contexts ctx hctx k hk
    · rw [hlen]
      exact hs.guards k (List.mem_of_mem_eraseIdx hk)
    · have hcount := count_eraseIdx hg (.exemption k)
      rw [hex, effect, hg]
      simp only [Option.some.injEq]
      split at hcount
      · rename_i h
        have hend : (p.storeAt k).endExemption.exemptions = (p.storeAt k).exemptions - 1 := rfl
        rw [if_pos h, hend, hs.exemptions, hcount, Nat.add_sub_cancel]
      · rename_i h
        rw [if_neg h, hs.exemptions k]
        exact hcount

theorem Sound.perform (hs : p.Sound) (op : Operation) : (p.perform op).1.Sound := by
  cases op with
  | startRequest kind tracked caller correlationId =>
    exact hs.startRequest kind tracked caller correlationId
  | fork i => exact hs.fork i
  | enterFrame i label => exact hs.enterFrame i label
  | enterScope i scope => exact hs.enterScope i scope
  | drop n => exact hs.drop n
  | enforce x i site =>
    apply hs.within
    intro k
    exact (exemptions_perform hs (.enforce x i site) k).trans (exemptions_chargedBy x i k site _)
  | resetCounts i =>
    apply hs.within
    intro k
    refine (exemptions_perform hs (.resetCounts i) k).trans ?_
    rw [effect]
    split <;> rfl
  | markQuarantined i => exact hs.within (exemptions_perform hs (.markQuarantined i))
  | keepDetails i => exact hs.within (exemptions_perform hs (.keepDetails i))
  | sessionId x i => exact hs.within (exemptions_perform hs (.sessionId x i))
  | call x files elapsed i c =>
    apply hs.within
    intro k
    exact (exemptions_perform hs (.call x files elapsed i c) k).trans
      (exemptions_chargedBy x i k c.rpc _)
  | checkHealth x files elapsed i storage =>
    apply hs.within
    intro k
    exact (exemptions_perform hs (.checkHealth x files elapsed i storage) k).trans
      (exemptions_chargedBy x i k Connection.healthRpc _)
  | connectionFor r files service storage => exact hs.of_same rfl rfl rfl fun _ => rfl
  | clear => exact hs.of_same rfl rfl rfl fun _ => rfl
  | moveClock step =>
    have hworld : ∃ now, (World.moveClock step p.world).state = { p.world with now } := by
      unfold World.moveClock
      split
      · exact ⟨_, rfl⟩
      · exact ⟨p.world.now, rfl⟩
    obtain ⟨now, hnow⟩ := hworld
    have hq : (p.perform (.moveClock step)).1 = { p with world := { p.world with now } } := by
      rw [← hnow]
      rfl
    rw [hq]
    exact hs.of_same rfl rfl rfl fun _ => rfl
  | script responses health refusal => exact hs.of_same rfl rfl rfl fun _ => rfl

theorem Sound.run (hs : p.Sound) (ops : List Operation) : (p.run ops).Sound := by
  induction ops generalizing p with
  | nil => exact hs
  | cons op ops ih => exact ih (hs.perform op)

/-- At any time a store is exempt just when a guard is held that exempts it. -/
theorem Sound.counts_eq (hs : p.Sound) (enforcing : Bool) (k : Nat) :
    Budget.counts enforcing (p.storeAt k) = (enforcing && !p.exempts k) := by
  rw [Budget.counts, hs.exemptions, exempts]
  congr 1
  rw [Bool.eq_iff_iff, beq_iff_eq, List.count_eq_zero]
  simp

end Process

end StorageCalls
