import StorageCalls.Proofs.BudgetHistory
import StorageCalls.Proofs.Sending

namespace StorageCalls

open Scenario (Answer)

/-- What one operation sends, and whether as a call that is eligible on a given store. -/
structure Dispatch where
  eligible : Bool
  sent : List Invocation

namespace Process

variable (p : Process) (k : Nat)

def dispatch (op : Operation) : Dispatch where
  eligible := (p.entry k op).any (·.isEligible)
  sent := (p.perform op).1.invocations.drop p.invocations.length

def dispatches (p : Process) (k : Nat) : List Operation → List Dispatch
  | [] => []
  | op :: ops => p.dispatch k op :: (p.perform op).1.dispatches k ops

/-- The invocations of an rpc from eligible calls. -/
def eligibleSent (rpc : String) (ds : List Dispatch) : Nat :=
  ((ds.filter (·.eligible)).flatMap (·.sent)).countP (·.rpc == rpc)

variable {p k} {α : Type}

theorem eligibleSent_cons (rpc : String) (d : Dispatch) (ds : List Dispatch) :
    eligibleSent rpc (d :: ds) =
      (if d.eligible then d.sent.countP (·.rpc == rpc) else 0) + eligibleSent rpc ds := by
  unfold eligibleSent
  cases h : d.eligible with
  | false => simp [h]
  | true => simp [h, List.countP_append]

theorem invocations_within {x : Client} {rpc : String} {y : RequestContext → Stage CallState α}
    {f : α → Answer} (hs : p.Sound) (i k : Nat) (hy : ∀ ctx, SendsIfAllowed x ctx rpc (y ctx)) :
    ∃ new, (p.within i y f).1.invocations = p.invocations ++ new ∧ AtMostOne rpc new ∧
      ∀ ctx, p.contextOn k i = some ctx → new ≠ [] →
        Budget.refusal x.isEnforcing ctx.signature rpc (p.storeAt k) = none := by
  unfold within withContext
  cases hc : p.world.contexts[i]? with
  | none => exact ⟨[], (List.append_nil _).symm, .inl rfl, fun _ _ hne => absurd rfl hne⟩
  | some ctx =>
    obtain ⟨new, hnew, hone, hallowed⟩ := hy ctx (p.world.callState ctx)
    refine ⟨new, hnew, hone, fun ctx' hctx hne => ?_⟩
    obtain ⟨hc', hk⟩ := contextOn_eq_some.1 hctx
    obtain rfl : ctx = ctx' := Option.some.inj (hc.symm.trans hc')
    have hstore : (p.world.callState ctx).store = some (p.storeAt k) := hs.store? hc hk
    have h := hallowed hne
    rwa [hstore] at h

theorem enforcedCount_perform (hs : p.Sound) (op : Operation) (rpc : String) :
    ((p.perform op).1.storeAt k).enforcedCount rpc =
      (p.effect k (p.storeAt k) op).enforcedCount rpc :=
  congrArg (fun b => b.enforcedCount rpc) (budgetPart_perform hs op k)

theorem enforcedCount_le_chargedBy (x : Client) (i : Nat) (site rpc : String) (s : RequestStore) :
    s.enforcedCount rpc ≤ (p.chargedBy k x i site s).enforcedCount rpc := by
  unfold chargedBy
  cases p.contextOn k i with
  | none => exact Nat.le_refl _
  | some ctx =>
    rw [Budget.enforcedCount_charge]
    exact Nat.le_add_right _ _

theorem enforcedCount_le_effect (op : Operation) (rpc : String) (s : RequestStore) :
    s.enforcedCount rpc ≤ (p.effect k s op).enforcedCount rpc := by
  cases op with
  | enforce x i site => exact enforcedCount_le_chargedBy x i site rpc s
  | call x files elapsed i c => exact enforcedCount_le_chargedBy x i c.rpc rpc s
  | checkHealth x files elapsed i storage =>
    exact enforcedCount_le_chargedBy x i Connection.healthRpc rpc s
  | resetCounts i =>
    simp only [effect]
    split <;> exact Nat.le_refl _
  | enterScope i scope =>
    cases scope with
    | exemption =>
      simp only [effect]
      split <;> exact Nat.le_refl _
    | refNameCaching allowed => exact Nat.le_refl _
  | drop n =>
    simp only [effect]
    split <;> exact Nat.le_refl _
  | _ => exact Nat.le_refl _

/-- What an eligible call sends was counted before, and only while there was room. -/
theorem countP_le {x : Client} {ctx : RequestContext} {site : String} {new : List Invocation}
    (hone : AtMostOne site new) (he : Budget.counts x.isEnforcing (p.storeAt k) = true)
    (hallowed : new ≠ [] →
      Budget.refusal x.isEnforcing ctx.signature site (p.storeAt k) = none) (rpc : String) :
    let n := new.countP (·.rpc == rpc)
    (p.storeAt k).enforcedCount rpc + n ≤
        (Budget.charge x.isEnforcing ctx.signature site (p.storeAt k)).enforcedCount rpc ∧
      (0 < n → (p.storeAt k).enforcedCount rpc + n ≤ Budget.ceiling) := by
  intro n
  rw [Budget.enforcedCount_charge]
  obtain rfl | ⟨inv, rfl, hrpc⟩ := hone
  · exact ⟨Nat.add_le_add_left (Nat.zero_le _) _, fun h => absurd h (Nat.lt_irrefl 0)⟩
  · have hroom : (p.storeAt k).enforcedCount site < Budget.ceiling := by
      have h := hallowed (List.cons_ne_nil _ _)
      simpa [Budget.refusal, he] using h
    by_cases h : rpc = site
    · have hn : n = 1 := by simp [n, hrpc, h]
      rw [hn, h]
      exact ⟨by simp [he], fun _ => hroom⟩
    · have hn : n = 0 := by simp [n, hrpc, Ne.symm h]
      rw [hn]
      exact ⟨Nat.le_add_right _ _, fun h0 => absurd h0 (Nat.lt_irrefl 0)⟩

/-- The log of invocations only grows, and by an eligible call only as far as there is room. -/
structure Admitted (p : Process) (k : Nat) (op : Operation) : Prop where
  log : (p.perform op).1.invocations = p.invocations ++ (p.dispatch k op).sent
  room : (p.dispatch k op).eligible → ∀ rpc,
    let n := (p.dispatch k op).sent.countP (·.rpc == rpc)
    (p.storeAt k).enforcedCount rpc + n ≤ ((p.perform op).1.storeAt k).enforcedCount rpc ∧
      (0 < n → (p.storeAt k).enforcedCount rpc + n ≤ Budget.ceiling)

theorem sent_of_log {op : Operation} {new : List Invocation}
    (h : (p.perform op).1.invocations = p.invocations ++ new) : (p.dispatch k op).sent = new := by
  rw [dispatch, h, List.drop_left]

theorem Admitted.of_quiet {op : Operation} (hlog : (p.perform op).1.invocations = p.invocations)
    (hentry : (p.entry k op).any (·.isEligible) = false) : p.Admitted k op where
  log := by
    have h : (p.perform op).1.invocations = p.invocations ++ [] := by rw [hlog, List.append_nil]
    rw [sent_of_log h, h]
  room h := by
    rw [dispatch, hentry] at h
    cases h

theorem Admitted.of_within {op : Operation} {x : Client} {i : Nat} {site : String}
    {y : RequestContext → Stage CallState α} {f : α → Answer} (hs : p.Sound)
    (hy : ∀ ctx, SendsIfAllowed x ctx site (y ctx)) (hp : p.perform op = p.within i y f)
    (hentry : p.entry k op = p.attempt k x i site)
    (heffect : p.effect k (p.storeAt k) op = p.chargedBy k x i site (p.storeAt k)) :
    p.Admitted k op := by
  obtain ⟨new, hlog, hone, hallowed⟩ := invocations_within (f := f) hs i k hy
  rw [← hp] at hlog
  refine ⟨by rw [sent_of_log hlog, hlog], fun h rpc => ?_⟩
  rw [sent_of_log hlog, enforcedCount_perform hs, heffect]
  rw [dispatch, hentry, attempt] at h
  unfold chargedBy
  cases hctx : p.contextOn k i with
  | none =>
    rw [hctx] at h
    cases h
  | some ctx =>
    rw [hctx] at h
    have he : Budget.counts x.isEnforcing (p.storeAt k) = true := by
      rw [hs.counts_eq]
      exact h
    exact countP_le hone he (hallowed ctx hctx) rpc

theorem invocations_withContext {i : Nat} {g : RequestContext → Process × Answer}
    (h : ∀ ctx, (g ctx).1.invocations = p.invocations) :
    (p.withContext i g).1.invocations = p.invocations := by
  unfold withContext
  cases p.world.contexts[i]? with
  | none => rfl
  | some ctx => exact h ctx

theorem invocations_enterScope (ctx : RequestContext) (scope : Scope) :
    (p.keep (p.world.enterScope ctx scope)).1.invocations = p.invocations := by
  unfold keep World.enterScope
  split
  · cases scope <;> rfl
  · rfl

theorem admitted (hs : p.Sound) (k : Nat) (op : Operation) : p.Admitted k op := by
  cases op with
  | enforce x i site => exact .of_within hs (fun ctx => .enforce x ctx site) rfl rfl rfl
  | call x files elapsed i c => exact .of_within hs (fun ctx => .call x _ ctx c) rfl rfl rfl
  | checkHealth x files elapsed i storage =>
    exact .of_within hs (fun ctx => .checkHealth x _ ctx storage) rfl rfl rfl
  | startRequest kind tracked caller correlationId => exact .of_quiet rfl rfl
  | fork i => exact .of_quiet (invocations_withContext fun _ => rfl) rfl
  | enterFrame i label =>
    refine .of_quiet ?_ rfl
    simp only [perform, World.enterFrame]
    cases p.world.contexts[i]? <;> rfl
  | enterScope i scope =>
    exact .of_quiet (invocations_withContext fun ctx => invocations_enterScope ctx scope) rfl
  | drop n =>
    refine .of_quiet ?_ rfl
    simp only [perform]
    cases p.guards[n]? with
    | none => rfl
    | some g => cases g <;> rfl
  | resetCounts i =>
    refine .of_quiet (invocations_withContext fun ctx => Stage.Keeps.sentOnStore _ _) ?_
    rw [entry]
    cases p.contextOn k i <;> rfl
  | markQuarantined i =>
    exact .of_quiet (invocations_withContext fun ctx => Stage.Keeps.sentOnStore _ _) rfl
  | keepDetails i =>
    exact .of_quiet (invocations_withContext fun ctx => Stage.Keeps.sentOnStore _ _) rfl
  | sessionId x i =>
    exact .of_quiet (invocations_withContext fun ctx => Stage.Keeps.sentSessionId x _) rfl
  | connectionFor r files service storage =>
    exact .of_quiet (Stage.Keeps.sentConnectionFor r files service storage
      ⟨none, 0, p.world.transport⟩) rfl
  | clear => exact .of_quiet rfl rfl
  | moveClock step =>
    refine .of_quiet ?_ rfl
    change (World.moveClock step p.world).state.transport.network.invocations = p.invocations
    unfold World.moveClock
    split <;> rfl
  | script responses health refusal => exact .of_quiet rfl rfl

theorem invocations_run (hs : p.Sound) (ops : List Operation) :
    (p.run ops).invocations = p.invocations ++ (p.dispatches k ops).flatMap (·.sent) := by
  induction ops generalizing p with
  | nil => exact (List.append_nil _).symm
  | cons op ops ih =>
    rw [run_cons, ih (hs.perform op), (admitted hs k op).log, dispatches, List.flatMap_cons,
      List.append_assoc]

theorem eligibleSent_le (hs : p.Sound) (rpc : String) {n : Nat}
    (hcount : n ≤ (p.storeAt k).enforcedCount rpc) (hn : n ≤ Budget.ceiling)
    (ops : List Operation) : n + eligibleSent rpc (p.dispatches k ops) ≤ Budget.ceiling := by
  induction ops generalizing p n with
  | nil => exact hn
  | cons op ops ih =>
    have hgrows := enforcedCount_le_effect (p := p) (k := k) op rpc (p.storeAt k)
    rw [← enforcedCount_perform hs] at hgrows
    rw [dispatches, eligibleSent_cons, ← Nat.add_assoc]
    by_cases he : (p.dispatch k op).eligible
    · obtain ⟨hsent, hroom⟩ := (admitted hs k op).room he rpc
      rw [if_pos he]
      apply ih (hs.perform op)
      · omega
      · obtain h0 | hpos := Nat.eq_zero_or_pos ((p.dispatch k op).sent.countP (·.rpc == rpc))
        · rwa [h0]
        · have := hroom hpos
          omega
    · rw [if_neg he]
      exact ih (hs.perform op) (Nat.le_trans hcount hgrows) hn

/-- Every invocation is sent by some operation of the run, and eligible calls of one rpc in one
request send no more than the ceiling. -/
theorem eligible_sent_le_ceiling (now : Instant) (ops : List Operation) (k : Nat) (rpc : String) :
    ((start now).run ops).invocations = ((start now).dispatches k ops).flatMap (·.sent) ∧
      eligibleSent rpc ((start now).dispatches k ops) ≤ Budget.ceiling := by
  have hs := sound_start now
  refine ⟨invocations_run hs ops, ?_⟩
  have h := eligibleSent_le (k := k) hs rpc (Nat.zero_le _) (Nat.zero_le _) ops
  rwa [Nat.zero_add] at h

end Process

end StorageCalls
