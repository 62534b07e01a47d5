import StorageCalls.Proofs.ProcessSound

namespace StorageCalls

open Scenario (Answer)

/-- What is told of an operation in the history of one store. A call is eligible when limits are
enforced and no guard is held that exempts the store. -/
inductive Entry where
  | attempt (site signature : String) (eligible : Bool)
  | reset
  deriving DecidableEq

namespace Entry

def isAttempt : Entry → Bool
  | attempt .. => true
  | reset => false

def isEligible : Entry → Bool
  | attempt _ _ eligible => eligible
  | reset => false

def isOf (site : String) : Entry → Bool
  | attempt s _ _ => site == s
  | reset => false

def isFrom (signature : String) : Entry → Bool
  | attempt _ g _ => signature == g
  | reset => false

/-- The calls since the last reset, from the latest on. -/
def latest (h : List Entry) : List Entry := h.reverse.takeWhile isAttempt

variable (h : List Entry)

theorem latest_concat_attempt (site signature : String) (eligible : Bool) :
    latest (h ++ [attempt site signature eligible]) =
      attempt site signature eligible :: latest h := by
  rw [latest, List.reverse_concat, List.takeWhile_cons]
  rfl

theorem latest_concat_reset : latest (h ++ [reset]) = [] := by
  rw [latest, List.reverse_concat, List.takeWhile_cons]
  rfl

end Entry

/-- The numbers of a store are those of a history. -/
structure RequestStore.Records (s : RequestStore) (h : List Entry) : Prop where
  actual : ∀ site, s.actualCount site = h.countP (·.isOf site)
  enforced : ∀ site, s.enforcedCount site = h.countP fun e => e.isEligible && e.isOf site
  actualTotal : s.actualTotal = (Entry.latest h).length
  enforcedTotal : s.enforcedTotal = (Entry.latest h).countP (·.isEligible)
  signatures : ∀ signature,
    s.stackCount signature = h.countP fun e => e.isEligible && e.isFrom signature

namespace RequestStore.Records

variable {s t : RequestStore} {h : List Entry}

theorem congr (hr : s.Records h) (hb : t.budgetPart = s.budgetPart) : t.Records h where
  actual site := (congrArg (fun b => b.actualCount site) hb).trans (hr.actual site)
  enforced site := (congrArg (fun b => b.enforcedCount site) hb).trans (hr.enforced site)
  actualTotal := (congrArg (fun b => b.actualTotal) hb).trans hr.actualTotal
  enforcedTotal := (congrArg (fun b => b.enforcedTotal) hb).trans hr.enforcedTotal
  signatures g := (congrArg (fun b => b.stackCount g) hb).trans (hr.signatures g)

theorem empty : RequestStore.empty.Records [] where
  actual _ := rfl
  enforced _ := rfl
  actualTotal := rfl
  enforcedTotal := rfl
  signatures _ := rfl

theorem charge (hr : s.Records h) (enforcing : Bool) (signature site : String) :
    (Budget.charge enforcing signature site s).Records
      (h ++ [.attempt site signature (Budget.counts enforcing s)]) where
  actual k := by
    rw [Budget.actualCount_charge, hr.actual, List.countP_append, List.countP_singleton]
    simp [Entry.isOf]
  enforced k := by
    rw [Budget.enforcedCount_charge, hr.enforced, List.countP_append, List.countP_singleton]
    simp [Entry.isOf, Entry.isEligible]
  actualTotal := by
    rw [Entry.latest_concat_attempt, List.length_cons, ← hr.actualTotal]
    rfl
  enforcedTotal := by
    rw [Budget.enforcedTotal_charge, Entry.latest_concat_attempt, List.countP_cons,
      hr.enforcedTotal]
    rfl
  signatures k := by
    rw [Budget.stackCount_charge, hr.signatures, List.countP_append, List.countP_singleton]
    simp [Entry.isFrom, Entry.isEligible]

theorem resetTotals (hr : s.Records h) : s.resetTotals.Records (h ++ [.reset]) where
  actual k := by
    rw [List.countP_append]
    exact hr.actual k
  enforced k := by
    rw [List.countP_append]
    exact hr.enforced k
  actualTotal := by
    rw [Entry.latest_concat_reset]
    rfl
  enforcedTotal := by
    rw [Entry.latest_concat_reset]
    rfl
  signatures k := by
    rw [List.countP_append]
    exact hr.signatures k

theorem exemptions (hr : s.Records h) (n : Nat) : { s with exemptions := n }.Records h where
  actual := hr.actual
  enforced := hr.enforced
  actualTotal := hr.actualTotal
  enforcedTotal := hr.enforcedTotal
  signatures := hr.signatures

end RequestStore.Records

namespace Process

variable (p : Process) (k : Nat)

def eligible (x : Client) : Bool := x.isEnforcing && !p.exempts k

def attempt (x : Client) (i : Nat) (site : String) : Option Entry :=
  (p.contextOn k i).map fun ctx => .attempt site ctx.signature (p.eligible k x)

def entry : Operation → Option Entry
  | .enforce x i site => p.attempt k x i site
  | .call x _ _ i c => p.attempt k x i c.rpc
  | .checkHealth x _ _ i _ => p.attempt k x i Connection.healthRpc
  | .resetCounts i => (p.contextOn k i).map fun _ => .reset
  | _ => none

def history (p : Process) (k : Nat) : List Operation → List Entry
  | [] => []
  | op :: ops => (p.entry k op).toList ++ (p.perform op).1.history k ops

variable {p k} {h : List Entry}

theorem records_chargedBy (hs : p.Sound) (hr : (p.storeAt k).Records h) (x : Client) (i : Nat)
    (site : String) :
    (p.chargedBy k x i site (p.storeAt k)).Records (h ++ (p.attempt k x i site).toList) := by
  unfold chargedBy attempt
  cases p.contextOn k i with
  | none =>
    rw [Option.map_none, Option.toList_none, List.append_nil]
    exact hr
  | some ctx =>
    rw [Option.map_some, Option.toList_some, eligible, ← hs.counts_eq]
    exact hr.charge x.isEnforcing ctx.signature site

theorem records_effect (hs : p.Sound) (hr : (p.storeAt k).Records h) (op : Operation) :
    (p.effect k (p.storeAt k) op).Records (h ++ (p.entry k op).toList) := by
  have hsame : (p.storeAt k).Records (h ++ []) := by rwa [List.append_nil]
  cases op with
  | enforce x i site => exact records_chargedBy hs hr x i site
  | call x files elapsed i c => exact records_chargedBy hs hr x i c.rpc
  | checkHealth x files elapsed i storage => exact records_chargedBy hs hr x i Connection.healthRpc
  | resetCounts i =>
    simp only [effect, entry]
    cases p.contextOn k i with
    | none => exact hsame
    | some ctx => exact hr.resetTotals
  | enterScope i scope =>
    cases scope with
    | refNameCaching allowed => exact hsame
    | exemption =>
      simp only [effect]
      split
      · exact hsame.exemptions _
      · exact hsame
  | drop n =>
    simp only [effect]
    split
    · exact hsame.exemptions _
    · exact hsame
  | startRequest kind tracked caller correlationId => exact hsame
  | fork i => exact hsame
  | enterFrame i label => exact hsame
  | markQuarantined i => exact hsame
  | keepDetails i => exact hsame
  | sessionId x i => exact hsame
  | connectionFor r files service storage => exact hsame
  | clear => exact hsame
  | moveClock step => exact hsame
  | script responses health refusal => exact hsame

theorem records_perform (hs : p.Sound) (hr : (p.storeAt k).Records h) (op : Operation) :
    ((p.perform op).1.storeAt k).Records (h ++ (p.entry k op).toList) :=
  (records_effect hs hr op).congr (budgetPart_perform hs op k)

theorem records_run (hs : p.Sound) (hr : (p.storeAt k).Records h) (ops : List Operation) :
    ((p.run ops).storeAt k).Records (h ++ p.history k ops) := by
  induction ops generalizing p h with
  | nil =>
    rw [history, List.append_nil]
    exact hr
  | cons op ops ih =>
    rw [run_cons, history, ← List.append_assoc]
    exact ih (hs.perform op) (records_perform hs hr op)

theorem records_from_start (now : Instant) (ops : List Operation) (k : Nat) :
    (((start now).run ops).storeAt k).Records ((start now).history k ops) :=
  records_run (sound_start now) .empty ops

/-- What is said of the budget of one store after a run with the given history. -/
structure FollowsHistory (p : Process) (k : Nat) (h : List Entry) : Prop where
  counts : (p.storeAt k).Records h
  /-- The next call of `site` is refused just when it is eligible and as many calls of `site` as
  there may be were eligible before. -/
  answer : ∀ (x : Client) (i : Nat) (site : String), (p.contextOn k i).isSome →
    let q := p.perform (.enforce x i site)
    let worst := (q.1.storeAt k).worstStacks
    q.2 =
      if p.eligible k x ∧ Budget.ceiling ≤ h.countP fun e => e.isEligible && e.isOf site then
        .failed (.tooManyInvocations ⟨site, h.countP (·.isOf site) + 1, worst.1, worst.2⟩)
      else .done

theorem answer_enforce (hs : p.Sound) {ctx : RequestContext} {i : Nat}
    (hctx : p.contextOn k i = some ctx) (x : Client) (site : String) :
    (p.perform (.enforce x i site)).2 = .ofResult (fun _ => .done)
      (verdict (Budget.refusal x.isEnforcing ctx.signature site (p.storeAt k))) := by
  obtain ⟨hc, hk⟩ := contextOn_eq_some.1 hctx
  have hstore : (p.world.callState ctx).store = some (p.storeAt k) := hs.store? hc hk
  have hrun := (x.run_enforce ctx (p.world.callState ctx) site).2
  rw [hstore, Option.bind_some] at hrun
  simp only [perform, within, withContext, hc]
  rw [← hrun]
  rfl

theorem worstStacks_enforce (hs : p.Sound) {ctx : RequestContext} {i : Nat}
    (hctx : p.contextOn k i = some ctx) (x : Client) (site : String) :
    ((p.perform (.enforce x i site)).1.storeAt k).worstStacks =
      (Budget.charge x.isEnforcing ctx.signature site (p.storeAt k)).worstStacks := by
  have h := congrArg (fun b => b.worstStacks) (budgetPart_perform hs (.enforce x i site) k)
  simp only [effect, chargedBy, hctx] at h
  exact h

/-- After any run, each number in the budget of a store counts the calls that it should count, and
the answer to the next call is the one that the calls so far demand. -/
theorem budget_follows_history (now : Instant) (ops : List Operation) (k : Nat) :
    ((start now).run ops).FollowsHistory k ((start now).history k ops) := by
  have hs := (sound_start now).run ops
  have hr : (((start now).run ops).storeAt k).Records ((start now).history k ops) :=
    records_run (sound_start now) .empty ops
  refine ⟨hr, fun x i site hi => ?_⟩
  obtain ⟨ctx, hctx⟩ := Option.isSome_iff_exists.1 hi
  simp only
  rw [answer_enforce hs hctx, worstStacks_enforce hs hctx, Budget.refusal, hs.counts_eq,
    hr.enforced, ← eligible]
  split
  · rw [verdict, Answer.ofResult, Budget.overrunOf, Budget.actualCount_charge, hr.actual,
      if_pos rfl]
  · rfl

example :
    let x : Client := ⟨⟨default, []⟩, default, .fixed true, fun _ => ""⟩
    (start .epoch).history 0
      [.startRequest .background true .nobody none, .enterFrame 0 "show", .enforce x 0 "find",
        .enterScope 0 .exemption, .enforce x 0 "find", .drop 1, .fork 0, .resetCounts 1,
        .enforce x 1 "find"] =
      [.attempt "find" "show" true, .attempt "find" "show" false, .reset,
        .attempt "find" "show" true] := by
  rfl

end Process

end StorageCalls
