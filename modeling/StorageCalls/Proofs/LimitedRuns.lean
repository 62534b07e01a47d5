import StorageCalls.Proofs.LimitSwitch
import StorageCalls.Proofs.Refusals
import StorageCalls.Proofs.SessionMoves

namespace StorageCalls

open Scenario (Answer)

structure RequestStore.Uncharged (s : RequestStore) : Prop where
  enforced : s.enforced = .empty
  enforcedTotal : s.enforcedTotal = 0
  stackTally : s.stackTally = .empty

namespace RequestStore.Uncharged

variable {s t : RequestStore}

theorem empty : RequestStore.empty.Uncharged := ⟨rfl, rfl, rfl⟩

theorem congr (h : s.Uncharged) (hb : t.budgetPart = s.budgetPart) : t.Uncharged where
  enforced := (congrArg (·.enforced) hb).trans h.enforced
  enforcedTotal := (congrArg (·.enforcedTotal) hb).trans h.enforcedTotal
  stackTally := (congrArg (·.stackTally) hb).trans h.stackTally

theorem charge (h : s.Uncharged) (signature site : String) :
    (Budget.charge false signature site s).Uncharged := ⟨h.1, h.2, h.3⟩

theorem resetTotals (h : s.Uncharged) : s.resetTotals.Uncharged := ⟨h.1, rfl, h.3⟩

theorem exemptions (h : s.Uncharged) (n : Nat) : { s with exemptions := n }.Uncharged :=
  ⟨h.1, h.2, h.3⟩

end RequestStore.Uncharged

namespace Operation

def Enforces (enforcing : Bool) (op : Operation) : Prop :=
  ∀ x ∈ op.client?, x.isEnforcing = enforcing

def withClient (x : Client) : Operation → Operation
  | .enforce _ i site => .enforce x i site
  | .sessionId _ i => .sessionId x i
  | .call _ files elapsed i c => .call x files elapsed i c
  | .checkHealth _ files elapsed i storage => .checkHealth x files elapsed i storage
  | op => op

theorem enforces_withClient (x : Client) (op : Operation) :
    (op.withClient x).Enforces x.isEnforcing := by
  intro y hy
  cases op <;> cases hy <;> rfl

theorem Enforces.of_accounted {enforcing : Bool} {op : Operation} {x : Client} {i : Nat}
    {site : String} (h : op.Enforces enforcing) (ho : op.accounted? = some (x, i, site)) :
    x.isEnforcing = enforcing := by
  cases op <;> cases ho <;> exact h x rfl

end Operation

namespace Process

variable {p : Process} {k : Nat} {site : String} {op : Operation} {ops : List Operation}

/-- The operation is an attempt at a call of the site, in a context on the store. -/
def attempts (p : Process) (k : Nat) (site : String) (op : Operation) : Bool :=
  op.accounted?.any fun (_, i, called) => site == called && (p.contextOn k i).isSome

/-- How many attempts of a run were made when the process was as it says. -/
def countAttempts (when : Process → Bool) (p : Process) (k : Nat) (site : String) :
    List Operation → Nat
  | [] => 0
  | op :: ops =>
    (if p.attempts k site op && when p then 1 else 0) +
      (p.perform op).1.countAttempts when k site ops

theorem attempts_iff : p.attempts k site op ↔
    ∃ x i ctx, op.accounted? = some (x, i, site) ∧ p.contextOn k i = some ctx := by
  unfold attempts
  constructor
  · intro h
    obtain ⟨⟨x, i, called⟩, ho, hcalled⟩ := (Option.any_eq_true _ _).1 h
    rw [Bool.and_eq_true, beq_iff_eq] at hcalled
    obtain ⟨rfl, hsome⟩ := hcalled
    obtain ⟨ctx, hctx⟩ := Option.isSome_iff_exists.1 hsome
    exact ⟨x, i, ctx, ho, hctx⟩
  · rintro ⟨x, i, ctx, ho, hctx⟩
    simp [ho, hctx]

theorem countAttempts_concat (when : Process → Bool) (p : Process) (k : Nat) (site : String)
    (ops : List Operation) (op : Operation) :
    p.countAttempts when k site (ops ++ [op]) = p.countAttempts when k site ops +
      if (p.run ops).attempts k site op && when (p.run ops) then 1 else 0 := by
  induction ops generalizing p with
  | nil => simp [countAttempts, run]
  | cons first ops ih =>
    rw [List.cons_append, countAttempts, ih, countAttempts, run_cons, Nat.add_assoc]

theorem uncharged_perform (hs : p.Sound) (hop : op.Enforces false) (h : (p.storeAt k).Uncharged) :
    ((p.perform op).1.storeAt k).Uncharged := by
  apply RequestStore.Uncharged.congr _ (budgetPart_perform hs op k)
  have hcharged {x : Client} {i : Nat} {site : String} (ho : op.accounted? = some (x, i, site)) :
      (p.chargedBy k x i site (p.storeAt k)).Uncharged := by
    unfold chargedBy
    rw [hop.of_accounted ho]
    cases p.contextOn k i with
    | none => exact h
    | some ctx => exact h.charge ctx.signature site
  cases op with
  | enforce x i site => exact hcharged rfl
  | call x files elapsed i c => exact hcharged rfl
  | checkHealth x files elapsed i storage => exact hcharged rfl
  | resetCounts i =>
    simp only [effect]
    split
    · exact h.resetTotals
    · exact h
  | enterScope i scope =>
    cases scope with
    | refNameCaching allowed => exact h
    | exemption =>
      simp only [effect]
      split
      · exact h.exemptions _
      · exact h
  | drop n =>
    simp only [effect]
    split
    · exact h.exemptions _
    · exact h
  | _ => exact h

/-- Without enforcement nothing is ever counted against the ceiling. -/
theorem uncharged_run (hs : p.Sound) (hops : ∀ op ∈ ops, op.Enforces false)
    (h : (p.storeAt k).Uncharged) : ((p.run ops).storeAt k).Uncharged := by
  induction ops generalizing p with
  | nil => exact h
  | cons op ops ih =>
    rw [run_cons]
    exact ih (hs.perform op) (fun op' hop' => hops op' (.tail _ hop'))
      (uncharged_perform hs (hops op (.head _)) h)

theorem overrun?_of_not_enforcing (p : Process) (hop : op.Enforces false) :
    (p.perform op).2.overrun? = none := by
  rw [overrun?_perform]
  cases ho : op.accounted? with
  | none => rfl
  | some a =>
    obtain ⟨x, i, site⟩ := a
    simp only [Option.bind_some, hop.of_accounted ho, Option.bind_eq_none_iff]
    intro ctx _ store _
    rw [Budget.overrun?, Budget.counts, Bool.false_and, if_neg (by simp)]

theorem countP_history {pred : Entry → Bool} {when : Process → Bool}
    (h : ∀ p : Process, ∀ op ∈ ops, (p.entry k op).toList.countP pred =
      if p.attempts k site op && when p then 1 else 0) :
    (p.history k ops).countP pred = p.countAttempts when k site ops := by
  induction ops generalizing p with
  | nil => rfl
  | cons op ops ih =>
    rw [history, List.countP_append, countAttempts, h p op (.head _),
      ih fun q op' hop' => h q op' (.tail _ hop')]

theorem entry_of_not_accounted (ho : op.accounted? = none) :
    p.entry k op = none ∨ p.entry k op = some .reset := by
  cases op with
  | resetCounts i =>
    simp only [entry]
    cases p.contextOn k i with
    | none => exact .inl rfl
    | some ctx => exact .inr rfl
  | enforce x i site => cases ho
  | call x files elapsed i c => cases ho
  | checkHealth x files elapsed i storage => cases ho
  | _ => exact .inl rfl

theorem countP_isOf_entry (p : Process) (k : Nat) (site : String) (op : Operation) :
    (p.entry k op).toList.countP (·.isOf site) =
      if p.attempts k site op && true then 1 else 0 := by
  unfold attempts
  cases ho : op.accounted? with
  | none =>
    obtain hentry | hentry := p.entry_of_not_accounted (k := k) ho <;> rw [hentry] <;> rfl
  | some a =>
    obtain ⟨x, i, called⟩ := a
    rw [entry_of_accounted ho, attempt]
    cases hctx : p.contextOn k i <;> simp [hctx, Entry.isOf]

theorem countP_eligible_entry (hop : op.Enforces true) (p : Process) (k : Nat) (site : String) :
    (p.entry k op).toList.countP (fun e => e.isEligible && e.isOf site) =
      if p.attempts k site op && !p.exempts k then 1 else 0 := by
  unfold attempts
  cases ho : op.accounted? with
  | none =>
    obtain hentry | hentry := p.entry_of_not_accounted (k := k) ho <;> rw [hentry] <;> rfl
  | some a =>
    obtain ⟨x, i, called⟩ := a
    rw [entry_of_accounted ho, attempt, eligible, hop.of_accounted ho]
    cases hctx : p.contextOn k i <;> simp [hctx, Entry.isOf, Entry.isEligible, and_comm]

/-- What is said of a run in which no limits are enforced, and of the operation after it. -/
structure Unlimited (now : Instant) (ops : List Operation) (op : Operation) : Prop where
  answer : (((start now).run ops).perform op).2.overrun? = none
  uncharged : ∀ k, (((start now).run ops).storeAt k).Uncharged
  /-- Every attempt on a tracked context is counted all the same. -/
  actual : ∀ k site, (((start now).run ops).storeAt k).actualCount site =
    (start now).countAttempts (fun _ => true) k site ops
  actualTotal : ∀ k, (((start now).run ops).storeAt k).actualTotal =
    (Entry.latest ((start now).history k ops)).length

/-- What is said of a run in which limits are enforced, and of the operation after it. -/
structure Limited (now : Instant) (ops : List Operation) (op : Operation) : Prop where
  /-- An attempt is refused just when it is not exempt, and as many attempts as there may be were
  not exempt before it. -/
  refused : ∀ k site, ((start now).run ops).attempts k site op →
    ((((start now).run ops).perform op).2.overrun?.isSome ↔
      ((start now).run ops).exempts k = false ∧
        Budget.ceiling ≤ (start now).countAttempts (fun p => !p.exempts k) k site ops)

theorem unlimited_of_not_enforcing (now : Instant) (hops : ∀ op ∈ ops, op.Enforces false)
    (hop : op.Enforces false) : Unlimited now ops op where
  answer := overrun?_of_not_enforcing _ hop
  uncharged k := uncharged_run (sound_start now) hops .empty
  actual k site := by
    rw [(records_from_start now ops k).actual]
    exact countP_history fun p op _ => p.countP_isOf_entry k site op
  actualTotal k := (records_from_start now ops k).actualTotal

theorem limited_of_enforcing (now : Instant) (hops : ∀ op ∈ ops, op.Enforces true)
    (hop : op.Enforces true) : Limited now ops op where
  refused k site hattempt := by
    have hs := (sound_start now).run ops
    have hr := records_from_start now ops k
    obtain ⟨x, i, ctx, ho, hctx⟩ := attempts_iff.1 hattempt
    have hcount : ((start now).history k ops).countP (fun e => e.isEligible && e.isOf site) =
        (start now).countAttempts (fun p => !p.exempts k) k site ops :=
      countP_history fun p op hop' => countP_eligible_entry (hops op hop') p k site
    have heligible :
        ((start now).run ops).eligible k x ↔ ((start now).run ops).exempts k = false := by
      rw [eligible, hop.of_accounted ho, Bool.true_and, Bool.not_eq_true']
    rw [overrun?_perform_of_records hs hr ho hctx, hcount]
    simp only [heligible]
    split
    · next hr => exact iff_of_true rfl hr
    · next hr => exact iff_of_false (by simp) hr

end Process

/-- What the switch, the flag and the environment come to for a client whose configuration is the
given one after the overrides. -/
structure RuledBySwitch (c : ClientConfig) (lookups : List (String → Option String)) (x : Client) :
    Prop where
  switch : x.config.limitsDisabled ↔
    c.limitsDisabled ∨ ∃ lookup ∈ lookups, ClientConfig.SetsSwitch lookup
  others : { x.config with limitsDisabled := c.limitsDisabled } = c
  again : ∀ more, (∀ lookup ∈ more, lookup ∈ lookups) → x.config.overrideAll more = x.config
  unlimited : x.config.limitsDisabled ∨
      c.environment = .production ∧ x.flags.isEnabled EnforcementPolicy.forcingFlag = false →
    ∀ (now : Instant) (ops : List Operation) (op : Operation),
      Process.Unlimited now (ops.map (·.withClient x)) (op.withClient x)
  limited : ¬ (x.config.limitsDisabled ∨
      c.environment = .production ∧ x.flags.isEnabled EnforcementPolicy.forcingFlag = false) →
    ∀ (now : Instant) (ops : List Operation) (op : Operation),
      Process.Limited now (ops.map (·.withClient x)) (op.withClient x)

/-- Once the switch is set, or in production without the flag, no run of a client is limited; in all
other cases every run is. -/
theorem ruled_by_switch (c : ClientConfig) (lookups : List (String → Option String))
    (interceptors : List Interceptor) (flags : FeatureFlags) (sessionIds : Nat → String) :
    RuledBySwitch c lookups
      (.goingByEnvironment (c.overrideAll lookups) interceptors flags sessionIds) := by
  have hx := Client.isEnforcing_goingByEnvironment (c.overrideAll lookups) interceptors flags
    sessionIds
  have henvironment : (c.overrideAll lookups).environment = c.environment := by
    rw [ClientConfig.overrideAll_eq]
  rw [henvironment] at hx
  have hall (x : Client) (ops : List Operation) :
      ∀ op ∈ ops.map (·.withClient x), op.Enforces x.isEnforcing := by
    intro op hop
    obtain ⟨op, -, rfl⟩ := List.mem_map.1 hop
    exact op.enforces_withClient x
  refine ⟨c.limitsDisabled_overrideAll lookups, ?_, fun more h => c.overrideAll_again lookups h,
    fun hoff now ops op => ?_, fun hon now ops op => ?_⟩
  · change { c.overrideAll lookups with limitsDisabled := c.limitsDisabled } = c
    rw [ClientConfig.overrideAll_eq]
  · apply Process.unlimited_of_not_enforcing now
    · exact hx.2 hoff ▸ hall _ ops
    · exact hx.2 hoff ▸ op.enforces_withClient _
  · have henforcing := Bool.of_not_eq_false fun h => hon (hx.1 h)
    apply Process.limited_of_enforcing now
    · exact henforcing ▸ hall _ ops
    · exact henforcing ▸ op.enforces_withClient _

end StorageCalls
