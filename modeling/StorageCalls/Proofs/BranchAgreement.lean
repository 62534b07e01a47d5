import StorageCalls.Proofs.BranchCalls
import StorageCalls.Proofs.Tallies

namespace StorageCalls

open Scenario (Answer)
open Branch

namespace Budget

theorem counts_charge (enforcing : Bool) (g site : String) (s : RequestStore) :
    counts enforcing (charge enforcing g site s) = counts enforcing s := rfl

/-- In which order calls are counted cannot be told afterwards. -/
theorem charge_comm (enforcing : Bool) (g site g' site' : String) (s : RequestStore) :
    charge enforcing g' site' (charge enforcing g site s) =
      charge enforcing g site (charge enforcing g' site' s) := by
  have hactual := Tally.increment_comm s.actual site site'
  have henforced := Tally.increment_comm s.enforced site site'
  have hstacks := Tally.increment_comm s.stackTally g g'
  simp only [charge, counts]
  by_cases h : (enforcing && s.exemptions == 0) = true <;>
    simp only [h, hactual, henforced, hstacks, if_true, Bool.false_eq_true, if_false]

end Budget

namespace Branch

def stepsOf (b : Nat) (turns : List Turn) : List Step :=
  (turns.filter fun t => t.branch = b).map (·.step)

def reportsOf (b : Nat) (reports : List Report) : List Report :=
  reports.filter fun r => r.branch = b

def refusedAt (site : String) (reports : List Report) : Nat :=
  reports.countP fun r => r.site = site ∧ isRefused r.answer

/-- The turns are those of a program, which says what each branch does one after the other. -/
def Interleaves (program : Nat → List Step) (turns : List Turn) : Prop :=
  ∀ b, stepsOf b turns = program b

def Report.charge (x : Client) (s : RequestStore) (r : Report) : RequestStore :=
  Budget.charge x.isEnforcing r.signature r.site s

end Branch

namespace Process

variable {p q : Process} {x : Client} {k b : Nat} {t : Turn} {turns : List Turn}
  {env : Surroundings} {s : CallState}

theorem report_eq_none (hc : t.step.callOf x = none) : p.report k x t = none := by
  rw [report, hc]
  rfl

theorem report_eq_some {ctx : RequestContext} {c : Call} (hctx : p.contextOn k t.branch = some ctx)
    (hc : t.step.callOf x = some c) :
    p.report k x t = some ⟨t.branch, c.rpc, ctx.signature, (p.take x t).2,
      (p.take x t).1.invocations.drop p.invocations.length,
      ((p.take x t).1.storeAt k).details.drop (p.storeAt k).details.length⟩ := by
  rw [report, hc, (contextOn_eq_some.1 hctx).1]
  rfl

theorem contextOn_rest (hon : ∀ u ∈ t :: turns, (q.contextOn k u.branch).isSome) :
    ∀ u ∈ turns, ((q.take x t).1.contextOn k u.branch).isSome := by
  intro u hu
  rw [contextOn_take]
  exact hon u (List.mem_cons_of_mem _ hu)

theorem metBy_report (hs : q.Sound) (hctx : (q.contextOn k t.branch).isSome)
    (hnow : q.world.now = env.now) (hout : x.outlook (q.stateOn k) = x.outlook s) :
    List.Forall₂ Expectation.MetBy
      (expectation x env s t.branch (q.view t.branch) t.step).toList (q.report k x t).toList := by
  obtain ⟨ctx, hctx⟩ := Option.isSome_iff_exists.1 hctx
  cases hc : t.step.callOf x with
  | none =>
    rw [report_eq_none hc, expectation, hc]
    exact .nil
  | some c =>
    have hx := exchanges_take hs hctx hc
    rw [report_eq_some hctx hc, expectation, hc, view, (contextOn_eq_some.1 hctx).1]
    refine .cons ⟨rfl, rfl, rfl, ?_, ?_⟩ .nil
    · obtain ⟨new, hnew, hsent⟩ := hx.sends
      have hsame : x.letThrough (q.surroundings t.files t.elapsed) ctx c (q.stateOn k) =
          x.letThrough env ctx c s := Client.letThrough_congr hnow hout rfl
      rw [hsame] at hsent
      rw [hnew, List.drop_left]
      exact hsent
    · obtain ⟨new, hnew, hsite⟩ := hx.notes
      simp only [hnew, List.drop_left]
      exact hsite

theorem branch_report {r : Report} (h : p.report k x t = some r) : r.branch = t.branch := by
  rw [report] at h
  simp only [Option.bind_eq_bind, Option.bind_eq_some_iff, Option.pure_def, Option.some.injEq] at h
  obtain ⟨c, -, ctx, -, rfl⟩ := h
  rfl

theorem reportsOf_report (b : Nat) :
    reportsOf b (q.report k x t).toList =
      if t.branch = b then (q.report k x t).toList else [] := by
  cases hr : q.report k x t with
  | none => simp [reportsOf]
  | some r =>
    by_cases hb : t.branch = b <;> simp [reportsOf, branch_report hr, hb]

theorem metBy_reports (hs : q.Sound) (hon : ∀ t ∈ turns, (q.contextOn k t.branch).isSome)
    (hnow : q.world.now = env.now) (hout : x.outlook (q.stateOn k) = x.outlook s) (b : Nat) :
    List.Forall₂ Expectation.MetBy (expectations x env s b (q.view b) (stepsOf b turns))
      (reportsOf b (q.reports k x turns)) := by
  induction turns generalizing q with
  | nil => exact .nil
  | cons t turns ih =>
    have hctx := hon t List.mem_cons_self
    have hrest := ih (q := (q.take x t).1) (hs.take t) (contextOn_rest hon)
      (by rw [now_take, hnow]) (by rw [outlook_take hs hctx, hout])
    rw [view_take] at hrest
    rw [reports, reportsOf, List.filter_append, ← reportsOf, ← reportsOf, reportsOf_report]
    by_cases hb : t.branch = b
    · subst hb
      rw [if_pos rfl] at hrest
      have hsteps : stepsOf t.branch (t :: turns) = t.step :: stepsOf t.branch turns := by
        simp [stepsOf]
      rw [hsteps, expectations, if_pos rfl]
      exact List.rel_append (metBy_report hs hctx hnow hout) hrest
    · rw [if_neg hb] at hrest
      have hsteps : stepsOf b (t :: turns) = stepsOf b turns := by simp [stepsOf, hb]
      rw [hsteps, if_neg hb, List.nil_append]
      exact hrest

theorem budgetPart_take (hs : q.Sound) (hctx : (q.contextOn k t.branch).isSome) :
    ((q.take x t).1.storeAt k).budgetPart =
      (q.report k x t).toList.foldl (Report.charge x) (q.storeAt k).budgetPart := by
  obtain ⟨ctx, hctx⟩ := Option.isSome_iff_exists.1 hctx
  cases hc : t.step.callOf x with
  | some c =>
    rw [(exchanges_take hs hctx hc).budget, report_eq_some hctx hc]
    rfl
  | none =>
    have hstate := congrArg CallState.budget (stateOn_take_of_not_call (p := q) hc k)
    rw [report_eq_none hc]
    exact Option.some.inj hstate

/-- The budget after a run is charged with the calls that are reported. -/
theorem budgetPart_takeAll (hs : q.Sound) (hon : ∀ t ∈ turns, (q.contextOn k t.branch).isSome) :
    ((q.takeAll x turns).storeAt k).budgetPart =
      (q.reports k x turns).foldl (Report.charge x) (q.storeAt k).budgetPart := by
  induction turns generalizing q with
  | nil => rfl
  | cons t turns ih =>
    have hrest := ih (q := (q.take x t).1) (hs.take t) (contextOn_rest hon)
    rw [reports, List.foldl_append, ← budgetPart_take hs (hon t List.mem_cons_self)]
    exact hrest

def excess (x : Client) (site : String) (s : RequestStore) : Nat :=
  if Budget.counts x.isEnforcing s then s.enforcedCount site - Budget.ceiling else 0

theorem refusedAt_report (hs : q.Sound) (hctx : (q.contextOn k t.branch).isSome) (site : String) :
    refusedAt site (q.report k x t).toList + excess x site (q.storeAt k) =
      excess x site ((q.take x t).1.storeAt k) := by
  obtain ⟨ctx, hctx⟩ := Option.isSome_iff_exists.1 hctx
  cases hc : t.step.callOf x with
  | none =>
    have hstore : (q.take x t).1.storeAt k = q.storeAt k :=
      Option.some.inj (congrArg CallState.store (stateOn_take_of_not_call (p := q) hc k))
    rw [report_eq_none hc, hstore]
    exact Nat.zero_add _
  | some c =>
    have hx := exchanges_take hs hctx hc
    have hafter : excess x site ((q.take x t).1.storeAt k) =
        excess x site (Budget.charge x.isEnforcing ctx.signature c.rpc (q.storeAt k)) := by
      have h := congrArg (excess x site) hx.budget
      exact h
    have hcount := Budget.enforcedCount_charge x.isEnforcing ctx.signature c.rpc (q.storeAt k) site
    rw [hafter, report_eq_some hctx hc, Option.toList_some, refusedAt, List.countP_singleton,
      hx.refused, Budget.refusal, excess, excess, Budget.counts_charge, hcount]
    by_cases hcounts : Budget.counts x.isEnforcing (q.storeAt k) = true
    · by_cases hsite : c.rpc = site
      · subst hsite
        by_cases hle : Budget.ceiling ≤ (q.storeAt k).enforcedCount c.rpc <;>
          simp [hcounts, hle] <;> omega
      · simp [hcounts, hsite, Ne.symm hsite]
    · simp [hcounts]

theorem refusedAt_reports (hs : q.Sound) (hon : ∀ t ∈ turns, (q.contextOn k t.branch).isSome)
    (site : String) :
    refusedAt site (q.reports k x turns) + excess x site (q.storeAt k) =
      excess x site ((q.takeAll x turns).storeAt k) := by
  induction turns generalizing q with
  | nil => simp [reports, refusedAt, takeAll]
  | cons t turns ih =>
    have hrest := ih (q := (q.take x t).1) (hs.take t) (contextOn_rest hon)
    have hfirst := refusedAt_report (x := x) hs (hon t List.mem_cons_self) site
    have hsum : refusedAt site (q.reports k x (t :: turns)) =
        refusedAt site (q.report k x t).toList +
          refusedAt site ((q.take x t).1.reports k x turns) := List.countP_append
    have hrun : (q.takeAll x (t :: turns)) = (q.take x t).1.takeAll x turns := rfl
    rw [hrun, ← hrest, ← hfirst, hsum]
    omega

end Process

namespace Branch

/-- Two reports of one call, seen in two runs. -/
structure Report.Agrees (r r' : Report) : Prop where
  site : r.site = r'.site
  signature : r.signature = r'.signature
  sent : r.sent ≠ [] → r'.sent ≠ [] → r.sent = r'.sent
  details : ∀ d ∈ r.details, ∀ d' ∈ r'.details, d.callSite = d'.callSite

variable {e : Expectation} {r r' : Report} {es : List Expectation} {rs rs' : List Report}

theorem Expectation.MetBy.agrees (h : e.MetBy r) (h' : e.MetBy r') : r.Agrees r' where
  site := h.site.trans h'.site.symm
  signature := h.signature.trans h'.signature.symm
  sent hr hr' := (h.sent.resolve_left hr).trans (h'.sent.resolve_left hr').symm
  details d hd d' hd' := (h.details d hd).trans (h'.details d' hd').symm

theorem agrees_of_metBy (h : List.Forall₂ Expectation.MetBy es rs)
    (h' : List.Forall₂ Expectation.MetBy es rs') : List.Forall₂ Report.Agrees rs rs' := by
  induction h generalizing rs' with
  | nil =>
    cases h'
    exact .nil
  | cons hr _ ih =>
    cases h' with
    | cons hr' hrs' => exact .cons (hr.agrees hr') (ih hrs')

def Report.key (r : Report) : Nat × String × String := (r.branch, r.site, r.signature)

theorem keys_of_metBy (h : List.Forall₂ Expectation.MetBy es rs) :
    rs.map Report.key = es.map fun e => (e.branch, e.site, e.signature) := by
  induction h with
  | nil => rfl
  | cons hr _ ih =>
    rw [List.map_cons, List.map_cons, ih, Report.key, hr.branch, hr.site, hr.signature]

theorem perm_of_filter_eq {α : Type} [DecidableEq α] {l l' : List (Nat × α)}
    (h : ∀ b, l.filter (fun a => a.1 = b) = l'.filter fun a => a.1 = b) : l.Perm l' := by
  rw [List.perm_iff_count]
  intro a
  have hkeep : ∀ m : List (Nat × α), m.count a = (m.filter fun c => c.1 = a.1).count a := by
    intro m
    rw [List.count_filter (by simp)]
  rw [hkeep l, hkeep l', h]

end Branch

namespace Process

variable {p q : Process} {x : Client} {k b : Nat} {σ τ : List Turn}

/-- What two runs of the same branches have in common. -/
structure Agree (p : Process) (k : Nat) (x : Client) (σ τ : List Turn) : Prop where
  /-- Call by call in each branch. -/
  calls : ∀ b, List.Forall₂ Report.Agrees (reportsOf b (p.reports k x σ))
    (reportsOf b (p.reports k x τ))
  /-- What is reported of the calls is what they are counted with. -/
  counted : ∀ ρ ∈ [σ, τ], ((p.takeAll x ρ).storeAt k).budgetPart =
    (p.reports k x ρ).foldl (Report.charge x) (p.storeAt k).budgetPart
  budget : ((p.takeAll x σ).storeAt k).budgetPart = ((p.takeAll x τ).storeAt k).budgetPart
  refusals : ∀ site, refusedAt site (p.reports k x σ) = refusedAt site (p.reports k x τ)

theorem keys_reportsOf (rs : List Report) (b : Nat) :
    (rs.map Report.key).filter (fun a => a.1 = b) = (reportsOf b rs).map Report.key := by
  rw [List.filter_map, reportsOf]
  rfl

theorem foldl_keys (rs : List Report) (s : RequestStore) :
    rs.foldl (Report.charge x) s =
      (rs.map Report.key).foldl (fun s a => Budget.charge x.isEnforcing a.2.2 a.2.1 s) s := by
  rw [List.foldl_map]
  rfl

theorem agree (hs : p.Sound) (hσ : ∀ t ∈ σ, (p.contextOn k t.branch).isSome)
    (hτ : ∀ t ∈ τ, (p.contextOn k t.branch).isSome) (hsteps : ∀ b, stepsOf b σ = stepsOf b τ) :
    p.Agree k x σ τ := by
  let env : Surroundings := ⟨p.world.now, .empty, .zero⟩
  have hmet : ∀ {ρ : List Turn}, (∀ t ∈ ρ, (p.contextOn k t.branch).isSome) → ∀ b,
      List.Forall₂ Expectation.MetBy
        (expectations x env (p.stateOn k) b (p.view b) (stepsOf b ρ))
        (reportsOf b (p.reports k x ρ)) :=
    fun hρ b => metBy_reports hs hρ rfl rfl b
  have hkeys : ((p.reports k x σ).map Report.key).Perm ((p.reports k x τ).map Report.key) := by
    apply perm_of_filter_eq
    intro b
    rw [keys_reportsOf, keys_reportsOf, keys_of_metBy (hmet hσ b), keys_of_metBy (hmet hτ b),
      hsteps]
  have hbudget : ((p.takeAll x σ).storeAt k).budgetPart =
      ((p.takeAll x τ).storeAt k).budgetPart := by
    have hcomm : RightCommutative fun (s : RequestStore) (a : Nat × String × String) =>
        Budget.charge x.isEnforcing a.2.2 a.2.1 s :=
      ⟨fun s a a' => Budget.charge_comm x.isEnforcing a.2.2 a.2.1 a'.2.2 a'.2.1 s⟩
    rw [budgetPart_takeAll hs hσ, budgetPart_takeAll hs hτ, foldl_keys, foldl_keys]
    exact hkeys.foldl_eq _
  refine ⟨fun b => ?_, fun ρ hρ => ?_, hbudget, fun site => ?_⟩
  · have h := hmet hσ b
    rw [hsteps b] at h
    exact agrees_of_metBy h (hmet hτ b)
  · obtain rfl | rfl : ρ = σ ∨ ρ = τ := by simpa using hρ
    · exact budgetPart_takeAll hs hσ
    · exact budgetPart_takeAll hs hτ
  · have h := refusedAt_reports (x := x) hs hσ site
    have h' := refusedAt_reports (x := x) hs hτ site
    have hexcess : excess x site ((p.takeAll x σ).storeAt k) =
        excess x site ((p.takeAll x τ).storeAt k) := by
      have h := congrArg (excess x site) hbudget
      exact h
    omega

/-- From any state that a process comes to, whatever the branches of a request do and in whatever
order they take their turns. -/
theorem branches_agree_in_any_order (now : Instant) (ops : List Operation) (k : Nat) (x : Client)
    (program : Nat → List Step)
    (hon : ∀ b, program b ≠ [] → (((start now).run ops).contextOn k b).isSome)
    (σ τ : List Turn) (hσ : Interleaves program σ) (hτ : Interleaves program τ) :
    ((start now).run ops).Agree k x σ τ := by
  have hturns : ∀ {ρ : List Turn}, Interleaves program ρ →
      ∀ t ∈ ρ, (((start now).run ops).contextOn k t.branch).isSome := by
    intro ρ hρ t ht
    apply hon
    rw [← hρ t.branch]
    apply List.ne_nil_of_mem (a := t.step)
    exact List.mem_map.2 ⟨t, List.mem_filter.2 ⟨ht, decide_eq_true rfl⟩, rfl⟩
  apply agree ((sound_start now).run ops) (hturns hσ) (hturns hτ)
  intro b
  rw [hσ b, hτ b]

/-- Two children of a request that each make a call from a frame of their own, one after the other
and by turns. -/
theorem branches_agree_in_any_order_of_two :
    let ops : List Operation := [.startRequest .background true .nobody none, .fork 0, .fork 0]
    let storage : StorageConfig := ⟨"default", "unix:/run/storage.sock", some "secret"⟩
    let x : Client := ⟨⟨(default : ClientConfig).addStorage storage, []⟩, default, .fixed true,
      fun n => s!"session-{n}"⟩
    let c : Call := ⟨"default", "repository", "find", [], .zero, none, id⟩
    let program : Nat → List Step := fun b =>
      if b = 1 then [.enter "show", .call c] else if b = 2 then [.enter "list", .call c] else []
    let turn (b : Nat) (step : Step) : Turn :=
      ⟨b, step, .empty, .zero, .empty, .ok .serving, fun _ => none⟩
    let σ := [turn 1 (.enter "show"), turn 1 (.call c), turn 2 (.enter "list"), turn 2 (.call c)]
    let τ := [turn 2 (.enter "list"), turn 1 (.enter "show"), turn 2 (.call c), turn 1 (.call c)]
    let sites (turns : List Turn) := (((start .epoch).run ops).takeAll x turns).invocations.map
      (·.options.metadata.get? "call_site")
    ((∀ b, program b ≠ [] → (((start .epoch).run ops).contextOn 0 b).isSome) ∧
      Interleaves program σ ∧ Interleaves program τ) ∧ ((start .epoch).run ops).Agree 0 x σ τ ∧
    sites σ = [some "show", some "list"] ∧ sites τ = [some "list", some "show"] := by
  intro ops storage x c program turn σ τ sites
  have hon : ∀ b, program b ≠ [] → (((start .epoch).run ops).contextOn 0 b).isSome := by
    intro b hb
    by_cases h₁ : b = 1
    · subst h₁
      rfl
    · by_cases h₂ : b = 2
      · subst h₂
        rfl
      · simp [program, h₁, h₂] at hb
  have hσ : Interleaves program σ := by
    intro b
    by_cases h₁ : b = 1
    · subst h₁
      rfl
    · by_cases h₂ : b = 2
      · subst h₂
        rfl
      · simp [stepsOf, σ, turn, program, h₁, h₂, Ne.symm h₁, Ne.symm h₂]
  have hτ : Interleaves program τ := by
    intro b
    by_cases h₁ : b = 1
    · subst h₁
      rfl
    · by_cases h₂ : b = 2
      · subst h₂
        rfl
      · simp [stepsOf, τ, turn, program, h₁, h₂, Ne.symm h₁, Ne.symm h₂]
  exact ⟨⟨hon, hσ, hτ⟩, branches_agree_in_any_order .epoch ops 0 x program hon σ τ hσ hτ,
    by decide +kernel, by decide +kernel⟩

end Process

end StorageCalls
