import StorageCalls.Proofs.Refusals
import StorageCalls.Proofs.Tallies

namespace StorageCalls

open Scenario (Answer)

namespace Entry

/-- The eligible calls of a site, and of a stack. -/
def eligibleOf (h : List Entry) (site : String) : Nat :=
  h.countP fun e => e.isEligible && e.isOf site

def eligibleFrom (h : List Entry) (signature : String) : Nat :=
  h.countP fun e => e.isEligible && e.isFrom signature

variable {h : List Entry} {site signature : String}

theorem exists_mem_of_eligibleFrom (hpos : 0 < eligibleFrom h signature) :
    ∃ site, .attempt site signature true ∈ h := by
  obtain ⟨e, he, hfrom⟩ := List.countP_pos_iff.1 hpos
  cases e with
  | reset => cases hfrom
  | attempt site g eligible =>
    simp only [isEligible, isFrom, Bool.and_eq_true, beq_iff_eq] at hfrom
    obtain ⟨rfl, rfl⟩ := hfrom
    exact ⟨site, he⟩

/-- A stack that calls one site only has not called more often than the site was called. -/
theorem eligibleFrom_le_eligibleOf (hown : ∀ s, .attempt s signature true ∈ h → s = site) :
    eligibleFrom h signature ≤ eligibleOf h site := by
  apply List.countP_mono_left
  intro e he hfrom
  cases e with
  | reset => cases hfrom
  | attempt s g eligible =>
    simp only [isEligible, isFrom, Bool.and_eq_true, beq_iff_eq] at hfrom
    obtain ⟨rfl, rfl⟩ := hfrom
    simp [isEligible, isOf, hown s he]

end Entry

namespace Overrun

/-- Each stack that is named has called the site that is refused, and none is said to have called
more often than the site was called. -/
structure BlamesCallers (o : Overrun) (h : List Entry) : Prop where
  callers : ∀ signature ∈ o.maxCallStacks, .attempt o.callSite signature true ∈ h
  count : o.maxCallCount ≤ Entry.eligibleOf h o.callSite

/-- What a refusal says, by what was done in the request up to the call that is refused. -/
structure Tells (o : Overrun) (h : List Entry) : Prop where
  invocations : o.invocationCount = h.countP (·.isOf o.callSite)
  tooMany : Budget.ceiling < Entry.eligibleOf h o.callSite
  highest : ∀ signature, Entry.eligibleFrom h signature ≤ o.maxCallCount
  /-- The stacks with the highest count are named, whatever sites they called. -/
  busiest : ∀ signature,
    signature ∈ o.maxCallStacks ↔ Entry.eligibleFrom h signature = o.maxCallCount
  nonempty : o.maxCallStacks ≠ []
  ascending : o.maxCallStacks.Pairwise (· < ·)
  /-- A stack that has called no other site is named for good reason. -/
  blamesCallers : (∀ signature ∈ o.maxCallStacks, ∀ site,
    .attempt site signature true ∈ h → site = o.callSite) → o.BlamesCallers h

variable {o : Overrun} {h : List Entry}

theorem blamesCallers_of_own (hpos : 0 < o.maxCallCount) (hne : o.maxCallStacks ≠ [])
    (hbusiest : ∀ g ∈ o.maxCallStacks, Entry.eligibleFrom h g = o.maxCallCount)
    (hown : ∀ g ∈ o.maxCallStacks, ∀ site, .attempt site g true ∈ h → site = o.callSite) :
    o.BlamesCallers h where
  callers g hg := by
    obtain ⟨site, hmem⟩ := Entry.exists_mem_of_eligibleFrom (hbusiest g hg ▸ hpos)
    rwa [← hown g hg site hmem]
  count := by
    obtain ⟨g, hg⟩ := List.exists_mem_of_ne_nil _ hne
    rw [← hbusiest g hg]
    exact Entry.eligibleFrom_le_eligibleOf (hown g hg)

theorem tells_overrunOf {s : RequestStore} {site signature : String} (hr : s.Records h)
    (hmem : .attempt site signature true ∈ h)
    (hmany : Budget.ceiling < Entry.eligibleOf h site) : (Budget.overrunOf s site).Tells h := by
  have hcount (g : String) : Tally.count s.stackTally g = Entry.eligibleFrom h g := hr.signatures g
  have hfst : s.worstStacks.1 = Tally.highest s.stackTally := Tally.fst_worst _
  have hle (g : String) : Entry.eligibleFrom h g ≤ s.worstStacks.1 := by
    rw [hfst, ← hcount]
    exact Tally.count_le_highest s.stackTally g
  have hpos : 0 < s.worstStacks.1 :=
    Nat.lt_of_lt_of_le (List.countP_pos_iff.2 ⟨_, hmem, by simp [Entry.isEligible, Entry.isFrom]⟩)
      (hle signature)
  have hbusiest (g : String) :
      g ∈ s.worstStacks.2 ↔ Entry.eligibleFrom h g = s.worstStacks.1 := by
    rw [hfst] at hpos ⊢
    rw [RequestStore.worstStacks, Tally.mem_worst, hcount, and_iff_right hpos]
  have hne : s.worstStacks.2 ≠ [] := Tally.worst_ne_nil_of_highest (hfst ▸ hpos)
  exact {
    invocations := hr.actual site
    tooMany := hmany
    highest := hle
    busiest := hbusiest
    nonempty := hne
    ascending := Tally.ascending_worst _
    blamesCallers := blamesCallers_of_own hpos hne fun g hg => (hbusiest g).1 hg }

end Overrun

namespace Process

/-- A refusal names the stacks from which the request has made the most eligible calls. If these
have called no other site, the site was called from all of them. -/
theorem refusal_tells_request (now : Instant) (ops : List Operation) (op : Operation) (o : Overrun)
    (h : (((start now).run ops).perform op).2.overrun? = some o) :
    ∃ k signature,
      ((start now).run ops).entry k op = some (.attempt o.callSite signature true) ∧
        o.Tells ((start now).history k (ops ++ [op])) := by
  have hs := (sound_start now).run ops
  obtain ⟨x, i, site, k, ctx, ho, hctx, hover⟩ := exists_of_overrun? hs h
  have hr := records_from_start now ops k
  unfold Budget.overrun? at hover
  split at hover
  · next hbudget =>
    obtain ⟨hcounts, hmany⟩ := hbudget
    have hcharged := hr.charge x.isEnforcing ctx.signature site
    rw [hcounts] at hcharged
    have hentry : ((start now).run ops).entry k op = some (.attempt site ctx.signature true) := by
      rw [entry_of_accounted ho, attempt, hctx, Option.map_some, eligible, ← hs.counts_eq, hcounts]
    have hhistory : (start now).history k (ops ++ [op]) =
        (start now).history k ops ++ [.attempt site ctx.signature true] := by
      rw [history_append, history, hentry]
      rfl
    cases hover
    refine ⟨k, ctx.signature, hentry, ?_⟩
    rw [hhistory]
    have hmem : Entry.attempt site ctx.signature true ∈
        (start now).history k ops ++ [.attempt site ctx.signature true] :=
      List.mem_append_right _ (List.mem_singleton_self _)
    apply Overrun.tells_overrunOf hcharged hmem
    have hnew : (Entry.attempt site ctx.signature true).isEligible &&
      (Entry.attempt site ctx.signature true).isOf site := by simp [Entry.isEligible, Entry.isOf]
    rw [hr.enforced] at hmany
    rw [Entry.eligibleOf, List.countP_append, List.countP_singleton, if_pos hnew]
    omega
  · cases hover

def enforcingClient : Client := ⟨⟨default, []⟩, default, .fixed true, fun _ => ""⟩

def calls (n : Nat) (site : String) : List Operation :=
  List.replicate n (.enforce enforcingClient 0 site)

def alternating : List Operation :=
  .startRequest .background true .nobody none ::
    (List.replicate 15 ([.enterFrame 0 "show"] ++ calls 1 "find" ++ [.drop 0] ++
      [.enterFrame 0 "list"] ++ calls 1 "find" ++ [.drop 0])).flatten

/-- Both stacks are named when neither has made more calls. -/
theorem refusal_tells_request_of_two :
    let p := (start .epoch).run alternating
    let op : Operation := .enforce enforcingClient 0 "find"
    let o : Overrun := ⟨"find", 31, 15, ["list", "show"]⟩
    (p.perform op).2.overrun? = some o ∧
    ∃ k signature, p.entry k op = some (.attempt "find" signature true) ∧
      o.Tells ((start .epoch).history k (alternating ++ [op])) := by
  intro p op o
  have h : (p.perform op).2.overrun? = some o := by decide +kernel
  exact ⟨h, refusal_tells_request .epoch alternating op o h⟩

/-- One stack calls two sites as often as it may, and another stack calls a third site too often. -/
def busyElsewhere : List Operation :=
  [.startRequest .background true .nobody none, .enterFrame 0 "Pipeline#each"] ++
    calls 30 "list_blobs" ++ calls 30 "get_tree" ++ [.drop 0, .enterFrame 0 "Commit#show"] ++
    calls 30 "find_commit"

/-- The refusal names the stack that is busy elsewhere, with a count that has nothing to do with the
site, and says nothing of the stack that called it. -/
theorem uninvolved_stack_named :
    let p := (start .epoch).run busyElsewhere
    let op : Operation := .enforce enforcingClient 0 "find_commit"
    let o : Overrun := ⟨"find_commit", 31, 60, ["Pipeline#each"]⟩
    let h := (start .epoch).history 0 (busyElsewhere ++ [op])
    (p.perform op).2.overrun? = some o ∧
    .attempt "find_commit" "Pipeline#each" true ∉ h ∧ Entry.eligibleOf h "find_commit" = 31 ∧
    ¬ o.BlamesCallers h := by
  intro p op o h
  have hover : (p.perform op).2.overrun? = some o := by decide +kernel
  have hmem : .attempt "find_commit" "Pipeline#each" true ∉ h := by decide +kernel
  have hcount : Entry.eligibleOf h "find_commit" = 31 := by decide +kernel
  exact ⟨hover, hmem, hcount, fun hb => hmem (hb.callers _ (List.mem_singleton_self _))⟩

end Process

end StorageCalls
