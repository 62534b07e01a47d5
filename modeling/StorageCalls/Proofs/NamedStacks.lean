import StorageCalls.Proofs.BlamedStacks
import StorageCalls.Proofs.CountListings
import StorageCalls.Proofs.ReportedStacks

namespace StorageCalls

namespace Entry

def eligibleStack? : Entry → Option String
  | attempt _ signature true => some signature
  | _ => none

/-- The stacks of the eligible calls. -/
def eligibleStacks (h : List Entry) : List String := h.filterMap eligibleStack?

variable (h : List Entry)

theorem count_eligibleStacks (signature : String) :
    (eligibleStacks h).count signature = h.countP fun e => e.isEligible && e.isFrom signature := by
  rw [eligibleStacks, List.count_filterMap]
  apply List.countP_congr
  intro e _
  cases e with
  | reset => simp [eligibleStack?, isEligible]
  | attempt site g eligible =>
    cases eligible with
    | false => simp [eligibleStack?, isEligible]
    | true =>
      simp only [eligibleStack?, isEligible, isFrom, Bool.true_and, Option.some_beq_some,
        beq_iff_eq]
      exact eq_comm

theorem length_eligibleStacks : (eligibleStacks h).length = h.countP (·.isEligible) := by
  rw [eligibleStacks, List.length_filterMap_eq_countP]
  apply List.countP_congr
  intro e _
  cases e with
  | reset => simp [eligibleStack?, isEligible]
  | attempt site g eligible => cases eligible <;> simp [eligibleStack?, isEligible]

end Entry

theorem RequestStore.Records.isWorst {s : RequestStore} {h : List Entry} (hr : s.Records h) :
    IsWorst (Entry.eligibleStacks h) s.worstStacks :=
  Tally.isWorst_of_counts fun text =>
    (hr.signatures text).trans (Entry.count_eligibleStacks h text).symm

namespace Overrun

/-- What a refusal says of stacks, when so many calls of the request were eligible. -/
structure NamesWorst (o : Overrun) (eligible : Nat) : Prop where
  positive : 1 ≤ o.maxCallCount
  nonempty : o.maxCallStacks ≠ []
  ascending : o.maxCallStacks.Pairwise fun a b => Text.utf8Bytes a < Text.utf8Bytes b
  share : o.maxCallCount * o.maxCallStacks.length ≤ eligible

theorem namesWorst_of_isWorst {o : Overrun} {recorded : List String} {eligible : Nat}
    (h : IsWorst recorded (o.maxCallCount, o.maxCallStacks)) (hne : recorded ≠ [])
    (hle : recorded.length ≤ eligible) : o.NamesWorst eligible where
  positive := by
    obtain ⟨text, hmem⟩ := List.exists_mem_of_ne_nil _ hne
    exact Nat.le_trans (List.count_pos_iff.2 hmem) (h.largest text)
  nonempty := h.nonempty hne
  ascending := h.ascending
  share := Nat.le_trans h.share hle

end Overrun

namespace Process

variable {now : Instant} {ops : List Operation} {op : Operation} {o : Overrun}

/-- The report of a refusal is that of all eligible calls so far, the refused one among them. -/
theorem isWorst_of_overrun? (h : (((start now).run ops).perform op).2.overrun? = some o) :
    ∃ k signature,
      ((start now).run ops).entry k op = some (.attempt o.callSite signature true) ∧
        IsWorst (Entry.eligibleStacks ((start now).history k (ops ++ [op])))
          (o.maxCallCount, o.maxCallStacks) := by
  have hs := (sound_start now).run ops
  obtain ⟨x, i, site, k, ctx, ho, hctx, hover⟩ := exists_of_overrun? hs h
  unfold Budget.overrun? at hover
  split at hover
  · next hbudget =>
    cases hover
    have hcharged := (records_from_start now ops k).charge x.isEnforcing ctx.signature site
    rw [hbudget.1] at hcharged
    have hentry : ((start now).run ops).entry k op = some (.attempt site ctx.signature true) := by
      rw [entry_of_accounted ho, attempt, hctx, Option.map_some, eligible, ← hs.counts_eq,
        hbudget.1]
    refine ⟨k, ctx.signature, hentry, ?_⟩
    rw [history_append, history, hentry]
    exact hcharged.isWorst
  · cases hover

theorem namesWorst_of_overrun? (h : (((start now).run ops).perform op).2.overrun? = some o) :
    ∃ k signature,
      ((start now).run ops).entry k op = some (.attempt o.callSite signature true) ∧
        o.NamesWorst (((start now).history k (ops ++ [op])).countP (·.isEligible)) := by
  obtain ⟨k, signature, hentry, hworst⟩ := isWorst_of_overrun? h
  have hmem : .attempt o.callSite signature true ∈ (start now).history k (ops ++ [op]) := by
    rw [history_append, history, hentry]
    exact List.mem_append_right _ List.mem_cons_self
  have hne : Entry.eligibleStacks ((start now).history k (ops ++ [op])) ≠ [] :=
    List.ne_nil_of_mem (List.mem_filterMap.2 ⟨_, hmem, rfl⟩)
  exact ⟨k, signature, hentry,
    Overrun.namesWorst_of_isWorst hworst hne (Nat.le_of_eq (Entry.length_eligibleStacks _))⟩

end Process

namespace Budget.FanOut

theorem namesWorst_of_refused {calls : List (String × String)} {turns : List StoreTurn}
    {c : Accounting} {o : Overrun} (hc : c ∈ ((start .empty calls).play turns).calls)
    (ho : c.progress.result = some (.error (.tooManyInvocations o))) :
    o.NamesWorst ((start .empty calls).eligible turns).length := by
  have h := (exact_start calls).play turns
  rw [List.nil_append, List.nil_append] at h
  have hreports := h.reports c hc
  cases hp : c.progress with
  | finished events result =>
    rw [hp] at ho hreports
    obtain ⟨early, hprefix, hne, hworst⟩ := hreports o (Option.some.inj ho)
    have hdue := h.due
    have hlen := hprefix.length_le
    exact Overrun.namesWorst_of_isWorst hworst hne (by omega)
  | _ => rw [hp] at ho; cases ho

end Budget.FanOut

/-- What a store says of the stacks that were recorded on it. -/
structure ToldByCounts (recorded : List String) : Prop where
  highest : IsWorst recorded (RequestStore.empty.recordStacks recorded).worstStacks
  /-- The order of recording does not matter. -/
  unordered : ∀ others : List String, (∀ text, others.count text = recorded.count text) →
    (RequestStore.empty.recordStacks others).worstStacks =
      (RequestStore.empty.recordStacks recorded).worstStacks
  /-- The order in which the counts are kept and gone through does not matter. -/
  listed : ∀ entries, Tally.Listing recorded entries →
    Tally.worstOf entries = (RequestStore.empty.recordStacks recorded).worstStacks

theorem toldByCounts (recorded : List String) : ToldByCounts recorded where
  highest := RequestStore.isWorst_recordStacks recorded
  unordered others h :=
    ((RequestStore.isWorst_recordStacks others).perm (List.perm_iff_count.2 h)).unique
      (RequestStore.isWorst_recordStacks recorded)
  listed _ h := h.counts.isWorst.unique (RequestStore.isWorst_recordStacks recorded)

/-- The worst stacks of a store are exactly those that were recorded most often, whatever the order,
and so each refusal names at least one stack, and stacks that account for no more calls than were
eligible; also when calls of one request are accounted for at the same time. -/
theorem worst_stacks_told_by_counts :
    (∀ recorded : List String, ToldByCounts recorded) ∧
    (∀ (now : Instant) (ops : List Operation) (op : Operation) (o : Overrun),
      (((Process.start now).run ops).perform op).2.overrun? = some o →
        ∃ k signature,
          ((Process.start now).run ops).entry k op = some (.attempt o.callSite signature true) ∧
            o.NamesWorst (((Process.start now).history k (ops ++ [op])).countP (·.isEligible))) ∧
    (∀ (calls : List (String × String)) (turns : List Budget.StoreTurn),
      let m := (Budget.FanOut.start .empty calls).play turns
      ∀ c ∈ m.calls, ∀ o, c.progress.result = some (.error (.tooManyInvocations o)) →
        o.NamesWorst ((Budget.FanOut.start .empty calls).eligible turns).length) :=
  ⟨toldByCounts, fun _ _ _ _ h => Process.namesWorst_of_overrun? h,
    fun _ _ _ hc _ ho => Budget.FanOut.namesWorst_of_refused hc ho⟩

/-- Thirty-one calls of one site that go on at the same time, with one step each in turn. -/
theorem worst_stacks_told_by_counts_of_ties :
    let recorded := ["b", "a", "c", "a", "b"]
    let entries := [("c", 1), ("b", 2), ("a", 2)]
    let p := (Process.start .epoch).run Process.alternating
    let op : Operation := .enforce Process.enforcingClient 0 "find"
    let o : Overrun := ⟨"find", 31, 15, ["list", "show"]⟩
    let calls := List.replicate 31 ("find", "show")
    let turns := (List.replicate 8 ((List.range 31).map (.step true))).flatten
    ToldByCounts recorded ∧ Tally.Listing recorded entries ∧
      Tally.worstOf entries = (2, ["a", "b"]) ∧
    (p.perform op).2.overrun? = some o ∧
    (∃ k signature, p.entry k op = some (.attempt "find" signature true) ∧
      o.NamesWorst (((Process.start .epoch).history k (Process.alternating ++ [op])).countP
        (·.isEligible))) ∧
    (∃ c ∈ ((Budget.FanOut.start .empty calls).play turns).calls, ∃ o,
      c.progress.result = some (.error (.tooManyInvocations o)) ∧
        o.NamesWorst ((Budget.FanOut.start .empty calls).eligible turns).length) := by
  intro recorded entries p op o calls turns
  obtain ⟨htold, hprocess, hfan⟩ := worst_stacks_told_by_counts
  have hlisting : Tally.Listing recorded entries :=
    .reorder (.record "b" (.record "a" (.record "c" (.record "a" (.record "b" .empty)))))
      (by decide)
  have hworst : (RequestStore.empty.recordStacks recorded).worstStacks = (2, ["a", "b"]) := by
    decide +kernel
  have hover : (p.perform op).2.overrun? = some o := by decide +kernel
  have hrefused : ((Budget.FanOut.start .empty calls).play turns).calls[30]?.bind
      (·.progress.result) = some (.error (.tooManyInvocations ⟨"find", 31, 31, ["show"]⟩)) := by
    decide +kernel
  obtain ⟨c, hc, ho⟩ := Option.bind_eq_some_iff.1 hrefused
  have hmem := List.mem_of_getElem? hc
  exact ⟨htold recorded, hlisting, ((htold recorded).listed entries hlisting).trans hworst, hover,
    hprocess .epoch Process.alternating op o hover, c, hmem, _, ho, hfan calls turns c hmem _ ho⟩

end StorageCalls
