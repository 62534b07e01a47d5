import Mathlib.Data.List.Induction
import Mathlib.Data.List.Nodup
import Mathlib.Data.List.Perm.Subperm
import StorageCalls.Proofs.FanOut
import StorageCalls.Proofs.Positions

namespace StorageCalls.Budget

open Progress

def before (order : List Nat) (n : Nat) : List Nat := order.takeWhile (· != n)

section Before

variable {order more : List Nat} {n : Nat}

theorem before_append_of_mem (h : n ∈ order) : before (order ++ more) n = before order n := by
  induction order with
  | nil => cases h
  | cons i order ih =>
    by_cases hi : i = n
    · simp [before, hi]
    · have hmem := (List.mem_cons.1 h).resolve_left (Ne.symm hi)
      simpa [before, hi] using ih hmem

theorem before_concat_self (h : n ∉ order) : before (order ++ [n]) n = order :=
  takeWhile_bne_append h []

theorem length_before_lt (h : n ∈ order) : (before order n).length < order.length := by
  induction order with
  | nil => cases h
  | cons i order ih =>
    by_cases hi : i = n
    · simp [before, hi]
    · have hmem := (List.mem_cons.1 h).resolve_left (Ne.symm hi)
      simpa [before, hi] using ih hmem

theorem nodup_before (h : order.Nodup) (n : Nat) : (before order n).Nodup :=
  h.sublist (List.takeWhile_sublist _)

/-- Two lists without duplicates differ in length by what is in only one of them. -/
theorem length_add_missing {a b : List Nat} (ha : a.Nodup) (hb : b.Nodup) :
    a.length + (b.filter (· ∉ a)).length = b.length + (a.filter (· ∉ b)).length := by
  have hshared : (a.filter (· ∈ b)).Perm (b.filter (· ∈ a)) :=
    (List.perm_ext_iff_of_nodup (ha.filter _) (hb.filter _)).2 fun i => by
      simp [List.mem_filter, and_comm]
  have hsplit (a b : List Nat) :
      a.length = (a.filter (· ∈ b)).length + (a.filter (· ∉ b)).length := by
    simpa using List.length_eq_length_filter_add (l := a) (fun i => decide (i ∈ b))
  have hlen := hshared.length_eq
  have h₁ := hsplit a b
  have h₂ := hsplit b a
  omega

end Before

namespace Progress

def countsNext : Progress → Bool
  | begun => true
  | _ => false

def chargesNext : Progress → Bool
  | totalled _ => true
  | _ => false

end Progress

/-- A call has these two places, among the counted calls and among those that are counted against
the ceiling. -/
structure HasPlaces (n : Nat) (counted charged : List Nat) (invocations enforced : Nat) : Prop where
  mem_counted : n ∈ counted
  mem_charged : n ∈ charged
  invocations : invocations = (before counted n).length + 1
  enforced : enforced = (before charged n).length + 1

/-- What a call of a site knows of its places on its way. -/
def Progress.Placed (site : String) (n : Nat) (counted charged : List Nat) : Progress → Prop
  | .waiting | .begun => n ∉ counted ∧ n ∉ charged
  | .counted i | .liable i | .totalled i =>
    n ∈ counted ∧ n ∉ charged ∧ i = (before counted n).length + 1
  | .charged i e => HasPlaces n counted charged i e
  | .recorded i e => HasPlaces n counted charged i e ∧ ceiling < e
  | .exceeding e o =>
    o.callSite = site ∧ HasPlaces n counted charged o.invocationCount e ∧ ceiling < e
  | .finished _ result =>
    ∀ o, result = .error (.tooManyInvocations o) →
      o.callSite = site ∧ ∃ e, HasPlaces n counted charged o.invocationCount e ∧ ceiling < e

section Placed

variable {enforcing : Bool} {site k : String} {n : Nat} {counted charged more more' : List Nat}
  {invocations enforced : Nat} {p : Progress} {s : RequestStore}

theorem HasPlaces.grow (h : HasPlaces n counted charged invocations enforced) :
    HasPlaces n (counted ++ more) (charged ++ more') invocations enforced where
  mem_counted := List.mem_append_left _ h.mem_counted
  mem_charged := List.mem_append_left _ h.mem_charged
  invocations := by rw [before_append_of_mem h.mem_counted, h.invocations]
  enforced := by rw [before_append_of_mem h.mem_charged, h.enforced]

theorem Progress.Placed.grow (h : p.Placed site n counted charged) (hc : n ∉ more)
    (hl : n ∉ more') : p.Placed site n (counted ++ more) (charged ++ more') := by
  cases p with
  | waiting | begun => exact ⟨by simp [h.1, hc], by simp [h.2, hl]⟩
  | counted i | liable i | totalled i =>
    obtain ⟨hmem, hnot, hi⟩ := h
    exact ⟨List.mem_append_left _ hmem, by simp [hnot, hl], by rwa [before_append_of_mem hmem]⟩
  | charged i e => exact HasPlaces.grow h
  | recorded i e => exact ⟨h.1.grow, h.2⟩
  | exceeding e o => exact ⟨h.1, h.2.1.grow, h.2.2⟩
  | finished events result =>
    intro o ho
    obtain ⟨hsite, e, hplaces, hlt⟩ := h o ho
    exact ⟨hsite, e, hplaces.grow, hlt⟩

def Progress.entry (next : Progress → Bool) (n : Nat) (p : Progress) : List Nat :=
  if next p then [n] else []

theorem actualCount_advance (enforcing : Bool) (c : Accounting) (s : RequestStore) (k : String) :
    (advance enforcing c s).1.actualCount k =
      s.actualCount k + if k = c.site ∧ c.progress.countsNext then 1 else 0 := by
  obtain ⟨site, signature, progress⟩ := c
  cases progress with
  | begun => simp [advance, countsNext, RequestStore.actualCount_addActual]
  | counted i =>
    simp only [advance]
    split
    · simp [countsNext]
    · split <;> simp [countsNext]
  | _ => simp [advance, countsNext] <;> rfl

theorem enforcedCount_advance (enforcing : Bool) (c : Accounting) (s : RequestStore) (k : String) :
    (advance enforcing c s).1.enforcedCount k =
      s.enforcedCount k + if k = c.site ∧ c.progress.chargesNext then 1 else 0 := by
  obtain ⟨site, signature, progress⟩ := c
  cases progress with
  | totalled i => simp [advance, chargesNext, RequestStore.enforcedCount_addEnforced]
  | counted i =>
    simp only [advance]
    split
    · simp [chargesNext]
    · split <;> simp [chargesNext]
  | _ => simp [advance, chargesNext] <;> rfl

/-- A call gets its place in the step that counts it, and knows it from then on. -/
theorem placed_advance (enforcing : Bool) (c : Accounting) (s : RequestStore)
    (hactual : s.actualCount c.site = counted.length)
    (henforced : s.enforcedCount c.site = charged.length)
    (h : c.progress.Placed c.site n counted charged) :
    (advance enforcing c s).2.Placed c.site n (counted ++ c.progress.entry countsNext n)
      (charged ++ c.progress.entry chargesNext n) := by
  obtain ⟨site, signature, progress⟩ := c
  have hkept : ∀ p : Progress, p.Placed site n counted charged →
      p.Placed site n (counted ++ []) (charged ++ []) := fun p hp => by
    rwa [List.append_nil, List.append_nil]
  cases progress with
  | waiting => exact hkept .begun h
  | begun =>
    obtain ⟨hc, hl⟩ := h
    refine ⟨by simp [entry, countsNext], by simpa [entry, chargesNext] using hl, ?_⟩
    have hplace := before_concat_self hc
    have hcount := RequestStore.actualCount_addActual s site site
    simp only [entry, countsNext, if_true, hplace]
    rw [hcount, if_pos rfl, hactual]
  | counted i =>
    simp only [advance]
    split
    · exact hkept (.finished _ (.ok ())) fun o ho => by cases ho
    · split
      · exact hkept (.finished _ (.ok ())) fun o ho => by cases ho
      · exact hkept (.liable i) h
  | liable i => exact hkept (.totalled i) h
  | totalled i =>
    obtain ⟨hc, hl, hi⟩ := h
    have hplace := before_concat_self hl
    have hcount := RequestStore.enforcedCount_addEnforced s site site
    exact {
      mem_counted := List.mem_append_left _ hc
      mem_charged := by simp [entry, chargesNext]
      invocations := by rw [before_append_of_mem hc, hi]
      enforced := by
        simp only [entry, chargesNext, if_true, hplace]
        rw [hcount, if_pos rfl, henforced] }
  | charged i e =>
    simp only [advance]
    split
    · exact hkept (.finished _ (.ok ())) fun o ho => by cases ho
    · exact hkept (.recorded i e) ⟨h, Nat.lt_of_not_le ‹_›⟩
  | recorded i e => exact hkept (.exceeding e _) ⟨rfl, h⟩
  | exceeding e o =>
    obtain ⟨hsite, hplaces⟩ := h
    exact hkept (.finished _ _) fun o' ho => by
      cases ho
      exact ⟨hsite, e, hplaces⟩
  | finished events result => exact hkept (.finished events result) h

theorem mem_entry {next : Progress → Bool} {i : Nat} : i ∈ p.entry next n ↔ next p ∧ i = n := by
  unfold entry
  split <;> simp [*]

theorem nodup_append_entry {order : List Nat} {next : Progress → Bool} (h : order.Nodup)
    (hnew : next p → n ∉ order) : (order ++ p.entry next n).Nodup := by
  unfold entry
  split
  · next hnext => exact List.nodup_append_comm.1 (List.nodup_cons.2 ⟨hnew hnext, h⟩)
  · rwa [List.append_nil]

theorem not_mem_counted (h : p.Placed site n counted charged) (hnext : p.countsNext) :
    n ∉ counted := by
  cases p with
  | begun => exact h.1
  | _ => cases hnext

theorem mem_counted_of_chargesNext (h : p.Placed site n counted charged) (hnext : p.chargesNext) :
    n ∈ counted ∧ n ∉ charged := by
  cases p with
  | totalled i => exact ⟨h.1, h.2.1⟩
  | _ => cases hnext

end Placed

namespace FanOut

variable {m : FanOut} {enforcing : Bool} {site : String} {counted charged : List Nat}

def entry (m : FanOut) (next : Progress → Bool) (site : String) (n : Nat) : List Nat :=
  match m.calls[n]? with
  | none => []
  | some c => if c.site = site then c.progress.entry next n else []

def order (enforcing : Bool) (next : Progress → Bool) (site : String) :
    FanOut → List Nat → List Nat
  | _, [] => []
  | m, n :: schedule =>
    m.entry next site n ++ order enforcing next site (m.step enforcing n) schedule

theorem order_concat (next : Progress → Bool) (schedule : List Nat) (n : Nat) :
    order enforcing next site m (schedule ++ [n]) =
      order enforcing next site m schedule ++ (m.run enforcing schedule).entry next site n := by
  induction schedule generalizing m with
  | nil => simp [order, run]
  | cons i schedule ih =>
    rw [List.cons_append, order, ih, order, List.append_assoc]
    rfl

/-- What holds between any two steps, for the calls of one site. -/
structure Orderly (m : FanOut) (site : String) (counted charged : List Nat) : Prop where
  nodup_counted : counted.Nodup
  nodup_charged : charged.Nodup
  charged_subset : charged ⊆ counted
  actual : m.store.actualCount site = counted.length
  enforced : m.store.enforcedCount site = charged.length
  placed : ∀ n (c : Accounting), m.calls[n]? = some c → c.site = site →
    c.progress.Placed site n counted charged

theorem orderly_start (calls : List (String × String)) (site : String) :
    (start .empty calls).Orderly site [] [] where
  nodup_counted := List.nodup_nil
  nodup_charged := List.nodup_nil
  charged_subset := List.Subset.refl _
  actual := rfl
  enforced := rfl
  placed n c hc _ := by
    obtain ⟨call, -, rfl⟩ := List.mem_map.1 (List.mem_of_getElem? hc)
    exact ⟨List.not_mem_nil, List.not_mem_nil⟩

theorem step_of_call (enforcing : Bool) {n : Nat} {c : Accounting} (h : m.calls[n]? = some c) :
    m.step enforcing n = ⟨(advance enforcing c m.store).1,
      m.calls.set n { c with progress := (advance enforcing c m.store).2 }⟩ := by
  rw [step, h]

theorem Orderly.step_of_other (h : m.Orderly site counted charged) {n : Nat} {c : Accounting}
    (hc : m.calls[n]? = some c) (hsite : c.site ≠ site) :
    (m.step enforcing n).Orderly site counted charged := by
  rw [step_of_call enforcing hc]
  exact {
    nodup_counted := h.nodup_counted
    nodup_charged := h.nodup_charged
    charged_subset := h.charged_subset
    actual := by simp [actualCount_advance, Ne.symm hsite, h.actual]
    enforced := by simp [enforcedCount_advance, Ne.symm hsite, h.enforced]
    placed := fun i d hd hdsite => by
      rw [List.getElem?_set] at hd
      split at hd
      · split at hd
        · cases hd
          exact absurd hdsite hsite
        · cases hd
      · exact h.placed i d hd hdsite }

theorem Orderly.step_of_own (h : m.Orderly site counted charged) {n : Nat} {c : Accounting}
    (hc : m.calls[n]? = some c) (hsite : c.site = site) :
    (m.step enforcing n).Orderly site (counted ++ c.progress.entry countsNext n)
      (charged ++ c.progress.entry chargesNext n) := by
  subst hsite
  have hplaced := h.placed n c hc rfl
  rw [step_of_call enforcing hc]
  exact {
    nodup_counted := nodup_append_entry h.nodup_counted (not_mem_counted hplaced)
    nodup_charged := nodup_append_entry h.nodup_charged fun hnext =>
      (mem_counted_of_chargesNext hplaced hnext).2
    charged_subset := by
      intro i hi
      rcases List.mem_append.1 hi with hi | hi
      · exact List.mem_append_left _ (h.charged_subset hi)
      · obtain ⟨hnext, rfl⟩ := mem_entry.1 hi
        exact List.mem_append_left _ (mem_counted_of_chargesNext hplaced hnext).1
    actual := by
      rw [actualCount_advance, h.actual, List.length_append, Progress.entry]
      cases c.progress.countsNext <;> simp
    enforced := by
      rw [enforcedCount_advance, h.enforced, List.length_append, Progress.entry]
      cases c.progress.chargesNext <;> simp
    placed := fun i d hd hdsite => by
      rw [List.getElem?_set] at hd
      split at hd
      · next hi =>
        subst hi
        split at hd
        · cases hd
          exact placed_advance enforcing c m.store h.actual h.enforced hplaced
        · cases hd
      · next hi =>
        have hnew : ∀ next, i ∉ c.progress.entry next n := fun next hmem =>
          hi (mem_entry.1 hmem).2.symm
        exact (h.placed i d hd hdsite).grow (hnew _) (hnew _) }

theorem Orderly.step (h : m.Orderly site counted charged) (enforcing : Bool) (n : Nat) :
    (m.step enforcing n).Orderly site (counted ++ m.entry countsNext site n)
      (charged ++ m.entry chargesNext site n) := by
  unfold entry
  cases hc : m.calls[n]? with
  | none =>
    rw [FanOut.step, hc, List.append_nil, List.append_nil]
    exact h
  | some c =>
    simp only
    split
    · next hsite => exact h.step_of_own hc hsite
    · next hsite =>
      rw [List.append_nil, List.append_nil]
      exact h.step_of_other hc hsite

theorem orderly_run (enforcing : Bool) (calls : List (String × String)) (site : String)
    (schedule : List Nat) :
    ((start .empty calls).run enforcing schedule).Orderly site
      (order enforcing countsNext site (start .empty calls) schedule)
      (order enforcing chargesNext site (start .empty calls) schedule) := by
  induction schedule using List.reverseRecOn with
  | nil => exact orderly_start calls site
  | append_singleton schedule n ih =>
    have hrun : (start .empty calls).run enforcing (schedule ++ [n]) =
        ((start .empty calls).run enforcing schedule).step enforcing n := by
      rw [run, List.foldl_concat]
      rfl
    rw [order_concat, order_concat, hrun]
    exact ih.step enforcing n

/-- The calls that overtook call `n`: counted after it and charged before it. -/
def overtaking (counted charged : List Nat) (n : Nat) : List Nat :=
  (before charged n).filter (· ∉ before counted n)

/-- The calls that call `n` overtook: counted before it and not charged before it. -/
def overtaken (counted charged : List Nat) (n : Nat) : List Nat :=
  (before counted n).filter (· ∉ before charged n)

/-- What a refusal says of call `n` of a site, when the calls of the site were counted in one order
and charged, that is counted against the ceiling, in another. -/
structure TellsPlace (o : Overrun) (site : String) (n : Nat) (counted charged : List Nat) :
    Prop where
  callSite : o.callSite = site
  /-- The number of calls is the place of the call among them when it was counted. -/
  place : o.invocationCount = (before counted n).length + 1
  /-- The call was refused because as many as the ceiling allows were charged before it. -/
  barred : ceiling ≤ (before charged n).length
  /-- The number is above the ceiling just when the calls that overtook this one are outweighed. -/
  above_iff : ceiling < o.invocationCount ↔
    ceiling + (overtaking counted charged n).length <
      (before charged n).length + 1 + (overtaken counted charged n).length
  above_of_not_overtaken : overtaking counted charged n = [] → ceiling < o.invocationCount
  /-- Of all calls that are counted there are more than the ceiling allows. -/
  total : ceiling < counted.length

theorem tellsPlace_of_places {o : Overrun} {n e : Nat} (h : m.Orderly site counted charged)
    (hsite : o.callSite = site) (hplaces : HasPlaces n counted charged o.invocationCount e)
    (he : ceiling < e) : TellsPlace o site n counted charged := by
  have hbarred : ceiling ≤ (before charged n).length := by
    rw [hplaces.enforced] at he
    exact Nat.le_of_lt_succ he
  have hbalance : (before counted n).length + (overtaking counted charged n).length =
      (before charged n).length + (overtaken counted charged n).length :=
    length_add_missing (nodup_before h.nodup_counted n) (nodup_before h.nodup_charged n)
  have hplace := hplaces.invocations
  exact {
    callSite := hsite
    place := hplace
    barred := hbarred
    above_iff := by omega
    above_of_not_overtaken := fun hnone => by
      rw [hnone, List.length_nil] at hbalance
      omega
    total := by
      have hlt := length_before_lt hplaces.mem_charged
      have hle := (h.nodup_charged.subperm h.charged_subset).length_le
      omega }

/-- Whatever calls share a fresh store, and in whatever order their steps come: a refusal tells the
place of the call among those that had been counted by then, and so too few when it was overtaken by
more calls than its place among the charged ones makes up for. -/
theorem refusal_tells_place (enforcing : Bool) (calls : List (String × String))
    (schedule : List Nat) (n : Nat) (c : Accounting) (o : Overrun)
    (hc : ((start .empty calls).run enforcing schedule).calls[n]? = some c)
    (ho : c.progress.result = some (.error (.tooManyInvocations o))) :
    TellsPlace o c.site n (order enforcing countsNext c.site (start .empty calls) schedule)
      (order enforcing chargesNext c.site (start .empty calls) schedule) := by
  have h := orderly_run enforcing calls c.site schedule
  have hplaced := h.placed n c hc rfl
  cases hp : c.progress with
  | finished events result =>
    rw [hp] at ho hplaced
    obtain ⟨hsite, e, hplaces, he⟩ := hplaced o (Option.some.inj ho)
    exact tellsPlace_of_places h hsite hplaces he
  | _ => rw [hp] at ho; cases ho

def loop : List (String × String) := List.replicate 31 ("find", "show")

/-- One after another: the last one is refused with the number of all. -/
theorem refusal_tells_place_in_turn :
    let schedule := (List.range 31).flatMap (List.replicate 8)
    let o : Overrun := ⟨"find", 31, 31, ["show"]⟩
    ∃ c, ((start .empty loop).run true schedule).calls[30]? = some c ∧
      c.progress.result = some (.error (.tooManyInvocations o)) ∧
      TellsPlace o c.site 30 (order true countsNext c.site (start .empty loop) schedule)
        (order true chargesNext c.site (start .empty loop) schedule) := by
  intro schedule o
  have hrefused : (((start .empty loop).run true schedule).calls[30]?.bind (·.progress.result)) =
      some (.error (.tooManyInvocations o)) := by decide +kernel
  obtain ⟨c, hc, ho⟩ := Option.bind_eq_some_iff.1 hrefused
  exact ⟨c, hc, ho, refusal_tells_place true loop schedule 30 c o hc ho⟩

/-- One branch has counted its call when another makes thirty of the same site, which all pass. Then
the first branch goes on and is refused for one call, though there have been thirty-one. -/
theorem understated_when_overtaken :
    let schedule := [0, 0] ++ ((List.range 30).map (· + 1)).flatMap (List.replicate 6) ++
      List.replicate 6 0
    let m := (start .empty loop).run true schedule
    m.isOver ∧ m.passed "find" = 30 ∧ m.store.actualCount "find" = 31 ∧
      ¬ ∀ c ∈ m.calls, ∀ o, c.progress.result = some (.error (.tooManyInvocations o)) →
        ceiling + 1 ≤ o.invocationCount := by
  intro schedule m
  have hrun : m.isOver ∧ m.passed "find" = 30 ∧ m.store.actualCount "find" = 31 ∧
      (m.calls[0]?.bind (·.progress.result)) =
        some (.error (.tooManyInvocations ⟨"find", 1, 31, ["show"]⟩)) := by decide +kernel
  obtain ⟨hover, hpassed, hcount, hrefused⟩ := hrun
  obtain ⟨c, hc, ho⟩ := Option.bind_eq_some_iff.1 hrefused
  refine ⟨hover, hpassed, hcount, fun hall => ?_⟩
  exact absurd (hall c (List.mem_of_getElem? hc) _ ho) (by decide)

end FanOut

end StorageCalls.Budget
