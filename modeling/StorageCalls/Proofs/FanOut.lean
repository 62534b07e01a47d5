import StorageCalls.Proofs.Accounting

namespace StorageCalls.Budget

open Progress

namespace Progress

def result : Progress → Option (Except CallError Unit)
  | finished _ result => some result
  | _ => none

def isRefused : Progress → Bool
  | finished _ (.error (.tooManyInvocations _)) => true
  | _ => false

def isAdmitted : Progress → Bool
  | charged _ enforced => enforced ≤ ceiling
  | finished _ (.ok _) => true
  | _ => false

def isBarred : Progress → Bool
  | charged _ enforced => ceiling < enforced
  | recorded .. | exceeding .. | finished _ (.error _) => true
  | _ => false

/-- What is said of a refusal: it is for too many calls of the site, and it names stacks. -/
def WellRefused (site : String) : Progress → Prop
  | exceeding _ o => o.callSite = site ∧ o.maxCallStacks ≠ []
  | finished _ (.error e) =>
    ∃ o, e = .tooManyInvocations o ∧ o.callSite = site ∧ o.maxCallStacks ≠ []
  | _ => True

end Progress

/-- What a step can do while the ceiling is enforced and nothing is exempted. -/
inductive Moves (site signature : String) (s : RequestStore) :
    Progress → RequestStore → Progress → Prop where
  | begin : Moves site signature s waiting s.addActualTotal begun
  | count :
    Moves site signature s begun (s.addActual site) (counted ((s.addActual site).actualCount site))
  | examine (invocations : Nat) :
    Moves site signature s (counted invocations) s (liable invocations)
  | total (invocations : Nat) :
    Moves site signature s (liable invocations) s.addEnforcedTotal (totalled invocations)
  | charge (invocations : Nat) :
    Moves site signature s (totalled invocations) (s.addEnforced site)
      (charged invocations ((s.addEnforced site).enforcedCount site))
  | allow (invocations : Nat) {enforced : Nat} (h : enforced ≤ ceiling) :
    Moves site signature s (charged invocations enforced) (s.recordStack signature)
      (finished [] (.ok ()))
  | bar (invocations : Nat) {enforced : Nat} (h : ceiling < enforced) :
    Moves site signature s (charged invocations enforced) (s.recordStack signature)
      (recorded invocations enforced)
  | report (invocations enforced : Nat) :
    Moves site signature s (recorded invocations enforced) s
      (exceeding enforced ⟨site, invocations, s.worstStacks.1, s.worstStacks.2⟩)
  | refuse (enforced : Nat) (o : Overrun) :
    Moves site signature s (exceeding enforced o) s
      (finished [.overrun o enforced s.enforcedTotal] (.error (.tooManyInvocations o)))
  | rest (events : List Event) (result : Except CallError Unit) :
    Moves site signature s (finished events result) s (finished events result)

theorem moves_advance (c : Accounting) {s : RequestStore} (h : s.exemptions = 0) :
    Moves c.site c.signature s c.progress (advance true c s).1 (advance true c s).2 := by
  obtain ⟨site, signature, progress⟩ := c
  cases progress with
  | waiting => exact .begin
  | begun => exact .count
  | counted invocations =>
    simp only [advance, h, Bool.not_true, Bool.false_eq_true, Nat.lt_irrefl, if_false]
    exact .examine invocations
  | liable invocations => exact .total invocations
  | totalled invocations => exact .charge invocations
  | charged invocations enforced =>
    simp only [advance]
    split
    · exact .allow invocations ‹_›
    · exact .bar invocations (Nat.lt_of_not_le ‹_›)
  | recorded invocations enforced => exact .report invocations enforced
  | exceeding enforced overrun => exact .refuse enforced overrun
  | finished events result => exact .rest events result

variable {site signature : String} {s t : RequestStore} {p q : Progress}

theorem Moves.exemptions (h : Moves site signature s p t q) : t.exemptions = s.exemptions := by
  cases h <;> rfl

/-- A number of a store follows the calls of a kind: it is zero before there are any, and a step
changes both alike. -/
structure Follows (number : RequestStore → Nat) (kind : String → Progress → Bool) : Prop where
  fresh : number .empty = 0
  waiting : ∀ site, kind site .waiting = false
  moves : ∀ {site signature : String} {s t : RequestStore} {p q : Progress},
    Moves site signature s p t q →
      number t + (if kind site p then 1 else 0) = number s + if kind site q then 1 else 0

theorem follows_actualTotal : Follows (·.actualTotal) fun _ p => 1 ≤ p.rank where
  fresh := rfl
  waiting _ := rfl
  moves h := by
    cases h <;> simp [rank, RequestStore.addActualTotal, RequestStore.addActual,
      RequestStore.addEnforcedTotal, RequestStore.addEnforced, RequestStore.recordStack]

theorem follows_actualCount (k : String) :
    Follows (·.actualCount k) fun site p => k = site ∧ 2 ≤ p.rank where
  fresh := rfl
  waiting _ := by simp [rank]
  moves h := by
    cases h <;> simp [rank, RequestStore.actualCount_addActual]
    all_goals rfl

theorem follows_enforcedTotal : Follows (·.enforcedTotal) fun _ p => 4 ≤ p.rank where
  fresh := rfl
  waiting _ := rfl
  moves h := by
    cases h <;> simp [rank, RequestStore.addActualTotal, RequestStore.addActual,
      RequestStore.addEnforcedTotal, RequestStore.addEnforced, RequestStore.recordStack]

theorem follows_enforcedCount (k : String) :
    Follows (·.enforcedCount k) fun site p => k = site ∧ 5 ≤ p.rank where
  fresh := rfl
  waiting _ := by simp [rank]
  moves h := by
    cases h <;> simp [rank, RequestStore.enforcedCount_addEnforced]
    all_goals rfl

theorem follows_stackTotal : Follows (·.stackTotal) fun _ p => 6 ≤ p.rank where
  fresh := rfl
  waiting _ := rfl
  moves h := by
    cases h <;> simp [rank, RequestStore.stackTotal_recordStack]
    all_goals rfl

/-- As many calls of a site are admitted as were counted against the ceiling, up to the ceiling. -/
theorem follows_admitted (k : String) :
    Follows (fun s => min (s.enforcedCount k) ceiling) fun site p => k = site ∧ p.isAdmitted where
  fresh := rfl
  waiting _ := by simp [isAdmitted]
  moves {site} {_} {s} {_} {_} {_} h := by
    cases h with
    | charge i =>
      have hcount := RequestStore.enforcedCount_addEnforced s site k
      by_cases hk : k = site
      · subst hk
        rw [if_pos rfl] at hcount
        simp only [isAdmitted, hcount, true_and, decide_eq_true_eq, Bool.false_eq_true, if_false]
        split <;> omega
      · simp [hcount, hk]
    | allow i hle => simp [isAdmitted, hle]; rfl
    | bar i hlt => simp [isAdmitted, Nat.not_le.2 hlt]; rfl
    | _ => simp [isAdmitted] <;> rfl

theorem follows_barred (k : String) :
    Follows (fun s => s.enforcedCount k - ceiling) fun site p => k = site ∧ p.isBarred where
  fresh := rfl
  waiting _ := by simp [isBarred]
  moves {site} {_} {s} {_} {_} {_} h := by
    cases h with
    | charge i =>
      have hcount := RequestStore.enforcedCount_addEnforced s site k
      by_cases hk : k = site
      · subst hk
        rw [if_pos rfl] at hcount
        simp only [isBarred, hcount, true_and, decide_eq_true_eq, Bool.false_eq_true, if_false]
        split <;> omega
      · simp [hcount, hk]
    | allow i hle => simp [isBarred, Nat.not_lt.2 hle]; rfl
    | bar i hlt => simp [isBarred, hlt]; rfl
    | _ => simp [isBarred] <;> rfl

theorem Moves.wellRefused (h : Moves site signature s p t q) (hp : p.WellRefused site)
    (hstacks : 6 ≤ p.rank → 0 < s.stackTotal) : q.WellRefused site := by
  cases h with
  | report i e => exact ⟨rfl, Tally.worst_ne_nil (hstacks (Nat.le_refl 6))⟩
  | refuse e o => exact ⟨o, rfl, hp⟩
  | rest events result => exact hp
  | _ => trivial

theorem Progress.isFinished_of_rank (h : 8 ≤ p.rank) : p.isFinished := by
  cases p with
  | finished events result => rfl
  | _ => simp [rank] at h

theorem Progress.rank_of_isFinished (h : p.isFinished) : p.rank = 8 := by
  cases p with
  | finished events result => rfl
  | _ => cases h

theorem Moves.rank (h : Moves site signature s p t q) : min 8 (p.rank + 1) ≤ q.rank := by
  cases h <;> simp [Progress.rank]

namespace FanOut

variable {m : FanOut} {number : RequestStore → Nat} {kind : String → Progress → Bool}

def count (m : FanOut) (kind : String → Progress → Bool) : Nat :=
  m.calls.countP fun c => kind c.site c.progress

/-- What holds between any two steps. -/
structure Inv (m : FanOut) : Prop where
  exemptions : m.store.exemptions = 0
  numbers : ∀ {number kind}, Follows number kind → number m.store = m.count kind
  refusals : ∀ c ∈ m.calls, c.progress.WellRefused c.site

theorem inv_start (calls : List (String × String)) : (start .empty calls).Inv where
  exemptions := rfl
  numbers hf := by
    rw [count, start, List.countP_map, hf.fresh, eq_comm, List.countP_eq_zero]
    intro c _
    simp [hf.waiting]
  refusals c hc := by
    obtain ⟨c, -, rfl⟩ := List.mem_map.1 hc
    trivial

theorem step_of_some {n : Nat} {c : Accounting} (h : m.calls[n]? = some c) :
    m.step true n = ⟨(advance true c m.store).1,
      m.calls.set n { c with progress := (advance true c m.store).2 }⟩ := by
  rw [step, h]

/-- A number that is right before a step is right after it. -/
theorem number_step (hf : Follows number kind) (hx : m.store.exemptions = 0)
    (h : number m.store = m.count kind) {n : Nat} (hn : n < m.calls.length) :
    number (m.step true n).store = (m.step true n).count kind := by
  have hmove := hf.moves (moves_advance m.calls[n] hx)
  have hle := List.boole_getElem_le_countP (p := fun c => kind c.site c.progress) hn
  rw [step_of_some (List.getElem?_eq_getElem hn), count, List.countP_set hn]
  rw [count] at h
  simp only at hle ⊢
  omega

theorem Inv.step (h : m.Inv) (n : Nat) : (m.step true n).Inv := by
  cases hc : m.calls[n]? with
  | none =>
    rw [FanOut.step, hc]
    exact h
  | some c =>
    obtain ⟨hn, -⟩ := List.getElem?_eq_some_iff.1 hc
    have hmem := List.mem_of_getElem? hc
    have hmove := moves_advance c h.exemptions
    refine ⟨?_, fun hf => number_step hf h.exemptions (h.numbers hf) hn, fun d hd => ?_⟩
    · rw [step_of_some hc]
      exact hmove.exemptions.trans h.exemptions
    · rw [step_of_some hc] at hd
      rcases List.mem_or_eq_of_mem_set hd with hd | rfl
      · exact h.refusals d hd
      · apply hmove.wellRefused (h.refusals c hmem)
        intro hrank
        rw [h.numbers follows_stackTotal, count, List.countP_pos_iff]
        exact ⟨c, hmem, decide_eq_true hrank⟩

theorem Inv.run (h : m.Inv) (schedule : List Nat) : (m.run true schedule).Inv := by
  induction schedule generalizing m with
  | nil => exact h
  | cons n schedule ih => exact ih (h.step n)

def asked (m : FanOut) : List (String × String) := m.calls.map fun c => (c.site, c.signature)

theorem asked_step (enforcing : Bool) (n : Nat) : (m.step enforcing n).asked = m.asked := by
  cases hc : m.calls[n]? with
  | none => rw [step, hc]
  | some c =>
    obtain ⟨hn, rfl⟩ := List.getElem?_eq_some_iff.1 hc
    have hsame := @List.set_getElem_self _ m.asked n (by rwa [asked, List.length_map])
    rw [step, hc, asked, List.map_set]
    simpa [asked] using hsame

theorem asked_run (enforcing : Bool) (schedule : List Nat) :
    (m.run enforcing schedule).asked = m.asked := by
  induction schedule generalizing m with
  | nil => rfl
  | cons n schedule ih => exact ih.trans (asked_step enforcing n)

theorem asked_start (store : RequestStore) (calls : List (String × String)) :
    (start store calls).asked = calls := by
  rw [asked, start, List.map_map]
  exact List.map_id calls

theorem length_run (enforcing : Bool) (schedule : List Nat) :
    (m.run enforcing schedule).calls.length = m.calls.length := by
  have h := congrArg List.length (asked_run (m := m) enforcing schedule)
  rwa [asked, asked, List.length_map, List.length_map] at h

def rank? (m : FanOut) (n : Nat) : Option Nat := m.calls[n]?.map fun c => c.progress.rank

theorem rank_step (hx : m.store.exemptions = 0) {n r : Nat} (h : m.rank? n = some r) (i : Nat) :
    ∃ r', (m.step true i).rank? n = some r' ∧ min 8 (r + if i = n then 1 else 0) ≤ r' := by
  obtain ⟨c, hc, rfl⟩ := Option.map_eq_some_iff.1 h
  by_cases hi : i = n
  · subst hi
    obtain ⟨hlt, -⟩ := List.getElem?_eq_some_iff.1 hc
    refine ⟨_, by rw [step_of_some hc, rank?, List.getElem?_set_self hlt]; rfl, ?_⟩
    rw [if_pos rfl]
    exact (moves_advance c hx).rank
  · refine ⟨c.progress.rank, ?_, by rw [if_neg hi]; exact Nat.min_le_right _ _⟩
    cases hd : m.calls[i]? with
    | none => rwa [step, hd]
    | some d => rwa [step_of_some hd, rank?, List.getElem?_set_ne hi]

theorem rank_run (h : m.Inv) {n r : Nat} (hr : m.rank? n = some r) (schedule : List Nat) :
    ∃ r', (m.run true schedule).rank? n = some r' ∧ min 8 (r + schedule.count n) ≤ r' := by
  induction schedule generalizing m r with
  | nil => exact ⟨r, hr, Nat.min_le_right _ _⟩
  | cons i schedule ih =>
    obtain ⟨r', hr', hle⟩ := rank_step h.exemptions hr i
    obtain ⟨r'', hr'', hle'⟩ := ih (h.step i) hr'
    refine ⟨r'', hr'', ?_⟩
    rw [List.count_cons]
    by_cases hi : i = n <;> simp [hi] at hle ⊢ <;> omega

def isOver (m : FanOut) : Bool := m.calls.all fun c => c.progress.isFinished

/-- Eight turns are enough for a call, whatever the others do in between. -/
theorem isOver_of_turns (calls : List (String × String)) {schedule : List Nat}
    (h : ∀ n < calls.length, 8 ≤ schedule.count n) :
    ((start .empty calls).run true schedule).isOver := by
  rw [isOver, List.all_eq_true]
  intro c hc
  obtain ⟨n, hn, rfl⟩ := List.getElem_of_mem hc
  have hlt : n < calls.length := by
    rwa [length_run, start, List.length_map] at hn
  have hr : (start .empty calls).rank? n = some 0 := by simp [rank?, start, hlt, rank]
  obtain ⟨r, hr, hle⟩ := rank_run (inv_start calls) hr schedule
  rw [rank?, List.getElem?_eq_getElem hn, Option.map_some, Option.some.injEq] at hr
  have hturns := h n hlt
  exact isFinished_of_rank (by omega)

def passed (m : FanOut) (site : String) : Nat :=
  m.calls.countP fun c => site = c.site ∧ c.progress.result = some (.ok ())

def refused (m : FanOut) (site : String) : Nat :=
  m.calls.countP fun c => site = c.site ∧ c.progress.isRefused

/-- What is said of calls on a fresh store once all of them have been told. -/
structure Settled (m : FanOut) (calls : List (String × String)) : Prop where
  asked : m.asked = calls
  passed : ∀ site, m.passed site = min (calls.countP fun c => site = c.1) ceiling
  refused : ∀ site, m.refused site =
    (calls.countP fun c => site = c.1) - min (calls.countP fun c => site = c.1) ceiling
  overruns : ∀ c ∈ m.calls, ∀ o, c.progress.result = some (.error (.tooManyInvocations o)) →
    o.callSite = c.site ∧ o.maxCallStacks ≠ []
  actualCount : ∀ site, m.store.actualCount site = calls.countP fun c => site = c.1
  enforcedCount : ∀ site, m.store.enforcedCount site = calls.countP fun c => site = c.1
  actualTotal : m.store.actualTotal = calls.length
  enforcedTotal : m.store.enforcedTotal = calls.length
  stackTotal : m.store.stackTotal = calls.length

theorem count_of_isOver (h : m.isOver) (mine : String → Bool)
    (hkind : ∀ site p, p.isFinished → kind site p = mine site) :
    m.count kind = m.asked.countP fun c => mine c.1 := by
  rw [count, asked, List.countP_map]
  apply List.countP_congr
  intro c hc
  rw [hkind c.site c.progress (List.all_eq_true.1 h c hc)]
  rfl

theorem actualCount_of_isOver (h : m.isOver) (hinv : m.Inv) (site : String) :
    m.store.actualCount site = m.asked.countP fun c => site = c.1 := by
  rw [hinv.numbers (follows_actualCount site)]
  apply count_of_isOver h fun s => site = s
  intro s p hp
  simp [rank_of_isFinished hp]

theorem enforcedCount_of_isOver (h : m.isOver) (hinv : m.Inv) (site : String) :
    m.store.enforcedCount site = m.asked.countP fun c => site = c.1 := by
  rw [hinv.numbers (follows_enforcedCount site)]
  apply count_of_isOver h fun s => site = s
  intro s p hp
  simp [rank_of_isFinished hp]

theorem total_of_isOver (h : m.isOver) (hinv : m.Inv) {k : Nat} (hk : k ≤ 8)
    (hf : Follows number fun _ p => k ≤ p.rank) : number m.store = m.asked.length := by
  rw [hinv.numbers hf, count_of_isOver h fun _ => true, List.countP_true]
  intro site p hp
  rw [rank_of_isFinished hp]
  exact decide_eq_true hk

theorem passed_eq (h : m.isOver) (hinv : m.Inv) (site : String) :
    m.passed site = min (m.store.enforcedCount site) ceiling := by
  rw [hinv.numbers (follows_admitted site), passed, count]
  apply List.countP_congr
  intro c hc
  have hfinished := List.all_eq_true.1 h c hc
  cases hp : c.progress with
  | finished events result => cases result <;> simp [result, isAdmitted]
  | _ => simp [hp, isFinished] at hfinished

theorem refused_eq (h : m.isOver) (hinv : m.Inv) (site : String) :
    m.refused site = m.store.enforcedCount site - ceiling := by
  rw [hinv.numbers (follows_barred site), refused, count]
  apply List.countP_congr
  intro c hc
  have hfinished := List.all_eq_true.1 h c hc
  have hsound := hinv.refusals c hc
  cases hp : c.progress with
  | finished events result =>
    cases result with
    | ok _ => simp [isRefused, isBarred]
    | error e =>
      rw [hp] at hsound
      obtain ⟨o, rfl, -⟩ := hsound
      simp [isRefused, isBarred]
  | _ => simp [hp, isFinished] at hfinished

/-- Whatever calls share a fresh store, and in whatever order their steps come: of the calls of a
site just as many pass as may, all the others are refused, and every call is in every count. -/
theorem gets_exactly_its_budget (calls : List (String × String)) (schedule : List Nat)
    (h : ((start .empty calls).run true schedule).isOver) :
    ((start .empty calls).run true schedule).Settled calls := by
  have hinv := (inv_start calls).run schedule
  have hasked : ((start .empty calls).run true schedule).asked = calls := by
    rw [asked_run, asked_start]
  generalize (start .empty calls).run true schedule = m at h hinv hasked
  have henforced := enforcedCount_of_isOver h hinv
  subst hasked
  refine ⟨rfl, fun site => ?_, fun site => ?_, fun c hc o ho => ?_,
    actualCount_of_isOver h hinv, henforced, total_of_isOver h hinv (by decide) follows_actualTotal,
    total_of_isOver h hinv (by decide) follows_enforcedTotal,
    total_of_isOver h hinv (by decide) follows_stackTotal⟩
  · rw [passed_eq h hinv, henforced]
  · rw [refused_eq h hinv, henforced]
    omega
  · have hsound := hinv.refusals c hc
    cases hp : c.progress with
    | finished events result =>
      rw [hp] at ho hsound
      obtain rfl := Option.some.inj ho
      obtain ⟨o', ho', hrest⟩ := hsound
      cases ho'
      exact hrest
    | _ => rw [hp] at ho; cases ho

/-- Thirty-one calls of one site and one of another that take turns: which of them is refused
depends on the turns, but not that one is. -/
theorem gets_exactly_its_budget_in_turns :
    let calls := List.replicate 31 ("find", "show") ++ [("list", "show")]
    let m := (start .empty calls).run true (List.replicate 8 (List.range 32)).flatten
    m.isOver ∧ m.Settled calls ∧ m.passed "find" = 30 ∧ m.refused "find" = 1 ∧
      m.passed "list" = 1 := by
  intro calls m
  have hover : m.isOver := isOver_of_turns calls (by decide +kernel)
  have h : m.Settled calls := gets_exactly_its_budget calls _ hover
  exact ⟨hover, h, h.passed "find", h.refused "find", h.passed "list"⟩

end FanOut

end StorageCalls.Budget
