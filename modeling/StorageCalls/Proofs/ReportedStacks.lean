import StorageCalls.Proofs.FanOut
import StorageCalls.Proofs.WorstStacks

namespace StorageCalls

/-- The report is right for the stacks that were recorded up to some point. -/
def Overrun.TellsEarlier (o : Overrun) (recorded : List String) : Prop :=
  ∃ early, early <+: recorded ∧ early ≠ [] ∧ IsWorst early (o.maxCallCount, o.maxCallStacks)

theorem Overrun.TellsEarlier.grow {o : Overrun} {recorded : List String}
    (h : o.TellsEarlier recorded) (more : List String) : o.TellsEarlier (recorded ++ more) := by
  obtain ⟨early, hprefix, hrest⟩ := h
  exact ⟨early, hprefix.trans (List.prefix_append _ _), hrest⟩

namespace Budget

open Progress

/-- What comes next on a store: a call does its next step, with limits enforced or not as of then,
or an exemption begins or ends, or the totals are set back. -/
inductive StoreTurn where
  | step (enforcing : Bool) (call : Nat)
  | beginExemption
  | endExemption
  | resetTotals

namespace Progress

def isDue : Progress → Bool
  | liable _ | totalled _ | charged .. => true
  | _ => false

/-- What a call knows of the stacks on its way. -/
def Reports (recorded : List String) : Progress → Prop
  | .recorded .. => recorded ≠ []
  | exceeding _ o => o.TellsEarlier recorded
  | finished _ result => ∀ o, result = .error (.tooManyInvocations o) → o.TellsEarlier recorded
  | _ => True

theorem Reports.grow {p : Progress} {recorded : List String} (h : p.Reports recorded)
    (more : List String) : p.Reports (recorded ++ more) := by
  cases p with
  | recorded i e => exact List.append_ne_nil_of_left_ne_nil h more
  | exceeding e o => exact Overrun.TellsEarlier.grow h more
  | finished events result => exact fun o ho => (h o ho).grow more
  | _ => trivial

end Progress

section Step

variable (enforcing : Bool) (s : RequestStore) (c : Accounting)

def eligibleNext : List String :=
  match c.progress with
  | counted _ => if enforcing ∧ s.exemptions = 0 then [c.signature] else []
  | _ => []

def recordedNext : List String :=
  match c.progress with
  | charged .. => [c.signature]
  | _ => []

theorem stackCount_advance (text : String) : (advance enforcing c s).1.stackCount text =
    s.stackCount text + (recordedNext c).count text := by
  obtain ⟨site, signature, progress⟩ := c
  cases progress with
  | charged i e =>
    have hcount : (s.recordStack signature).stackCount text =
        s.stackCount text + if text = signature then 1 else 0 := Tally.count_increment _ _ _
    simp only [advance, recordedNext, List.count_singleton, hcount, beq_iff_eq, @eq_comm _ text]
  | counted i =>
    simp only [advance]
    split
    · rfl
    · split <;> rfl
  | _ => rfl

theorem due_advance :
    (if (advance enforcing c s).2.isDue then 1 else 0) + (recordedNext c).length =
      (if c.progress.isDue then 1 else 0) + (eligibleNext enforcing s c).length := by
  obtain ⟨site, signature, progress⟩ := c
  cases progress with
  | charged i e =>
    simp only [advance]
    split <;> rfl
  | counted i =>
    simp only [advance, eligibleNext, recordedNext]
    cases enforcing with
    | false => rfl
    | true => by_cases hx : s.exemptions = 0 <;> simp [hx, isDue, Nat.pos_iff_ne_zero]
  | _ => rfl

theorem reports_advance {recorded : List String} (hworst : IsWorst recorded s.worstStacks)
    (h : c.progress.Reports recorded) :
    (advance enforcing c s).2.Reports (recorded ++ recordedNext c) := by
  obtain ⟨site, signature, progress⟩ := c
  cases progress with
  | charged i e =>
    simp only [advance]
    split
    · exact fun o ho => by cases ho
    · exact List.append_ne_nil_of_right_ne_nil _ (List.cons_ne_nil _ _)
  | counted i =>
    simp only [advance]
    split
    · exact fun o ho => by cases ho
    · split
      · exact fun o ho => by cases ho
      · trivial
  | recorded i e => exact ⟨recorded, List.prefix_append _ _, h, hworst⟩
  | exceeding e o =>
    rintro _ ⟨⟩
    exact Overrun.TellsEarlier.grow h _
  | finished events result => exact fun o ho => (h o ho).grow _
  | _ => trivial

end Step

namespace FanOut

def take (m : FanOut) : StoreTurn → FanOut
  | .step enforcing n => m.step enforcing n
  | .beginExemption => { m with store := m.store.beginExemption }
  | .endExemption => { m with store := m.store.endExemption }
  | .resetTotals => { m with store := m.store.resetTotals }

def play (m : FanOut) (turns : List StoreTurn) : FanOut := turns.foldl take m

def gives (next : Bool → RequestStore → Accounting → List String) (m : FanOut) :
    StoreTurn → List String
  | .step enforcing n => m.calls[n]?.elim [] (next enforcing m.store)
  | _ => []

def given (next : Bool → RequestStore → Accounting → List String) :
    FanOut → List StoreTurn → List String
  | _, [] => []
  | m, t :: turns => m.gives next t ++ given next (m.take t) turns

def eligible : FanOut → List StoreTurn → List String := given eligibleNext

def recorded : FanOut → List StoreTurn → List String := given fun _ _ => recordedNext

/-- What holds between any two turns. A call is found eligible some turns before its stack is
recorded, so there can be fewer stacks than eligible calls, by those that are due. -/
structure Exact (m : FanOut) (eligible recorded : List String) : Prop where
  counts : ∀ text, m.store.stackCount text = recorded.count text
  due : eligible.length = recorded.length + m.calls.countP (·.progress.isDue)
  reports : ∀ c ∈ m.calls, c.progress.Reports recorded

variable {m : FanOut} {found known : List String}

theorem exact_start (calls : List (String × String)) : (start .empty calls).Exact [] [] where
  counts _ := rfl
  due := by
    have hnone : (start .empty calls).calls.countP (·.progress.isDue) = 0 := by
      apply List.countP_eq_zero.2
      intro c hc
      obtain ⟨c, -, rfl⟩ := List.mem_map.1 hc
      exact Bool.false_ne_true
    rw [hnone]
    rfl
  reports c hc := by
    obtain ⟨c, -, rfl⟩ := List.mem_map.1 hc
    trivial

theorem Exact.step_of_call (h : m.Exact found known) (enforcing : Bool) {n : Nat} {c : Accounting}
    (hc : m.calls[n]? = some c) :
    (m.step enforcing n).Exact (found ++ eligibleNext enforcing m.store c)
      (known ++ recordedNext c) := by
  have hworst : IsWorst known m.store.worstStacks := Tally.isWorst_of_counts h.counts
  have hdue := due_advance enforcing m.store c
  obtain ⟨hn, rfl⟩ := List.getElem?_eq_some_iff.1 hc
  -- `countP_set` subtracts what the call counted for before, which is no more than the whole.
  have hle := List.boole_getElem_le_countP (p := fun c => c.progress.isDue) hn
  rw [step, hc]
  exact {
    counts := fun text => by rw [stackCount_advance, h.counts, List.count_append]
    due := by
      have hbefore := h.due
      simp only [List.length_append, List.countP_set hn]
      omega
    reports := fun d hd => by
      rcases List.mem_or_eq_of_mem_set hd with hd | rfl
      · exact (h.reports d hd).grow _
      · exact reports_advance _ _ _ hworst (h.reports _ (List.getElem_mem hn)) }

theorem Exact.take (h : m.Exact found known) (t : StoreTurn) :
    (m.take t).Exact (found ++ m.gives eligibleNext t)
      (known ++ m.gives (fun _ _ => recordedNext) t) := by
  have hsame : m.Exact (found ++ []) (known ++ []) := by rwa [List.append_nil, List.append_nil]
  cases t with
  | step enforcing n =>
    simp only [FanOut.take, gives]
    cases hc : m.calls[n]? with
    | none =>
      rw [step, hc]
      exact hsame
    | some c => exact h.step_of_call enforcing hc
  | beginExemption | endExemption | resetTotals => exact ⟨hsame.counts, hsame.due, hsame.reports⟩

theorem Exact.play (h : m.Exact found known) (turns : List StoreTurn) :
    (m.play turns).Exact (found ++ m.eligible turns) (known ++ m.recorded turns) := by
  induction turns generalizing m found known with
  | nil =>
    rw [eligible, recorded, given, given, List.append_nil, List.append_nil]
    exact h
  | cons t turns ih =>
    rw [eligible, recorded, given, given, ← List.append_assoc, ← List.append_assoc]
    exact ih (h.take t)

end FanOut

end Budget

end StorageCalls
