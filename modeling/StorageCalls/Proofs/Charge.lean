import StorageCalls.Proofs.Stages

namespace StorageCalls.Budget

def counts (enforcing : Bool) (s : RequestStore) : Bool := enforcing && s.exemptions == 0

/-- The store after one call was accounted for, refused or not. -/
def charge (enforcing : Bool) (signature site : String) (s : RequestStore) : RequestStore :=
  { s with
    actual := Tally.increment s.actual site
    actualTotal := s.actualTotal + 1
    enforced := if counts enforcing s then Tally.increment s.enforced site else s.enforced
    enforcedTotal := if counts enforcing s then s.enforcedTotal + 1 else s.enforcedTotal
    stackTally :=
      if counts enforcing s then Tally.increment s.stackTally signature else s.stackTally }

def refusal (enforcing : Bool) (signature site : String) (s : RequestStore) : Option CallError :=
  if counts enforcing s ∧ ceiling ≤ s.enforcedCount site then
    some (.tooManyInvocations (overrunOf (charge enforcing signature site s) site))
  else none

variable (enforcing : Bool) (signature site : String) (s : RequestStore)

theorem charge_of_not_counts (h : counts enforcing s = false) :
    charge enforcing signature site s = s.countActual site := by
  simp [charge, h, RequestStore.countActual]

theorem charge_of_counts (h : counts enforcing s = true) :
    charge enforcing signature site s =
      ((s.countActual site).countEnforced site).recordStack signature := by
  simp [charge, h, RequestStore.countActual, RequestStore.countEnforced, RequestStore.recordStack]

theorem actualCount_charge (k : String) :
    (charge enforcing signature site s).actualCount k =
      s.actualCount k + if k = site then 1 else 0 :=
  Tally.count_increment s.actual site k

theorem enforcedCount_charge (k : String) :
    (charge enforcing signature site s).enforcedCount k =
      s.enforcedCount k + if counts enforcing s ∧ k = site then 1 else 0 := by
  by_cases h : counts enforcing s <;>
    simp [RequestStore.enforcedCount, charge, h, Tally.count_increment]

theorem stackCount_charge (k : String) :
    (charge enforcing signature site s).stackCount k =
      s.stackCount k + if counts enforcing s ∧ k = signature then 1 else 0 := by
  by_cases h : counts enforcing s <;>
    simp [RequestStore.stackCount, charge, h, Tally.count_increment]

theorem enforcedTotal_charge :
    (charge enforcing signature site s).enforcedTotal =
      s.enforcedTotal + if counts enforcing s then 1 else 0 := by
  by_cases h : counts enforcing s <;> simp [charge, h]

theorem enforce_of_not_counts (h : counts enforcing s = false) :
    (enforce enforcing signature site s).state = s.countActual site ∧
      (enforce enforcing signature site s).result = .ok () := by
  cases enforcing with
  | false => exact ⟨rfl, rfl⟩
  | true =>
    have hpos : 0 < (s.countActual site).exemptions := by
      simpa [counts, RequestStore.countActual, Nat.pos_iff_ne_zero] using h
    simp [enforce, hpos]

theorem enforce_of_counts (h : counts enforcing s = true) :
    (enforce enforcing signature site s).state = charge enforcing signature site s ∧
      (enforce enforcing signature site s).result =
        if s.enforcedCount site < ceiling then .ok ()
        else .error (.tooManyInvocations (overrunOf (charge enforcing signature site s) site)) := by
  have hcount := enforcedCount_charge enforcing signature site s site
  rw [charge_of_counts enforcing signature site s h, h] at hcount
  rw [charge_of_counts enforcing signature site s h]
  simp only [counts, Bool.and_eq_true, beq_iff_eq] at h
  have hx : ¬ 0 < (s.countActual site).exemptions := by
    rw [RequestStore.countActual, h.2]
    exact Nat.lt_irrefl 0
  simp only [and_self, if_true] at hcount
  simp only [enforce, h.1, hx, Bool.not_true, Bool.false_eq_true, if_false, hcount,
    Nat.succ_le_iff]
  split <;> exact ⟨rfl, rfl⟩

theorem state_enforce :
    (enforce enforcing signature site s).state = charge enforcing signature site s := by
  cases h : counts enforcing s with
  | false =>
    rw [charge_of_not_counts enforcing signature site s h]
    exact (enforce_of_not_counts enforcing signature site s h).1
  | true => exact (enforce_of_counts enforcing signature site s h).1

theorem result_enforce :
    (enforce enforcing signature site s).result = verdict (refusal enforcing signature site s) := by
  cases h : counts enforcing s with
  | false =>
    rw [(enforce_of_not_counts enforcing signature site s h).2]
    simp [refusal, h, verdict]
  | true =>
    rw [(enforce_of_counts enforcing signature site s h).2]
    by_cases hc : s.enforcedCount site < ceiling
    · simp [refusal, h, verdict, hc, Nat.not_le.mpr hc]
    · simp [refusal, h, verdict, hc, Nat.not_lt.mp hc]

end StorageCalls.Budget
