import Mathlib.Algebra.BigOperators.Group.List.Basic
import Mathlib.Algebra.GroupWithZero.Nat
import StorageCalls.Proofs.MetadataEntries
import StorageCalls.Request.Store

namespace StorageCalls

namespace Table

variable {β : Type}

theorem nodup_entries (t : Table β) : t.entries.Nodup := by
  apply List.Pairwise.imp _ t.ascending
  intro a b hlt heq
  exact String.lt_irrefl a.1 (by rwa [← heq] at hlt)

theorem ext_get? {t u : Table β} (h : ∀ key, t.get? key = u.get? key) : t = u := by
  have hmem : ∀ e, e ∈ t.entries ↔ e ∈ u.entries := by
    rintro ⟨key, value⟩
    rw [← toList, ← toList, ← get?_eq_some_iff_mem, ← get?_eq_some_iff_mem, h]
  have hperm : t.entries.Perm u.entries :=
    (List.perm_ext_iff_of_nodup t.nodup_entries u.nodup_entries).2 hmem
  have hentries : t.entries = u.entries := by
    apply hperm.eq_of_pairwise _ t.ascending u.ascending
    intro a b _ _ hab hba
    exact absurd (String.lt_trans hab hba) (String.lt_irrefl _)
  obtain ⟨entries, _⟩ := t
  obtain ⟨others, _⟩ := u
  subst hentries
  rfl

end Table

namespace Tally

theorem increment_comm (t : Tally) (k l : String) :
    increment (increment t k) l = increment (increment t l) k := by
  apply Table.ext_get?
  intro key
  simp only [increment, Table.get?_insert, count]
  by_cases hk : key = k <;> by_cases hl : key = l <;> simp_all

def total (t : Tally) : Nat := (t.entries.map (·.2)).sum

theorem sum_insertEntry (key : String) (value : Nat) {entries : List (String × Nat)}
    (h : Table.Ascending entries) :
    ((Table.insertEntry key value entries).map (·.2)).sum + (entries.lookup key).getD 0 =
      (entries.map (·.2)).sum + value := by
  induction entries with
  | nil => simp [Table.insertEntry]
  | cons e rest ih =>
    obtain ⟨k, v⟩ := e
    have hrest := ih h.of_cons
    have hlater : ∀ e ∈ rest, k < e.1 := fun e he => List.rel_of_pairwise_cons h he
    rw [Table.insertEntry, Table.lookup_cons_pair]
    by_cases hlt : key < k
    · have hne : key ≠ k := fun heq => String.lt_irrefl k (heq ▸ hlt)
      have habsent : rest.lookup key = none := by
        rw [List.lookup_eq_none_iff]
        intro e he
        have hlt' : key < e.1 := String.lt_trans hlt (hlater e he)
        rw [bne_iff_ne]
        rintro rfl
        exact String.lt_irrefl _ hlt'
      simp only [hlt, hne, habsent, if_true, if_false, List.map_cons, List.sum_cons,
        Option.getD_none]
      omega
    · by_cases heq : key = k
      · subst heq
        simp only [String.lt_irrefl, if_false, if_true, List.map_cons, List.sum_cons,
          Option.getD_some]
        omega
      · simp only [hlt, heq, if_false, List.map_cons, List.sum_cons]
        omega

theorem total_increment (t : Tally) (key : String) : total (increment t key) = total t + 1 := by
  have h : total (increment t key) + count t key = total t + (count t key + 1) :=
    sum_insertEntry key (count t key + 1) t.ascending
  omega

theorem highest_eq (t : Tally) : highest t = (t.entries.map (·.2)).max?.getD 0 := by
  have h : highest t = (t.entries.map (·.2)).foldl max 0 := List.foldl_map.symm
  rw [h, List.foldl_max, Nat.zero_max]

theorem worst_ne_nil_of_highest {t : Tally} (hpos : 0 < highest t) : (worst t).2 ≠ [] := by
  have hmem : highest t ∈ t.entries.map (·.2) := by
    cases hmax : (t.entries.map (·.2)).max? with
    | none => rw [highest_eq, hmax] at hpos; cases hpos
    | some n => rw [highest_eq, hmax]; exact List.max?_mem hmax
  obtain ⟨e, he, hcount⟩ := List.mem_map.1 hmem
  rw [worst, if_neg (Nat.ne_of_gt hpos)]
  apply List.ne_nil_of_mem (a := e.1)
  exact List.mem_map.2 ⟨e, List.mem_filter.2 ⟨he, beq_iff_eq.2 hcount⟩, rfl⟩

theorem worst_ne_nil {t : Tally} (h : 0 < total t) : (worst t).2 ≠ [] := by
  apply worst_ne_nil_of_highest
  rw [Nat.pos_iff_ne_zero]
  intro hzero
  have hall : ∀ n ∈ t.entries.map (·.2), n = 0 := by
    intro n hn
    have hle : n ≤ highest t := highest_eq t ▸ List.le_max?_getD_of_mem hn
    omega
  exact Nat.ne_of_gt h (List.sum_eq_zero hall)

theorem count_le_highest (t : Tally) (key : String) : count t key ≤ highest t := by
  unfold count
  cases h : t.get? key with
  | none => exact Nat.zero_le _
  | some n =>
    have hmem : (key, n) ∈ t.entries := Table.get?_eq_some_iff_mem.1 h
    rw [Option.getD_some, highest_eq]
    exact List.le_max?_getD_of_mem (List.mem_map_of_mem hmem)

theorem fst_worst (t : Tally) : (worst t).1 = highest t := by
  unfold worst
  split
  · next h => exact h.symm
  · rfl

theorem mem_worst {t : Tally} {key : String} :
    key ∈ (worst t).2 ↔ 0 < highest t ∧ count t key = highest t := by
  unfold worst
  split
  · next h => simp [h]
  · next h =>
    have hpos : 0 < highest t := Nat.pos_of_ne_zero h
    simp only [List.mem_map, List.mem_filter, beq_iff_eq, hpos, true_and]
    constructor
    · rintro ⟨⟨key, n⟩, ⟨hmem, hn⟩, rfl⟩
      have hget : t.get? key = some n := Table.get?_eq_some_iff_mem.2 hmem
      rw [count, hget, Option.getD_some, ← hn]
    · intro hcount
      cases hget : t.get? key with
      | none =>
        rw [count, hget, Option.getD_none] at hcount
        omega
      | some n =>
        rw [count, hget, Option.getD_some] at hcount
        exact ⟨(key, n), ⟨Table.get?_eq_some_iff_mem.1 hget, hcount⟩, rfl⟩

theorem ascending_worst (t : Tally) : (worst t).2.Pairwise (· < ·) := by
  unfold worst
  split
  · exact .nil
  · exact List.pairwise_map.2 (t.ascending.filter _)

end Tally

end StorageCalls
