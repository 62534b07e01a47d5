import Mathlib.Data.List.Basic
import Mathlib.Data.List.Nodup
import StorageCalls.Proofs.ByteOrder
import StorageCalls.Proofs.Tallies
import StorageCalls.Request.Store

namespace StorageCalls

/-- The highest number of times that one text was recorded, with all texts that were recorded so
often. -/
structure IsWorst (recorded : List String) (worst : Nat × List String) : Prop where
  empty_iff : worst = (0, []) ↔ recorded = []
  largest : ∀ text, recorded.count text ≤ worst.1
  mem_iff : ∀ text, text ∈ worst.2 ↔ text ∈ recorded ∧ recorded.count text = worst.1
  nonempty : recorded ≠ [] → worst.2 ≠ []
  once : worst.2.Nodup
  ascending : worst.2.Pairwise fun a b => Text.utf8Bytes a < Text.utf8Bytes b

namespace IsWorst

variable {recorded others : List String} {worst other : Nat × List String}

theorem perm (h : IsWorst recorded worst) (hperm : recorded.Perm others) :
    IsWorst others worst where
  empty_iff := h.empty_iff.trans ⟨fun he => (he ▸ hperm).nil_eq.symm, fun he => (he ▸ hperm).eq_nil⟩
  largest text := hperm.count_eq text ▸ h.largest text
  mem_iff text := by rw [h.mem_iff, hperm.mem_iff, hperm.count_eq]
  nonempty hne := h.nonempty fun he => hne (he ▸ hperm).nil_eq.symm
  once := h.once
  ascending := h.ascending

theorem fst_le (h : IsWorst recorded worst) (h' : IsWorst recorded other) : worst.1 ≤ other.1 := by
  by_cases hne : recorded = []
  · rw [h.empty_iff.2 hne]
    exact Nat.zero_le _
  · obtain ⟨text, hmem⟩ := List.exists_mem_of_ne_nil _ (h.nonempty hne)
    rw [← ((h.mem_iff text).1 hmem).2]
    exact h'.largest text

theorem unique (h : IsWorst recorded worst) (h' : IsWorst recorded other) : worst = other := by
  have hfst : worst.1 = other.1 := Nat.le_antisymm (h.fst_le h') (h'.fst_le h)
  have hperm : worst.2.Perm other.2 := (List.perm_ext_iff_of_nodup h.once h'.once).2 fun text => by
    rw [h.mem_iff, h'.mem_iff, hfst]
  refine Prod.ext hfst (hperm.eq_of_pairwise (fun a b _ _ hab hba => ?_) h.ascending h'.ascending)
  exact absurd hba (List.lt_asymm hab)

/-- Texts that were recorded equally often take up their share of all that was recorded. -/
theorem mul_length_le {n : Nat} {texts : List String} (hnodup : texts.Nodup)
    (hcount : ∀ text ∈ texts, recorded.count text = n) : n * texts.length ≤ recorded.length := by
  induction texts generalizing recorded with
  | nil => exact Nat.zero_le _
  | cons text texts ih =>
    obtain ⟨hnew, hrest⟩ := List.nodup_cons.1 hnodup
    -- Without the first text, the others were still recorded as often.
    have hsplit := recorded.length_eq_countP_add_countP (· == text)
    have hothers : n * texts.length ≤ (recorded.filter fun t => ¬ t == text).length := by
      apply ih hrest
      intro t ht
      have hne : t ≠ text := fun heq => hnew (heq ▸ ht)
      rw [List.count_filter (by simpa using hne)]
      exact hcount t (List.mem_cons_of_mem _ ht)
    rw [← List.countP_eq_length_filter] at hothers
    have hown : recorded.countP (· == text) = n := hcount text List.mem_cons_self
    rw [List.length_cons, Nat.mul_succ]
    omega

theorem share (h : IsWorst recorded worst) : worst.1 * worst.2.length ≤ recorded.length :=
  mul_length_le h.once fun text hmem => ((h.mem_iff text).1 hmem).2

end IsWorst

namespace Tally

variable {t : Tally} {recorded : List String}

theorem highest_eq_zero_iff (h : ∀ text, count t text = recorded.count text) :
    highest t = 0 ↔ recorded = [] := by
  constructor
  · intro hzero
    apply List.eq_nil_iff_forall_not_mem.2
    intro text hmem
    have hle := count_le_highest t text
    have hpos := List.count_pos_iff.2 hmem
    rw [h] at hle
    omega
  · rintro rfl
    by_contra hne
    obtain ⟨text, hmem⟩ :=
      List.exists_mem_of_ne_nil _ (worst_ne_nil_of_highest (Nat.pos_of_ne_zero hne))
    have hcount := (mem_worst.1 hmem).2
    rw [h, List.count_nil] at hcount
    exact hne hcount.symm

theorem isWorst_of_counts (h : ∀ text, count t text = recorded.count text) :
    IsWorst recorded (worst t) where
  empty_iff := by
    rw [← highest_eq_zero_iff h]
    exact ⟨fun hw => by rw [← fst_worst, hw], fun hzero => by rw [worst, if_pos hzero]⟩
  largest text := by
    rw [fst_worst, ← h]
    exact count_le_highest t text
  mem_iff text := by
    rw [mem_worst, h, fst_worst, ← List.count_pos_iff]
    constructor <;> rintro ⟨hpos, heq⟩ <;> exact ⟨by omega, heq⟩
  nonempty hne :=
    worst_ne_nil_of_highest (Nat.pos_of_ne_zero (mt (highest_eq_zero_iff h).1 hne))
  once := (ascending_worst t).imp String.ne_of_lt
  ascending := (ascending_worst t).imp Text.utf8Bytes_lt_iff.2

end Tally

namespace RequestStore

def recordStacks (s : RequestStore) (recorded : List String) : RequestStore :=
  recorded.foldl recordStack s

theorem stackCount_recordStacks (s : RequestStore) (recorded : List String) (text : String) :
    (s.recordStacks recorded).stackCount text = s.stackCount text + recorded.count text := by
  induction recorded generalizing s with
  | nil => rfl
  | cons first rest ih =>
    have hfirst : (s.recordStack first).stackCount text =
        s.stackCount text + if text = first then 1 else 0 := Tally.count_increment _ _ _
    rw [recordStacks, List.foldl_cons, ← recordStacks, ih, hfirst, List.count_cons]
    grind

theorem isWorst_recordStacks (recorded : List String) :
    IsWorst recorded (empty.recordStacks recorded).worstStacks :=
  Tally.isWorst_of_counts fun text =>
    (stackCount_recordStacks empty recorded text).trans (Nat.zero_add _)

end RequestStore

end StorageCalls
