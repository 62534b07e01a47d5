import Mathlib.Data.List.Nodup
import StorageCalls.Proofs.WorstStacks

namespace StorageCalls.Tally

variable {recorded : List String} {entries others : List (String × Nat)} {text : String}

/-- Counts a text in entries that stand in no order: adds one to its count, or adds the text. -/
def countIn (text : String) : List (String × Nat) → List (String × Nat)
  | [] => [(text, 1)]
  | (key, n) :: rest => if key = text then (key, n + 1) :: rest else (key, n) :: countIn text rest

/-- What entries recording can lead to, when they may change places at any time. -/
inductive Listing : List String → List (String × Nat) → Prop where
  | empty : Listing [] []
  | record (text : String) {recorded : List String} {entries : List (String × Nat)}
    (h : Listing recorded entries) :
    Listing (recorded ++ [text]) (countIn text entries)
  | reorder {recorded : List String} {entries others : List (String × Nat)}
    (h : Listing recorded entries) (hperm : entries.Perm others) :
    Listing recorded others

def highestOf (entries : List (String × Nat)) : Nat := (entries.map (·.2)).max?.getD 0

def highestTexts (entries : List (String × Nat)) : List String :=
  ((entries.filter fun e => e.2 == highestOf entries).map (·.1)).mergeSort

def worstOf (entries : List (String × Nat)) : Nat × List String :=
  if highestOf entries = 0 then (0, []) else (highestOf entries, highestTexts entries)

/-- The entries are the counts of the recorded texts, each of them once. -/
structure Counts (recorded : List String) (entries : List (String × Nat)) : Prop where
  nodup : (entries.map (·.1)).Nodup
  mem_iff : ∀ key n, (key, n) ∈ entries ↔ key ∈ recorded ∧ recorded.count key = n

theorem countIn_append {before : List (String × Nat)} (h : text ∉ before.map (·.1))
    (after : List (String × Nat)) :
    countIn text (before ++ after) = before ++ countIn text after := by
  induction before with
  | nil => rfl
  | cons e before ih =>
    rw [List.map_cons, List.mem_cons, not_or] at h
    rw [List.cons_append, countIn, if_neg (Ne.symm h.1), ih h.2, List.cons_append]

theorem Counts.mem_keys (h : Counts recorded entries) :
    text ∈ entries.map (·.1) ↔ text ∈ recorded := by
  rw [List.mem_map]
  constructor
  · rintro ⟨⟨key, n⟩, hmem, rfl⟩
    exact ((h.mem_iff key n).1 hmem).1
  · intro hmem
    exact ⟨(text, recorded.count text), (h.mem_iff _ _).2 ⟨hmem, rfl⟩, rfl⟩

theorem Counts.reorder (h : Counts recorded entries) (hperm : entries.Perm others) :
    Counts recorded others where
  nodup := (hperm.map _).nodup h.nodup
  mem_iff key n := by rw [← hperm.mem_iff, h.mem_iff]

theorem Counts.empty : Counts [] [] where
  nodup := .nil
  mem_iff _ _ := by simp

theorem Counts.first (h : Counts recorded entries) (hnew : text ∉ recorded) :
    Counts (recorded ++ [text]) ((text, 1) :: entries) where
  nodup := List.nodup_cons.2 ⟨mt h.mem_keys.1 hnew, h.nodup⟩
  mem_iff key n := by grind [h.mem_iff key n, List.count_singleton]

theorem Counts.again {n : Nat} (h : Counts recorded ((text, n) :: entries)) :
    Counts (recorded ++ [text]) ((text, n + 1) :: entries) where
  nodup := h.nodup
  mem_iff key m := by
    have hnew : text ∉ entries.map (·.1) := (List.nodup_cons.1 h.nodup).1
    have hown := (h.mem_iff text n).1 List.mem_cons_self
    have hkey : (key, m) ∈ entries → key ≠ text := fun hmem heq =>
      hnew (List.mem_map.2 ⟨(key, m), hmem, heq⟩)
    have := h.mem_iff key m
    grind [List.count_singleton]

theorem Counts.countIn (h : Counts recorded entries) (text : String) :
    Counts (recorded ++ [text]) (countIn text entries) := by
  by_cases hmem : text ∈ recorded
  · -- Its entry is moved to the front, counted there and moved back.
    obtain ⟨before, after, rfl⟩ := List.append_of_mem ((h.mem_iff text _).2 ⟨hmem, rfl⟩)
    have hbefore : text ∉ before.map (·.1) := by
      have hnodup := h.nodup
      rw [List.map_append, List.map_cons, List.nodup_append] at hnodup
      exact fun hkey => hnodup.2.2 text hkey text List.mem_cons_self rfl
    rw [countIn_append hbefore, Tally.countIn, if_pos rfl]
    exact (h.reorder List.perm_middle).again.reorder List.perm_middle.symm
  · have hkey : text ∉ entries.map (·.1) := mt h.mem_keys.1 hmem
    have hcons := countIn_append hkey []
    rw [List.append_nil] at hcons
    rw [hcons]
    exact (h.first hmem).reorder (List.perm_append_singleton _ _).symm

theorem Listing.counts (h : Listing recorded entries) : Counts recorded entries := by
  induction h with
  | empty => exact .empty
  | record text _ ih => exact ih.countIn text
  | reorder _ hperm ih => exact ih.reorder hperm

theorem Counts.le_highestOf (h : Counts recorded entries) (text : String) :
    recorded.count text ≤ highestOf entries := by
  by_cases hmem : text ∈ recorded
  · have hentry : (text, recorded.count text) ∈ entries := (h.mem_iff text _).2 ⟨hmem, rfl⟩
    exact List.le_max?_getD_of_mem (List.mem_map_of_mem (f := (·.2)) hentry)
  · rw [List.count_eq_zero_of_not_mem hmem]
    exact Nat.zero_le _

theorem Counts.highestOf_eq_zero_iff (h : Counts recorded entries) :
    highestOf entries = 0 ↔ recorded = [] := by
  constructor
  · intro hzero
    apply List.eq_nil_iff_forall_not_mem.2
    intro text hmem
    have hle := h.le_highestOf text
    have hpos := List.count_pos_iff.2 hmem
    omega
  · rintro rfl
    have hnone : entries = [] := List.eq_nil_iff_forall_not_mem.2 fun e he =>
      List.not_mem_nil ((h.mem_iff e.1 e.2).1 he).1
    rw [hnone]
    rfl

theorem Counts.exists_highest (h : Counts recorded entries) (hne : recorded ≠ []) :
    ∃ text ∈ recorded, recorded.count text = highestOf entries := by
  have hpos : highestOf entries ≠ 0 := mt h.highestOf_eq_zero_iff.1 hne
  cases hmax : (entries.map (·.2)).max? with
  | none => exact absurd (by rw [highestOf, hmax, Option.getD_none]) hpos
  | some n =>
    obtain ⟨⟨text, n⟩, hentry, rfl⟩ := List.mem_map.1 (List.max?_mem hmax)
    have hhighest : highestOf entries = n := by rw [highestOf, hmax, Option.getD_some]
    obtain ⟨hmem, hcount⟩ := (h.mem_iff text n).1 hentry
    exact ⟨text, hmem, hcount.trans hhighest.symm⟩

theorem Counts.mem_highestTexts (h : Counts recorded entries) :
    text ∈ highestTexts entries ↔ text ∈ recorded ∧ recorded.count text = highestOf entries := by
  rw [highestTexts, List.mem_mergeSort, List.mem_map]
  constructor
  · rintro ⟨⟨text, n⟩, hmem, rfl⟩
    obtain ⟨hentry, hn⟩ := List.mem_filter.1 hmem
    obtain ⟨hrecorded, hcount⟩ := (h.mem_iff text n).1 hentry
    exact ⟨hrecorded, hcount.trans (beq_iff_eq.1 hn)⟩
  · rintro ⟨hrecorded, hcount⟩
    have hentry : (text, recorded.count text) ∈ entries := (h.mem_iff _ _).2 ⟨hrecorded, rfl⟩
    exact ⟨_, List.mem_filter.2 ⟨hentry, beq_iff_eq.2 hcount⟩, rfl⟩

theorem Counts.nodup_highestTexts (h : Counts recorded entries) : (highestTexts entries).Nodup :=
  (List.mergeSort_perm _ _).nodup_iff.2 (h.nodup.sublist (List.filter_sublist.map _))

theorem ascending_highestTexts (hnodup : (highestTexts entries).Nodup) :
    (highestTexts entries).Pairwise (· < ·) := by
  have hsorted : (highestTexts entries).Pairwise fun a b => decide (a ≤ b) :=
    List.pairwise_mergeSort (fun a b c => by simpa using String.le_trans)
      (fun a b => by simpa using String.le_total a b) _
  exact (hsorted.and hnodup).imp fun h => Std.lt_of_le_of_ne (of_decide_eq_true h.1) h.2

theorem Counts.isWorst (h : Counts recorded entries) : IsWorst recorded (worstOf entries) := by
  unfold worstOf
  split
  · next hzero =>
    obtain rfl := h.highestOf_eq_zero_iff.1 hzero
    exact ⟨by simp, by simp, by simp, by simp, .nil, .nil⟩
  · next hhighest =>
    have hne : recorded ≠ [] := mt h.highestOf_eq_zero_iff.2 hhighest
    exact {
      empty_iff := by simp [hhighest, hne]
      largest := h.le_highestOf
      mem_iff := fun text => h.mem_highestTexts
      nonempty := fun _ => by
        obtain ⟨text, hmem⟩ := h.exists_highest hne
        exact List.ne_nil_of_mem (h.mem_highestTexts.2 hmem)
      once := h.nodup_highestTexts
      ascending := (ascending_highestTexts h.nodup_highestTexts).imp Text.utf8Bytes_lt_iff.2 }

end StorageCalls.Tally
