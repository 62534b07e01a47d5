import Mathlib.Data.List.Basic

namespace StorageCalls

variable {α β : Type}

theorem getElem?_concat_cases {as : List α} {a b : α} {i : Nat}
    (h : (as ++ [a])[i]? = some b) : as[i]? = some b ∨ i = as.length ∧ b = a := by
  obtain hlt | heq | hgt := Nat.lt_trichotomy i as.length
  · rw [List.getElem?_append_left hlt] at h
    exact .inl h
  · rw [heq, List.getElem?_concat_length, Option.some.injEq] at h
    exact .inr ⟨heq, h.symm⟩
  · rw [List.getElem?_eq_none (by rw [List.length_append]; exact hgt)] at h
    cases h

/-- What stands before the first of its kind. -/
theorem takeWhile_bne_append [BEq α] [LawfulBEq α] {before : List α} {a : α} (h : a ∉ before)
    (after : List α) : (before ++ a :: after).takeWhile (· != a) = before := by
  have hall : ∀ b ∈ before, b != a := fun b hb => bne_iff_ne.2 fun he => h (he ▸ hb)
  rw [List.takeWhile_append_of_pos hall, List.takeWhile_cons_of_neg (by simp), List.append_nil]

theorem take_append_getElem?_drop {as : List α} {a : α} {n : Nat}
    (h : as[n]? = some a) : as = as.take n ++ a :: as.drop (n + 1) := by
  obtain ⟨hn, rfl⟩ := List.getElem?_eq_some_iff.1 h
  rw [← List.drop_eq_getElem_cons hn, List.take_append_drop]

theorem filterMap_eraseIdx_of_none {as : List α} {f : α → Option β} {n : Nat}
    (h : ∀ a, as[n]? = some a → f a = none) : (as.eraseIdx n).filterMap f = as.filterMap f := by
  cases hn : as[n]? with
  | none => rw [List.eraseIdx_of_length_le (List.getElem?_eq_none_iff.1 hn)]
  | some a =>
    conv_rhs => rw [take_append_getElem?_drop hn]
    rw [List.eraseIdx_eq_take_drop_succ, List.filterMap_append, List.filterMap_append,
      List.filterMap_cons, h a hn]

theorem modify_of_getElem? {as : List α} {a : α} {i : Nat} {f : α → α}
    (h : as[i]? = some a) : as.modify i f = as.set i (f a) := by
  apply List.ext_getElem?
  intro j
  rw [List.getElem?_modify, List.getElem?_set]
  by_cases hij : i = j
  · subst hij
    have hlt := (List.getElem?_eq_some_iff.1 h).1
    rw [h, if_pos rfl, if_pos hlt]
    simp
  · simp [hij]

theorem filterMap_eraseIdx_of_dropped {as : List α} {f : α → Option β} {n : Nat} {a : α}
    (ha : as[n]? = some a) (hf : f a = none) :
    (as.eraseIdx n).filterMap f = as.filterMap f :=
  filterMap_eraseIdx_of_none fun _ h => Option.some.inj (ha.symm.trans h) ▸ hf

theorem filter_eraseIdx_of_dropped {as : List α} {f : α → Bool} {n : Nat} {a : α}
    (ha : as[n]? = some a) (hf : f a = false) : (as.eraseIdx n).filter f = as.filter f := by
  rw [← List.filterMap_eq_filter]
  exact filterMap_eraseIdx_of_dropped ha (by simp [Option.guard, hf])

theorem filter_eraseIdx_of_kept {as : List α} {f : α → Bool} {n : Nat} {a : α}
    (ha : as[n]? = some a) (hf : f a) :
    (as.filter f)[((as.take n).filter f).length]? = some a ∧
      (as.filter f).eraseIdx ((as.take n).filter f).length = (as.eraseIdx n).filter f := by
  have hsplit : as.filter f = (as.take n).filter f ++ a :: (as.drop (n + 1)).filter f := by
    conv_lhs => rw [take_append_getElem?_drop ha]
    rw [List.filter_append, List.filter_cons_of_pos hf]
  rw [hsplit]
  constructor
  · rw [List.getElem?_append_right (Nat.le_refl _), Nat.sub_self, List.getElem?_cons_zero]
  · rw [List.eraseIdx_append_of_length_le (Nat.le_refl _), Nat.sub_self, List.eraseIdx_cons_zero,
      List.eraseIdx_eq_take_drop_succ, List.filter_append]

/-- The place of the element that comes as the given one among those that the function keeps, or the
end of the list. -/
def place (f : α → Option β) : List α → Nat → Nat
  | [], _ => 0
  | a :: l, n =>
    match f a, n with
    | none, n => place f l n + 1
    | some _, 0 => 0
    | some _, n + 1 => place f l n + 1

variable {f : α → Option β} {h : β → β}

theorem getElem?_place (l : List α) (n : Nat) :
    (l[place f l n]?).bind f = (l.filterMap f)[n]? := by
  induction l generalizing n with
  | nil => rfl
  | cons a l ih =>
    rw [List.filterMap_cons]
    cases ha : f a with
    | none => simp [place, ha, ih]
    | some b => cases n <;> simp [place, ha, ih]

theorem getElem?_place_eq_none (l : List α) (n : Nat) :
    l[place f l n]? = none ↔ (l.filterMap f)[n]? = none := by
  induction l generalizing n with
  | nil => simp [place]
  | cons a l ih =>
    rw [List.filterMap_cons]
    cases ha : f a with
    | none => simpa [place, ha] using ih n
    | some b =>
      cases n with
      | zero => simp [place, ha]
      | succ n => simpa [place, ha] using ih n

/-- At a place is the element whose part is at the position. -/
theorem kept_at_place {l : List α} {n : Nat} {a : α} (ha : l[place f l n]? = some a) :
    ∃ b, f a = some b ∧ (l.filterMap f)[n]? = some b := by
  have hplace := getElem?_place (f := f) l n
  have hsome : (l.filterMap f)[n]? ≠ none := by
    rw [Ne, ← getElem?_place_eq_none, ha]
    exact Option.some_ne_none a
  obtain ⟨b, hb⟩ := Option.ne_none_iff_exists'.1 hsome
  rw [ha, Option.bind_some] at hplace
  exact ⟨b, hplace.trans hb, hb⟩

theorem filterMap_eraseIdx_place (l : List α) (n : Nat) :
    (l.eraseIdx (place f l n)).filterMap f = (l.filterMap f).eraseIdx n := by
  induction l generalizing n with
  | nil => rfl
  | cons a l ih =>
    cases ha : f a with
    | none => simp [place, ha, ih]
    | some b => cases n <;> simp [place, ha, ih]

theorem filterMap_update_place [DecidableEq α] {l : List α} (hl : l.Nodup) {n : Nat} {c : α}
    (hc : l[place f l n]? = some c) :
    l.filterMap (fun a => if c = a then (f a).map h else f a) = (l.filterMap f).modify n h := by
  induction l generalizing n with
  | nil => cases hc
  | cons a l ih =>
    obtain ⟨ha, hl⟩ := List.nodup_cons.1 hl
    cases hf : f a with
    | none =>
      simp only [place, hf, List.getElem?_cons_succ] at hc
      simp [hf, ih hl hc]
    | some b =>
      cases n with
      | zero =>
        simp only [place, hf, List.getElem?_cons_zero, Option.some.injEq] at hc
        subst hc
        have hrest : l.filterMap (fun d => if a = d then (f d).map h else f d) = l.filterMap f := by
          apply List.filterMap_congr
          intro d hd
          rw [if_neg]
          rintro rfl
          exact ha hd
        simp [hf, hrest]
      | succ n =>
        simp only [place, hf, List.getElem?_cons_succ] at hc
        have hne : c ≠ a := fun heq => ha (heq ▸ List.mem_of_getElem? hc)
        simp [hf, hne, ih hl hc]

end StorageCalls
