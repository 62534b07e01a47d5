namespace StorageCalls

namespace Table

variable {β : Type}

abbrev Ascending (entries : List (String × β)) : Prop :=
  entries.Pairwise (fun a b => a.1 < b.1)

def insertEntry (key : String) (value : β) : List (String × β) → List (String × β)
  | [] => [(key, value)]
  | (k, v) :: rest =>
    if key < k then (key, value) :: (k, v) :: rest
    else if key = k then (key, value) :: rest
    else (k, v) :: insertEntry key value rest

def eraseEntry (key : String) (entries : List (String × β)) : List (String × β) :=
  entries.filter (fun e => e.1 != key)

theorem mem_insertEntry {key : String} {value : β} {e : String × β}
    {entries : List (String × β)} (h : e ∈ insertEntry key value entries) :
    e = (key, value) ∨ e ∈ entries := by
  induction entries with
  | nil => simpa [insertEntry] using h
  | cons hd tl ih =>
    obtain ⟨k, v⟩ := hd
    rw [insertEntry] at h
    split at h
    · simpa using h
    · split at h
      · rcases List.mem_cons.1 h with h | h
        · exact .inl h
        · exact .inr (List.mem_cons_of_mem _ h)
      · rcases List.mem_cons.1 h with h | h
        · exact .inr (h ▸ List.mem_cons_self)
        · exact (ih h).imp id (List.mem_cons_of_mem _)

theorem ascending_insertEntry (key : String) (value : β) {entries : List (String × β)}
    (h : Ascending entries) : Ascending (insertEntry key value entries) := by
  induction entries with
  | nil => simp [insertEntry, Ascending]
  | cons hd tl ih =>
    obtain ⟨k, v⟩ := hd
    have htl : Ascending tl := h.of_cons
    have hk : ∀ e ∈ tl, k < e.1 := fun e he => List.rel_of_pairwise_cons h he
    rw [insertEntry]
    split
    · rename_i hlt
      refine h.cons fun e he => ?_
      rcases List.mem_cons.1 he with rfl | he
      · exact hlt
      · exact String.lt_trans hlt (hk e he)
    · rename_i hnlt
      split
      · rename_i heq
        exact htl.cons fun e he => heq ▸ hk e he
      · rename_i hne
        have hgt : k < key := Std.lt_of_le_of_ne (Std.not_lt.1 hnlt) (Ne.symm hne)
        refine (ih htl).cons fun e he => ?_
        rcases mem_insertEntry he with rfl | he
        · exact hgt
        · exact hk e he

end Table

/-- A finite map from text, listed by ascending key. -/
structure Table (β : Type) where
  entries : List (String × β)
  ascending : Table.Ascending entries

namespace Table

variable {β : Type}

def empty : Table β := ⟨[], .nil⟩

instance : Inhabited (Table β) := ⟨empty⟩

def insert (t : Table β) (key : String) (value : β) : Table β :=
  ⟨insertEntry key value t.entries, ascending_insertEntry key value t.ascending⟩

def erase (t : Table β) (key : String) : Table β :=
  ⟨eraseEntry key t.entries, t.ascending.filter _⟩

def get? (t : Table β) (key : String) : Option β :=
  t.entries.lookup key

def contains (t : Table β) (key : String) : Bool :=
  (t.get? key).isSome

def size (t : Table β) : Nat :=
  t.entries.length

def isEmpty (t : Table β) : Bool :=
  t.entries.isEmpty

def toList (t : Table β) : List (String × β) :=
  t.entries

def keys (t : Table β) : List String :=
  t.entries.map (·.1)

theorem lookup_cons_pair (a k : String) (v : β) (entries : List (String × β)) :
    ((a, v) :: entries).lookup k = if k = a then some v else entries.lookup k := by
  rw [List.lookup_cons]
  by_cases h : k = a
  · simp [h]
  · have hb : (k == a) = false := beq_eq_false_iff_ne.2 h
    simp [h, hb]

theorem lookup_insertEntry (key k : String) (value : β) (entries : List (String × β)) :
    (insertEntry key value entries).lookup k =
      if k = key then some value else entries.lookup k := by
  induction entries with
  | nil => rw [insertEntry, lookup_cons_pair]
  | cons hd tl ih =>
    obtain ⟨a, v⟩ := hd
    rw [insertEntry]
    split
    · rw [lookup_cons_pair]
    · split
      · rename_i heq
        subst heq
        rw [lookup_cons_pair, lookup_cons_pair]
        by_cases h : k = key <;> simp [h]
      · rename_i hne
        rw [lookup_cons_pair, lookup_cons_pair, ih]
        by_cases h : k = key
        · subst h
          simp [hne]
        · simp [h]

theorem lookup_eraseEntry (key k : String) (entries : List (String × β)) :
    (eraseEntry key entries).lookup k = if k = key then none else entries.lookup k := by
  induction entries with
  | nil => simp [eraseEntry]
  | cons hd tl ih =>
    obtain ⟨a, v⟩ := hd
    rw [eraseEntry] at ih ⊢
    by_cases ha : a = key
    · subst ha
      rw [List.filter_cons_of_neg (by simp), ih, lookup_cons_pair]
      by_cases h : k = a <;> simp [h]
    · rw [List.filter_cons_of_pos (by simp [ha]), lookup_cons_pair, lookup_cons_pair, ih]
      by_cases h : k = key
      · subst h
        simp [Ne.symm ha]
      · simp [h]

@[simp]
theorem get?_empty (k : String) : (empty : Table β).get? k = none := rfl

theorem get?_insert (t : Table β) (key k : String) (value : β) :
    (t.insert key value).get? k = if k = key then some value else t.get? k :=
  lookup_insertEntry key k value t.entries

theorem get?_erase (t : Table β) (key k : String) :
    (t.erase key).get? k = if k = key then none else t.get? k :=
  lookup_eraseEntry key k t.entries

def ofList (pairs : List (String × β)) : Table β :=
  pairs.foldl (fun t p => t.insert p.1 p.2) empty

end Table

end StorageCalls
