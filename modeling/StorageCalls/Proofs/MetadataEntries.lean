import Mathlib.Data.List.Nodup
import StorageCalls.Call.Options

namespace StorageCalls

namespace Table

variable {β : Type} {t : Table β} {key : String} {value : β}

theorem lookup_eq_some_iff_mem {entries : List (String × β)} (h : Ascending entries) :
    entries.lookup key = some value ↔ (key, value) ∈ entries := by
  rw [List.lookup_eq_some_iff]
  constructor
  · rintro ⟨before, after, rfl, -⟩
    simp
  · intro hmem
    obtain ⟨before, after, rfl⟩ := List.append_of_mem hmem
    refine ⟨before, after, rfl, fun e he => ?_⟩
    have hlt : e.1 < key := (List.pairwise_append.1 h).2.2 e he _ List.mem_cons_self
    simpa using fun heq : key = e.1 => String.lt_irrefl key (heq ▸ hlt)

theorem get?_eq_some_iff_mem : t.get? key = some value ↔ (key, value) ∈ t.toList :=
  lookup_eq_some_iff_mem t.ascending

end Table

namespace Metadata

variable {m : Metadata} {entries : List (String × Option String)} {key value : String}

def writeAll (m : Metadata) (entries : List (String × Option String)) : Metadata :=
  entries.foldl (fun m e => insertSome m e.1 e.2) m

theorem writeAll_append (m : Metadata) (entries later : List (String × Option String)) :
    m.writeAll (entries ++ later) = (m.writeAll entries).writeAll later :=
  List.foldl_append

def valuesAt (key : String) (entries : List (String × Option String)) : List String :=
  entries.filterMap fun e => if e.1 = key then e.2 else none

theorem valuesAt_append (entries later : List (String × Option String)) :
    valuesAt key (entries ++ later) = valuesAt key entries ++ valuesAt key later :=
  List.filterMap_append

theorem mem_valuesAt : value ∈ valuesAt key entries ↔ (key, some value) ∈ entries := by
  rw [valuesAt, List.mem_filterMap]
  constructor
  · rintro ⟨⟨k, v⟩, he, hv⟩
    split at hv
    · next hk => exact hk ▸ hv ▸ he
    · cases hv
  · exact fun he => ⟨_, he, if_pos rfl⟩

theorem valuesAt_eq_nil (h : key ∉ entries.map (·.1)) : valuesAt key entries = [] :=
  List.eq_nil_iff_forall_not_mem.2 fun _ hv =>
    h (List.mem_map.2 ⟨_, mem_valuesAt.1 hv, rfl⟩)

theorem get?_insertSome (m : Metadata) (key k : String) (value : Option String) :
    (insertSome m key value).get? k = (if key = k then value else none).or (m.get? k) := by
  cases value with
  | none => simp [insertSome]
  | some v =>
    rw [insertSome, Table.get?_insert]
    by_cases h : k = key
    · simp [h]
    · simp [h, Ne.symm h]

/-- The last value that is written counts. -/
theorem get?_writeAll (m : Metadata) (entries : List (String × Option String)) (key : String) :
    (writeAll m entries).get? key = (valuesAt key entries).getLast?.or (m.get? key) := by
  induction entries generalizing m with
  | nil => rfl
  | cons e entries ih =>
    have hcons : valuesAt key (e :: entries) =
        (if e.1 = key then e.2 else none).toList ++ valuesAt key entries := by
      rw [valuesAt, List.filterMap_cons]
      cases (if e.1 = key then e.2 else none) <;> rfl
    have hlast (o : Option String) : o.toList.getLast? = o := by cases o <;> rfl
    rw [writeAll, List.foldl_cons, ← writeAll, ih, get?_insertSome, hcons, List.getLast?_append,
      hlast, Option.or_assoc]

theorem getLast?_valuesAt_of_nodup (h : (entries.map (·.1)).Nodup) :
    (valuesAt key entries).getLast? = some value ↔ (key, some value) ∈ entries := by
  rw [← mem_valuesAt]
  refine ⟨List.mem_of_getLast?, fun hv => ?_⟩
  cases hlast : (valuesAt key entries).getLast? with
  | none =>
    rw [List.getLast?_eq_none_iff.1 hlast] at hv
    cases hv
  | some last =>
    have he := List.inj_on_of_nodup_map h (mem_valuesAt.1 (List.mem_of_getLast? hlast))
      (mem_valuesAt.1 hv) rfl
    exact (Prod.mk.inj he).2

def ownKeys : List String :=
  [authorization, clientName, callSite, correlationId, sessionId, username, userId, remoteIp,
    servers, routingPolicy, deadlineType]

theorem nodup_ownKeys : ownKeys.Nodup := by decide

theorem flagKey_not_mem_ownKeys (flag : String) : flagKey flag ∉ ownKeys := by
  have hmark : flagMark.toList <+: (flagKey flag).toList := by
    rw [flagKey, String.toList_append]
    exact List.prefix_append ..
  have hown : ∀ key ∈ ownKeys, ¬ flagMark.toList <+: key.toList := by decide
  exact fun hmem => hown _ hmem hmark

end Metadata

namespace FeatureFlags

variable {flags : FeatureFlags} {key value : String}

def entries (flags : FeatureFlags) : List (String × Option String) :=
  flags.forwardedList.map fun f => (Metadata.flagKey f.1, some (Client.settingText f.2))

/-- The flag is the one that counts for its key: the last one by name that has this key. -/
def Counts (flags : FeatureFlags) (flag : String) (enabled : Bool) : Prop :=
  flags.forwarded.get? flag = some enabled ∧
    ∀ other, flags.forwarded.contains other → Metadata.flagKey other = Metadata.flagKey flag →
      other ≤ flag

theorem counts_iff_mem {flag : String} {enabled : Bool} :
    flags.Counts flag enabled ↔ (flag, enabled) ∈ flags.forwardedList ∧
      ∀ f ∈ flags.forwardedList, Metadata.flagKey f.1 = Metadata.flagKey flag → f.1 ≤ flag := by
  refine and_congr Table.get?_eq_some_iff_mem ⟨fun h f hf => ?_, fun h other hother => ?_⟩
  · exact h f.1 (Option.isSome_iff_exists.2 ⟨f.2, Table.get?_eq_some_iff_mem.2 hf⟩)
  · obtain ⟨enabled', hother⟩ := Option.isSome_iff_exists.1 hother
    exact h (other, enabled') (Table.get?_eq_some_iff_mem.1 hother)

theorem getLast?_valuesAt_entries :
    (Metadata.valuesAt key flags.entries).getLast? = some value ↔
      ∃ flag enabled, flags.Counts flag enabled ∧ Metadata.flagKey flag = key ∧
        Client.settingText enabled = value := by
  have hpairwise := flags.forwarded.ascending
  change flags.forwardedList.Pairwise _ at hpairwise
  rw [entries, Metadata.valuesAt, List.filterMap_map, List.getLast?_filterMap,
    List.findSome?_eq_some_iff]
  simp only [counts_iff_mem, Function.comp_apply]
  constructor
  · rintro ⟨later, ⟨flag, enabled⟩, earlier, hsplit, hvalue, hlater⟩
    have hflags : flags.forwardedList = earlier.reverse ++ (flag, enabled) :: later.reverse := by
      rw [← List.reverse_reverse flags.forwardedList, hsplit]
      simp
    split at hvalue
    · next hkey =>
      rw [hflags] at hpairwise ⊢
      refine ⟨flag, enabled, ⟨by simp, fun f hf hsame => ?_⟩, hkey, Option.some.inj hvalue⟩
      rw [List.mem_append, List.mem_cons] at hf
      obtain hf | rfl | hf := hf
      · exact Std.le_of_lt ((List.pairwise_append.1 hpairwise).2.2 f hf _ List.mem_cons_self)
      · exact String.le_refl _
      · have hnone := hlater f (List.mem_reverse.1 hf)
        rw [if_pos (hsame.trans hkey)] at hnone
        cases hnone
    · cases hvalue
  · rintro ⟨flag, enabled, ⟨hmem, hlast⟩, rfl, rfl⟩
    obtain ⟨earlier, later, hflags⟩ := List.append_of_mem hmem
    refine ⟨later.reverse, (flag, enabled), earlier.reverse, by rw [hflags]; simp, if_pos rfl, ?_⟩
    -- what is written later has a greater name, so it cannot have the same key
    intro f hf
    rw [hflags] at hpairwise hlast
    have hlt : flag < f.1 := List.rel_of_pairwise_cons (List.pairwise_append.1 hpairwise).2.1
      (List.mem_reverse.1 hf)
    refine if_neg fun hsame => String.not_le.2 hlt (hlast f ?_ hsame)
    exact List.mem_append_right _ (List.mem_cons_of_mem _ (List.mem_reverse.1 hf))

/-- Flags leave alone whatever has a key of its own. -/
theorem get?_writeAll_entries {before after : List (String × Option String)}
    (h : (before ++ after).map (·.1) = Metadata.ownKeys) :
    (Metadata.writeAll .empty (before ++ flags.entries ++ after)).get? key = some value ↔
      (key, some value) ∈ before ++ after ∨ ∃ flag enabled, flags.Counts flag enabled ∧
        Metadata.flagKey flag = key ∧ Client.settingText enabled = value := by
  rw [Metadata.get?_writeAll, Table.get?_empty, Option.or_none, Metadata.valuesAt_append,
    Metadata.valuesAt_append]
  by_cases hown : key ∈ Metadata.ownKeys
  · have hflags : Metadata.valuesAt key flags.entries = [] := by
      refine Metadata.valuesAt_eq_nil fun hmem => ?_
      obtain ⟨e, he, rfl⟩ := List.mem_map.1 hmem
      obtain ⟨f, -, rfl⟩ := List.mem_map.1 he
      exact Metadata.flagKey_not_mem_ownKeys f.1 hown
    rw [hflags, List.append_nil, ← Metadata.valuesAt_append,
      Metadata.getLast?_valuesAt_of_nodup (h ▸ Metadata.nodup_ownKeys)]
    refine ⟨.inl, ?_⟩
    rintro (hmem | ⟨flag, -, -, rfl, -⟩)
    · exact hmem
    · exact absurd hown (Metadata.flagKey_not_mem_ownKeys flag)
  · have hnone : Metadata.valuesAt key (before ++ after) = [] :=
      Metadata.valuesAt_eq_nil (h ▸ hown)
    rw [Metadata.valuesAt_append, List.append_eq_nil_iff] at hnone
    rw [hnone.1, hnone.2, List.nil_append, List.append_nil, getLast?_valuesAt_entries]
    refine ⟨.inr, ?_⟩
    rintro (hmem | hflag)
    · exact absurd (h ▸ List.mem_map.2 ⟨_, hmem, rfl⟩) hown
    · exact hflag

end FeatureFlags

end StorageCalls
