import Mathlib.Data.Finset.Card
import StorageCalls.Proofs.CallMetadata

namespace StorageCalls

namespace Table

variable {β : Type} {t : Table β} {pairs : List (String × β)} {key : String} {value : β}

theorem get?_ofList (pairs : List (String × β)) (key : String) :
    (ofList pairs).get? key = pairs.reverse.lookup key := by
  induction pairs using List.reverseRecOn with
  | nil => rfl
  | append_singleton pairs p ih =>
    rw [ofList, List.foldl_append, List.foldl_cons, List.foldl_nil, ← ofList, get?_insert, ih,
      List.reverse_append, List.reverse_singleton, List.singleton_append, lookup_cons_pair]

theorem get?_ofList_eq_some_iff :
    (ofList pairs).get? key = some value ↔
      ∃ before after, pairs = before ++ (key, value) :: after ∧ key ∉ after.map (·.1) := by
  have hlater (later : List (String × β)) :
      (∀ p ∈ later, (key != p.1) = true) ↔ key ∉ later.reverse.map (·.1) := by
    simp only [bne_iff_ne, List.map_reverse, List.mem_reverse, List.mem_map, not_exists, not_and]
    exact forall₂_congr fun p _ => ne_comm
  rw [get?_ofList, List.lookup_eq_some_iff]
  constructor
  · rintro ⟨later, earlier, hsplit, hkey⟩
    refine ⟨earlier.reverse, later.reverse, ?_, (hlater later).1 hkey⟩
    rw [← List.reverse_reverse pairs, hsplit]
    simp
  · rintro ⟨before, after, rfl, hkey⟩
    refine ⟨after.reverse, before.reverse, by simp, (hlater _).2 ?_⟩
    rwa [List.reverse_reverse]

theorem contains_ofList_iff : (ofList pairs).contains key ↔ key ∈ pairs.map (·.1) := by
  rw [contains, get?_ofList, List.lookup_isSome_iff]
  simp [eq_comm (a := key)]

theorem nodup_keys (t : Table β) : t.keys.Nodup := by
  refine List.pairwise_map.2 (t.ascending.imp fun hlt heq => ?_)
  rw [heq] at hlt
  exact String.lt_irrefl _ hlt

theorem mem_keys : key ∈ t.keys ↔ ∃ value, t.get? key = some value := by
  simp only [get?_eq_some_iff_mem, keys, List.mem_map, Prod.exists, exists_and_right,
    exists_eq_right, toList]

end Table

namespace Metadata

def IsFlagKey (key : String) : Prop := flagMark.toList <+: key.toList

instance (key : String) : Decidable (IsFlagKey key) :=
  inferInstanceAs (Decidable (flagMark.toList <+: key.toList))

def flagKeys (m : Metadata) : List String := m.keys.filter fun key => IsFlagKey key

/-- Two characters that are the same in a key. -/
def AlikeChar (a b : Char) : Prop := a = b ∨ a ∈ ['_', '-'] ∧ b ∈ ['_', '-']

/-- Names that differ in nothing but underscores and hyphens. -/
def Alike (flag other : String) : Prop := List.Forall₂ AlikeChar flag.toList other.toList

variable {flag other key : String}

theorem isFlagKey_flagKey (flag : String) : IsFlagKey (flagKey flag) := by
  rw [IsFlagKey, flagKey, String.toList_append]
  exact List.prefix_append ..

theorem not_isFlagKey_of_mem_ownKeys (h : key ∈ ownKeys) : ¬ IsFlagKey key := by
  revert key
  decide

theorem alikeChar_iff {a b : Char} :
    (if a = '_' then '-' else a) = (if b = '_' then '-' else b) ↔ AlikeChar a b := by
  simp only [AlikeChar, List.mem_cons, List.not_mem_nil, or_false]
  by_cases ha : a = '_' <;> by_cases hb : b = '_' <;> simp [ha, hb, eq_comm]
  rintro rfl rfl
  rfl

theorem flagKey_eq_iff : flagKey flag = flagKey other ↔ Alike flag other := by
  have hkeys : flagKey flag = flagKey other ↔
      flag.toList.map (fun c => if c = '_' then '-' else c) =
        other.toList.map fun c => if c = '_' then '-' else c := by
    rw [flagKey, flagKey, ← String.toList_inj, String.toList_append, String.toList_append,
      List.append_cancel_left_eq, String.toList_ofList, String.toList_ofList]
  rw [hkeys, ← List.forall₂_eq_eq_eq, List.forall₂_map_left_iff, List.forall₂_map_right_iff]
  simp only [alikeChar_iff, Alike]

end Metadata

namespace FeatureFlags

open Metadata (flagKey Alike)

def names (settings : List (String × Bool)) : Finset String := (settings.map (·.1)).toFinset

def LastSet (settings : List (String × Bool)) (flag : String) (enabled : Bool) : Prop :=
  ∃ before after, settings = before ++ (flag, enabled) :: after ∧ flag ∉ after.map (·.1)

variable (settings : List (String × Bool))

/-- What metadata says of the flags that were set. -/
structure Forwards (m : Metadata) : Prop where
  /-- Of the names that are alike, the greatest one is forwarded. -/
  value : ∀ key, Metadata.IsFlagKey key → ∀ value, m.get? key = some value ↔
    ∃ flag enabled, LastSet settings flag enabled ∧
      (∀ other ∈ names settings, Alike other flag → other ≤ flag) ∧
        flagKey flag = key ∧ Client.settingText enabled = value
  /-- A name that is like no other is forwarded with its own value, whatever becomes of others. -/
  own : ∀ flag enabled, LastSet settings flag enabled →
    (∀ other ∈ names settings, Alike other flag → other = flag) →
      m.get? (flagKey flag) = some (Client.settingText enabled)
  number : m.flagKeys.length = ((names settings).image flagKey).card
  /-- There are as many keys as names just when no two names are alike. -/
  unmerged : m.flagKeys.length = (names settings).card ↔
    ∀ flag ∈ names settings, ∀ other ∈ names settings, Alike other flag → other = flag

variable {settings} {own : List (String × Bool)}

theorem contains_ofLists_iff {flag : String} :
    (ofLists own settings).forwarded.contains flag ↔ flag ∈ names settings := by
  rw [names, List.mem_toFinset]
  exact Table.contains_ofList_iff

theorem counts_ofLists_iff {flag : String} {enabled : Bool} :
    (ofLists own settings).Counts flag enabled ↔ LastSet settings flag enabled ∧
      ∀ other ∈ names settings, Alike other flag → other ≤ flag := by
  refine and_congr Table.get?_ofList_eq_some_iff ?_
  simp only [contains_ofLists_iff, Metadata.flagKey_eq_iff]

theorem exists_counts {flags : FeatureFlags} {flag : String} (h : flags.forwarded.contains flag) :
    ∃ greatest enabled, flags.Counts greatest enabled ∧ flagKey greatest = flagKey flag := by
  obtain ⟨enabled, hflag⟩ := Option.isSome_iff_exists.1 h
  have hmem : (flag, enabled) ∈ flags.forwardedList := Table.get?_eq_some_iff_mem.1 hflag
  have hvalue : Client.settingText enabled ∈ Metadata.valuesAt (flagKey flag) flags.entries :=
    Metadata.mem_valuesAt.2 (List.mem_map.2 ⟨_, hmem, rfl⟩)
  have hlast := List.getLast?_eq_some_getLast (List.ne_nil_of_mem hvalue)
  obtain ⟨greatest, enabled', hcounts, hkey, -⟩ := getLast?_valuesAt_entries.1 hlast
  exact ⟨greatest, enabled', hcounts, hkey⟩

end FeatureFlags

namespace Client

open FeatureFlags (LastSet names Forwards)
open Metadata (flagKey Alike IsFlagKey)

variable {x : Client} {env : Surroundings} {ctx : RequestContext} {s : CallState} {storage : String}
  {timeout : Duration} {remote : Option String} {options : CallOptions}

/-- A key that marks a flag is written for flags only. -/
theorem entry_iff_of_isFlagKey {key value : String} (hkey : IsFlagKey key) :
    Entry x env ctx s storage timeout remote key value ↔
      ∃ flag enabled, x.flags.Counts flag enabled ∧ flagKey flag = key ∧
        settingText enabled = value := by
  constructor
  · intro h
    cases h with
    | flag h => exact ⟨_, _, h, rfl, rfl⟩
    | _ => exact absurd hkey (Metadata.not_isFlagKey_of_mem_ownKeys (by decide))
  · rintro ⟨flag, enabled, h, rfl, rfl⟩
    exact .flag h

theorem mem_flagKeys (h : Describes x env ctx s storage timeout remote options) {key : String} :
    key ∈ options.metadata.flagKeys ↔
      ∃ flag, x.flags.forwarded.contains flag ∧ flagKey flag = key := by
  rw [Metadata.flagKeys, List.mem_filter, Table.mem_keys, decide_eq_true_iff]
  constructor
  · rintro ⟨⟨value, hvalue⟩, hkey⟩
    obtain ⟨flag, enabled, hcounts, hflag, -⟩ :=
      (entry_iff_of_isFlagKey hkey).1 ((h.metadata key value).1 hvalue)
    exact ⟨flag, Option.isSome_iff_exists.2 ⟨enabled, hcounts.1⟩, hflag⟩
  · rintro ⟨flag, hflag, rfl⟩
    obtain ⟨greatest, enabled, hcounts, hkey⟩ := FeatureFlags.exists_counts hflag
    rw [← hkey]
    exact ⟨⟨_, (h.metadata _ _).2 (.flag hcounts)⟩, Metadata.isFlagKey_flagKey greatest⟩

theorem length_flagKeys {own settings : List (String × Bool)}
    (h : Describes x env ctx s storage timeout remote options)
    (hx : x.flags = .ofLists own settings) :
    options.metadata.flagKeys.length = ((names settings).image flagKey).card := by
  have hkeys : options.metadata.flagKeys.toFinset = (names settings).image flagKey := by
    ext key
    rw [List.mem_toFinset, mem_flagKeys h, Finset.mem_image, hx]
    simp only [FeatureFlags.contains_ofLists_iff]
  have hnodup : options.metadata.flagKeys.Nodup := (Table.nodup_keys _).filter _
  rw [← hkeys, List.toFinset_card_of_nodup hnodup]

theorem exists_options_of_token {token : String} (h : x.config.tokenOf storage = .ok token)
    (env : Surroundings) (ctx : RequestContext) (s : CallState) (timeout : Duration) :
    ∃ options, ((x.buildOptions env ctx storage timeout none).run s).result = .ok options := by
  rw [run_buildOptions, h]
  exact ⟨_, rfl⟩

/-- A flag is forwarded by the key of its name, and names that are alike have the same key. -/
theorem flags_forwarded (x : Client) (env : Surroundings) (ctx : RequestContext) (s : CallState)
    (storage : String) (timeout : Duration) (remote : Option String)
    (own settings : List (String × Bool)) (options : CallOptions)
    (hx : x.flags = .ofLists own settings)
    (h : ((x.buildOptions env ctx storage timeout remote).run s).result = .ok options) :
    Forwards settings options.metadata := by
  have hdescribes := describes_of_ok h
  have hvalue (key : String) (hkey : IsFlagKey key) (value : String) :
      options.metadata.get? key = some value ↔
        ∃ flag enabled, LastSet settings flag enabled ∧
          (∀ other ∈ names settings, Alike other flag → other ≤ flag) ∧
            flagKey flag = key ∧ settingText enabled = value := by
    rw [hdescribes.metadata, entry_iff_of_isFlagKey hkey, hx]
    simp only [FeatureFlags.counts_ofLists_iff, and_assoc]
  have hnumber := length_flagKeys hdescribes hx
  refine ⟨hvalue, fun flag enabled hset halike => ?_, hnumber, ?_⟩
  · refine (hvalue _ (Metadata.isFlagKey_flagKey flag) _).2 ⟨flag, enabled, hset, ?_, rfl, rfl⟩
    exact fun other hother hsame => halike other hother hsame ▸ String.le_refl _
  · rw [hnumber, Finset.card_image_iff]
    simp only [← Metadata.flagKey_eq_iff]
    exact ⟨fun h flag hflag other hother hsame => h hother hflag hsame,
      fun h other hother flag hflag hsame => h flag hflag other hother hsame⟩

/-- A flag that was set twice, and one whose name is like no other. -/
theorem flags_forwarded_of_three :
    let settings : List (String × Bool) := [("a_b", true), ("c-d", true), ("a_b", false)]
    let x : Client := ⟨⟨(default : ClientConfig).addStorage ⟨"default", "", some "secret"⟩, []⟩,
      .ofLists [] settings, .fixed true, fun _ => ""⟩
    let env : Surroundings := ⟨.epoch, .empty, .zero⟩
    let ctx : RequestContext := ⟨.background, none, .nobody, none, .empty⟩
    let s : CallState := ⟨none, 0, default⟩
    ∃ options : CallOptions, (x.flags = .ofLists [] settings ∧
      ((x.buildOptions env ctx "default" .zero none).run s).result = .ok options) ∧
        Forwards settings options.metadata := by
  intro settings x env ctx s
  have htoken : x.config.tokenOf "default" = .ok "secret" := rfl
  obtain ⟨options, h⟩ := exists_options_of_token htoken env ctx s .zero
  exact ⟨options, ⟨rfl, h⟩,
    flags_forwarded x env ctx s "default" .zero none [] settings options rfl h⟩

/-- Of two names that are alike the value of one is lost. -/
theorem alike_flags_merged :
    let settings : List (String × Bool) := [("a_b", true), ("a-b", false)]
    let x : Client := ⟨⟨(default : ClientConfig).addStorage ⟨"default", "", some "secret"⟩, []⟩,
      .ofLists [] settings, .fixed true, fun _ => ""⟩
    let env : Surroundings := ⟨.epoch, .empty, .zero⟩
    let ctx : RequestContext := ⟨.background, none, .nobody, none, .empty⟩
    let s : CallState := ⟨none, 0, default⟩
    ∃ options : CallOptions,
      ((x.buildOptions env ctx "default" .zero none).run s).result = .ok options ∧
        LastSet settings "a-b" false ∧
        options.metadata.get? (flagKey "a-b") = some (settingText true) ∧
        options.metadata.flagKeys.length = 1 ∧ (names settings).card = 2 := by
  intro settings x env ctx s
  have htoken : x.config.tokenOf "default" = .ok "secret" := rfl
  obtain ⟨options, h⟩ := exists_options_of_token htoken env ctx s .zero
  have hdescribes := describes_of_ok h
  have hcounts : x.flags.Counts "a_b" true := by
    refine FeatureFlags.counts_ofLists_iff.2 ⟨⟨[], [("a-b", false)], rfl, by decide⟩, ?_⟩
    simp only [← Metadata.flagKey_eq_iff]
    decide
  refine ⟨options, h, ⟨[("a_b", true)], [], rfl, by decide⟩, ?_, ?_, rfl⟩
  · have hkey : flagKey "a_b" = flagKey "a-b" := by decide
    rw [← hkey]
    exact (hdescribes.metadata _ _).2 (.flag hcounts)
  · rw [length_flagKeys hdescribes rfl]
    rfl

end Client

end StorageCalls
