import Mathlib.Data.List.TakeWhile
import StorageCalls.Call.State

namespace StorageCalls

namespace Text

variable {s before text after : List Char}

theorem dropWhile_eq_self (h : ∀ c ∈ s, isBlank c = false) : s.dropWhile isBlank = s := by
  cases s with
  | nil => rfl
  | cons c s => rw [List.dropWhile_cons_of_neg (by simp [h c (.head _)])]

theorem trimChars_between_blanks (hb : ∀ c ∈ before, isBlank c) (ha : ∀ c ∈ after, isBlank c)
    (ht : ∀ c ∈ text, isBlank c = false) : trimChars (before ++ text ++ after) = text := by
  have hfront :
      (before ++ text ++ after).dropWhile isBlank = (text ++ after).dropWhile isBlank := by
    rw [List.append_assoc, List.dropWhile_append_of_pos hb]
  rw [trimChars, dropEndWhile, hfront]
  cases text with
  | nil =>
    rw [List.nil_append, List.dropWhile_eq_nil_iff.2 ha]
    rfl
  | cons c text =>
    rw [List.cons_append, List.dropWhile_cons_of_neg (by simp [ht c (.head _)]), ← List.cons_append,
      List.reverse_append,
      List.dropWhile_append_of_pos fun d hd => ha d (List.mem_reverse.1 hd),
      dropWhile_eq_self fun d hd => ht d (List.mem_reverse.1 hd), List.reverse_reverse]

/-- All that trimming takes away is blanks at the two ends. -/
theorem exists_blanks_around (s : List Char) :
    ∃ before after, s = before ++ trimChars s ++ after ∧ ∀ c ∈ before ++ after, isBlank c := by
  let rest := s.dropWhile isBlank
  refine ⟨s.takeWhile isBlank, (rest.reverse.takeWhile isBlank).reverse, ?_, ?_⟩
  · have hrest : trimChars s ++ (rest.reverse.takeWhile isBlank).reverse = rest := by
      rw [trimChars, dropEndWhile, ← List.reverse_append, List.takeWhile_append_dropWhile,
        List.reverse_reverse]
    rw [List.append_assoc, hrest, List.takeWhile_append_dropWhile]
  · intro c hc
    obtain hc | hc := List.mem_append.1 hc
    · exact List.mem_takeWhile_imp hc
    · exact List.mem_takeWhile_imp (List.mem_reverse.1 hc)

theorem toLower_of_isBlank {c : Char} (h : isBlank c) : c.toLower = c := by
  unfold Char.toLower
  rw [dif_neg]
  intro hcapital
  have hlow : 65 ≤ c.toNat := hcapital.1
  have hhigh : c.toNat ≤ 90 := hcapital.2
  simp only [isBlank, Bool.or_eq_true, Bool.and_eq_true, decide_eq_true_eq, beq_iff_eq] at h
  omega

end Text

namespace ClientConfig

/-- The values that set the switch: four words in capital or small letters, with blanks around
them. -/
def MeansOn (value : String) : Prop :=
  ∃ before word after, value.toList = before ++ word ++ after ∧
    (∀ c ∈ before ++ after, Text.isBlank c) ∧
      String.ofList (word.map Char.toLower) ∈ ["1", "true", "yes", "on"]

theorem isBlank_of_mem_word {word : List Char} {c : Char}
    (hword : String.ofList (word.map Char.toLower) ∈ ["1", "true", "yes", "on"]) (hc : c ∈ word) :
    Text.isBlank c = false := by
  have hsolid : ∀ w ∈ ["1", "true", "yes", "on"], ∀ c ∈ w.toList, Text.isBlank c = false := by
    simp [Text.isBlank]
  rw [Bool.eq_false_iff]
  intro hb
  have hmem : c ∈ (String.ofList (word.map Char.toLower)).toList := by
    rw [String.toList_ofList, ← Text.toLower_of_isBlank hb]
    exact List.mem_map_of_mem hc
  rw [hsolid _ hword c hmem] at hb
  cases hb

theorem isTruthy_iff_meansOn {value : String} : isTruthy value ↔ MeansOn value := by
  unfold isTruthy
  rw [List.contains_iff_mem]
  constructor
  · intro h
    obtain ⟨before, after, hsplit, hblank⟩ := Text.exists_blanks_around value.toList
    exact ⟨before, _, after, hsplit, hblank, h⟩
  · rintro ⟨before, word, after, hsplit, hblank, hword⟩
    have htrim : Text.trimChars value.toList = word := by
      rw [hsplit]
      exact Text.trimChars_between_blanks (fun c hc => hblank c (List.mem_append_left _ hc))
        (fun c hc => hblank c (List.mem_append_right _ hc)) fun c hc => isBlank_of_mem_word hword hc
    rw [htrim]
    exact hword

def overrideAll (c : ClientConfig) (lookups : List (String → Option String)) : ClientConfig :=
  lookups.foldl (fun c lookup => c.override lookup) c

def SetsSwitch (lookup : String → Option String) : Prop :=
  ∃ value, lookup limitsVariable = some value ∧ MeansOn value

variable (c : ClientConfig) (lookups : List (String → Option String))

theorem override_eq (lookup : String → Option String) :
    c.override lookup =
      { c with limitsDisabled := c.limitsDisabled || (lookup limitsVariable).any isTruthy } := by
  unfold override
  cases (lookup limitsVariable).any isTruthy <;> simp

theorem overrideAll_eq :
    c.overrideAll lookups =
      { c with limitsDisabled :=
          c.limitsDisabled || lookups.any fun lookup => (lookup limitsVariable).any isTruthy } := by
  induction lookups generalizing c with
  | nil => simp [overrideAll]
  | cons lookup lookups ih =>
    have hcons : c.overrideAll (lookup :: lookups) = (c.override lookup).overrideAll lookups := rfl
    rw [hcons, ih, override_eq, List.any_cons, Bool.or_assoc]

theorem setsSwitch_iff {lookup : String → Option String} :
    (lookup limitsVariable).any isTruthy ↔ SetsSwitch lookup := by
  simp only [Option.any_eq_true, isTruthy_iff_meansOn, SetsSwitch]

theorem limitsDisabled_overrideAll :
    (c.overrideAll lookups).limitsDisabled ↔
      c.limitsDisabled ∨ ∃ lookup ∈ lookups, SetsSwitch lookup := by
  simp only [overrideAll_eq, Bool.or_eq_true, List.any_eq_true, setsSwitch_iff]

/-- A lookup that was applied once has nothing to add. -/
theorem overrideAll_again {again : List (String → Option String)}
    (h : ∀ lookup ∈ again, lookup ∈ lookups) :
    (c.overrideAll lookups).overrideAll again = c.overrideAll lookups := by
  rw [overrideAll_eq, overrideAll_eq]
  cases hany : again.any fun lookup => (lookup limitsVariable).any isTruthy with
  | false => simp
  | true =>
    obtain ⟨lookup, hmem, hset⟩ := List.any_eq_true.1 hany
    have hbefore : (lookups.any fun lookup => (lookup limitsVariable).any isTruthy) = true :=
      List.any_eq_true.2 ⟨lookup, h lookup hmem, hset⟩
    simp [hbefore]

end ClientConfig

/-- The client of a configuration that goes by the environment, as clients do unless they are given
another policy. -/
def Client.goingByEnvironment (c : ClientConfig) (interceptors : List Interceptor)
    (flags : FeatureFlags) (sessionIds : Nat → String) : Client :=
  ⟨⟨c, interceptors⟩, flags, .byEnvironment c.limitsDisabled flags, sessionIds⟩

theorem Client.isEnforcing_goingByEnvironment (c : ClientConfig) (interceptors : List Interceptor)
    (flags : FeatureFlags) (sessionIds : Nat → String) :
    (goingByEnvironment c interceptors flags sessionIds).isEnforcing = false ↔
      c.limitsDisabled ∨
        c.environment = .production ∧ flags.isEnabled EnforcementPolicy.forcingFlag = false := by
  simp only [isEnforcing, goingByEnvironment, EnforcementPolicy.isEnforcing]
  cases c.limitsDisabled <;> cases flags.isEnabled EnforcementPolicy.forcingFlag <;>
    cases c.environment <;> simp [Environment.isProduction]

end StorageCalls
