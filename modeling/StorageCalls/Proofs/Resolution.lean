import StorageCalls.Storage.Resolved

namespace StorageCalls

theorem toOption_eq_some_iff {ε α : Type} {result : Except ε α} {a : α} :
    result.toOption = some a ↔ result = .ok a := by
  cases result <;> simp [Except.toOption]

theorem StorageAddress.raw_of_parse {text : String} {a : StorageAddress}
    (h : parse text = .ok a) : a.raw = Text.trim text := by
  simp only [parse] at h
  repeat' split at h
  all_goals cases h
  rfl

namespace ClientConfig

/-- The token that a storage is called with is its own one, or that of the client if its own one is
missing or empty. -/
def HasToken (c : ClientConfig) (storage token : String) : Prop :=
  ∃ s, c.storage? storage = some s ∧ token ≠ "" ∧
    (s.token = some token ∨ (∀ own, s.token = some own → own = "") ∧ c.token = some token)

/-- Why there is no token for a storage. -/
inductive TokenFault (c : ClientConfig) (storage : String) : ConfigurationFault → Prop
  | unknown (h : c.storage? storage = none) : TokenFault c storage (.unknownStorage storage)
  | noToken {s : StorageConfig} (hs : c.storage? storage = some s)
      (h : ∀ token, s.token = some token ∨ c.token = some token → token = "") :
      TokenFault c storage (.missingToken storage)

/-- Why a storage cannot be resolved. -/
inductive ResolveFault (c : ClientConfig) (storage : String) : ConfigurationFault → Prop
  | unknown (h : c.storage? storage = none) : ResolveFault c storage (.unknownStorage storage)
  | badAddress {s : StorageConfig} (hs : c.storage? storage = some s)
      (h : ∀ a, StorageAddress.parse s.address ≠ .ok a) :
      ResolveFault c storage (.badStorageAddress s.address storage)
  | noToken {s : StorageConfig} {a : StorageAddress} (hs : c.storage? storage = some s)
      (ha : StorageAddress.parse s.address = .ok a)
      (h : ∀ token, s.token = some token ∨ c.token = some token → token = "") :
      ResolveFault c storage (.missingToken storage)

variable {c : ClientConfig} {s : StorageConfig} {storage token : String}
  {fault : ConfigurationFault}

theorem nonempty?_eq_some_iff {own : Option String} :
    nonempty? own = some token ↔ own = some token ∧ token ≠ "" := by
  simp [nonempty?, Option.filter_eq_some_iff]

theorem nonempty?_eq_none_iff {own : Option String} :
    nonempty? own = none ↔ ∀ t, own = some t → t = "" := by
  simp [nonempty?, Option.filter_eq_none_iff]

/-- The token of the storage itself goes before that of the client. -/
theorem effectiveToken?_eq_some_iff :
    c.effectiveToken? s = some token ↔ token ≠ "" ∧
      (s.token = some token ∨ (∀ own, s.token = some own → own = "") ∧ c.token = some token) := by
  rw [effectiveToken?, Option.orElse_eq_orElse, Option.orElse_eq_or, Option.or_eq_some_iff,
    nonempty?_eq_some_iff, nonempty?_eq_some_iff, nonempty?_eq_none_iff]
  constructor
  · rintro (⟨hs, ht⟩ | ⟨hs, hc, ht⟩)
    · exact ⟨ht, .inl hs⟩
    · exact ⟨ht, .inr ⟨hs, hc⟩⟩
  · rintro ⟨ht, hs | ⟨hs, hc⟩⟩
    · exact .inl ⟨hs, ht⟩
    · exact .inr ⟨hs, hc, ht⟩

theorem effectiveToken?_eq_none_iff :
    c.effectiveToken? s = none ↔ ∀ t, s.token = some t ∨ c.token = some t → t = "" := by
  rw [effectiveToken?, Option.orElse_eq_orElse, Option.orElse_eq_or, Option.or_eq_none_iff,
    nonempty?_eq_none_iff, nonempty?_eq_none_iff]
  constructor
  · rintro ⟨hs, hc⟩ t (ht | ht)
    · exact hs t ht
    · exact hc t ht
  · exact fun h => ⟨fun t ht => h t (.inl ht), fun t ht => h t (.inr ht)⟩

theorem tokenOf_eq (c : ClientConfig) (storage : String) :
    c.tokenOf storage =
      match c.storage? storage with
      | none => .error (.unknownStorage storage)
      | some s =>
        match c.effectiveToken? s with
        | none => .error (.missingToken storage)
        | some token => .ok token := by
  unfold tokenOf find
  cases c.storage? storage with
  | none => rfl
  | some s =>
    cases h : c.effectiveToken? s with
    | none => simp [bind, Except.bind, h]
    | some token => simp [bind, Except.bind, h]

theorem resolve_eq (c : ClientConfig) (storage : String) :
    c.resolve storage =
      match c.storage? storage with
      | none => .error (.unknownStorage storage)
      | some s =>
        match StorageAddress.parse s.address with
        | .error _ => .error (.badStorageAddress s.address storage)
        | .ok address => (c.tokenOf storage).map (⟨storage, address, ·⟩) := by
  unfold resolve find
  cases c.storage? storage with
  | none => rfl
  | some s =>
    cases h : StorageAddress.parse s.address with
    | error f => simp [bind, Except.bind, h]
    | ok address =>
      simp only [bind, Except.bind, h]
      cases c.tokenOf storage <;> rfl

theorem resolve_congr {c' : ClientConfig} (hs : c'.storages = c.storages)
    (ht : c'.token = c.token) : c'.resolve storage = c.resolve storage := by
  simp only [resolve_eq, tokenOf_eq, storage?, effectiveToken?, hs, ht]

theorem tokenOf_eq_ok_iff :
    c.tokenOf storage = .ok token ↔
      ∃ s, c.storage? storage = some s ∧ c.effectiveToken? s = some token := by
  rw [tokenOf_eq]
  cases c.storage? storage with
  | none => simp
  | some s => cases h : c.effectiveToken? s <;> simp [h]

theorem tokenOf_eq_error_iff : c.tokenOf storage = .error fault ↔ TokenFault c storage fault := by
  rw [tokenOf_eq]
  constructor
  · intro h
    split at h
    · next hs =>
      cases h
      exact .unknown hs
    · next s hs =>
      split at h
      · next ht =>
        cases h
        exact .noToken hs (effectiveToken?_eq_none_iff.1 ht)
      · cases h
  · rintro (hs | ⟨hs, ht⟩)
    · rw [hs]
    · simp only [hs, effectiveToken?_eq_none_iff.2 ht]

theorem tokenOf_eq_ok_iff_hasToken :
    c.tokenOf storage = .ok token ↔ HasToken c storage token := by
  rw [tokenOf_eq_ok_iff]
  exact exists_congr fun s => and_congr_right fun _ => effectiveToken?_eq_some_iff

theorem resolve_eq_ok_iff {resolved : ResolvedStorage} :
    c.resolve storage = .ok resolved ↔
      ∃ s, c.storage? storage = some s ∧ StorageAddress.parse s.address = .ok resolved.address ∧
        c.effectiveToken? s = some resolved.token ∧ resolved.name = storage := by
  rw [resolve_eq]
  cases hs : c.storage? storage with
  | none => simp
  | some s =>
    cases ha : StorageAddress.parse s.address with
    | error f => simp [ha]
    | ok address =>
      rw [tokenOf_eq, hs]
      cases ht : c.effectiveToken? s with
      | none => simp [ha, ht, Except.map]
      | some token =>
        obtain ⟨name, a, t⟩ := resolved
        simp only [ha, ht, Except.map, Except.ok.injEq, ResolvedStorage.mk.injEq, Option.some.injEq,
          exists_eq_left']
        exact ⟨fun ⟨hn, ha, ht⟩ => ⟨ha, ht, hn.symm⟩, fun ⟨ha, ht, hn⟩ => ⟨hn.symm, ha, ht⟩⟩

theorem resolve_eq_error_iff :
    c.resolve storage = .error fault ↔ ResolveFault c storage fault := by
  rw [resolve_eq]
  constructor
  · intro h
    split at h
    · next hs =>
      cases h
      exact .unknown hs
    · next s hs =>
      split at h
      · next ha =>
        cases h
        exact .badAddress hs fun a ha' => by rw [ha] at ha'; cases ha'
      · next a ha =>
        rw [tokenOf_eq, hs] at h
        cases ht : c.effectiveToken? s with
        | none =>
          simp only [ht, Except.map] at h
          cases h
          exact .noToken hs ha (effectiveToken?_eq_none_iff.1 ht)
        | some token =>
          simp only [ht, Except.map] at h
          cases h
  · rintro (hs | ⟨hs, ha⟩ | ⟨hs, ha, ht⟩)
    · rw [hs]
    · simp only [hs]
      split
      · rfl
      · next a ha' => exact absurd ha' (ha a)
    · simp only [tokenOf_eq, hs, ha, effectiveToken?_eq_none_iff.2 ht]
      rfl

end ClientConfig

end StorageCalls
