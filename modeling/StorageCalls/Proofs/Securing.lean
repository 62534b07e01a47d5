import StorageCalls.Proofs.Resolution
import StorageCalls.Proofs.Targets

namespace StorageCalls

/-- The security that goes with a scheme: a plain channel on purpose, or the certificates that the
configured bundle holds. -/
inductive Credentials.Fit (files : Files) (bundle : Option String) :
    AddressScheme → Credentials → Prop
  | tcp : Fit files bundle .tcp .insecure
  | unix : Fit files bundle .unix .insecure
  | tls {path : String} {pem : List UInt8} (hb : bundle = some path)
      (hr : Files.read files path = .ok pem) : Fit files bundle .tls (.tls path pem)

namespace Credentials

variable {files : Files} {bundle : Option String} {scheme : AddressScheme} {c : Credentials}

/-- No bundle is configured, or it cannot be read. -/
def NoBundle (files : Files) (bundle : Option String) : Prop :=
  ∀ path, bundle = some path → ∀ pem, Files.read files path ≠ .ok pem

theorem Fit.not_noBundle (h : Fit files bundle .tls c) : ¬ NoBundle files bundle := by
  cases h with
  | tls hb hr => exact fun hnone => hnone _ hb _ hr

theorem forScheme_eq_ok_iff :
    forScheme files bundle scheme = .ok c ↔ Fit files bundle scheme c := by
  constructor
  · intro h
    cases scheme with
    | tcp =>
      cases h
      exact .tcp
    | unix =>
      cases h
      exact .unix
    | tls =>
      simp only [forScheme] at h
      split at h
      · cases h
      · next path =>
        split at h
        · next pem hr =>
          cases h
          exact .tls rfl hr
        · cases h
  · rintro (_ | _ | ⟨hb, hr⟩)
    · rfl
    · rfl
    · simp only [forScheme, hb, hr]

theorem forScheme_error_iff :
    (∃ fault, forScheme files bundle scheme = .error fault) ↔
      scheme = .tls ∧ NoBundle files bundle := by
  constructor
  · rintro ⟨fault, h⟩
    cases scheme with
    | tcp => cases h
    | unix => cases h
    | tls =>
      refine ⟨rfl, fun path hb pem hr => ?_⟩
      rw [forScheme_eq_ok_iff.2 (.tls hb hr)] at h
      cases h
  · rintro ⟨rfl, hnone⟩
    cases h : forScheme files bundle .tls with
    | error fault => exact ⟨fault, rfl⟩
    | ok c => exact absurd hnone (forScheme_eq_ok_iff.1 h).not_noBundle

end Credentials

namespace Registry

variable {r : Registry} {files : Files} {service storage : String} {t : ChannelTarget}

/-- What a channel for a pair must be built from. -/
def Suits (r : Registry) (files : Files) (service storage : String) (t : ChannelTarget) : Prop :=
  ∃ s a, r.config.storage? storage = some s ∧ StorageAddress.parse s.address = .ok a ∧
    t.service = service ∧ t.storage = storage ∧ t.endpoint = a.target ∧ t.options = default ∧
    Credentials.Fit files r.config.caBundle a.scheme t.credentials

theorem Suits.pair (h : Suits r files service storage t) :
    t.service = service ∧ t.storage = storage := by
  obtain ⟨s, a, -, -, hservice, hstorage, -⟩ := h
  exact ⟨hservice, hstorage⟩

theorem Suits.unique {t' : ChannelTarget} (h : Suits r files service storage t)
    (h' : Suits r files service storage t') : t = t' := by
  obtain ⟨service₁, storage₁, endpoint₁, credentials₁, options₁⟩ := t
  obtain ⟨service₂, storage₂, endpoint₂, credentials₂, options₂⟩ := t'
  obtain ⟨s, a, hs, ha, rfl, rfl, rfl, rfl, hfit⟩ := h
  obtain ⟨s', a', hs', ha', rfl, rfl, rfl, rfl, hfit'⟩ := h'
  obtain rfl : s = s' := Option.some.inj (hs.symm.trans hs')
  obtain rfl : a = a' := Except.ok.inj (ha.symm.trans ha')
  have hcredentials : credentials₁ = credentials₂ := by
    rw [← Credentials.forScheme_eq_ok_iff] at hfit hfit'
    exact Except.ok.inj (hfit.symm.trans hfit')
  rw [hcredentials]

theorem target_eq_ok_iff :
    r.target files service storage = .ok t ↔
      Suits r files service storage t ∧ ∃ token, r.config.tokenOf storage = .ok token := by
  constructor
  · intro h
    cases hr : r.config.resolve storage with
    | error fault =>
      rw [target_of_unresolved hr] at h
      cases h
    | ok resolved =>
      rw [r.target_of_resolved files service hr] at h
      obtain ⟨s, hs, ha, htoken, -⟩ := ClientConfig.resolve_eq_ok_iff.1 hr
      cases hf : Credentials.forScheme files r.config.caBundle resolved.address.scheme with
      | error fault =>
        rw [hf] at h
        cases h
      | ok c =>
        rw [hf] at h
        cases h
        exact ⟨⟨s, _, hs, ha, rfl, rfl, rfl, rfl, Credentials.forScheme_eq_ok_iff.1 hf⟩, _,
          ClientConfig.tokenOf_eq_ok_iff.2 ⟨s, hs, htoken⟩⟩
  · rintro ⟨⟨s, a, hs, ha, rfl, rfl, hendpoint, hoptions, hfit⟩, token, htoken⟩
    obtain ⟨s', hs', htoken⟩ := ClientConfig.tokenOf_eq_ok_iff.1 htoken
    obtain rfl : s = s' := Option.some.inj (hs.symm.trans hs')
    have hr : r.config.resolve t.storage = .ok ⟨t.storage, a, token⟩ :=
      ClientConfig.resolve_eq_ok_iff.2 ⟨s, hs, ha, htoken, rfl⟩
    rw [r.target_of_resolved files t.service hr, Credentials.forScheme_eq_ok_iff.2 hfit,
      ← hendpoint, ← hoptions]
    rfl

/-- What keeps a pair from getting a new connection. -/
inductive Obstacle (r : Registry) (files : Files) (refusal : ChannelTarget → Option String)
    (service storage : String) : Prop
  | unknownStorage (h : r.config.storage? storage = none)
  | badAddress {s : StorageConfig} (hs : r.config.storage? storage = some s)
      (h : ∀ a, StorageAddress.parse s.address ≠ .ok a)
  | noToken {s : StorageConfig} (hs : r.config.storage? storage = some s)
      (h : ∀ token, s.token = some token ∨ r.config.token = some token → token = "")
  | noCredentials {s : StorageConfig} {a : StorageAddress}
      (hs : r.config.storage? storage = some s) (ha : StorageAddress.parse s.address = .ok a)
      (htls : a.scheme = .tls) (h : Credentials.NoBundle files r.config.caBundle)
  | refused {t : ChannelTarget} (ht : Suits r files service storage t) (h : (refusal t).isSome)

/-- There is an obstacle unless there is a target and it is not refused. -/
theorem obstacle_iff {refusal : ChannelTarget → Option String} :
    Obstacle r files refusal service storage ↔
      ∀ t, r.target files service storage = .ok t → (refusal t).isSome := by
  constructor
  · intro h t ht
    obtain ⟨hsuits, token, htoken⟩ := target_eq_ok_iff.1 ht
    obtain ⟨s, a, hs, ha, -, -, -, -, hfit⟩ := id hsuits
    cases h with
    | unknownStorage h =>
      rw [hs] at h
      cases h
    | badAddress hs' h =>
      obtain rfl := Option.some.inj (hs.symm.trans hs')
      exact absurd ha (h a)
    | noToken hs' h =>
      obtain ⟨s', hs'', htoken⟩ := ClientConfig.tokenOf_eq_ok_iff.1 htoken
      obtain rfl := Option.some.inj (hs'.symm.trans hs'')
      rw [ClientConfig.effectiveToken?_eq_none_iff.2 h] at htoken
      cases htoken
    | noCredentials hs' ha' htls h =>
      obtain rfl := Option.some.inj (hs.symm.trans hs')
      obtain rfl := Except.ok.inj (ha.symm.trans ha')
      exact absurd h (htls ▸ hfit).not_noBundle
    | refused ht' h => exact hsuits.unique ht' ▸ h
  · intro h
    cases hs : r.config.storage? storage with
    | none => exact .unknownStorage hs
    | some s =>
      cases ha : StorageAddress.parse s.address with
      | error fault => exact .badAddress hs fun a ha' => by rw [ha] at ha'; cases ha'
      | ok a =>
        cases htoken : r.config.effectiveToken? s with
        | none => exact .noToken hs (ClientConfig.effectiveToken?_eq_none_iff.1 htoken)
        | some token =>
          cases hf : Credentials.forScheme files r.config.caBundle a.scheme with
          | error fault =>
            obtain ⟨htls, hnone⟩ := Credentials.forScheme_error_iff.1 ⟨fault, hf⟩
            exact .noCredentials hs ha htls hnone
          | ok c =>
            have hsuits : Suits r files service storage ⟨service, storage, a.target, c, default⟩ :=
              ⟨s, a, hs, ha, rfl, rfl, rfl, rfl, Credentials.forScheme_eq_ok_iff.1 hf⟩
            exact .refused hsuits (h _ (target_eq_ok_iff.2
              ⟨hsuits, token, ClientConfig.tokenOf_eq_ok_iff.2 ⟨s, hs, htoken⟩⟩))

end Registry

end StorageCalls
