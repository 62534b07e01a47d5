import StorageCalls.Proofs.CallMetadata

namespace StorageCalls

namespace ClientConfig

/-- Two configurations give the same access to a storage: it exists in both or in neither, and it is
called with the same token, if any. -/
structure SameAccess (c c' : ClientConfig) (storage : String) : Prop where
  known : (c'.storage? storage).isSome ↔ (c.storage? storage).isSome
  token : ∀ token, c'.HasToken storage token ↔ c.HasToken storage token

/-- What two configurations have in common when they agree on all that a call to `storage` says,
possibly about a remote. The address of the storage itself is not among it. -/
structure SameNeeds (c c' : ClientConfig) (storage : String) (remote : Option String) : Prop where
  clientName : c'.clientName = c.clientName
  target : SameAccess c c' storage
  delegate : ∀ name, remote = some name → SameAccess c c' name
  address : ∀ name, remote = some name →
    (c'.storage? name).map (·.address) = (c.storage? name).map (·.address)

variable {c c' : ClientConfig} {storage : String} {remote : Option String}

theorem hasToken_iff {token : String} :
    c.HasToken storage token ↔
      ∃ s, c.storage? storage = some s ∧ c.effectiveToken? s = some token :=
  tokenOf_eq_ok_iff_hasToken.symm.trans tokenOf_eq_ok_iff

theorem SameAccess.tokenOf_eq (h : SameAccess c c' storage) :
    c'.tokenOf storage = c.tokenOf storage := by
  have hknown := h.known
  rw [ClientConfig.tokenOf_eq, ClientConfig.tokenOf_eq]
  cases hs : c.storage? storage with
  | none =>
    rw [hs, Option.isSome_none, Bool.false_eq_true, iff_false, Option.not_isSome_iff_eq_none]
      at hknown
    rw [hknown]
  | some s =>
    rw [hs, Option.isSome_some, iff_true_right rfl] at hknown
    obtain ⟨s', hs'⟩ := Option.isSome_iff_exists.1 hknown
    have htoken : c'.effectiveToken? s' = c.effectiveToken? s := by
      apply Option.ext
      intro token
      have ht := h.token token
      simp only [hasToken_iff, hs, hs', Option.some.injEq, exists_eq_left'] at ht
      exact ht
    rw [hs']
    simp only [htoken]

/-- The faults of an address quote its text, so that the text has to be the same. -/
theorem SameAccess.resolve_eq (h : SameAccess c c' storage)
    (ha : (c'.storage? storage).map (·.address) = (c.storage? storage).map (·.address)) :
    c'.resolve storage = c.resolve storage := by
  rw [ClientConfig.resolve_eq, ClientConfig.resolve_eq, h.tokenOf_eq]
  cases hs : c.storage? storage with
  | none =>
    rw [hs, Option.map_none, Option.map_eq_none_iff] at ha
    rw [ha]
  | some s =>
    rw [hs, Option.map_some, Option.map_eq_some_iff] at ha
    obtain ⟨s', hs', haddress⟩ := ha
    rw [hs']
    simp only [haddress]

theorem SameAccess.of_tokens (hs : c'.storage? storage = c.storage? storage)
    (ht : ∀ s, c.storage? storage = some s → c'.effectiveToken? s = c.effectiveToken? s) :
    SameAccess c c' storage where
  known := by rw [hs]
  token token := by
    rw [hasToken_iff, hasToken_iff, hs]
    exact exists_congr fun s => and_congr_right fun h => by rw [ht s h]

theorem SameNeeds.of_access (hname : c'.clientName = c.clientName)
    (h : ∀ name, name = storage ∨ remote = some name →
      c'.storage? name = c.storage? name ∧ SameAccess c c' name) :
    SameNeeds c c' storage remote where
  clientName := hname
  target := (h storage (.inl rfl)).2
  delegate name hr := (h name (.inr hr)).2
  address name hr := by rw [(h name (.inr hr)).1]

theorem effectiveToken?_of_own {s : StorageConfig} {own : String} (hs : s.token = some own)
    (hown : own ≠ "") : c.effectiveToken? s = some own :=
  effectiveToken?_eq_some_iff.2 ⟨hown, .inl hs⟩

theorem sameAccess_readdress (name address : String) :
    SameAccess c (c.readdress storage address) name where
  known := by
    by_cases h : name = storage
    · rw [h, storage?_readdress_self, Option.isSome_map]
    · rw [storage?_readdress_of_ne h]
  token token := by
    rw [← tokenOf_eq_ok_iff_hasToken, tokenOf_readdress, tokenOf_eq_ok_iff_hasToken]

end ClientConfig

namespace Client

variable (x : Client) (env : Surroundings) (ctx : RequestContext) (s : CallState)
  (storage : String) (timeout : Duration) (remote : Option String)

def withConfig (c : ClientConfig) : Client := { x with config := c }

/-- What a call to `storage` is sent with, as far as the configuration can be seen in it. -/
structure Confined : Prop where
  agreeing : ∀ c, x.config.SameNeeds c storage remote →
    ((x.withConfig c).buildOptions env ctx storage timeout remote).run s =
      (x.buildOptions env ctx storage timeout remote).run s
  /-- Other storages may come, go and change. -/
  others : ∀ storages : Table StorageConfig,
    (∀ name, name = storage ∨ remote = some name →
      storages.get? name = x.config.storages.get? name) →
    ((x.withConfig { x.config with storages }).buildOptions env ctx storage timeout remote).run s =
      (x.buildOptions env ctx storage timeout remote).run s
  /-- The token of the client may change where it is shadowed. -/
  fallback : ∀ token : Option String,
    (∀ name, name = storage ∨ remote = some name → ∀ server,
      x.config.storage? name = some server → ∃ own, server.token = some own ∧ own ≠ "") →
    ((x.withConfig { x.config with token }).buildOptions env ctx storage timeout remote).run s =
      (x.buildOptions env ctx storage timeout remote).run s
  /-- So may the address of the called storage, unless it is also the remote one. -/
  address : remote ≠ some storage → ∀ address,
    ((x.withConfig (x.config.readdress storage address)).buildOptions env ctx storage timeout
        remote).run s =
      (x.buildOptions env ctx storage timeout remote).run s

variable {x env ctx s storage timeout remote}

theorem withSession_withConfig (c : ClientConfig) :
    (x.withConfig c).withSession s = x.withSession s := by
  obtain ⟨_ | store, issued, transport⟩ := s <;> rfl

theorem identity_withConfig {c : ClientConfig} (h : c.clientName = x.config.clientName)
    (token session : String) :
    (x.withConfig c).identity env ctx token session = x.identity env ctx token session := by
  unfold identity
  rw [withConfig, h]

theorem delegation_withConfig {c : ClientConfig} (m : Metadata)
    (h : ∀ name, remote = some name → c.resolve name = x.config.resolve name) :
    (x.withConfig c).delegation m remote = x.delegation m remote := by
  cases remote with
  | none => rfl
  | some name =>
    have hr : (x.withConfig c).config.resolve name = x.config.resolve name := h name rfl
    simp only [delegation, hr]

/-- The token of the storage, the name of the client and the remote are all that is looked up. -/
theorem buildOptions_withConfig {c : ClientConfig} (h : x.config.SameNeeds c storage remote) :
    ((x.withConfig c).buildOptions env ctx storage timeout remote).run s =
      (x.buildOptions env ctx storage timeout remote).run s := by
  have htoken : (x.withConfig c).config.tokenOf storage = x.config.tokenOf storage :=
    h.target.tokenOf_eq
  have hresolve : ∀ name, remote = some name → c.resolve name = x.config.resolve name :=
    fun name hr => (h.delegate name hr).resolve_eq (h.address name hr)
  rw [run_buildOptions, run_buildOptions, htoken]
  cases x.config.tokenOf storage with
  | error fault => rfl
  | ok token =>
    have hsession : (x.withConfig c).nextSession s = x.nextSession s := rfl
    simp only [identity_withConfig h.clientName, delegation_withConfig _ hresolve, hsession,
      withSession_withConfig]

variable (x env ctx s storage timeout remote)

/-- The options for a call tell the storage its own token and, of the remote, the token and the
address. No other secret of the configuration has any influence on them. -/
theorem secrets_confined : Confined x env ctx s storage timeout remote where
  agreeing c h := buildOptions_withConfig h
  others storages h := by
    apply buildOptions_withConfig
    refine .of_access rfl fun name hname => ?_
    exact ⟨h name hname, .of_tokens (h name hname) fun _ _ => rfl⟩
  fallback token h := by
    apply buildOptions_withConfig
    refine .of_access rfl fun name hname => ?_
    refine ⟨rfl, .of_tokens rfl fun server hs => ?_⟩
    obtain ⟨own, hown, hne⟩ := h name hname server hs
    rw [ClientConfig.effectiveToken?_of_own hown hne, ClientConfig.effectiveToken?_of_own hown hne]
  address hne address := by
    apply buildOptions_withConfig
    refine ⟨ClientConfig.clientName_readdress, ClientConfig.sameAccess_readdress _ _,
      fun name _ => ClientConfig.sameAccess_readdress _ _, fun name hr => ?_⟩
    have hother : name ≠ storage := fun h => hne (h ▸ hr)
    rw [ClientConfig.storage?_readdress_of_ne hother]

end Client

end StorageCalls
