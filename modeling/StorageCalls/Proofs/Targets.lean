import StorageCalls.Connection.Registry

namespace StorageCalls.Registry

variable {r : Registry} {files : Files} {service storage : String}

theorem isFor_iff {c : Connection} :
    c.isFor service storage ↔ c.target.service = service ∧ c.target.storage = storage := by
  simp [Connection.isFor]

theorem target_of_unresolved {fault : ConfigurationFault}
    (h : r.config.resolve storage = .error fault) :
    r.target files service storage = .error fault := by
  rw [target, h]
  rfl

theorem target_of_resolved (r : Registry) (files : Files) (service : String)
    {resolved : ResolvedStorage} (h : r.config.resolve storage = .ok resolved) :
    r.target files service storage =
      (Credentials.forScheme files r.config.caBundle resolved.address.scheme).map fun credentials =>
        ⟨service, storage, resolved.address.target, credentials, default⟩ := by
  rw [target, h]
  cases hf : Credentials.forScheme files r.config.caBundle resolved.address.scheme with
  | error fault =>
    simp only [bind, Except.bind, hf]
    rfl
  | ok credentials =>
    simp only [bind, Except.bind, hf]
    rfl

theorem target_ok {t : ChannelTarget} (h : r.target files service storage = .ok t) :
    t.service = service ∧ t.storage = storage := by
  cases hr : r.config.resolve storage with
  | error fault =>
    rw [target_of_unresolved hr] at h
    cases h
  | ok resolved =>
    rw [r.target_of_resolved files service hr] at h
    cases hf : Credentials.forScheme files r.config.caBundle resolved.address.scheme with
    | error fault =>
      rw [hf] at h
      cases h
    | ok credentials =>
      rw [hf] at h
      cases h
      exact ⟨rfl, rfl⟩

theorem find?_concat (connections : List Connection) (c : Connection) (service storage : String) :
    find? (connections ++ [c]) service storage =
      (find? connections service storage).or
        (if c.isFor service storage then some c else none) := by
  rw [find?, find?, List.find?_append, List.find?_singleton]

end StorageCalls.Registry
