import Mathlib.Data.List.Induction
import StorageCalls.Proofs.CreationSource
import StorageCalls.Proofs.FilePaths
import StorageCalls.Proofs.RegistryRuns

namespace StorageCalls.Registry

/-- What a lookup hands over to have a channel built. -/
def handed (r : Registry) (w : Workplace) (service storage : String) : Option ChannelTarget :=
  if (find? w.transport.connections service storage).isSome then none
  else (r.target w.files service storage).toOption

/-- The connection is made by a lookup of the pair in this workplace. -/
structure MadeBy (r : Registry) (w : Workplace) (service storage : String) (c : Connection) :
    Prop where
  answered : (r.lookup w service storage).result = .ok c
  handed : r.handed w service storage = some c.target
  built : (r.lookup w service storage).state.network.builds =
    w.transport.network.builds ++ [c.target]
  serial : c.serial = w.transport.network.builds.length

/-- What holds of the next lookup after any actions. -/
structure Secured (r : Registry) (start : Workplace) (actions : List Action) : Prop where
  handed : ∀ service storage t, r.handed (r.run start actions) service storage = some t →
    Suits r (r.run start actions).files service storage t
  /-- Nothing depends on whether any other target is refused. -/
  asked : ∀ service storage refusal,
    let w := r.run start actions
    let w' := (r.perform w (.change w.files refusal)).1
    (∀ t, r.handed w service storage = some t → refusal t = w.transport.network.refusal t) →
      (r.lookup w' service storage).result = (r.lookup w service storage).result ∧
      (r.lookup w' service storage).state.connections =
        (r.lookup w service storage).state.connections ∧
      (r.lookup w' service storage).state.network.builds =
        (r.lookup w service storage).state.network.builds
  built : ∀ t ∈ (r.run start actions).transport.network.builds,
    t ∈ start.transport.network.builds ∨
      ∃ before service storage after, actions = before ++ .lookup service storage :: after ∧
        r.handed (r.run start before) service storage = some t
  /-- What is answered was made by some lookup of the same pair, this one or an earlier one. -/
  answered : ∀ service storage c,
    (r.lookup (r.run start actions) service storage).result = .ok c →
      ∃ before after,
        actions ++ [.lookup service storage] = before ++ .lookup service storage :: after ∧
          MadeBy r (r.run start before) service storage c ∧
          Suits r (r.run start before).files service storage c.target
  /-- Without `tls` neither the configured bundle matters nor any file. -/
  plain : ∀ service storage s a, r.config.storage? storage = some s →
    StorageAddress.parse s.address = .ok a → a.scheme ≠ .tls → ∀ bundle files,
      let w := r.run start actions
      let r' : Registry := { r with config := { r.config with caBundle := bundle } }
      r'.lookup { w with files } service storage = r.lookup w service storage
  /-- With `tls` and no bundle nothing is built. -/
  bare : ∀ service storage s a, r.config.storage? storage = some s →
    StorageAddress.parse s.address = .ok a → a.scheme = .tls →
      Credentials.NoBundle (r.run start actions).files r.config.caBundle →
        r.handed (r.run start actions) service storage = none ∧
          (r.lookup (r.run start actions) service storage).state = (r.run start actions).transport

variable {r : Registry} {w start : Workplace} {service storage : String} {actions : List Action}

theorem handed_of_kept {c : Connection}
    (h : find? w.transport.connections service storage = some c) :
    r.handed w service storage = none := by
  rw [handed, h]
  rfl

theorem handed_of_absent (h : find? w.transport.connections service storage = none)
    (t : ChannelTarget) :
    r.handed w service storage = some t ↔ r.target w.files service storage = .ok t := by
  rw [handed, h]
  exact toOption_eq_some_iff

theorem suits_of_handed {t : ChannelTarget} (h : r.handed w service storage = some t) :
    Suits r w.files service storage t := by
  cases hc : find? w.transport.connections service storage with
  | some c =>
    rw [handed_of_kept hc] at h
    cases h
  | none => exact (target_eq_ok_iff.1 ((handed_of_absent hc t).1 h)).1

/-- A lookup answers with what is kept, or with what it makes, or not at all. -/
theorem lookup_cases (r : Registry) (w : Workplace) (service storage : String) :
    (∃ c, find? w.transport.connections service storage = some c ∧
      r.lookup w service storage = ⟨w.transport, [], .ok c⟩) ∨
    (∃ c, MadeBy r w service storage c ∧
      (r.lookup w service storage).state.connections = w.transport.connections ++ [c]) ∨
    ∃ e, (r.lookup w service storage).result = .error e ∧
      (r.lookup w service storage).state = w.transport := by
  cases hc : find? w.transport.connections service storage with
  | some c => exact .inl ⟨c, rfl, lookup_of_kept hc⟩
  | none =>
    by_cases ho : Obstacle r w.files w.transport.network.refusal service storage
    · obtain ⟨fault, hfault⟩ := lookup_of_obstacle hc ho
      exact .inr (.inr ⟨_, congrArg Outcome.result hfault, congrArg Outcome.state hfault⟩)
    · obtain ⟨t, ht, hmade⟩ := lookup_of_no_obstacle hc ho
      refine .inr (.inl ⟨⟨w.transport.network.builds.length, t, r.interceptors⟩, ⟨?_, ?_, ?_, ?_⟩,
        ?_⟩)
      · rw [hmade]
      · exact (handed_of_absent hc t).2 ht
      · rw [hmade]
        rfl
      · rfl
      · rw [hmade]

/-- A lookup goes by the files and by whether what it hands over is refused. -/
theorem lookup_of_refusal {refusal : ChannelTarget → Option String}
    (h : ∀ t, r.handed w service storage = some t → refusal t = w.transport.network.refusal t) :
    let w' := (r.perform w (.change w.files refusal)).1
    (r.lookup w' service storage).result = (r.lookup w service storage).result ∧
      (r.lookup w' service storage).state.connections =
        (r.lookup w service storage).state.connections ∧
      (r.lookup w' service storage).state.network.builds =
        (r.lookup w service storage).state.network.builds := by
  intro w'
  cases hc : find? w.transport.connections service storage with
  | some c =>
    have hc' : find? w'.transport.connections service storage = some c := hc
    rw [lookup_of_kept hc, lookup_of_kept hc']
    exact ⟨rfl, rfl, rfl⟩
  | none =>
    simp only [w', lookup, perform, Stage.run, connectionFor, hc]
    cases ht : r.target w.files service storage with
    | error fault => exact ⟨rfl, rfl, rfl⟩
    | ok t =>
      simp only [connect, h t ((handed_of_absent hc t).2 ht)]
      cases w.transport.network.refusal t <;> exact ⟨rfl, rfl, rfl⟩

theorem handed_of_noBundle {s : StorageConfig} {a : StorageAddress}
    (hs : r.config.storage? storage = some s) (ha : StorageAddress.parse s.address = .ok a)
    (htls : a.scheme = .tls) (hnone : Credentials.NoBundle w.files r.config.caBundle) :
    r.handed w service storage = none := by
  cases ht : r.handed w service storage with
  | none => rfl
  | some t =>
    obtain ⟨s', a', hs', ha', -, -, -, -, hfit⟩ := suits_of_handed ht
    obtain rfl := Option.some.inj (hs.symm.trans hs')
    obtain rfl := Except.ok.inj (ha.symm.trans ha')
    exact absurd hnone (htls ▸ hfit).not_noBundle

/-- A lookup that hands nothing over leaves everything as it is. -/
theorem state_of_not_handed (h : r.handed w service storage = none) :
    (r.lookup w service storage).state = w.transport := by
  obtain ⟨c, -, hkept⟩ | ⟨c, hmade, -⟩ | ⟨e, -, hstate⟩ := r.lookup_cases w service storage
  · rw [hkept]
  · rw [hmade.handed] at h
    cases h
  · exact hstate

/-- Plain channels need no bundle and no file. -/
theorem target_of_plain {s : StorageConfig} {a : StorageAddress} (files files' : Files)
    (bundle : Option String) (hs : r.config.storage? storage = some s)
    (ha : StorageAddress.parse s.address = .ok a) (hplain : a.scheme ≠ .tls) :
    let r' : Registry := { r with config := { r.config with caBundle := bundle } }
    r'.target files' service storage = r.target files service storage := by
  intro r'
  have hresolve : r'.config.resolve storage = r.config.resolve storage :=
    ClientConfig.resolve_congr rfl rfl
  cases hr : r.config.resolve storage with
  | error fault =>
    rw [target_of_unresolved hr, target_of_unresolved (hresolve.trans hr)]
  | ok resolved =>
    obtain ⟨s', hs', ha', -⟩ := ClientConfig.resolve_eq_ok_iff.1 hr
    obtain rfl := Option.some.inj (hs.symm.trans hs')
    obtain rfl := Except.ok.inj (ha.symm.trans ha')
    rw [r.target_of_resolved files service hr,
      r'.target_of_resolved files' service (hresolve.trans hr)]
    cases hscheme : resolved.address.scheme with
    | tcp => rfl
    | unix => rfl
    | tls => exact absurd hscheme hplain

theorem perform_cases (r : Registry) (w : Workplace) (a : Action) :
    ((r.perform w a).1.transport.connections ⊆ w.transport.connections ∧
      (r.perform w a).1.transport.network.builds = w.transport.network.builds) ∨
    ∃ service storage c, a = .lookup service storage ∧ MadeBy r w service storage c ∧
      (r.perform w a).1.transport.connections = w.transport.connections ++ [c] := by
  cases a with
  | clear => exact .inl ⟨List.nil_subset _, rfl⟩
  | change files refusal => exact .inl ⟨List.Subset.refl _, rfl⟩
  | lookup service storage =>
    simp only [perform]
    obtain ⟨c, -, hfound⟩ | ⟨c, hmade, hnew⟩ | ⟨e, -, hstate⟩ := r.lookup_cases w service storage
    · rw [hfound]
      exact .inl ⟨List.Subset.refl _, rfl⟩
    · exact .inr ⟨service, storage, c, rfl, hmade, hnew⟩
    · rw [hstate]
      exact .inl ⟨List.Subset.refl _, rfl⟩

def SomeLookup (r : Registry) (start : Workplace) (actions : List Action)
    (p : Workplace → String → String → Prop) : Prop :=
  ∃ before service storage after, actions = before ++ .lookup service storage :: after ∧
    p (r.run start before) service storage

theorem SomeLookup.concat {p : Workplace → String → String → Prop}
    (h : SomeLookup r start actions p) (a : Action) : SomeLookup r start (actions ++ [a]) p := by
  obtain ⟨before, service, storage, after, rfl, hp⟩ := h
  exact ⟨before, service, storage, after ++ [a], by simp, hp⟩

theorem SomeLookup.last {p : Workplace → String → String → Prop}
    (h : p (r.run start actions) service storage) :
    SomeLookup r start (actions ++ [.lookup service storage]) p :=
  ⟨actions, service, storage, [], rfl, h⟩

/-- Whatever is kept was made by an earlier lookup. -/
theorem mem_connections_run {n : Network} {files : Files} {c : Connection}
    (h : c ∈ (r.run ⟨⟨[], n⟩, files⟩ actions).transport.connections) :
    SomeLookup r ⟨⟨[], n⟩, files⟩ actions fun w service storage =>
      MadeBy r w service storage c := by
  induction actions using List.reverseRecOn with
  | nil => cases h
  | append_singleton actions a ih =>
    rw [run_concat] at h
    obtain ⟨hkept, -⟩ | ⟨service, storage, d, rfl, hmade, hnew⟩ :=
      r.perform_cases (r.run ⟨⟨[], n⟩, files⟩ actions) a
    · exact (ih (hkept h)).concat a
    · -- the one that is new was made just here, all others earlier
      rw [hnew, List.mem_append, List.mem_singleton] at h
      obtain hold | rfl := h
      · exact (ih hold).concat _
      · exact .last hmade

/-- Whatever was built was handed over by some lookup. -/
theorem mem_builds_run {t : ChannelTarget}
    (h : t ∈ (r.run start actions).transport.network.builds) :
    t ∈ start.transport.network.builds ∨
      SomeLookup r start actions fun w service storage =>
        r.handed w service storage = some t := by
  induction actions using List.reverseRecOn with
  | nil => exact .inl h
  | append_singleton actions a ih =>
    rw [run_concat] at h
    obtain ⟨-, hsame⟩ | ⟨service, storage, d, rfl, hmade, -⟩ :=
      r.perform_cases (r.run start actions) a
    · rw [hsame] at h
      exact (ih h).imp_right (·.concat a)
    · have hbuilds : t ∈ (r.run start actions).transport.network.builds ++ [d.target] :=
        hmade.built ▸ h
      obtain hold | hnew := List.mem_append.1 hbuilds
      · exact (ih hold).imp_right (·.concat _)
      · rw [List.mem_singleton.1 hnew]
        exact .inr (.last hmade.handed)

theorem secured_of_empty (r : Registry) (n : Network) (files : Files) (actions : List Action) :
    Secured r ⟨⟨[], n⟩, files⟩ actions where
  handed service storage t := suits_of_handed
  asked service storage refusal := lookup_of_refusal
  built t := mem_builds_run
  answered service storage c h := by
    obtain ⟨d, hd, hfound⟩ | ⟨d, hmade, -⟩ | ⟨e, herror, -⟩ :=
      r.lookup_cases (r.run ⟨⟨[], n⟩, files⟩ actions) service storage
    · rw [hfound] at h
      cases h
      obtain ⟨before, service', storage', after, hactions, hmade⟩ :=
        mem_connections_run (List.mem_of_find?_eq_some hd)
      have hsuits := suits_of_handed hmade.handed
      -- what is found for a pair is for that pair, so it was also asked for as such
      obtain ⟨hservice, hstorage⟩ := isFor_iff.1 (List.find?_some hd)
      obtain ⟨hservice', hstorage'⟩ := hsuits.pair
      obtain rfl : service' = service := hservice'.symm.trans hservice
      obtain rfl : storage' = storage := hstorage'.symm.trans hstorage
      have hactions' : actions ++ [.lookup service' storage'] =
          before ++ .lookup service' storage' :: (after ++ [.lookup service' storage']) := by
        rw [hactions, List.append_assoc, List.cons_append]
      exact ⟨before, _, hactions', hmade, hsuits⟩
    · rw [hmade.answered] at h
      cases h
      exact ⟨actions, [], rfl, hmade, suits_of_handed hmade.handed⟩
    · rw [herror] at h
      cases h
  plain service storage s a hs ha hplain bundle files' := by
    intro w r'
    simp only [lookup, Stage.run, connectionFor]
    rw [target_of_plain w.files files' bundle hs ha hplain]
    rfl
  bare service storage s a hs ha htls hnone := by
    have hhanded : r.handed (r.run ⟨⟨[], n⟩, files⟩ actions) service storage = none :=
      handed_of_noBundle hs ha htls hnone
    exact ⟨hhanded, state_of_not_handed hhanded⟩

/-- For every use of a registry that starts out empty, by one thread and by any number of them. -/
theorem never_cross_wired (r : Registry) (n : Network) :
    (∀ files actions, Secured r ⟨⟨[], n⟩, files⟩ actions) ∧
      ∀ {ι : Type} [DecidableEq ι] (t : List (Mark ι)) (m : Machine ι),
        Machine.Run r (.start ⟨[], n⟩) t m → Machine.Sourced r (.start ⟨[], n⟩) t :=
  ⟨r.secured_of_empty n, fun _ _ h => Machine.sourced_of_run h⟩

/-- A thread looks up a storage that wants certificates, and gets a channel with the bundle that
stands at an absolute path. -/
theorem never_cross_wired_with_bundle :
    let s : StorageConfig := ⟨"default", "tls://h:9", some "secret"⟩
    let bundle := "/etc/ssl/depot.pem"
    let r : Registry := ⟨{ (default : ClientConfig).addStorage s with caBundle := some bundle }, []⟩
    let d : Disk := ⟨.directory [("etc", .directory [("ssl", .directory
      [("depot.pem", .file (.ok [7]))])]), ("home", .directory [])], ["home"]⟩
    let c : Connection := ⟨0, ⟨"repository", "default", "h:9", .tls bundle [7], default⟩, []⟩
    (∃ (t : List (Mark Unit)) (m : Machine Unit), Machine.Run r (.start ⟨[], .empty⟩) t m ∧
      .returned () ⟨"repository", "default", 0, c⟩ ∈ t ∧
        Machine.Sourced r (.start ⟨[], .empty⟩) t) ∧
      Secured r ⟨⟨[], .empty⟩, d.files⟩ [.lookup "repository" "default"] := by
  have hparse : StorageAddress.parse "tls://h:9" = .ok ⟨"tls://h:9", .tls, "h:9"⟩ := by rfl
  intro s bundle r d c
  have hs : r.config.storage? "default" = some s := rfl
  have htoken : r.config.tokenOf "default" = .ok "secret" := rfl
  have hsegments : Disk.segments bundle = ["", "etc", "ssl"] ++ ["depot.pem"] := by decide +kernel
  have hplace : d.start bundle ++ Disk.names bundle = ["etc", "ssl", "depot.pem"] := by
    decide +kernel
  have hread : d.files.read bundle = .ok [7] :=
    (Disk.read_eq_ok_iff (by decide +kernel) (by decide +kernel) hsegments rfl
      (by rw [hsegments]; decide +kernel)).2 (by rw [hplace]; rfl)
  have ht : r.target d.files "repository" "default" = .ok c.target :=
    target_eq_ok_iff.2 ⟨⟨s, _, hs, hparse, rfl, rfl, rfl, rfl, .tls rfl hread⟩, _, htoken⟩
  have hresult : ((r.connectionFor d.files "repository" "default").run ⟨[], .empty⟩).result =
      .ok c := by
    simp only [Stage.run, connectionFor, ht]
    rfl
  obtain ⟨t, hrun, hreturned⟩ := Machine.run_lookup (m := .start ⟨[], .empty⟩) (i := ()) r d.files
    "repository" "default" rfl rfl
  exact ⟨⟨t, _, hrun, hreturned c hresult, (never_cross_wired r .empty).2 t _ hrun⟩,
    (never_cross_wired r .empty).1 d.files _⟩

end StorageCalls.Registry
