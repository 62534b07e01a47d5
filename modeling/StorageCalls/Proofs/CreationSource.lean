import StorageCalls.Proofs.CreationOnce
import StorageCalls.Proofs.Securing

namespace StorageCalls.Machine

open Mark

variable {ι : Type}

structure Builds (r : Registry) (m : Machine ι) (files : Files) (i : ι) (service storage : String)
    (c : Connection) : Prop where
  position : m.position i = .building service storage
  result : ((r.build files service storage).run m.transport).result = .ok c

/-- What holds of the marks of all threads as to where connections come from. -/
structure Sourced [DecidableEq ι] (r : Registry) (m₀ : Machine ι) (t : List (Mark ι)) : Prop where
  made : ∀ a b i n c, t = a ++ built i n c :: b → ∃ m files service storage,
    Run r m₀ a m ∧ Builds r m files i service storage c ∧
      Registry.Suits r files service storage c.target
  /-- Found, inserted or returned, it is what some thread built for the pair. -/
  answered : ∀ a b x i o, t = a ++ x :: b → x.obtains = some (i, o) ∨ x = returned i o →
    ∃ before after j n m files, a = before ++ built j n o.connection :: after ∧
      Run r m₀ before m ∧ Builds r m files j o.service o.storage o.connection ∧
        Registry.Suits r files o.service o.storage o.connection.target

variable {r : Registry} {m m' m₀ : Machine ι} {t a b : List (Mark ι)} {x : Mark ι} {i : ι}
  {o : Obtained} {files : Files} {service storage : String} {c : Connection}

theorem Builds.isFor (h : Builds r m files i service storage c) : c.isFor service storage :=
  (Registry.build_ok h.result).2.2

theorem Builds.suits (h : Builds r m files i service storage c) :
    Registry.Suits r files service storage c.target := by
  have hresult := h.result
  rw [Stage.run, Registry.build] at hresult
  cases ht : r.target files service storage with
  | error fault =>
    rw [ht] at hresult
    cases hresult
  | ok target =>
    simp only [ht] at hresult
    split at hresult
    · cases hresult
    · cases hresult
      exact (Registry.target_eq_ok_iff.1 ht).1

variable [DecidableEq ι]

theorem builds_of_built {n : Nat} (h : Run r m₀ t m) (ht : t = a ++ built i n c :: b) :
    ∃ m₁ files service storage, Run r m₀ a m₁ ∧ Builds r m₁ files i service storage c := by
  obtain ⟨m₁, m₂, h₁, hs⟩ := h.split ht
  cases hs with
  | build files hi hr => exact ⟨m₁, files, _, _, h₁, hi, hr⟩

theorem mem_connections_of_step {y : Option (Mark ι)} (hs : Step r m y m')
    (hc : c ∈ m'.transport.connections) :
    c ∈ m.transport.connections ∨
      ∃ i service storage, m.position i = .inserting service storage c := by
  cases hs with
  | hit hi hfind => exact .inl hc
  | miss hi hfind => exact .inl hc
  | acquire hi hl => exact .inl hc
  | rehit hi hfind => exact .inl hc
  | remiss hi hfind => exact .inl hc
  | build files hi hr =>
    rw [(Registry.build_ok hr).1] at hc
    exact .inl hc
  | fail files hi hr =>
    rw [Registry.build_error hr] at hc
    exact .inl hc
  | @insert i service storage d hi =>
    obtain hold | hnew := List.mem_append.1 hc
    · exact .inl ((List.mem_filter.1 hold).1)
    · rw [List.mem_singleton.1 hnew]
      exact .inr ⟨i, service, storage, hi⟩
  | acquireToEmpty hi hl => exact .inl hc
  | empty hi => cases hc
  | release hi => exact .inl hc
  | finish hi => exact .inl hc
  | surroundings n hn => exact .inl hc

theorem built_of_mem_connections {n : Network} (h : Run r (start ⟨[], n⟩) t m)
    (hc : c ∈ m.transport.connections) : ∃ j k, built j k c ∈ t := by
  induction h with
  | nil => cases hc
  | @step t y m₁ m₂ h hs ih =>
    have hbuilt : ∃ j k, built j k c ∈ t := by
      obtain hold | ⟨j, service, storage, hj⟩ := mem_connections_of_step hs hc
      · exact ih hold
      · exact ⟨j, m₁.era, (((inv_start _).run h).inserting hj).2.2⟩
    obtain ⟨j, k, hmem⟩ := hbuilt
    exact ⟨j, k, List.mem_append_left _ hmem⟩

/-- What is obtained was built, and for the pair that it is obtained for. -/
theorem built_of_obtained {n : Network} (h : Run r (start ⟨[], n⟩) t m)
    (hs : Step r m (some x) m') (hx : x.obtains = some (i, o)) :
    (∃ j k, built j k o.connection ∈ t) ∧ o.connection.isFor o.service o.storage := by
  have kept {service storage : String} {c : Connection}
      (hfind : m.find? service storage = some c) :
      (∃ j k, built j k c ∈ t) ∧ c.isFor service storage :=
    ⟨built_of_mem_connections h (List.mem_of_find?_eq_some hfind), List.find?_some hfind⟩
  cases hs with
  | hit hi hfind =>
    cases hx
    exact kept hfind
  | rehit hi hfind =>
    cases hx
    exact kept hfind
  | insert hi =>
    cases hx
    obtain ⟨-, hfor, hbuilt⟩ := ((inv_start _).run h).inserting hi
    exact ⟨⟨_, _, hbuilt⟩, hfor⟩
  | build files hi hr => cases hx
  | empty hi => cases hx
  | finish hi => cases hx

theorem sourced_of_run {n : Network} (h : Run r (start ⟨[], n⟩) t m) :
    Sourced r (start ⟨[], n⟩) t where
  made a b i n' c ht := by
    obtain ⟨m₁, files, service, storage, h₁, hb⟩ := builds_of_built h ht
    exact ⟨m₁, files, service, storage, h₁, hb, hb.suits⟩
  answered a b x i o ht hx := by
    have hbuilt : (∃ j k, built j k o.connection ∈ a) ∧
        o.connection.isFor o.service o.storage := by
      obtain ⟨m₁, m₂, h₁, hs⟩ := h.split ht
      obtain hx | rfl := hx
      · exact built_of_obtained h₁ hs hx
      · -- what is returned was obtained a while before
        obtain ⟨y, hy, hyo⟩ := ((inv_start _).run h₁).fits hs
        obtain ⟨a₁, a₂, rfl⟩ := List.append_of_mem hy
        obtain ⟨m₃, m₄, h₃, hs₃⟩ := h₁.split rfl
        obtain ⟨⟨j, k, hmem⟩, hfor⟩ := built_of_obtained h₃ hs₃ hyo
        exact ⟨⟨j, k, List.mem_append_left _ hmem⟩, hfor⟩
    -- a connection carries its pair, so it was built for the one that it is obtained for
    obtain ⟨⟨j, k, hmem⟩, hfor⟩ := hbuilt
    obtain ⟨before, after, rfl⟩ := List.append_of_mem hmem
    rw [List.append_assoc] at ht
    obtain ⟨m₁, files, service, storage, h₁, hb⟩ := builds_of_built h ht
    obtain ⟨hservice, hstorage⟩ := Registry.isFor_iff.1 hfor
    obtain ⟨hservice', hstorage'⟩ := Registry.isFor_iff.1 hb.isFor
    obtain rfl : service = o.service := hservice'.symm.trans hservice
    obtain rfl : storage = o.storage := hstorage'.symm.trans hstorage
    exact ⟨before, after, j, k, m₁, files, rfl, h₁, hb, hb.suits⟩

end StorageCalls.Machine
