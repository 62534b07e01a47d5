import StorageCalls.Proofs.CreationInvariant

namespace StorageCalls

open Mark

variable {ι : Type}

namespace Mark

variable {t a b d : List (Mark ι)} {x y : Mark ι} {i j : ι} {o o' : Obtained}

theorem Fits.era (h : x.Fits a) (hx : x.obtains = some (i, o)) : o.era = emptyings a := by
  cases x with
  | found k p =>
    cases hx
    exact h.1
  | inserted k p replaced =>
    cases hx
    exact h.1
  | built k n c => cases hx
  | emptied k => cases hx
  | returned k p => cases hx

theorem Fits.agrees (h : x.Fits a) (hx : x.obtains = some (i, o)) : Agrees a o := by
  cases x with
  | found k p =>
    cases hx
    exact h.2
  | inserted k p replaced =>
    cases hx
    exact h.2.2.2
  | built k n c => cases hx
  | emptied k => cases hx
  | returned k p => cases hx

/-- Marks with no emptying between them stand in one era. -/
theorem emptyings_between (hx : x.isEmptied = false) (hb : ∀ k, .emptied k ∉ b) :
    emptyings (a ++ x :: b) = emptyings a := by
  have hzero : (x :: b).countP (·.isEmptied) = 0 := by
    rw [List.countP_eq_zero]
    intro y hy
    obtain rfl | hy := List.mem_cons.1 hy
    · rw [hx]
      exact Bool.false_ne_true
    · cases y with
      | emptied k => exact absurd hy (hb k)
      | _ => exact Bool.false_ne_true
  rw [emptyings, emptyings, List.countP_append, hzero, Nat.add_zero]

end Mark

namespace Machine

/-- What holds of the marks of all threads together, in the order in which they were left. -/
structure Orderly (t : List (Mark ι)) : Prop where
  built_once : ∀ a b d i j n n' c c', t = a ++ built i n c :: (b ++ built j n' c' :: d) →
    (∀ k, emptied k ∉ b) → ¬ c.isFor c'.target.service c'.target.storage
  /-- Connections are told apart by their serial numbers. -/
  distinct : ∀ a b d i j n n' c c', t = a ++ built i n c :: (b ++ built j n' c' :: d) →
    c.serial ≠ c'.serial
  not_replaced : ∀ i o replaced, inserted i o replaced ∈ t → replaced = none
  /-- Whenever the registry is emptied, what was built before has been inserted. -/
  inserted_in_time : ∀ a b d i j n c, t = a ++ built i n c :: (b ++ emptied j :: d) →
    ∃ o, inserted i o none ∈ b ∧ o.connection = c ∧ c.isFor o.service o.storage
  same : ∀ a b d x y i j o o', t = a ++ x :: (b ++ y :: d) → x.obtains = some (i, o) →
    y.obtains = some (j, o') → (∀ k, emptied k ∉ b) → o.service = o'.service →
    o.storage = o'.storage → o.connection = o'.connection
  /-- What a lookup returns is what it obtained. -/
  returned : ∀ a b i o, t = a ++ returned i o :: b → ∃ x ∈ a, x.obtains = some (i, o)

theorem orderly_of_fits {t : List (Mark ι)} (h : ∀ a x b, t = a ++ x :: b → x.Fits a) :
    Orderly t where
  built_once := by
    intro a b d i j n n' c c' ht hb
    have hfirst := h _ _ _ ht
    have hlast := h (a ++ built i n c :: b) (built j n' c') d (by rw [ht]; simp)
    have hera : n = n' := by rw [hfirst.1, hlast.1, emptyings_between rfl hb]
    exact (hlast.2 i n c (by simp)).2 hera
  distinct := by
    intro a b d i j n n' c c' ht
    have hlast := h (a ++ built i n c :: b) (built j n' c') d (by rw [ht]; simp)
    exact (hlast.2 i n c (by simp)).1
  not_replaced := by
    intro i o replaced hmem
    obtain ⟨a, b, ht⟩ := List.append_of_mem hmem
    exact (h _ _ _ ht).2.1
  inserted_in_time := by
    intro a b d i j n c ht
    have hlast := h (a ++ built i n c :: b) (emptied j) d (by rw [ht]; simp)
    obtain ⟨o, hmem, -, hconn, hfor⟩ := hlast i n c (by simp)
    refine ⟨o, ?_, hconn, hfor⟩
    obtain hbefore | hafter := List.mem_append.1 hmem
    · obtain ⟨a₁, a₂, ha⟩ := List.append_of_mem hbefore
      have hinserted := h a₁ (inserted i o none) (a₂ ++ built i n c :: (b ++ emptied j :: d))
        (by simp [ht, ha])
      have hbuilt := hinserted.2.2.1
      have hne := ((h _ _ _ ht).2 i o.era o.connection (by rw [ha]; simp [hbuilt])).1
      exact absurd (congrArg Connection.serial hconn) hne
    · cases hafter with
      | tail _ hb => exact hb
  same := by
    intro a b d x y i j o o' ht hx hy hb hservice hstorage
    have hlast := h (a ++ x :: b) y d (by rw [ht]; simp)
    have hquiet : x.isEmptied = false := by
      cases x with
      | emptied k => cases hx
      | _ => rfl
    have hera : o.era = o'.era := by
      rw [(h _ _ _ ht).era hx, hlast.era hy, emptyings_between hquiet hb]
    exact hlast.agrees hy x (by simp) i o hx hservice hstorage hera
  returned := by
    intro a b i o ht
    exact h _ _ _ ht

variable [DecidableEq ι]

theorem fits_run {r : Registry} {m₀ m : Machine ι} {t : List (Mark ι)} (h₀ : m₀.Inv [])
    (h : Run r m₀ t m) : ∀ a x b, t = a ++ x :: b → x.Fits a := by
  intro a x b ht
  obtain ⟨m₁, m₂, h₁, hs⟩ := h.split ht
  exact (h₀.run h₁).fits hs

/-- For any number of threads with any lookups and clears, in every order of their steps and
whatever builds fail. -/
theorem created_at_most_once (r : Registry) (transport : Transport) (t : List (Mark ι))
    (m : Machine ι) (h : Run r (start transport) t m) : Orderly t :=
  orderly_of_fits (fits_run (inv_start transport) h)

/-- Two threads that both find nothing at first: one builds, and the other gets the same. -/
theorem created_at_most_once_by_two :
    let s : StorageConfig := ⟨"default", "unix:/run/storage.sock", some "secret"⟩
    let r : Registry := ⟨(default : ClientConfig).addStorage s, []⟩
    let c : Connection := ⟨0, ⟨"repository", "default", s.address, .insecure, default⟩, []⟩
    let o : Obtained := ⟨"repository", "default", 0, c⟩
    let t : List (Mark Bool) :=
      [built false 0 c, inserted false o none, returned false o, found true o, returned true o]
    (∃ m, Run r (start default) t m) ∧ Orderly t := by
  have hresolved : ((default : ClientConfig).addStorage
      ⟨"default", "unix:/run/storage.sock", some "secret"⟩).resolve "default" =
        .ok ⟨"default", ⟨"unix:/run/storage.sock", .unix, "unix:/run/storage.sock"⟩, "secret"⟩ := by
    rfl
  intro s r c o t
  have hbuild : ((r.build .empty "repository" "default").run default).result = .ok c := by
    rw [Stage.run, Registry.build, r.target_of_resolved .empty "repository" hresolved]
    rfl
  have hstep : ∀ M : Machine Bool, M.transport = default →
      M.position false = .building "repository" "default" →
      Step r M (some (built false M.era c))
        { M.goTo false (.inserting "repository" "default" c) with
          transport := ⟨[], Network.empty.build c.target⟩ } := by
    intro M hM hi
    have hr : ((r.build .empty "repository" "default").run M.transport).result = .ok c := by
      rw [hM]
      exact hbuild
    have h := Step.build .empty hi hr
    rw [(Registry.build_ok hr).1, hM] at h
    exact h
  have h₁ := Run.nil.step (@Step.miss Bool _ r (start default) false "repository" "default" rfl rfl)
  have h₂ := h₁.step (@Step.miss Bool _ r _ true "repository" "default" rfl rfl)
  have h₃ := h₂.step (@Step.acquire Bool _ r _ false "repository" "default" rfl rfl)
  have h₄ := h₃.step (@Step.remiss Bool _ r _ false "repository" "default" rfl rfl)
  have h₅ := h₄.step (hstep _ rfl rfl)
  have h₆ := h₅.step (@Step.insert Bool _ r _ false "repository" "default" c rfl)
  have h₇ := h₆.step (@Step.release Bool _ r _ false (some o) rfl)
  have h₈ := h₇.step (@Step.finish Bool _ r _ false o rfl)
  have h₉ := h₈.step (@Step.acquire Bool _ r _ true "repository" "default" rfl rfl)
  have h₁₀ := h₉.step (@Step.rehit Bool _ r _ true "repository" "default" c rfl rfl)
  have h₁₁ := h₁₀.step (@Step.release Bool _ r _ true (some o) rfl)
  have h₁₂ := h₁₁.step (@Step.finish Bool _ r _ true o rfl)
  exact ⟨⟨_, h₁₂⟩, created_at_most_once r default t _ h₁₂⟩

end Machine

end StorageCalls
