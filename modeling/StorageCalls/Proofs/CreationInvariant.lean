import StorageCalls.Proofs.Creation

namespace StorageCalls

variable {ι : Type}

namespace Mark

def obtains : Mark ι → Option (ι × Obtained)
  | found i o | inserted i o _ => some (i, o)
  | built .. | emptied _ | returned .. => none

def isEmptied : Mark ι → Bool
  | emptied _ => true
  | _ => false

def isQuiet : Mark ι → Bool
  | found .. | returned .. => true
  | built .. | inserted .. | emptied _ => false

def emptyings (t : List (Mark ι)) : Nat := t.countP (·.isEmptied)

/-- Whether a connection that was built is kept since the same era. -/
def Stored (t : List (Mark ι)) (i : ι) (n : Nat) (c : Connection) : Prop :=
  ∃ o, inserted i o none ∈ t ∧ o.era = n ∧ o.connection = c ∧ c.isFor o.service o.storage

def Agrees (t : List (Mark ι)) (o : Obtained) : Prop :=
  ∀ y ∈ t, ∀ j o', y.obtains = some (j, o') → o'.service = o.service → o'.storage = o.storage →
    o'.era = o.era → o'.connection = o.connection

/-- What holds of a mark that comes after others. -/
def Fits (t : List (Mark ι)) : Mark ι → Prop
  | found _ o => o.era = emptyings t ∧ Agrees t o
  | built _ n c =>
    n = emptyings t ∧ ∀ j n' c', built j n' c' ∈ t →
      c'.serial ≠ c.serial ∧ (n' = n → ¬ c'.isFor c.target.service c.target.storage)
  | inserted i o replaced =>
    o.era = emptyings t ∧ replaced = none ∧ built i o.era o.connection ∈ t ∧ Agrees t o
  | emptied _ => ∀ i n c, built i n c ∈ t → Stored t i n c
  | returned i o => ∃ y ∈ t, y.obtains = some (i, o)

theorem Stored.mono {t t' : List (Mark ι)} (h : t ⊆ t') {i : ι} {n : Nat} {c : Connection} :
    Stored t i n c → Stored t' i n c := by
  rintro ⟨o, hmem, hrest⟩
  exact ⟨o, h hmem, hrest⟩

theorem emptyings_concat (t : List (Mark ι)) (x : Mark ι) :
    emptyings (t ++ [x]) = emptyings t + if x.isEmptied then 1 else 0 := by
  rw [emptyings, emptyings, List.countP_append, List.countP_singleton]

theorem emptyings_quiet (t : List (Mark ι)) {x : Option (Mark ι)} (h : ∀ y ∈ x, y.isQuiet) :
    emptyings (t ++ x.toList) = emptyings t := by
  cases x with
  | none => rw [Option.toList_none, List.append_nil]
  | some y =>
    rw [Option.toList_some, emptyings_concat]
    cases y with
    | found i o => rfl
    | returned i o => rfl
    | built i n c => cases h _ rfl
    | inserted i o replaced => cases h _ rfl
    | emptied i => cases h _ rfl

end Mark

open Mark

namespace Machine

def Exclusive (m : Machine ι) : Prop := ∀ i, (m.position i).holds → m.holder = some i

/-- What a thread in a position can rely on. -/
def Relies (m : Machine ι) (t : List (Mark ι)) (i : ι) : Position → Prop
  | .building service storage => m.find? service storage = none
  | .inserting service storage c =>
    m.find? service storage = none ∧ c.isFor service storage ∧ built i m.era c ∈ t
  | .leaving (some o) | .returning o => ∃ y ∈ t, y.obtains = some (i, o)
  | _ => True

structure Inv (m : Machine ι) (t : List (Mark ι)) : Prop where
  lock : m.Exclusive
  era : m.era = emptyings t
  position : ∀ i, m.Relies t i (m.position i)
  past : ∀ y ∈ t, ∀ i o, y.obtains = some (i, o) → o.era ≤ m.era
  /-- What was obtained since the registry was last emptied is what the registry has. -/
  kept : ∀ y ∈ t, ∀ i o, y.obtains = some (i, o) → o.era = m.era →
    m.find? o.service o.storage = some o.connection
  /-- What was built is inserted or about to be. -/
  created : ∀ i n c, built i n c ∈ t →
    Stored t i n c ∨ n = m.era ∧ ∃ service storage, m.position i = .inserting service storage c
  serials : ∀ i n c, built i n c ∈ t → c.serial < m.transport.network.builds.length

variable {m m' : Machine ι} {t : List (Mark ι)} {i j : ι} {p : Position}

theorem Exclusive.eq (h : m.Exclusive) (hi : (m.position i).holds) (hj : (m.position j).holds) :
    i = j :=
  Option.some.inj ((h i hi).symm.trans (h j hj))

theorem Relies.frame {t' : List (Mark ι)} (ht : t ⊆ t')
    (hfind : p.holds → m'.find? = m.find? ∧ m'.era = m.era) (h : m.Relies t i p) :
    m'.Relies t' i p := by
  cases p with
  | building service storage =>
    have hf := (hfind rfl).1
    rw [Relies, hf]
    exact h
  | inserting service storage c =>
    obtain ⟨hf, he⟩ := hfind rfl
    rw [Relies, hf, he]
    exact ⟨h.1, h.2.1, ht h.2.2⟩
  | leaving result =>
    cases result with
    | none => trivial
    | some o =>
      obtain ⟨y, hy, ho⟩ := h
      exact ⟨y, ht hy, ho⟩
  | returning o =>
    obtain ⟨y, hy, ho⟩ := h
    exact ⟨y, ht hy, ho⟩
  | idle => trivial
  | waiting service storage => trivial
  | rereading service storage => trivial
  | emptying => trivial

theorem exclusive_start (t : Transport) : (start t : Machine ι).Exclusive := by
  intro i hi
  cases hi

theorem Inv.absent {service storage : String} (h : m.Inv t)
    (hi : m.position i = .building service storage) : m.find? service storage = none := by
  have := h.position i
  rwa [hi] at this

theorem Inv.inserting {service storage : String} {c : Connection} (h : m.Inv t)
    (hi : m.position i = .inserting service storage c) :
    m.find? service storage = none ∧ c.isFor service storage ∧ .built i m.era c ∈ t := by
  have := h.position i
  rwa [hi] at this

theorem Inv.stored_of_emptying (h : m.Inv t) (hi : m.position i = .emptying) {j : ι} {n : Nat}
    {c : Connection} (hc : .built j n c ∈ t) : Stored t j n c := by
  obtain hstored | ⟨-, service, storage, hj⟩ := h.created j n c hc
  · exact hstored
  · obtain rfl : j = i := h.lock.eq (by rw [hj]; rfl) (by rw [hi]; rfl)
    rw [hi] at hj
    cases hj

theorem Inv.surroundings (h : m.Inv t) {n : Network}
    (hn : n.builds = m.transport.network.builds) :
    Inv { m with transport := { m.transport with network := n } } t where
  lock := h.lock
  era := h.era
  position i := (h.position i).frame (List.Subset.refl _) fun _ => ⟨rfl, rfl⟩
  past := h.past
  kept := h.kept
  created := h.created
  serials := by
    rw [hn]
    exact h.serials

theorem inv_start (t : Transport) : (start t : Machine ι).Inv [] where
  lock := exclusive_start t
  era := rfl
  position _ := trivial
  past := nofun
  kept := nofun
  created := nofun
  serials := nofun

theorem Inv.agrees (h : m.Inv t) {service storage : String} {c : Connection}
    (hc : ∀ d, m.find? service storage = some d → d = c) :
    Agrees t ⟨service, storage, m.era, c⟩ := by
  rintro y hy j o ho rfl rfl hera
  exact hc _ (h.kept y hy j o ho hera)

theorem Inv.fits_built {r : Registry} {files : Files} {service storage : String} {c : Connection}
    (h : m.Inv t) (hi : m.position i = .building service storage)
    (hr : ((r.build files service storage).run m.transport).result = .ok c) :
    (built i m.era c).Fits t := by
  obtain ⟨-, hserial, hfor⟩ := Registry.build_ok hr
  have habsent := h.absent hi
  refine ⟨h.era, fun j n d hd => ⟨?_, ?_⟩⟩
  · rw [hserial]
    exact Nat.ne_of_lt (h.serials j n d hd)
  · rintro hn hsame
    obtain ⟨o, ho, hera, hconn, hdo⟩ | ⟨-, service', storage', hj⟩ := h.created j n d hd
    · have hkept := h.kept _ ho j o rfl (hera.trans hn)
      rw [Registry.isFor_iff] at hsame hdo hfor
      rw [← hdo.1, ← hdo.2, hsame.1, hsame.2, hfor.1, hfor.2, habsent] at hkept
      cases hkept
    · obtain rfl : j = i := h.lock.eq (by rw [hj]; rfl) (by rw [hi]; rfl)
      rw [hi] at hj
      cases hj

theorem Inv.fits_inserted {service storage : String} {c : Connection} (h : m.Inv t)
    (hi : m.position i = .inserting service storage c) :
    (Mark.inserted i ⟨service, storage, m.era, c⟩ (m.find? service storage)).Fits t := by
  obtain ⟨habsent, -, hbuilt⟩ := h.inserting hi
  refine ⟨h.era, habsent, hbuilt, h.agrees fun d hd => ?_⟩
  rw [habsent] at hd
  cases hd

variable [DecidableEq ι]

theorem position_self : (m.goTo i p).position i = p := Function.update_self ..

theorem position_of_ne (h : j ≠ i) : (m.goTo i p).position j = m.position j :=
  Function.update_of_ne h ..

theorem Exclusive.goTo (h : m.Exclusive) (hp : p.holds → m.holder = some i) :
    (m.goTo i p).Exclusive := by
  intro j hj
  by_cases hji : j = i
  · subst hji
    rw [position_self] at hj
    exact hp hj
  · rw [position_of_ne hji] at hj
    exact h j hj

theorem Exclusive.acquire (h : m.Exclusive) (hl : m.holder = none) (i : ι) (p : Position) :
    { m.goTo i p with holder := some i }.Exclusive := by
  intro j hj
  by_cases hji : j = i
  · rw [hji]
  · have hold : (m.position j).holds := by
      rw [← position_of_ne hji]
      exact hj
    rw [h j hold] at hl
    cases hl

theorem Exclusive.release (h : m.Exclusive) (hi : (m.position i).holds) (hp : ¬ p.holds) :
    { m.goTo i p with holder := none }.Exclusive := by
  intro j hj
  change ((m.goTo i p).position j).holds at hj
  by_cases hji : j = i
  · subst hji
    rw [position_self] at hj
    exact absurd hj hp
  · rw [position_of_ne hji] at hj
    exact absurd (h.eq hj hi) hji

theorem Exclusive.step {r : Registry} {x : Option (Mark ι)} (h : m.Exclusive)
    (hs : Step r m x m') : m'.Exclusive := by
  cases hs with
  | hit hi hc => exact h.goTo nofun
  | miss hi hc => exact h.goTo nofun
  | acquire hi hl => exact h.acquire hl _ _
  | rehit hi hc => exact h.goTo fun _ => h _ (by rw [hi]; rfl)
  | remiss hi hc => exact h.goTo fun _ => h _ (by rw [hi]; rfl)
  | build files hi hr => exact h.goTo fun _ => h _ (by rw [hi]; rfl)
  | fail files hi hr => exact h.goTo fun _ => h _ (by rw [hi]; rfl)
  | insert hi => exact h.goTo fun _ => h _ (by rw [hi]; rfl)
  | acquireToEmpty hi hl => exact h.acquire hl _ _
  | empty hi => exact h.goTo fun _ => h _ (by rw [hi]; rfl)
  | @release i result hi =>
    refine h.release (by rw [hi]; rfl) ?_
    cases result <;> exact nofun
  | finish hi => exact h.goTo nofun
  | surroundings n hn => exact h

/-- Threads that do not move go on as they were, unless they have the lock and what they rely on is
changed. -/
theorem Inv.relies {t' : List (Mark ι)} (h : m.Inv t) (ht : t ⊆ t')
    (hpos : m'.position = Function.update m.position i p) (hp : m'.Relies t' i p)
    (hframe : ∀ j, j ≠ i → (m.position j).holds → m'.find? = m.find? ∧ m'.era = m.era) (j : ι) :
    m'.Relies t' j (m'.position j) := by
  rw [hpos]
  by_cases hji : j = i
  · subst hji
    rw [Function.update_self]
    exact hp
  · rw [Function.update_of_ne hji]
    exact (h.position j).frame ht (hframe j hji)

theorem Inv.quiet (h : m.Inv t) {x : Option (Mark ι)} (hlock : m'.Exclusive)
    (hpos : m'.position = Function.update m.position i p) (htransport : m'.transport = m.transport)
    (hera : m'.era = m.era) (hx : ∀ y ∈ x, y.isQuiet)
    (hkept : ∀ y ∈ x, ∀ j o, y.obtains = some (j, o) →
      o.era = m.era ∧ m.find? o.service o.storage = some o.connection)
    (hi : ∀ service storage c, m.position i ≠ .inserting service storage c)
    (hp : m.Relies (t ++ x.toList) i p) : m'.Inv (t ++ x.toList) := by
  have hfind : m'.find? = m.find? := by
    unfold find?
    rw [htransport]
  have hmem : ∀ y ∈ t ++ x.toList, y ∈ t ∨ y ∈ x := fun y hy =>
    (List.mem_append.1 hy).imp id Option.mem_toList.1
  have hbuilt : ∀ j n c, built j n c ∈ t ++ x.toList → built j n c ∈ t := fun j n c hy =>
    (hmem _ hy).resolve_right fun hx' => by cases hx _ hx'
  refine ⟨hlock, ?_, h.relies (List.subset_append_left ..) hpos ?_ fun _ _ _ => ⟨hfind, hera⟩,
    fun y hy j o ho => ?_, fun y hy j o ho he => ?_, fun j n c hc => ?_, fun j n c hc => ?_⟩
  · rw [hera, h.era, emptyings_quiet t hx]
  · exact hp.frame (List.Subset.refl _) fun _ => ⟨hfind, hera⟩
  · rw [hera]
    obtain hy | hy := hmem y hy
    · exact h.past y hy j o ho
    · exact Nat.le_of_eq (hkept y hy j o ho).1
  · rw [hfind]
    obtain hy | hy := hmem y hy
    · exact h.kept y hy j o ho (by rw [he, hera])
    · exact (hkept y hy j o ho).2
  · refine (h.created j n c (hbuilt j n c hc)).imp (.mono (List.subset_append_left ..)) ?_
    rintro ⟨hn, service, storage, hj⟩
    refine ⟨by rw [hn, hera], service, storage, ?_⟩
    have hji : j ≠ i := fun e => hi service storage c (e ▸ hj)
    rw [hpos, Function.update_of_ne hji, hj]
  · rw [htransport]
    exact h.serials j n c (hbuilt j n c hc)

theorem Inv.built {r : Registry} {files : Files} {service storage : String} {c : Connection}
    (h : m.Inv t) (hlock : m'.Exclusive)
    (hpos : m'.position = Function.update m.position i (.inserting service storage c))
    (htransport : m'.transport = ((r.build files service storage).run m.transport).state)
    (hera : m'.era = m.era) (hi : m.position i = .building service storage)
    (hr : ((r.build files service storage).run m.transport).result = .ok c) :
    m'.Inv (t ++ [.built i m.era c]) := by
  obtain ⟨hstate, hserial, hfor⟩ := Registry.build_ok hr
  rw [hstate] at htransport
  have hfind : m'.find? = m.find? := by
    unfold find?
    rw [htransport]
  have habsent := h.absent hi
  have hsub : t ⊆ t ++ [.built i m.era c] := List.subset_append_left ..
  have hmem : ∀ y ∈ t ++ [.built i m.era c], y ∈ t ∨ y = .built i m.era c := fun y hy =>
    (List.mem_append.1 hy).imp id List.mem_singleton.1
  refine ⟨hlock, ?_, h.relies hsub hpos ?_ fun _ _ _ => ⟨hfind, hera⟩,
    fun y hy j o ho => ?_, fun y hy j o ho he => ?_, fun j n d hd => ?_, fun j n d hd => ?_⟩
  · rw [hera, h.era, emptyings_concat]
    rfl
  · rw [Relies, hfind, hera]
    exact ⟨habsent, hfor, List.mem_append_right _ (List.mem_singleton.2 rfl)⟩
  · rw [hera]
    obtain hy | rfl := hmem y hy
    · exact h.past y hy j o ho
    · cases ho
  · rw [hfind]
    obtain hy | rfl := hmem y hy
    · exact h.kept y hy j o ho (by rw [he, hera])
    · cases ho
  · obtain hd | hd := hmem _ hd
    · refine (h.created j n d hd).imp (.mono hsub) ?_
      rintro ⟨hn, service', storage', hj⟩
      have hji : j ≠ i := by
        rintro rfl
        rw [hi] at hj
        cases hj
      exact ⟨by rw [hn, hera], service', storage', by rw [hpos, Function.update_of_ne hji, hj]⟩
    · cases hd
      exact .inr ⟨hera.symm, service, storage, by rw [hpos, Function.update_self]⟩
  · have hlen : m'.transport.network.builds.length = m.transport.network.builds.length + 1 := by
      rw [htransport]
      exact List.length_append
    rw [hlen]
    obtain hd | hd := hmem _ hd
    · exact Nat.lt_succ_of_lt (h.serials j n d hd)
    · cases hd
      rw [hserial]
      exact Nat.lt_succ_self _

theorem Inv.inserted {service storage : String} {c : Connection} (h : m.Inv t)
    (hlock : m'.Exclusive)
    (hpos : m'.position =
      Function.update m.position i (.leaving (some ⟨service, storage, m.era, c⟩)))
    (htransport : m'.transport = ((Registry.insert c).run m.transport).state)
    (hera : m'.era = m.era) (hi : m.position i = .inserting service storage c) :
    m'.Inv (t ++ [.inserted i ⟨service, storage, m.era, c⟩ none]) := by
  obtain ⟨habsent, hfor, -⟩ := h.inserting hi
  have hholds : (m.position i).holds := by
    rw [hi]
    rfl
  have hfind : ∀ service' storage', m'.find? service' storage' =
      Registry.find? (Registry.put c m.transport.connections) service' storage' := by
    intro service' storage'
    rw [find?, htransport]
    rfl
  have hnew : m'.find? service storage = some c := by
    obtain ⟨hservice, hstorage⟩ := Registry.isFor_iff.1 hfor
    rw [hfind, ← hservice, ← hstorage]
    exact Registry.find?_put_self c _
  have hsub : t ⊆ t ++ [.inserted i ⟨service, storage, m.era, c⟩ none] :=
    List.subset_append_left ..
  have hlast : .inserted i ⟨service, storage, m.era, c⟩ none ∈
      t ++ [.inserted i ⟨service, storage, m.era, c⟩ none] :=
    List.mem_append_right _ (List.mem_singleton.2 rfl)
  refine ⟨hlock, ?_,
    h.relies hsub hpos ⟨_, hlast, rfl⟩ fun j hji hj => absurd (h.lock.eq hj hholds) hji,
    fun y hy j o ho => ?_, fun y hy j o ho he => ?_, fun j n d hd => ?_, fun j n d hd => ?_⟩
  · rw [hera, h.era, emptyings_concat]
    rfl
  · rw [hera]
    obtain hy | hy := List.mem_append.1 hy
    · exact h.past y hy j o ho
    · rw [List.mem_singleton.1 hy] at ho
      cases ho
      exact Nat.le_refl _
  · obtain hy | hy := List.mem_append.1 hy
    · have hold := h.kept y hy j o ho (by rw [he, hera])
      have hne : ¬ c.isFor o.service o.storage := by
        intro hc
        rw [Registry.isFor_iff] at hc hfor
        rw [← hc.1, ← hc.2, hfor.1, hfor.2, habsent] at hold
        cases hold
      rw [hfind, Registry.find?_put_of_ne hne]
      exact hold
    · rw [List.mem_singleton.1 hy] at ho
      cases ho
      exact hnew
  · have hd : .built j n d ∈ t := (List.mem_append.1 hd).resolve_right fun hd => by
      cases List.mem_singleton.1 hd
    refine .inl ?_
    obtain hstored | ⟨hn, service', storage', hj⟩ := h.created j n d hd
    · exact hstored.mono hsub
    · obtain rfl : j = i := h.lock.eq (by rw [hj]; rfl) hholds
      rw [hi] at hj
      cases hj
      exact ⟨_, hlast, hn.symm, rfl, hfor⟩
  · have hd : .built j n d ∈ t := (List.mem_append.1 hd).resolve_right fun hd => by
      cases List.mem_singleton.1 hd
    rw [htransport]
    exact h.serials j n d hd

theorem Inv.emptied (h : m.Inv t) (hlock : m'.Exclusive)
    (hpos : m'.position = Function.update m.position i (.leaving none))
    (htransport : m'.transport = (Registry.clear.run m.transport).state)
    (hera : m'.era = m.era + 1) (hi : m.position i = .emptying) :
    m'.Inv (t ++ [.emptied i]) := by
  have hholds : (m.position i).holds := by
    rw [hi]
    rfl
  have hsub : t ⊆ t ++ [.emptied i] := List.subset_append_left ..
  have hmem : ∀ y ∈ t ++ [.emptied i], y ∈ t ∨ y = .emptied i := fun y hy =>
    (List.mem_append.1 hy).imp id List.mem_singleton.1
  refine ⟨hlock, ?_, h.relies hsub hpos trivial fun j hji hj => absurd (h.lock.eq hj hholds) hji,
    fun y hy j o ho => ?_, fun y hy j o ho he => ?_, fun j n d hd => ?_, fun j n d hd => ?_⟩
  · rw [hera, h.era, emptyings_concat]
    rfl
  · obtain hy | rfl := hmem y hy
    · rw [hera]
      exact Nat.le_succ_of_le (h.past y hy j o ho)
    · cases ho
  · obtain hy | rfl := hmem y hy
    · have := h.past y hy j o ho
      omega
    · cases ho
  · obtain hd | hd := hmem _ hd
    · exact .inl ((h.stored_of_emptying hi hd).mono hsub)
    · cases hd
  · rw [htransport]
    obtain hd | hd := hmem _ hd
    · exact h.serials j n d hd
    · cases hd

theorem Inv.fits {r : Registry} {x : Mark ι} (h : m.Inv t) (hs : Step r m (some x) m') :
    x.Fits t := by
  cases hs with
  | hit hi hc => exact ⟨h.era, h.agrees fun d hd => Option.some.inj (hd.symm.trans hc)⟩
  | rehit hi hc => exact ⟨h.era, h.agrees fun d hd => Option.some.inj (hd.symm.trans hc)⟩
  | build files hi hr => exact h.fits_built hi hr
  | insert hi => exact h.fits_inserted hi
  | empty hi => exact fun j n c hc => h.stored_of_emptying hi hc
  | @finish i o hi =>
    have := h.position i
    rwa [hi] at this

theorem Inv.silent (h : m.Inv t) (hlock : m'.Exclusive)
    (hpos : m'.position = Function.update m.position i p) (htransport : m'.transport = m.transport)
    (hera : m'.era = m.era) (hi : ∀ service storage c, m.position i ≠ .inserting service storage c)
    (hp : m.Relies t i p) : m'.Inv t := by
  have hquiet := h.quiet (x := none) hlock hpos htransport hera nofun nofun hi
  rw [Option.toList_none, List.append_nil] at hquiet
  exact hquiet hp

theorem Inv.found {service storage : String} {c : Connection} (h : m.Inv t) (hlock : m'.Exclusive)
    (hpos : m'.position = Function.update m.position i p) (htransport : m'.transport = m.transport)
    (hera : m'.era = m.era) (hi : ∀ service storage c, m.position i ≠ .inserting service storage c)
    (hc : m.find? service storage = some c)
    (hp : p = .returning ⟨service, storage, m.era, c⟩ ∨
      p = .leaving (some ⟨service, storage, m.era, c⟩)) :
    m'.Inv (t ++ [.found i ⟨service, storage, m.era, c⟩]) := by
  have hlast : .found i ⟨service, storage, m.era, c⟩ ∈
      t ++ [.found i ⟨service, storage, m.era, c⟩] :=
    List.mem_append_right _ (List.mem_singleton.2 rfl)
  refine h.quiet (x := some _) hlock hpos htransport hera ?_ ?_ hi ?_
  · rintro y ⟨⟩
    rfl
  · rintro y ⟨⟩ j o ⟨⟩
    exact ⟨rfl, hc⟩
  · obtain rfl | rfl := hp <;> exact ⟨_, hlast, rfl⟩

theorem Inv.step {r : Registry} {x : Option (Mark ι)} (h : m.Inv t) (hs : Step r m x m') :
    m'.Inv (t ++ x.toList) := by
  have hlock := h.lock.step hs
  have hnil : t ++ (none : Option (Mark ι)).toList = t := List.append_nil t
  cases hs with
  | hit hi hc => exact h.found hlock rfl rfl rfl (by rw [hi]; exact nofun) hc (.inl rfl)
  | rehit hi hc => exact h.found hlock rfl rfl rfl (by rw [hi]; exact nofun) hc (.inr rfl)
  | build files hi hr => exact h.built hlock rfl rfl rfl hi hr
  | insert hi =>
    rw [(h.fits_inserted hi).2.1]
    exact h.inserted hlock rfl rfl rfl hi
  | empty hi => exact h.emptied hlock rfl rfl rfl hi
  | @finish i o hi =>
    refine h.quiet hlock rfl rfl rfl ?_ ?_ (by rw [hi]; exact nofun) trivial
    · rintro y ⟨⟩
      rfl
    · rintro y ⟨⟩ j o ⟨⟩
  | miss hi hc =>
    rw [hnil]
    exact h.silent hlock rfl rfl rfl (by rw [hi]; exact nofun) trivial
  | acquire hi hl =>
    rw [hnil]
    exact h.silent hlock rfl rfl rfl (by rw [hi]; exact nofun) trivial
  | remiss hi hc =>
    rw [hnil]
    exact h.silent hlock rfl rfl rfl (by rw [hi]; exact nofun) hc
  | fail files hi hr =>
    rw [hnil]
    exact h.silent hlock rfl (Registry.build_error hr) rfl (by rw [hi]; exact nofun) trivial
  | acquireToEmpty hi hl =>
    rw [hnil]
    exact h.silent hlock rfl rfl rfl (by rw [hi]; exact nofun) trivial
  | @release i result hi =>
    rw [hnil]
    refine h.silent hlock rfl rfl rfl (by rw [hi]; exact nofun) ?_
    have hr := h.position i
    rw [hi] at hr
    cases result with
    | none => trivial
    | some o => exact hr
  | surroundings n hn =>
    rw [hnil]
    exact h.surroundings hn

theorem Inv.run {r : Registry} {m₀ : Machine ι} {t : List (Mark ι)} (h₀ : m₀.Inv [])
    (h : Run r m₀ t m) : m.Inv t := by
  induction h with
  | nil => exact h₀
  | step _ hs ih => exact ih.step hs

end Machine

end StorageCalls
