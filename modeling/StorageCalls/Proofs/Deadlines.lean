import StorageCalls.Proofs.CallTraces

namespace StorageCalls

theorem Duration.ticks_ne_zero {d : Duration} (h : d ≠ .zero) : d.ticks ≠ 0 := by
  intro h0
  apply h
  cases d
  cases h0
  rfl

theorem Duration.add?_eq_some_iff {a b d : Duration} :
    a.add? b = some d ↔ d.ticks = a.ticks + b.ticks := by
  unfold add? ofTicks?
  constructor
  · intro h
    split at h
    · rw [← Option.some.inj h]
    · cases h
  · rintro h
    have hbound : a.ticks + b.ticks < 0x10000000000000000 * ticksPerSecond := h ▸ d.bounded
    rw [dif_pos hbound]
    simp only [← h]

namespace Instant

/-- The end of a timeout that begins now. There is none if it is out of the range of instants. -/
def IsEnd (e now : Instant) (timeout : Duration) : Prop := e.ticks = now.ticks + timeout.ticks

variable {now e : Instant} {timeout : Duration}

theorem seconds_fit_iff (ticks : Int) :
    (-0x8000000000000000 ≤ ticks / ticksPerSecond ∧ ticks / ticksPerSecond < 0x8000000000000000) ↔
      -(0x8000000000000000 * ticksPerSecond : Int) ≤ ticks ∧
        ticks < 0x8000000000000000 * ticksPerSecond := by
  have hpos : (0 : Int) < ticksPerSecond := by decide
  rw [Int.le_ediv_iff_mul_le hpos, Int.ediv_lt_iff_lt_mul hpos, Int.neg_mul]

theorem ofTicks?_eq_some_iff {n : Int} {t : Instant} : ofTicks? n = some t ↔ t.ticks = n := by
  unfold ofTicks?
  constructor
  · intro h
    split at h
    · rw [← Option.some.inj h]
    · cases h
  · rintro rfl
    rw [dif_pos ⟨t.lower, t.upper⟩]

theorem add?_eq_some_iff : now.add? timeout = some e ↔ e.IsEnd now timeout :=
  ofTicks?_eq_some_iff

theorem IsEnd.lt (h : e.IsEnd now timeout) (ht : timeout ≠ .zero) : now < e := by
  have hpos := Duration.ticks_ne_zero ht
  change now.ticks < e.ticks
  unfold IsEnd at h
  omega

end Instant

/-- The deadlines that a call of a request may be sent with at an instant. -/
def RequestKind.Admits (kind : RequestKind) (now : Instant) (timeout : Duration)
    (deadline : Option Instant) : Prop :=
  match kind.deadline with
  | some limit =>
    now < limit ∧ ∃ e, deadline = some e ∧ now < e ∧ e ≤ limit ∧
      (∀ t : Instant, t.IsEnd now timeout → e ≤ t) ∧ (e = limit ∨ e.IsEnd now timeout)
  | none => ∀ t, deadline = some t ↔ t.IsEnd now timeout

namespace Deadline

variable {now : Instant} {kind : RequestKind} {timeout : Duration}

theorem hasPassed_iff :
    hasPassed now kind ↔ ∃ limit, kind.deadline = some limit ∧ limit ≤ now := by
  unfold hasPassed
  cases kind.deadline <;> simp

theorem compute_web (ht : timeout ≠ .zero) (limit : Instant) :
    (compute now (.web (some limit)) timeout).expiresAt =
      match now.add? timeout with
      | none => some limit
      | some regular => if limit < regular then some limit else some regular := by
  rw [compute, Duration.isZero, beq_eq_false_iff_ne.2 (Duration.ticks_ne_zero ht)]
  cases now.add? timeout with
  | none => rfl
  | some regular =>
    simp only [Bool.false_eq_true, if_false]
    split <;> rfl

theorem compute_of_no_deadline (ht : timeout ≠ .zero) (h : kind.deadline = none) :
    (compute now kind timeout).expiresAt = now.add? timeout := by
  rw [compute, Duration.isZero, beq_eq_false_iff_ne.2 (Duration.ticks_ne_zero ht)]
  match kind with
  | .background => rfl
  | .web none => cases now.add? timeout <;> rfl
  | .web (some limit) => cases h

/-- Going by the clock of one instant, the check before the call and the deadline of the call fit
together. -/
theorem admits_compute (ht : timeout ≠ .zero) (h : ¬ hasPassed now kind) :
    kind.Admits now timeout (compute now kind timeout).expiresAt := by
  unfold RequestKind.Admits
  cases hkind : kind.deadline with
  | none =>
    intro t
    rw [compute_of_no_deadline ht hkind]
    exact Instant.add?_eq_some_iff
  | some limit =>
    obtain rfl : kind = .web (some limit) := by
      cases kind with
      | background => cases hkind
      | web deadline => rw [RequestKind.deadline] at hkind; rw [hkind]
    have hlimit : now < limit := by
      rw [hasPassed_iff] at h
      exact Int.not_le.1 fun hle => h ⟨limit, rfl, hle⟩
    refine ⟨hlimit, ?_⟩
    rw [compute_web ht]
    cases hadd : now.add? timeout with
    | none =>
      refine ⟨limit, rfl, hlimit, Int.le_refl _, fun t hend => ?_, .inl rfl⟩
      rw [← Instant.add?_eq_some_iff, hadd] at hend
      cases hend
    | some regular =>
      have hend := Instant.add?_eq_some_iff.1 hadd
      have honly : ∀ t : Instant, t.IsEnd now timeout → t = regular := by
        intro t ht
        rw [← Instant.add?_eq_some_iff, hadd] at ht
        exact (Option.some.inj ht).symm
      simp only
      split
      · next hlt =>
        refine ⟨limit, rfl, hlimit, Int.le_refl _, fun t ht => ?_, .inl rfl⟩
        rw [honly t ht]
        exact Int.le_of_lt hlt
      · next hnot =>
        refine ⟨regular, rfl, hend.lt ht, Int.not_lt.1 hnot, fun t ht => ?_, .inr hend⟩
        rw [honly t ht]
        exact Int.le_refl _

end Deadline

namespace Interceptor

/-- An interceptor that leaves the deadline of a call as it finds it, if it lets the call pass. -/
def KeepsDeadline (i : Interceptor) : Prop :=
  ∀ service rpc options o, (i service rpc options).2 = .ok o → o.deadline = options.deadline

theorem keepsDeadline_tracing : tracing.KeepsDeadline := by
  intro service rpc options o h
  cases h
  rfl

theorem keepsDeadline_appending (key value : String) : (appending key value).KeepsDeadline := by
  intro service rpc options o h
  cases h
  rfl

end Interceptor

namespace Client

variable {x : Client} {env : Surroundings} {ctx : RequestContext} {c : Call} {s : CallState}

theorem deadline_of_built {options : CallOptions}
    (h : ((x.buildOptions env ctx c.storage c.timeout c.remote).run s).result = .ok options) :
    options.deadline = (Deadline.compute env.now ctx.kind c.timeout).expiresAt := by
  rw [run_buildOptions] at h
  cases ht : x.config.tokenOf c.storage with
  | error fault =>
    rw [ht] at h
    cases h
  | ok token =>
    rw [ht] at h
    simp only at h
    cases hd : x.delegation (x.identity env ctx token (x.nextSession s)) c.remote with
    | error fault =>
      rw [hd] at h
      cases h
    | ok m =>
      rw [hd] at h
      cases h
      rfl

theorem deadline_of_letThrough (hm : ∀ o, (c.mutate o).deadline = o.deadline)
    (hi : ∀ i ∈ (x.outlook s).interceptors c.service c.storage, i.KeepsDeadline) :
    ∀ inv ∈ x.letThrough env ctx c s,
      inv.options.deadline = (Deadline.compute env.now ctx.kind c.timeout).expiresAt := by
  intro inv hinv
  obtain ⟨built, hbuilt, hsame⟩ :=
    part_of_letThrough hm (fun i hmem => hi i hmem c.service c.rpc) inv hinv
  exact hsame.trans (deadline_of_built hbuilt)

/-- A request that has no time left gets no further than to its budget. -/
theorem prepare_of_expired (h : Deadline.hasPassed env.now ctx.kind) :
    ((x.prepare env ctx c).run s).state = x.charged ctx s c.rpc ∧
      (((x.prepare env ctx c).run s).result = .error .requestDeadlinePassed ∨
        ∃ overrun,
          ((x.prepare env ctx c).run s).result = .error (.tooManyInvocations overrun)) := by
  obtain ⟨hstate, hresult⟩ := x.run_enforce ctx s c.rpc
  have hprepare : x.prepare env ctx c = (do
      x.enforce ctx c.rpc
      ensureTimeLeft env ctx
      x.equip env ctx c) := rfl
  rw [hprepare]
  cases hb : s.store.bind (Budget.refusal x.isEnforcing ctx.signature c.rpc) with
  | some e =>
    rw [hb] at hresult
    rw [Stage.state_bind_of_error hresult, Stage.result_bind_of_error hresult]
    refine ⟨hstate, .inr ?_⟩
    obtain ⟨store, -, hrefusal⟩ := Option.bind_eq_some_iff.1 hb
    unfold Budget.refusal at hrefusal
    split at hrefusal
    · exact ⟨_, by rw [← Option.some.inj hrefusal]⟩
    · cases hrefusal
  | none =>
    rw [hb] at hresult
    have hlate : ∀ t, (ensureTimeLeft env ctx).run t = ⟨t, [], .error .requestDeadlinePassed⟩ := by
      intro t
      rw [ensureTimeLeft, if_pos h]
      rfl
    rw [Stage.state_bind_of_ok hresult, Stage.result_bind_of_ok hresult,
      Stage.state_bind_of_error (congrArg Outcome.result (hlate _)),
      Stage.result_bind_of_error (congrArg Outcome.result (hlate _)), hlate]
    exact ⟨hstate, .inl rfl⟩

theorem bind_of_expired {α : Type} {f : CallOptions × Connection → Stage CallState α}
    (h : Deadline.hasPassed env.now ctx.kind) :
    ((x.prepare env ctx c >>= f).run s).state.transport = s.transport ∧
      (((x.prepare env ctx c >>= f).run s).result = .error .requestDeadlinePassed ∨
        ∃ overrun,
          ((x.prepare env ctx c >>= f).run s).result = .error (.tooManyInvocations overrun)) := by
  obtain ⟨hstate, hresult | ⟨overrun, hresult⟩⟩ := x.prepare_of_expired (c := c) (s := s) h
  · rw [Stage.state_bind_of_error hresult, hstate]
    exact ⟨rfl, .inl (Stage.result_bind_of_error hresult)⟩
  · rw [Stage.state_bind_of_error hresult, hstate]
    exact ⟨rfl, .inr ⟨overrun, Stage.result_bind_of_error hresult⟩⟩

end Client

end StorageCalls
