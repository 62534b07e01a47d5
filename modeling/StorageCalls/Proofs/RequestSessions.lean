import StorageCalls.Proofs.SessionMoves

namespace StorageCalls.Process

def allDeliveries (p : Process) : List Operation → List Delivery
  | [] => []
  | op :: ops => p.deliveries op ++ (p.perform op).1.allDeliveries ops

/-- What is said of the session ids of a run. -/
structure OneSessionEach (now : Instant) (ops : List Operation) : Prop where
  complete : ((start now).run ops).invocations = ((start now).allDeliveries ops).map (·.sent)
  carried : ∀ d ∈ (start now).allDeliveries ops, d.session.isSome
  shared : ∀ m n : Nat, m ≠ n → ∀ d e : Delivery, ((start now).allDeliveries ops)[m]? = some d →
    ((start now).allDeliveries ops)[n]? = some e →
      (d.session = e.session ↔ ∃ k, d.origin = some k ∧ e.origin = some k)
  kept : ∀ before after, ops = before ++ after → ∀ k id,
    ((start now).run before).sessionAt k = some id → ((start now).run ops).sessionAt k = some id
  tracked : ∀ d ∈ (start now).allDeliveries ops, ∀ k, d.origin = some k →
    d.session = ((start now).run ops).sessionAt k
  /-- Whoever asks for the id of a store gets the one that it has at the end. -/
  reported : ∀ before x i after, ops = before ++ .sessionId x i :: after → ∀ k,
    (((start now).run before).contextOn k i).isSome → ∃ id,
      (((start now).run before).perform (.sessionId x i)).2 = .session id ∧
        ((start now).run ops).sessionAt k = some id

variable {p q : Process} {ids : Nat → String} {ops : List Operation} {log next : List Delivery}
  {i : Nat}

namespace SessionMove

variable (h : SessionMove ids p q next)

include h

theorem issued_le : p.world.issued ≤ q.world.issued := by
  cases h with
  | kept hs hi => exact Nat.le_of_eq hi.symm
  | first k hk hk' hs hi => exact hi ▸ Nat.le_succ _
  | apart hs hi => exact hi ▸ Nat.le_succ _

theorem sessionAt_of_some {k : Nat} {id : String} (hk : p.sessionAt k = some id) :
    q.sessionAt k = some id := by
  cases h with
  | kept hs => rw [hs, hk]
  | first l hl hl' hs =>
    have hne : k ≠ l := by
      rintro rfl
      cases hl.symm.trans hk
    rw [hs k hne, hk]
  | apart hs => rw [hs, hk]

theorem some_or_next {k : Nat} {id : String} (hk : q.sessionAt k = some id) :
    p.sessionAt k = some id ∨ id = ids p.world.issued ∧ p.world.issued < q.world.issued ∧
      p.sessionAt k = none ∧ ∀ l, l ≠ k → q.sessionAt l = p.sessionAt l := by
  cases h with
  | kept hs => exact .inl (hs k ▸ hk)
  | first l hl hl' hs hi =>
    by_cases hkl : k = l
    · subst hkl
      exact .inr ⟨Option.some.inj (hk.symm.trans hl'), hi ▸ Nat.lt_succ_self _, hl, hs⟩
    · exact .inl (hs k hkl ▸ hk)
  | apart hs => exact .inl (hs k ▸ hk)

theorem session_of_origin {d : Delivery} (hd : d ∈ next) {k : Nat} (hk : d.origin = some k) :
    ∃ id, d.session = some id ∧ q.sessionAt k = some id := by
  cases h with
  | kept hs hi hnew =>
    obtain ⟨l, id, horigin, hsession, hl⟩ := hnew d hd
    obtain rfl : l = k := Option.some.inj (horigin.symm.trans hk)
    exact ⟨id, hsession, (hs l).trans hl⟩
  | first l hl hl' hs hi hnew =>
    obtain ⟨horigin, hsession⟩ := hnew d hd
    obtain rfl : l = k := Option.some.inj (horigin.symm.trans hk)
    exact ⟨_, hsession, hl'⟩
  | apart hs hi hone hnew => cases (hnew d hd).1.symm.trans hk

theorem session_of_untracked {d : Delivery} (hd : d ∈ next) (hnone : d.origin = none) :
    d.session = some (ids p.world.issued) ∧ p.world.issued < q.world.issued ∧
      ∀ k, q.sessionAt k = p.sessionAt k := by
  cases h with
  | kept hs hi hnew =>
    obtain ⟨l, id, horigin, -, -⟩ := hnew d hd
    cases horigin.symm.trans hnone
  | first l hl hl' hs hi hnew => cases (hnew d hd).1.symm.trans hnone
  | apart hs hi hone hnew => exact ⟨(hnew d hd).2, hi ▸ Nat.lt_succ_self _, hs⟩

theorem pairwise_untracked :
    next.Pairwise fun d e => d.origin = none → e.origin = none → d.session ≠ e.session := by
  cases h with
  | kept hs hi hnew =>
    refine List.pairwise_of_forall_mem_list fun d hd _ _ hnone => ?_
    obtain ⟨l, id, horigin, -, -⟩ := hnew d hd
    cases horigin.symm.trans hnone
  | first l hl hl' hs hi hnew =>
    refine List.pairwise_of_forall_mem_list fun d hd _ _ hnone => ?_
    cases (hnew d hd).1.symm.trans hnone
  | apart hs hi hone =>
    cases next with
    | nil => exact .nil
    | cons d rest =>
      have hrest : rest = [] := by simpa using hone
      rw [hrest]
      exact List.pairwise_singleton ..

end SessionMove

/-- The ids given out so far, and where they are: each with one store, or with one invocation from
a context without a store. -/
structure Orderly (ids : Nat → String) (p : Process) (log : List Delivery) : Prop where
  given : ∀ k id, p.sessionAt k = some id → ∃ n < p.world.issued, id = ids n
  distinct : ∀ k l id, p.sessionAt k = some id → p.sessionAt l = some id → k = l
  tracked : ∀ d ∈ log, ∀ k, d.origin = some k →
    ∃ id, d.session = some id ∧ p.sessionAt k = some id
  untracked : ∀ d ∈ log, d.origin = none →
    ∃ n < p.world.issued, d.session = some (ids n) ∧ ∀ k, p.sessionAt k ≠ some (ids n)
  alone : log.Pairwise fun d e => d.origin = none → e.origin = none → d.session ≠ e.session

namespace Orderly

theorem start (now : Instant) : Orderly ids (start now) [] where
  given k id h := by cases h
  distinct k l id h := by cases h
  tracked d hd := absurd hd List.not_mem_nil
  untracked d hd := absurd hd List.not_mem_nil
  alone := .nil

theorem fresh (hids : Function.Injective ids) (h : Orderly ids p log) (k : Nat) :
    p.sessionAt k ≠ some (ids p.world.issued) := by
  intro hk
  obtain ⟨n, hn, heq⟩ := h.given k _ hk
  exact Nat.ne_of_gt hn (hids heq)

theorem move (hids : Function.Injective ids) (h : Orderly ids p log)
    (hm : SessionMove ids p q next) : Orderly ids q (log ++ next) where
  given k id hk := by
    obtain hold | ⟨rfl, hlt, -, -⟩ := hm.some_or_next hk
    · obtain ⟨n, hn, rfl⟩ := h.given k id hold
      exact ⟨n, Nat.lt_of_lt_of_le hn hm.issued_le, rfl⟩
    · exact ⟨_, hlt, rfl⟩
  distinct k l id hk hl := by
    obtain hold | ⟨rfl, -, hnone, hother⟩ := hm.some_or_next hk
    · obtain hold' | ⟨rfl, -, -, -⟩ := hm.some_or_next hl
      · exact h.distinct k l id hold hold'
      · exact absurd hold (h.fresh hids k)
    · by_contra hne
      rw [hother l (Ne.symm hne)] at hl
      exact h.fresh hids l hl
  tracked d hd k hk := by
    obtain hold | hnext := List.mem_append.1 hd
    · obtain ⟨id, hsession, hid⟩ := h.tracked d hold k hk
      exact ⟨id, hsession, hm.sessionAt_of_some hid⟩
    · exact hm.session_of_origin hnext hk
  untracked d hd hnone := by
    obtain hold | hnext := List.mem_append.1 hd
    · obtain ⟨n, hn, hsession, hunused⟩ := h.untracked d hold hnone
      refine ⟨n, Nat.lt_of_lt_of_le hn hm.issued_le, hsession, fun k hk => ?_⟩
      obtain hk | ⟨heq, -, -, -⟩ := hm.some_or_next hk
      · exact hunused k hk
      · exact Nat.ne_of_lt hn (hids heq)
    · obtain ⟨hsession, hlt, hsame⟩ := hm.session_of_untracked hnext hnone
      exact ⟨_, hlt, hsession, fun k hk => h.fresh hids k (hsame k ▸ hk)⟩
  alone := by
    refine List.pairwise_append.2 ⟨h.alone, hm.pairwise_untracked, fun d hd e he hd' he' heq => ?_⟩
    obtain ⟨n, hn, hsession, -⟩ := h.untracked d hd hd'
    obtain ⟨hsession', -, -⟩ := hm.session_of_untracked he he'
    rw [hsession, hsession'] at heq
    exact Nat.ne_of_lt hn (hids (Option.some.inj heq))

theorem shared (h : Orderly ids p log) {m n : Nat} (hmn : m < n) {d e : Delivery}
    (hd : log[m]? = some d) (he : log[n]? = some e) :
    d.session = e.session ↔ ∃ k, d.origin = some k ∧ e.origin = some k := by
  have hdmem := List.mem_of_getElem? hd
  have hemem := List.mem_of_getElem? he
  cases hk : d.origin with
  | some k =>
    obtain ⟨id, hsession, hid⟩ := h.tracked d hdmem k hk
    cases hl : e.origin with
    | some l =>
      obtain ⟨id', hsession', hid'⟩ := h.tracked e hemem l hl
      rw [hsession, hsession']
      constructor
      · rintro ⟨⟩
        exact ⟨k, rfl, congrArg some (h.distinct l k id hid' hid)⟩
      · rintro ⟨_, ⟨⟩, ⟨⟩⟩
        exact hid.symm.trans hid'
    | none =>
      obtain ⟨n, -, hsession', hunused⟩ := h.untracked e hemem hl
      refine iff_of_false (fun heq => hunused k ?_) (by simp)
      rw [hid, ← hsession, heq, hsession']
  | none =>
    obtain ⟨j, -, hsession, hunused⟩ := h.untracked d hdmem hk
    refine iff_of_false (fun heq => ?_) (by simp)
    cases hl : e.origin with
    | some l =>
      obtain ⟨id, hsession', hid⟩ := h.tracked e hemem l hl
      refine hunused l ?_
      rw [hid, ← hsession', ← heq, hsession]
    | none =>
      obtain ⟨hm, rfl⟩ := List.getElem?_eq_some_iff.1 hd
      obtain ⟨hn, rfl⟩ := List.getElem?_eq_some_iff.1 he
      exact List.pairwise_iff_getElem.1 h.alone m n hm hn hmn hk hl heq

end Orderly

theorem LeavesSessions.run (hl : p.LeavesSessions) (hops : ∀ op ∈ ops, op.LeavesSessions ids) :
    (p.run ops).LeavesSessions := by
  induction ops generalizing p with
  | nil => exact hl
  | cons op ops ih => exact ih (hl.perform (hops op (.head _))) fun o ho => hops o (.tail _ ho)

theorem Orderly.run (hids : Function.Injective ids) (hs : p.Sound) (hl : p.LeavesSessions)
    (h : Orderly ids p log) (hops : ∀ op ∈ ops, op.LeavesSessions ids) :
    Orderly ids (p.run ops) (log ++ p.allDeliveries ops) := by
  induction ops generalizing p log with
  | nil => rwa [allDeliveries, List.append_nil]
  | cons op ops ih =>
    have hop := hops op (.head _)
    rw [allDeliveries, ← List.append_assoc]
    exact ih (hs.perform op) (hl.perform hop) (h.move hids (moves_perform hs hl hop))
      fun o ho => hops o (.tail _ ho)

/-- A store never gets another id than its first one. -/
theorem sessionAt_run (hs : p.Sound) (hl : p.LeavesSessions)
    (hops : ∀ op ∈ ops, op.LeavesSessions ids) {k : Nat} {id : String}
    (hk : p.sessionAt k = some id) : (p.run ops).sessionAt k = some id := by
  induction ops generalizing p with
  | nil => exact hk
  | cons op ops ih =>
    have hop := hops op (.head _)
    exact ih (hs.perform op) (hl.perform hop) (fun o ho => hops o (.tail _ ho))
      ((moves_perform hs hl hop).sessionAt_of_some hk)

theorem invocations_allDeliveries (hs : p.Sound) (ops : List Operation) :
    (p.run ops).invocations = p.invocations ++ (p.allDeliveries ops).map (·.sent) := by
  induction ops generalizing p with
  | nil => exact (List.append_nil _).symm
  | cons op ops ih =>
    have hlog : (p.perform op).1.invocations =
        p.invocations ++ (p.deliveries op).map (·.sent) := by
      rw [deliveries, List.map_map]
      exact (admitted hs 0 op).log.trans (congrArg _ (List.map_id _).symm)
    rw [run_cons, ih (hs.perform op), hlog, allDeliveries, List.map_append, List.append_assoc]

/-- Whoever asks for the id of a store is told the one that the store has from then on. -/
theorem answer_sessionId (hs : p.Sound) {k : Nat} (hctx : (p.contextOn k i).isSome) (x : Client) :
    ∃ id, (p.perform (.sessionId x i)).2 = .session id ∧
      (p.perform (.sessionId x i)).1.sessionAt k = some id := by
  obtain ⟨ctx, hctx⟩ := Option.isSome_iff_exists.1 hctx
  refine ⟨x.nextSession (p.stateOn k), ?_, ?_⟩
  · refine (answer_within hs hctx).trans ?_
    rw [x.run_sessionId]
    rfl
  · have hrun := x.run_sessionId (p.stateOn k)
    have hafter := stateOn_within (x := fun _ => x.sessionId) (f := .session) hs hctx
      (by rw [hrun]; rfl)
    rw [hrun] at hafter
    exact Option.some.inj (congrArg (fun s => s.store.map (·.sessionId)) hafter)

/-- For all clients together that get their session ids from one supply. -/
theorem one_session_each (now : Instant) (ids : Nat → String) (hids : Function.Injective ids)
    (ops : List Operation) (hops : ∀ op ∈ ops, op.LeavesSessions ids) : OneSessionEach now ops := by
  have hs := sound_start now
  have hl : (start now).LeavesSessions := fun conn hconn => absurd hconn List.not_mem_nil
  have horderly := (Orderly.start now).run hids hs hl hops
  rw [List.nil_append] at horderly
  refine ⟨invocations_allDeliveries hs ops, fun d hd => ?_, fun m n hmn d e hd he => ?_,
    fun before after hsplit k id hk => ?_, fun d hd k hk => ?_, fun before x i after hsplit k hk => ?_⟩
  · cases hk : d.origin with
    | some k =>
      obtain ⟨id, hsession, -⟩ := horderly.tracked d hd k hk
      exact Option.isSome_iff_exists.2 ⟨id, hsession⟩
    | none =>
      obtain ⟨j, -, hsession, -⟩ := horderly.untracked d hd hk
      exact Option.isSome_iff_exists.2 ⟨_, hsession⟩
  · obtain hlt | hgt := Nat.lt_or_gt_of_ne hmn
    · exact horderly.shared hlt hd he
    · rw [eq_comm, horderly.shared hgt he hd]
      simp only [and_comm]
  · subst hsplit
    have hbefore : ∀ op ∈ before, op.LeavesSessions ids :=
      fun o ho => hops o (List.mem_append_left _ ho)
    rw [run_append]
    exact sessionAt_run (hs.run before) (hl.run hbefore)
      (fun o ho => hops o (List.mem_append_right _ ho)) hk
  · obtain ⟨id, hsession, hid⟩ := horderly.tracked d hd k hk
    rw [hsession, hid]
  · subst hsplit
    have hbefore : ∀ op ∈ before, op.LeavesSessions ids :=
      fun o ho => hops o (List.mem_append_left _ ho)
    have hafter : ∀ op ∈ Operation.sessionId x i :: after, op.LeavesSessions ids :=
      fun o ho => hops o (List.mem_append_right _ ho)
    obtain ⟨id, hanswer, hid⟩ := answer_sessionId (hs.run before) hk x
    refine ⟨id, hanswer, ?_⟩
    rw [run_append, run_cons]
    exact sessionAt_run ((hs.run before).perform _)
      ((hl.run hbefore).perform (hafter _ (.head _))) (fun o ho => hafter o (.tail _ ho)) hid

/-- A request with a branch, and a context that is not tracked. Between its calls the branch checks
the health of the storage, and the registry is cleared. -/
theorem one_session_each_of_three_contexts :
    let ids : Nat → String := fun n => String.ofList (List.replicate (n + 1) 'x')
    let storage : StorageConfig := ⟨"default", "unix:/run/storage.sock", some "secret"⟩
    let x : Client := ⟨⟨(default : ClientConfig).addStorage storage,
      [.tracing, .appending "region" "north"]⟩, default, .fixed true, ids⟩
    let call (i : Nat) : Operation :=
      .call x .empty .zero i ⟨"default", "repository", "find", [], .zero, none, id⟩
    let ops : List Operation := [.startRequest .background true .nobody none, .fork 0,
      .startRequest .background false .nobody none, call 2, call 0, .clear,
      .checkHealth x .empty .zero 1 "default", call 2, .sessionId x 0, call 1]
    (Function.Injective ids ∧ ∀ op ∈ ops, op.LeavesSessions ids) ∧ OneSessionEach .epoch ops ∧
      ((start .epoch).allDeliveries ops).map (·.session) =
        [some "x", some "xx", some "xx", some "xxx", some "xx"] := by
  intro ids storage x call ops
  have hids : Function.Injective ids := by
    intro m n h
    simpa [ids] using congrArg String.length h
  have happending : (Interceptor.appending "region" "north").KeepsSession :=
    Interceptor.keepsSession_appending (by decide) _
  have hx : ∀ j ∈ x.interceptors, j.KeepsSession := by
    simp [x, Interceptor.keepsSession_tracing, happending]
  have hcall (i : Nat) : (call i).LeavesSessions ids :=
    ⟨by rintro _ ⟨⟩; rfl, by rintro _ _ _ ⟨⟩ _; rfl, hx⟩
  have hcheck : (Operation.checkHealth x .empty .zero 1 "default").LeavesSessions ids :=
    ⟨by rintro _ ⟨⟩; rfl, by rintro _ _ _ ⟨⟩ _; rfl, hx⟩
  have hask : (Operation.sessionId x 0).LeavesSessions ids :=
    ⟨by rintro _ ⟨⟩; rfl, by rintro _ _ _ ⟨⟩, fun j hj => absurd hj List.not_mem_nil⟩
  have hops : ∀ op ∈ ops, op.LeavesSessions ids := by
    simp only [ops, List.forall_mem_cons]
    exact ⟨.of_no_client rfl rfl, .of_no_client rfl rfl, .of_no_client rfl rfl, hcall 2, hcall 0,
      .of_no_client rfl rfl, hcheck, hcall 2, hask, hcall 1, by simp⟩
  exact ⟨⟨hids, hops⟩, one_session_each .epoch ids hids ops hops, by decide +kernel⟩

end StorageCalls.Process
