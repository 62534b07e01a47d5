import Mathlib.Algebra.GroupWithZero.Nat
import Mathlib.Logic.Equiv.Basic
import StorageCalls.Proofs.ParallelDeeds

namespace StorageCalls

open Scenario (Answer)
open Request

namespace Request

def Turn.deedOf (k : Nat) : Turn → Option (Duration × Deed)
  | deed r elapsed d => if r = k then some (elapsed, d) else none
  | begin .. | clear => none

def deedsOf (k : Nat) (turns : List Turn) : List Deed :=
  (turns.filterMap (Turn.deedOf k)).map Prod.snd

def timesOf (k : Nat) (turns : List Turn) : List Duration :=
  (turns.filterMap (Turn.deedOf k)).map Prod.fst

structure Report where
  answer : Answer
  sent : List Invocation

variable {k : Nat} {turns : List Turn}

theorem deedOf_eq_none {t : Turn} (h : t.isOf k = false) : t.deedOf k = none := by
  cases t with
  | deed r elapsed d => exact if_neg (beq_eq_false_iff_ne.1 h)
  | begin kind tracked caller correlationId => rfl
  | clear => rfl

theorem deed_of_isOf {t : Turn} (h : t.isOf k) : ∃ elapsed d, t = .deed k elapsed d := by
  cases t with
  | deed r elapsed d =>
    obtain rfl : r = k := beq_iff_eq.1 h
    exact ⟨elapsed, d, rfl⟩
  | begin kind tracked caller correlationId => cases h
  | clear => cases h

theorem deedsOf_cons_own (elapsed : Duration) (d : Deed) :
    deedsOf k (.deed k elapsed d :: turns) = d :: deedsOf k turns := by
  simp [deedsOf, Turn.deedOf]

theorem timesOf_cons_own (elapsed : Duration) (d : Deed) :
    timesOf k (.deed k elapsed d :: turns) = elapsed :: timesOf k turns := by
  simp [timesOf, Turn.deedOf]

theorem deedsOf_cons_other {t : Turn} (h : t.isOf k = false) :
    deedsOf k (t :: turns) = deedsOf k turns := by
  simp [deedsOf, deedOf_eq_none h]

theorem timesOf_cons_other {t : Turn} (h : t.isOf k = false) :
    timesOf k (t :: turns) = timesOf k turns := by
  simp [timesOf, deedOf_eq_none h]

theorem scopesAfter_congr {s s' : RequestStore} (h : s.refNameCaching = s'.refNameCaching)
    (views : List Branch.View) (scopes : List Guard) (d : Deed) :
    scopesAfter k s views scopes d = scopesAfter k s' views scopes d := by
  cases d with
  | enterScope i scope => cases scope <;> simp [scopesAfter, h]
  | _ => rfl

end Request

/-- Whether a sum stays in range when all the durations are added to it. -/
def Duration.Admits (d : Duration) (es : List Duration) : Prop :=
  d.ticks + (es.map (·.ticks)).sum < 0x10000000000000000 * ticksPerSecond

/-- Query times of two runs with the durations that are still to come. All of them are the same, or
no sum can get out of range. -/
def InStep (es es' : List Duration) (d d' : Duration) : Prop :=
  d = d' ∧ es = es' ∨ d.Admits es ∧ d'.Admits es'

theorem Duration.Admits.cons {d e : Duration} {es : List Duration} (h : d.Admits (e :: es)) :
    d.Admits es ∧ ∃ sum, d.add? e = some sum ∧ sum.Admits es := by
  rw [Admits, List.map_cons, List.sum_cons] at h
  have hrange : d.ticks + e.ticks < 0x10000000000000000 * ticksPerSecond := by omega
  constructor
  · rw [Admits]
    omega
  · refine ⟨⟨d.ticks + e.ticks, hrange⟩, by rw [add?, ofTicks?, dif_pos hrange], ?_⟩
    rw [Admits, Nat.add_assoc]
    exact h

theorem spends_inStep (e e' : Duration) (es es' : List Duration) :
    Spends e e' (InStep (e :: es) (e' :: es')) (InStep es es') where
  weaken d d' h := by
    obtain ⟨hd, hes⟩ | ⟨h, h'⟩ := h
    · exact .inl ⟨hd, List.tail_eq_of_cons_eq hes⟩
    · exact .inr ⟨h.cons.1, h'.cons.1⟩
  add d d' h := by
    obtain ⟨rfl, hes⟩ | ⟨h, h'⟩ := h
    · obtain ⟨rfl, rfl⟩ := List.cons.inj hes
      cases d.add? e with
      | none => exact .none
      | some sum => exact .some (.inl ⟨rfl, rfl⟩)
    · obtain ⟨sum, hsum, hadmits⟩ := h.cons.2
      obtain ⟨sum', hsum', hadmits'⟩ := h'.cons.2
      rw [hsum, hsum']
      exact .some (.inr ⟨hadmits, hadmits'⟩)

namespace Process

def reportsTo (p : Process) (x : Client) (files : Files) (k : Nat) : List Turn → List Report
  | [] => []
  | t :: turns =>
    let r := p.play x files t
    let rest := r.1.reportsTo x files k turns
    if t.isOf k then ⟨r.2, r.1.invocations.drop p.invocations.length⟩ :: rest else rest

/-- How many session ids have been given out when the request gets its own, if that is still to come
and does come. -/
def issuedBefore (p : Process) (x : Client) (files : Files) (k : Nat) : List Turn → Option Nat
  | [] => none
  | t :: turns =>
    let q := (p.play x files t).1
    if (p.storeAt k).sessionId.isSome then none
    else if (q.storeAt k).sessionId.isSome then some p.world.issued
    else q.issuedBefore x files k turns

theorem ofResult_eq_of_related {r r' : Except CallError Answer} (h : Pair.Related Eq r r') :
    Answer.ofResult id r = .ofResult id r' := by
  cases r <;> cases r'
  · exact congrArg Answer.failed h
  · cases h
  · cases h
  · exact h

/-- A request in two runs, with query times of which something is known. In the second run the
client has other session ids. -/
structure Paired (x : Client) (ids : Nat → String) (files : Files) (n : Network) (k : Nat)
    (T : Duration → Duration → Prop) (p q : Process) : Prop where
  proper : p.Proper
  proper' : q.Proper
  started : k < p.world.stores.length
  started' : k < q.world.stores.length
  now : p.world.now = q.world.now
  views : p.viewsOf k = q.viewsOf k
  scopes : p.scopesOf k = q.scopesOf k
  store : (p.storeAt k).untimed = (q.storeAt k).untimed
  time : T (p.storeAt k).queryTime (q.storeAt k).queryTime
  steady : x.Steady files n p.world.transport
  steady' : x.Steady files n q.world.transport

def pair (p q : Process) (x : Client) (ids : Nat → String) (files : Files) (n : Network) (k : Nat) :
    Pair where
  client := x
  ids := ids
  files := files
  network := n
  next := x.nextSession (p.stateOn k)
  next' := (x.supplied ids).nextSession (q.stateOn k)
  sent := p.invocations
  sent' := q.invocations

namespace Paired

variable {x : Client} {ids : Nat → String} {files : Files} {n : Network} {k : Nat}
  {T U : Duration → Duration → Prop} {p q : Process}

theorem alike (h : p.Paired x ids files n k T q) :
    (p.pair q x ids files n k).Alike T (p.stateOn k) (q.stateOn k) where
  tracked := rfl
  store := congrArg some h.store
  time := by
    rintro _ ⟨⟩ _ ⟨⟩
    exact h.time
  next := rfl
  next' := rfl
  steady := h.steady
  steady' := h.steady'
  sent := ⟨[], (List.append_nil _).symm, (List.append_nil _).symm⟩

theorem deed_alike (h : p.Paired x ids files n k T q) {e e' : Duration} (hT : Spends e e' T U)
    (d : Deed)
    (hsession : ((p.play x files (.deed k e d)).1.storeAt k).sessionId.isSome →
      x.nextSession (p.stateOn k) = (x.supplied ids).nextSession (q.stateOn k)) :
    (p.pair q x ids files n k).Alike U
        ((p.play x files (.deed k e d)).1.stateOn k)
        ((q.play (x.supplied ids) files (.deed k e' d)).1.stateOn k) ∧
      (p.play x files (.deed k e d)).2 = (q.play (x.supplied ids) files (.deed k e' d)).2 ∧
      ((p.storeAt k).sessionId.isSome →
        ((p.play x files (.deed k e d)).1.storeAt k).sessionId.isSome) := by
  have hpar := Pair.parallel_deedStage (P := p.pair q x ids files n k) p.world.now (p.viewsOf k)
    (p.scopesOf k) hT d
  obtain ⟨hstate, hanswer⟩ := performs_deed h.proper h.started x files e d
  obtain ⟨hstate', hanswer'⟩ := performs_deed h.proper' h.started' (x.supplied ids) files e' d
  have henv : q.surroundings files e' = ⟨p.world.now, files, e'⟩ := by rw [h.now, surroundings]
  rw [henv, ← h.views, ← h.scopes] at hstate' hanswer'
  have hids : Pair.HasSession
      ((deedStage x (p.surroundings files e) (p.viewsOf k) (p.scopesOf k) d).run
        (p.stateOn k)).state → (p.pair q x ids files n k).next = (p.pair q x ids files n k).next' := by
    rw [← hstate]
    exact hsession
  refine ⟨?_, ?_, ?_⟩
  · rw [play, play, turnOperation, turnOperation, hstate, hstate']
    exact hpar.state _ _ h.alike hids
  · rw [play, play, turnOperation, turnOperation, hanswer, hanswer']
    exact ofResult_eq_of_related (hpar.result _ _ h.alike hids)
  · have hmono := hpar.mono (p.stateOn k)
    have hafter := congrArg Pair.HasSession hstate
    exact fun hs => hafter.mpr (hmono hs)

theorem own (h : p.Paired x ids files n k T q) {e e' : Duration} (d : Deed)
    (halike : (p.pair q x ids files n k).Alike U
      ((p.play x files (.deed k e d)).1.stateOn k)
      ((q.play (x.supplied ids) files (.deed k e' d)).1.stateOn k)) :
    (p.play x files (.deed k e d)).1.Paired x ids files n k U
      (q.play (x.supplied ids) files (.deed k e' d)).1 := by
  have hgo : p.GoesOn x files (p.play x files (.deed k e d)).1 := .play _
  have hgo' : q.GoesOn (x.supplied ids) files (q.play (x.supplied ids) files (.deed k e' d)).1 :=
    .play _
  have hcaching : (p.storeAt k).refNameCaching = (q.storeAt k).refNameCaching :=
    congrArg (·.refNameCaching) h.store
  constructor
  case proper => exact h.proper.perform _
  case proper' => exact h.proper'.perform _
  case started => exact Nat.lt_of_lt_of_le h.started hgo.stores
  case started' => exact Nat.lt_of_lt_of_le h.started' hgo'.stores
  case now => rw [hgo.now, hgo'.now, h.now]
  case views =>
    refine (viewsOf_deed h.proper d).trans (.trans ?_ (viewsOf_deed h.proper' d).symm)
    rw [h.views]
  case scopes =>
    refine (scopesOf_deed h.proper.sound d).trans (.trans ?_ (scopesOf_deed h.proper'.sound d).symm)
    rw [h.views, h.scopes, scopesAfter_congr hcaching]
  case store => exact Option.some.inj halike.store
  case time => exact halike.time _ rfl _ rfl
  case steady => exact hgo.steady n h.steady
  case steady' => exact hgo'.steady n h.steady'

theorem others (h : p.Paired x ids files n k T q) {t : Turn} (ht : t.isOf k = false) :
    (p.play x files t).1.Paired x ids files n k T q := by
  have hgo : p.GoesOn x files (p.play x files t).1 := .play t
  have hsame : Untouched k p (p.play x files t).1 := untouched_play h.proper h.started ht
  exact { h with
    proper := h.proper.perform _
    started := Nat.lt_of_lt_of_le h.started hgo.stores
    now := hgo.now.trans h.now
    views := hsame.views.trans h.views
    scopes := hsame.scopes.trans h.scopes
    store := by rw [hsame.store, h.store]
    time := by
      rw [hsame.store]
      exact h.time
    steady := hgo.steady n h.steady }

end Paired

section Session

variable {x : Client} {files : Files} {k : Nat} {p : Process} {t : Turn} {σ : List Turn}

theorem issuedBefore_of_isSome (h : (p.storeAt k).sessionId.isSome) :
    p.issuedBefore x files k σ = none := by
  cases σ with
  | nil => rfl
  | cons t σ => rw [issuedBefore, if_pos h]

theorem issuedBefore_cons
    (hmono : (p.storeAt k).sessionId.isSome → ((p.play x files t).1.storeAt k).sessionId.isSome)
    {i : Nat} (hi : (p.play x files t).1.issuedBefore x files k σ = some i) :
    p.issuedBefore x files k (t :: σ) = some i := by
  cases hq : ((p.play x files t).1.storeAt k).sessionId.isSome with
  | true =>
    rw [issuedBefore_of_isSome hq] at hi
    cases hi
  | false =>
    have hp : (p.storeAt k).sessionId.isSome = false := by
      rw [Bool.eq_false_iff]
      intro hp
      rw [hmono hp] at hq
      cases hq
    simp only [issuedBefore, hp, hq]
    exact hi

theorem sessionId_of_issuedBefore {i : Nat} (h : p.issuedBefore x files k σ = some i) :
    (p.storeAt k).sessionId = none := by
  rw [Option.eq_none_iff_forall_ne_some]
  intro id hid
  rw [issuedBefore_of_isSome (by rw [hid]; rfl)] at h
  cases h

/-- Whenever the request gets its session id, it is one that it would get alone, if the ids were
given out in another order. -/
theorem exists_order (p : Process) (x : Client) (files : Files) (k : Nat) (σ : List Turn) :
    ∃ π : Equiv.Perm Nat, ∀ i, p.issuedBefore x files k σ = some i →
      (x.supplied (x.sessionIds ∘ π)).nextSession (p.stateOn k) = x.sessionIds i := by
  cases h : p.issuedBefore x files k σ with
  | none => exact ⟨Equiv.refl _, fun i hi => by cases hi⟩
  | some i =>
    refine ⟨Equiv.swap p.world.issued i, ?_⟩
    rintro _ ⟨⟩
    simp [Client.nextSession, stateOn, sessionId_of_issuedBefore h, Client.supplied]

end Session

/-- What a request can see of two runs is the same. -/
structure Indistinct (x y : Client) (files : Files) (k : Nat) (p q : Process) (σ τ : List Turn) :
    Prop where
  reports : p.reportsTo x files k σ = q.reportsTo y files k τ
  store : ((p.playAll x files σ).storeAt k).untimed = ((q.playAll y files τ).storeAt k).untimed
  views : (p.playAll x files σ).viewsOf k = (q.playAll y files τ).viewsOf k

namespace Paired

variable {x : Client} {ids : Nat → String} {files : Files} {n : Network} {k : Nat}
  {T U : Duration → Duration → Prop} {p q : Process} {σ τ : List Turn}

theorem nextSession_eq (h : p.Paired x ids files n k T q) {t : Turn}
    (hids : ∀ i, p.issuedBefore x files k (t :: σ) = some i →
      (x.supplied ids).nextSession (q.stateOn k) = x.sessionIds i)
    (hsession : ((p.play x files t).1.storeAt k).sessionId.isSome) :
    x.nextSession (p.stateOn k) = (x.supplied ids).nextSession (q.stateOn k) := by
  have hstored : (p.storeAt k).sessionId = (q.storeAt k).sessionId :=
    congrArg (·.sessionId) h.store
  cases hp : (p.storeAt k).sessionId with
  | some id =>
    rw [hp] at hstored
    simp [Client.nextSession, stateOn, hp, ← hstored]
  | none =>
    have hissued : p.issuedBefore x files k (t :: σ) = some p.world.issued := by
      simp [issuedBefore, hp, hsession]
    rw [hids _ hissued]
    simp [Client.nextSession, stateOn, hp]

/-- By induction on the turns of the first run: those of others change nothing for the request, and
those of its own come in the second run as well. -/
theorem run (h : p.Paired x ids files n k (InStep (timesOf k σ) (timesOf k τ)) q)
    (halone : ∀ t ∈ τ, t.isOf k) (hdeeds : deedsOf k σ = deedsOf k τ)
    (hids : ∀ i, p.issuedBefore x files k σ = some i →
      (x.supplied ids).nextSession (q.stateOn k) = x.sessionIds i) :
    p.Indistinct x (x.supplied ids) files k q σ τ := by
  induction σ generalizing p q τ with
  | nil =>
    cases τ with
    | nil => exact ⟨rfl, h.store, h.views⟩
    | cons t τ =>
      obtain ⟨e, d, rfl⟩ := deed_of_isOf (halone t List.mem_cons_self)
      rw [deedsOf_cons_own] at hdeeds
      cases hdeeds
  | cons t σ ih =>
    cases ht : t.isOf k with
    | false =>
      rw [deedsOf_cons_other ht] at hdeeds
      rw [timesOf_cons_other ht] at h
      have hstored : (p.play x files t).1.storeAt k = p.storeAt k :=
        (untouched_play h.proper h.started ht).store
      have hrest := ih (h.others ht) halone hdeeds fun i hi =>
        hids i (issuedBefore_cons (by rw [hstored]; exact id) hi)
      refine ⟨?_, hrest.store, hrest.views⟩
      rw [reportsTo, ht]
      exact hrest.reports
    | true =>
      obtain ⟨e, d, rfl⟩ := deed_of_isOf ht
      rw [deedsOf_cons_own] at hdeeds
      cases τ with
      | nil => cases hdeeds
      | cons t' τ =>
        have ht' := halone t' List.mem_cons_self
        obtain ⟨e', d', rfl⟩ := deed_of_isOf ht'
        rw [deedsOf_cons_own, List.cons.injEq] at hdeeds
        obtain ⟨rfl, hdeeds⟩ := hdeeds
        rw [timesOf_cons_own, timesOf_cons_own] at h
        obtain ⟨halike, hanswer, hmono⟩ :=
          h.deed_alike (spends_inStep e e' _ _) d (h.nextSession_eq hids)
        have hrest := ih (h.own d halike) (fun t ht => halone t (List.mem_cons_of_mem _ ht)) hdeeds
          fun i hi => halike.next'.trans (hids i (issuedBefore_cons hmono hi))
        obtain ⟨new, hnew, hnew'⟩ := halike.sent
        refine ⟨?_, hrest.store, hrest.views⟩
        have hsent : (p.play x files (.deed k e d)).1.invocations = p.invocations ++ new := hnew
        have hsent' : (q.play (x.supplied ids) files (.deed k e' d)).1.invocations =
            q.invocations ++ new := hnew'
        simp only [reportsTo, ht, ht', if_true, hrest.reports, hanswer, hsent, hsent',
          List.drop_left]

end Paired

def startOn (now : Instant) (responses : Table (Except Status Bytes))
    (health : Except Status HealthStatus) (refusal : ChannelTarget → Option String) : Process :=
  (start now).run [.script responses health refusal]

section Requests

variable (now : Instant) (responses : Table (Except Status Bytes))
  (health : Except Status HealthStatus) (refusal : ChannelTarget → Option String) (x : Client)
  (files : Files) (before : List Turn)

theorem Proper.playAll {p : Process} (h : p.Proper) (turns : List Turn) :
    (p.playAll x files turns).Proper := by
  induction turns generalizing p with
  | nil => exact h
  | cons t turns ih => exact ih (h.perform _)

theorem steady_playAll {p : Process} {n : Network} (h : x.Steady files n p.world.transport)
    (turns : List Turn) : x.Steady files n (p.playAll x files turns).world.transport := by
  induction turns generalizing p with
  | nil => exact h
  | cons t turns ih => exact ih ((GoesOn.play t).steady n h)

theorem paired_self {p : Process} (hp : p.Proper) {n : Network}
    (hn : x.Steady files n p.world.transport) {k : Nat} (hk : k < p.world.stores.length)
    (ids : Nat → String) {T : Duration → Duration → Prop}
    (hT : T (p.storeAt k).queryTime (p.storeAt k).queryTime) : p.Paired x ids files n k T p where
  proper := hp
  proper' := hp
  started := hk
  started' := hk
  now := rfl
  views := rfl
  scopes := rfl
  store := rfl
  time := hT
  steady := hn
  steady' := hn

/-- After any turns, let a request go on among others, or alone with the same deeds. Both are the
same to it, if alone the session ids are given out in another order. What its calls take of time may
differ, as long as the sum is in range. -/
theorem requests_are_isolated (k : Nat)
    (hk : k < ((startOn now responses health refusal).playAll x files before).world.stores.length)
    (σ τ : List Turn) (halone : ∀ t ∈ τ, t.isOf k) (hdeeds : deedsOf k σ = deedsOf k τ)
    (htimes : timesOf k σ = timesOf k τ ∨ ∀ ρ ∈ [σ, τ],
      (((startOn now responses health refusal).playAll x files before).storeAt k).queryTime.Admits
        (timesOf k ρ)) :
    ∃ π : Equiv.Perm Nat, ((startOn now responses health refusal).playAll x files before).Indistinct
      x (x.supplied (x.sessionIds ∘ π)) files k
      ((startOn now responses health refusal).playAll x files before) σ τ := by
  have hproper := (proper_run now [.script responses health refusal]).playAll x files before
  have hsteady : x.Steady files (startOn now responses health refusal).world.transport.network
      (startOn now responses health refusal).world.transport :=
    ⟨fun _ hc => (List.not_mem_nil hc).elim, ⟨rfl, rfl, rfl⟩⟩
  have hsteady := steady_playAll x files hsteady before
  have htime : InStep (timesOf k σ) (timesOf k τ) _ _ :=
    htimes.imp (fun h => ⟨rfl, h⟩) fun h => ⟨h σ (by simp), h τ (by simp)⟩
  obtain ⟨π, hπ⟩ :=
    ((startOn now responses health refusal).playAll x files before).exists_order x files k σ
  exact ⟨π, (paired_self x files hproper hsteady hk _ htime).run halone hdeeds hπ⟩

/-- Two requests. The other gets its session id first, makes the connection that the first then
finds, and clears the registry. -/
theorem requests_are_isolated_of_two :
    let storage : StorageConfig := ⟨"default", "unix:/run/storage.sock", some "secret"⟩
    let x : Client := ⟨⟨(default : ClientConfig).addStorage storage, []⟩, default, .fixed true,
      fun n => s!"session-{n}"⟩
    let c : Call := ⟨"default", "repository", "find", [], .zero, none, id⟩
    let before : List Turn :=
      [.begin .background true .nobody none, .begin .background true .nobody none]
    let p : Process :=
      (startOn .epoch .empty (.ok .serving) fun _ => none).playAll x .empty before
    let second : Duration := .ofSeconds 1
    let σ : List Turn := [.deed 1 .zero (.call 0 c), .deed 0 .zero (.enterFrame 0 "show"),
      .deed 0 .zero (.call 0 c), .clear, .deed 1 .zero (.sessionId 0), .deed 0 second (.call 0 c)]
    let τ : List Turn := [.deed 0 .zero (.enterFrame 0 "show"), .deed 0 second (.call 0 c),
      .deed 0 .zero (.call 0 c)]
    (0 < p.world.stores.length ∧ (∀ t ∈ τ, t.isOf 0) ∧ deedsOf 0 σ = deedsOf 0 τ ∧
      ∀ ρ ∈ [σ, τ], (p.storeAt 0).queryTime.Admits (timesOf 0 ρ)) ∧
      ∃ π : Equiv.Perm Nat, p.Indistinct x (x.supplied (x.sessionIds ∘ π)) .empty 0 p σ τ := by
  intro storage x c before p second σ τ
  have hk : 0 < p.world.stores.length := Nat.zero_lt_succ _
  have halone : ∀ t ∈ τ, t.isOf 0 := by simp [τ, Turn.isOf]
  have htimes : ∀ ρ ∈ [σ, τ], (p.storeAt 0).queryTime.Admits (timesOf 0 ρ) := by
    simp only [List.forall_mem_cons, Duration.Admits]
    exact ⟨by decide, by decide, by simp⟩
  exact ⟨⟨hk, halone, rfl, htimes⟩, requests_are_isolated .epoch .empty (.ok .serving)
    (fun _ => none) x .empty before 0 hk σ τ halone rfl (.inr htimes)⟩

end Requests

end Process

end StorageCalls
