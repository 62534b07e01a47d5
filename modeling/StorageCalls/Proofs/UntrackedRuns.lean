import StorageCalls.Proofs.RequestSessions
import StorageCalls.Proofs.UntrackedSteps

namespace StorageCalls

namespace Process

variable {limit : Nat} {p q : Process} {op op' : Operation} {i : Nat}
  {ops : List Operation} {ids : Nat → String}

/-- How long the calls of a run wait for answers, in ticks. -/
def spent (ops : List Operation) : Nat := (ops.map Operation.spent).sum

theorem Mirrors.run (h : Mirrors limit p q) (hops : ∀ op ∈ ops, op.Neutral) :
    Mirrors (limit + spent ops) (p.run ops) (q.run (p.twins ops)) := by
  induction ops generalizing limit p q with
  | nil => exact h
  | cons op ops ih =>
    have hnext := ih (h.follow (hops op (.head _))) fun op' hop' => hops op' (.tail _ hop')
    rw [Nat.add_assoc] at hnext
    rw [run_cons, twins, run_append]
    exact hnext

theorem Mirrors.origin_twins (h : Mirrors limit p q) (hops : ∀ op ∈ ops, op.Neutral) :
    ∀ d ∈ q.allDeliveries (p.twins ops), d.origin = none := by
  induction ops generalizing limit p q with
  | nil => exact fun _ hd => absurd hd List.not_mem_nil
  | cons op ops ih =>
    have hop := hops op (.head _)
    have hnext := ih (h.follow hop) fun op' hop' => hops op' (.tail _ hop')
    rw [twins]
    cases ht : p.twin op with
    | none =>
      rw [ht] at hnext
      exact hnext
    | some op' =>
      -- the twin works in a context that has no store, like all contexts there
      rw [ht] at hnext
      intro d hd
      obtain hfirst | hrest := List.mem_append.1 hd
      · obtain ⟨inv, -, rfl⟩ := List.mem_map.1 hfirst
        rw [originOf, Option.bind_eq_none_iff]
        intro ctx hctx
        obtain ⟨i, -, hi⟩ := Option.bind_eq_some_iff.1 hctx
        rw [h.context_eq] at hi
        obtain ⟨old, -, rfl⟩ := Option.map_eq_some_iff.1 hi
        rfl
      · exact hnext d hrest

theorem leavesSessions_twin (hop : op.LeavesSessions ids) (ht : p.twin op = some op') :
    op'.LeavesSessions ids := by
  cases op with
  | startRequest kind tracked caller correlationId =>
    cases ht
    exact .of_no_client rfl rfl
  | drop n =>
    simp only [twin] at ht
    split at ht
    · cases ht
      exact .of_no_client rfl rfl
    · cases ht
  | _ =>
    cases ht
    exact hop

theorem leavesSessions_twins (hops : ∀ op ∈ ops, op.LeavesSessions ids) :
    ∀ op' ∈ p.twins ops, op'.LeavesSessions ids := by
  induction ops generalizing p with
  | nil => exact fun _ hop' => absurd hop' List.not_mem_nil
  | cons op ops ih =>
    intro op' hop'
    obtain hfirst | hrest := List.mem_append.1 hop'
    · exact leavesSessions_twin (hops op (.head _)) (Option.mem_toList.1 hfirst)
    · exact ih (fun o ho => hops o (.tail _ ho)) op' hrest

end Process

namespace World

variable (w : World) (ctx : RequestContext)

def requestCount : Nat := (w.store? ctx).elim 0 (·.actualTotal)

def enforcedRequestCount : Nat := (w.store? ctx).elim 0 (·.enforcedTotal)

def actualCount (site : String) : Nat := (w.store? ctx).elim 0 (·.actualCount site)

def enforcedCount (site : String) : Nat := (w.store? ctx).elim 0 (·.enforcedCount site)

def maxCallStacks : Nat × List String := (w.store? ctx).elim (0, []) (·.worstStacks)

/-- Nothing is accounted for in a context. -/
structure Uncounted : Prop where
  requests : w.requestCount ctx = 0
  enforcedRequests : w.enforcedRequestCount ctx = 0
  actual : ∀ site, w.actualCount ctx site = 0
  enforced : ∀ site, w.enforcedCount ctx site = 0
  worst : w.maxCallStacks ctx = (0, [])

variable {w ctx}

theorem uncounted_of_untracked (h : ctx.store = none) : w.Uncounted ctx := by
  have hstore : w.store? ctx = none := by rw [store?, h, Option.bind_none]
  constructor
  · rw [requestCount, hstore, Option.elim_none]
  · rw [enforcedRequestCount, hstore, Option.elim_none]
  · intro site
    rw [actualCount, hstore, Option.elim_none]
  · intro site
    rw [enforcedCount, hstore, Option.elim_none]
  · rw [maxCallStacks, hstore, Option.elim_none]

end World

namespace Process

/-- What is said of a context that is not tracked: nothing is accounted for in it, and nothing that
is done in it is refused for being above the ceiling. -/
structure Unaccounted (p : Process) (i : Nat) : Prop where
  uncounted : ∃ ctx, p.world.contexts[i]? = some ctx ∧ ctx.store = none ∧ p.world.Uncounted ctx
  admitted : ∀ op : Operation, op.context? = some i → (p.perform op).2.overrun? = none

/-- What is said of the session ids of a run, next to those of the run in which nothing is tracked:
the first are one for each store, the second are all different. -/
structure SessionsDiffer (now : Instant) (ops : List Operation) : Prop where
  complete : ((start now).run ops).invocations = ((start now).allDeliveries ops).map (·.sent)
  constant : ∀ d ∈ (start now).allDeliveries ops, ∀ e ∈ (start now).allDeliveries ops, ∀ k,
    d.origin = some k → e.origin = some k → d.session = e.session
  carried : ∀ inv ∈ ((start now).run ((start now).twins ops)).invocations,
    inv.options.session.isSome
  fresh : ((start now).run ((start now).twins ops)).invocations.Pairwise fun a b =>
    a.options.session ≠ b.options.session

/-- What is said of a run next to the one in which nothing is tracked. -/
structure Transparent (now : Instant) (ops : List Operation) : Prop where
  connections : ((start now).run ((start now).twins ops)).world.transport.connections =
    ((start now).run ops).world.transport.connections
  builds : ((start now).run ((start now).twins ops)).world.transport.network.builds =
    ((start now).run ops).world.transport.network.builds
  sent : ((start now).run ((start now).twins ops)).invocations.map (·.anonymous) =
    ((start now).run ops).invocations.map (·.anonymous)
  /-- There are the same contexts, with the same frames. -/
  contexts : ((start now).run ((start now).twins ops)).world.contexts =
    ((start now).run ops).world.contexts.map (·.untracked)
  answers : ∀ op op' : Operation, op.Neutral → ((start now).run ops).twin op = some op' →
    (((start now).run ops).perform op).2.Matches (spent (ops ++ [op]))
      (((start now).run ((start now).twins ops)).perform op').2
  /-- As long as no session id is given out twice, and nobody changes those of calls. -/
  sessions : ∀ ids : Nat → String, Function.Injective ids →
    (∀ op ∈ ops, op.LeavesSessions ids) → SessionsDiffer now ops

variable {p : Process} {i : Nat} {ops : List Operation} {ids : Nat → String}

theorem untracked_run (ops : List Operation)
    (h : (p.world.contexts.map (·.store))[i]? = some none) :
    ((p.run ops).world.contexts.map (·.store))[i]? = some none := by
  induction ops generalizing p with
  | nil => exact h
  | cons op ops ih =>
    apply ih
    obtain ⟨hi, -⟩ := List.getElem?_eq_some_iff.1 h
    rw [map_contexts_perform (fun _ _ => rfl) (fun _ _ => rfl), List.map_append,
      List.getElem?_append_left hi]
    exact h

/-- Whatever clients do, with whatever policy, in a context that is not tracked. -/
theorem unaccounted_of_untracked (h : (p.world.contexts.map (·.store))[i]? = some none) :
    p.Unaccounted i := by
  rw [List.getElem?_map, Option.map_eq_some_iff] at h
  obtain ⟨ctx, hctx, hstore⟩ := h
  refine ⟨⟨ctx, hctx, hstore, World.uncounted_of_untracked hstore⟩, fun op hi => ?_⟩
  cases ho : op.accounted? with
  | none => rw [overrun?_perform, ho, Option.bind_none]
  | some a =>
    obtain ⟨x, j, site⟩ := a
    obtain rfl : j = i := by cases op <;> cases ho <;> exact Option.some.inj hi
    exact overrun?_perform_untracked ho hctx hstore

theorem sessionsDiffer (now : Instant) (hops : ∀ op ∈ ops, op.Neutral)
    (hids : Function.Injective ids) (hleaves : ∀ op ∈ ops, op.LeavesSessions ids) :
    SessionsDiffer now ops := by
  have hs := sound_start now
  have hl : (start now).LeavesSessions := fun conn hconn => absurd hconn List.not_mem_nil
  have horderly := (Orderly.start now).run hids hs hl hleaves
  have htwins := (Orderly.start now).run hids hs hl
    (leavesSessions_twins (p := start now) hleaves)
  have horigin := (Mirrors.start now).origin_twins hops
  rw [List.nil_append] at horderly htwins
  refine ⟨invocations_allDeliveries hs ops, fun d hd e he k hk hk' => ?_, fun inv hinv => ?_, ?_⟩
  · obtain ⟨id, hsession, hid⟩ := horderly.tracked d hd k hk
    obtain ⟨id', hsession', hid'⟩ := horderly.tracked e he k hk'
    rw [hsession, hsession', ← hid, hid']
  · rw [invocations_allDeliveries hs] at hinv
    obtain ⟨d, hd, rfl⟩ := List.mem_map.1 hinv
    obtain ⟨n, -, hsession, -⟩ := htwins.untracked d hd (horigin d hd)
    exact Option.isSome_iff_exists.2 ⟨_, hsession⟩
  · rw [invocations_allDeliveries hs]
    apply List.pairwise_map.2
    exact htwins.alone.imp_of_mem fun hd he hne => hne (horigin _ hd) (horigin _ he)

/-- Accounting is transparent: where it is off, a run comes to the same with and without it, and
where there is no store it never comes to anything. -/
theorem accounting_is_transparent (now : Instant) (ops : List Operation)
    (hops : ∀ op ∈ ops, op.Neutral) :
    Transparent now ops ∧ ∀ before i ctx,
      ((start now).run before).world.contexts[i]? = some ctx → ctx.store = none →
        ∀ after, ((start now).run (before ++ after)).Unaccounted i := by
  have hm := (Mirrors.start now).run hops
  rw [Nat.zero_add] at hm
  obtain ⟨hconnections, hnetwork⟩ := Transport.mk.inj hm.transport
  obtain ⟨hbuilds, hsent, -, -, -⟩ := Network.mk.inj hnetwork
  refine ⟨⟨hconnections.symm, hbuilds.symm, hsent.symm, hm.contexts, fun op op' hop ht => ?_,
    fun ids hids hleaves => sessionsDiffer now hops hids hleaves⟩,
    fun before i ctx hctx hstore after => ?_⟩
  · have hspent : spent (ops ++ [op]) = spent ops + op.spent := by
      simp only [spent, List.map_append, List.map_singleton, List.sum_append, List.sum_singleton]
    rw [hspent]
    exact (hm.perform hop ht).answer
  · apply unaccounted_of_untracked
    rw [run_append]
    apply untracked_run
    rw [List.getElem?_map, hctx, Option.map_some, hstore]

/-- A request with an exemption and a frame, three calls and a health check; and fifty calls in a
request that is not tracked, of a client that enforces limits. -/
theorem accounting_is_transparent_of_one_request :
    let ids : Nat → String := fun n => String.ofList (List.replicate (n + 1) 'x')
    let storage : StorageConfig := ⟨"default", "unix:/run/storage.sock", some "secret"⟩
    let x (enforcing : Bool) : Client := ⟨⟨(default : ClientConfig).addStorage storage,
      [.tracing, .appending "region" "north"]⟩, default, .fixed enforcing, ids⟩
    let call (enforcing : Bool) : Operation :=
      .call (x enforcing) .empty .zero 0 ⟨"default", "repository", "find", [], .zero, none, id⟩
    let ops : List Operation := [.startRequest .background true .nobody none,
      .enterScope 0 .exemption, .enterFrame 0 "Commits#show", call false, .drop 0, call false,
      .checkHealth (x false) .empty .zero 0 "default", .drop 0, call false]
    let apart : Operation := .startRequest .background false .nobody none
    (∀ op ∈ ops, op.Neutral) ∧ Transparent .epoch ops ∧
      ((start .epoch).run ([apart] ++ List.replicate 50 (call true))).Unaccounted 0 ∧
      ((start .epoch).run ops).invocations.map (·.options.session) =
        [some "x", some "x", some "x", some "x"] ∧
      ((start .epoch).run ((start .epoch).twins ops)).invocations.map (·.options.session) =
        [some "x", some "xx", some "xxx", some "xxxx"] := by
  intro ids storage x call ops apart
  have hx : ∀ j ∈ (x false).interceptors, j.Blind := by
    simp [x, Interceptor.blind_tracing, Interceptor.blind_appending]
  have hcall : (call false).Neutral :=
    ⟨by rintro _ ⟨⟩; rfl, by simp [call], by rintro _ _ _ ⟨⟩ _ _ h; exact h, hx⟩
  have hcheck : (Operation.checkHealth (x false) .empty .zero 0 "default").Neutral :=
    ⟨by rintro _ ⟨⟩; rfl, by simp, by rintro _ _ _ ⟨⟩ _ _ h; exact h, hx⟩
  have hops : ∀ op ∈ ops, op.Neutral := by
    simp only [ops, List.forall_mem_cons]
    exact ⟨.of_no_client rfl rfl (by simp), .of_no_client rfl rfl (by simp),
      .of_no_client rfl rfl (by simp), hcall, .of_no_client rfl rfl (by simp), hcall, hcheck,
      .of_no_client rfl rfl (by simp), hcall, by simp⟩
  obtain ⟨htransparent, hunaccounted⟩ := accounting_is_transparent .epoch ops hops
  exact ⟨hops, htransparent, hunaccounted [apart] 0 _ rfl rfl _, by decide +kernel,
    by decide +kernel⟩

end Process

end StorageCalls
