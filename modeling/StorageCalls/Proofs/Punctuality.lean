import StorageCalls.Proofs.Deadlines
import StorageCalls.Proofs.ProcessSound
import StorageCalls.Proofs.SteadyTransport

namespace StorageCalls

open Scenario (Answer)

namespace Operation

/-- The operation makes this call, for this client, in the context of this number. -/
inductive Calls : Operation → Client → Nat → Call → Prop
  | call (x : Client) (files : Files) (elapsed : Duration) (i : Nat) (c : Call) :
      Calls (.call x files elapsed i c) x i c
  | checkHealth (x : Client) (files : Files) (elapsed : Duration) (i : Nat) (storage : String) :
      Calls (.checkHealth x files elapsed i storage) x i (x.healthCall storage)

def interceptors : Operation → List Interceptor
  | .call x .. | .checkHealth x .. => x.interceptors
  | .connectionFor r .. => r.interceptors
  | _ => []

/-- The kinds of request that contexts are for, after one more operation. A branch is of the kind
of the context that it was forked from. -/
def addKinds (kinds : List RequestKind) : Operation → List RequestKind
  | .startRequest kind .. => kinds ++ [kind]
  | .fork i => kinds ++ kinds[i]?.toList
  | _ => kinds

end Operation

namespace Process

variable {α : Type} {p : Process}

def requestKinds (ops : List Operation) : List RequestKind := ops.foldl Operation.addKinds []

/-- What is said of an operation that makes a call with a timeout for a request of this kind. -/
structure Timely (p : Process) (op : Operation) (kind : RequestKind) (timeout : Duration) :
    Prop where
  sent : ∃ sent, (p.perform op).1.invocations = p.invocations ++ sent ∧
    ∀ inv ∈ sent, kind.Admits p.world.now timeout inv.options.deadline
  /-- With no time left, nothing is sent and no connection is made. -/
  late : ∀ limit, kind.deadline = some limit → limit ≤ p.world.now →
    (p.perform op).1.world.transport = p.world.transport ∧
      ((p.perform op).2 = .failed .requestDeadlinePassed ∨
        ∃ overrun, (p.perform op).2 = .failed (.tooManyInvocations overrun))

theorem map_modifyContext {β : Type} {π : RequestContext → β} {f : RequestContext → RequestContext}
    (hf : ∀ ctx, π (f ctx) = π ctx) (w : World) (i : Nat) :
    (w.modifyContext i f).contexts.map π = w.contexts.map π := by
  apply List.ext_getElem?
  intro j
  rw [World.modifyContext, List.getElem?_map, List.getElem?_map, List.getElem?_modify]
  cases w.contexts[j]? with
  | none => rfl
  | some ctx =>
    simp only [Option.map_eq_map, Option.map_some, Option.some.injEq]
    split
    · exact hf ctx
    · rfl

def newContexts (p : Process) : Operation → List RequestContext
  | .startRequest kind tracked caller correlationId =>
    [⟨kind, if tracked then some p.world.stores.length else none, caller, correlationId, .empty⟩]
  | .fork i => (p.world.contexts[i]?).toList
  | _ => []

theorem newContexts_of_isLocal {op : Operation} (h : op.isLocal) : p.newContexts op = [] := by
  cases op with
  | startRequest kind tracked caller correlationId => cases h
  | fork i => cases h
  | _ => rfl

/-- Of a context nothing but its frames ever changes. -/
theorem map_contexts_perform {β : Type} {π : RequestContext → β}
    (henter : ∀ ctx label, π (ctx.enter label) = π ctx)
    (hleave : ∀ ctx id, π (ctx.leave id) = π ctx) (op : Operation) :
    (p.perform op).1.world.contexts.map π = (p.world.contexts ++ p.newContexts op).map π := by
  cases hop : op.isLocal with
  | true => rw [(same_perform hop).1, newContexts_of_isLocal hop, List.append_nil]
  | false =>
    cases op with
    | startRequest kind tracked caller correlationId => rfl
    | fork i =>
      simp only [perform, withContext, newContexts]
      cases p.world.contexts[i]? with
      | none => rw [Option.toList_none, List.append_nil]
      | some ctx => rfl
    | enterFrame i label =>
      simp only [perform, World.enterFrame, keep, newContexts, List.append_nil]
      cases p.world.contexts[i]? with
      | none => rfl
      | some ctx => exact map_modifyContext (henter · label) p.world i
    | enterScope i scope =>
      simp only [perform, withContext, newContexts, List.append_nil]
      cases p.world.contexts[i]? with
      | none => rfl
      | some ctx =>
        simp only [keep, World.enterScope]
        split
        · cases scope <;> rfl
        · rfl
    | drop n =>
      simp only [perform, newContexts, List.append_nil]
      cases p.guards[n]? with
      | none => rfl
      | some g =>
        cases g with
        | frame i id => exact map_modifyContext (hleave · id) p.world i
        | exemption k => rfl
        | refNameCaching k previous => rfl
    | _ => cases hop

theorem kinds_perform (op : Operation) :
    (p.perform op).1.world.contexts.map (·.kind) =
      op.addKinds (p.world.contexts.map (·.kind)) := by
  rw [map_contexts_perform (fun _ _ => rfl) (fun _ _ => rfl), List.map_append]
  cases op with
  | startRequest kind tracked caller correlationId => rfl
  | fork i =>
    simp only [newContexts, Operation.addKinds, List.getElem?_map]
    cases p.world.contexts[i]? <;> rfl
  | _ => exact List.append_nil _

/-- The kind of a context never changes. -/
theorem kinds_run (now : Instant) (ops : List Operation) :
    ((start now).run ops).world.contexts.map (·.kind) = requestKinds ops := by
  have h : ∀ p : Process, (p.run ops).world.contexts.map (·.kind) =
      ops.foldl Operation.addKinds (p.world.contexts.map (·.kind)) := by
    induction ops with
    | nil => exact fun _ => rfl
    | cons op ops ih =>
      intro p
      rw [run_cons, ih, kinds_perform, List.foldl_cons]
  exact h (start now)

/-- Every connection is one of the known, or else it has these interceptors. -/
def KnownOrNew (known : List Connection) (interceptors : List Interceptor) (t : Transport) : Prop :=
  ∀ conn ∈ t.connections, conn ∈ known ∨ conn.interceptors = interceptors

theorem upholds_knownOrNew (r : Registry) (files : Files) (known : List Connection) :
    r.Upholds files (KnownOrNew known r.interceptors) where
  connectionFor service storage t h := by
    rw [Stage.run, Registry.connectionFor]
    split
    · exact h
    · split
      · exact h
      · rw [Registry.connect]
        split
        · exact h
        · intro conn hconn
          obtain hold | hnew := List.mem_append.1 hconn
          · exact h conn hold
          · rw [List.mem_singleton.1 hnew]
            exact .inr rfl
  sent _ _ h := h

theorem transport_within {I : Transport → Prop} {y : RequestContext → Stage CallState α}
    {f : α → Answer} (hy : ∀ ctx, (y ctx).Preserves fun s => I s.transport)
    (h : I p.world.transport) (i : Nat) : I (p.within i y f).1.world.transport := by
  unfold within withContext
  cases p.world.contexts[i]? with
  | none => exact h
  | some ctx => exact hy ctx (p.world.callState ctx) h

theorem connections_perform (op : Operation) :
    KnownOrNew p.world.transport.connections op.interceptors (p.perform op).1.world.transport := by
  have hold : KnownOrNew p.world.transport.connections op.interceptors p.world.transport :=
    fun _ h => .inl h
  have hkeeps : ∀ {α : Type} {y : RequestContext → Stage CallState α} {f : α → Answer} (i : Nat),
      (∀ ctx, (y ctx).Keeps (·.transport)) →
      KnownOrNew p.world.transport.connections op.interceptors
        (p.within i y f).1.world.transport :=
    fun i hy => transport_within (fun ctx => Client.preserves_of_keeps (hy ctx)) hold i
  cases op with
  | call x files elapsed i c =>
    exact transport_within (fun ctx => Client.preserves_call ctx
      (upholds_knownOrNew x.toRegistry files p.world.transport.connections) c) hold i
  | checkHealth x files elapsed i storage =>
    exact transport_within (fun ctx => Client.preserves_checkHealth ctx
      (upholds_knownOrNew x.toRegistry files p.world.transport.connections) storage) hold i
  | connectionFor r files service storage =>
    exact (upholds_knownOrNew r files _).connectionFor service storage p.world.transport hold
  | clear => exact fun _ h => (List.not_mem_nil h).elim
  | enforce x i site => exact hkeeps i fun _ => Client.keeps_transport_onStore _
  | resetCounts i => exact hkeeps i fun _ => Client.keeps_transport_onStore _
  | markQuarantined i => exact hkeeps i fun _ => Client.keeps_transport_onStore _
  | keepDetails i => exact hkeeps i fun _ => Client.keeps_transport_onStore _
  | sessionId x i => exact hkeeps i fun _ => Client.keeps_transport_sessionId
  | startRequest kind tracked caller correlationId => exact hold
  | fork i =>
    simp only [perform, withContext]
    cases p.world.contexts[i]? <;> exact hold
  | enterFrame i label =>
    simp only [perform, World.enterFrame, keep]
    cases p.world.contexts[i]? <;> exact hold
  | enterScope i scope =>
    simp only [perform, withContext]
    cases p.world.contexts[i]? with
    | none => exact hold
    | some ctx =>
      simp only [keep, World.enterScope]
      split
      · cases scope <;> exact hold
      · exact hold
  | drop n =>
    simp only [perform]
    cases p.guards[n]? with
    | none => exact hold
    | some g => cases g <;> exact hold
  | moveClock step =>
    change KnownOrNew _ _ (World.moveClock step p.world).state.transport
    unfold World.moveClock
    split <;> exact hold
  | script responses health refusal => exact hold

/-- Every connection was made by some operation of the run. -/
theorem connections_run (ops : List Operation) :
    ∀ conn ∈ (p.run ops).world.transport.connections,
      conn ∈ p.world.transport.connections ∨ ∃ op ∈ ops, conn.interceptors = op.interceptors := by
  induction ops generalizing p with
  | nil => exact fun _ h => .inl h
  | cons op ops ih =>
    intro conn hconn
    obtain hnext | ⟨op', hop', heq⟩ := ih conn hconn
    · obtain hold | hnew := connections_perform op conn hnext
      · exact .inl hold
      · exact .inr ⟨op, .head _, hnew⟩
    · exact .inr ⟨op', .tail _ hop', heq⟩

variable {x : Client} {env : Surroundings} {ctx : RequestContext} {c : Call} {i : Nat}

theorem timely_of_within {op : Operation} {y : RequestContext → Stage CallState α} {f : α → Answer}
    {g : CallOptions × Connection → Stage CallState α} (hp : p.perform op = p.within i y f)
    (hc : p.world.contexts[i]? = some ctx) (hnow : env.now = p.world.now)
    (hy : y ctx = x.prepare env ctx c >>= g) (hmakes : x.Makes env ctx c (y ctx))
    (ht : c.timeout ≠ .zero) (hm : ∀ o, (c.mutate o).deadline = o.deadline)
    (hi : ∀ j ∈ (x.outlook (p.world.callState ctx)).interceptors c.service c.storage,
      j.KeepsDeadline) : p.Timely op ctx.kind c.timeout := by
  have hq : p.perform op = p.onWorld (World.within ctx (y ctx)) f := by
    rw [hp, within, withContext, hc]
  have hlate : Deadline.hasPassed env.now ctx.kind →
      (p.perform op).1.world.transport = p.world.transport ∧
        ((p.perform op).2 = .failed .requestDeadlinePassed ∨
          ∃ overrun, (p.perform op).2 = .failed (.tooManyInvocations overrun)) := by
    intro hpassed
    obtain ⟨htransport, hresult⟩ := Client.bind_of_expired (x := x) (c := c) (f := g)
      (s := p.world.callState ctx) hpassed
    rw [← hy] at htransport hresult
    have hanswer : (p.perform op).2 =
        .ofResult f ((y ctx).run (p.world.callState ctx)).result := by
      rw [hq]
      rfl
    refine ⟨by rw [hq]; exact htransport, ?_⟩
    rw [hanswer]
    obtain h | ⟨overrun, h⟩ := hresult
    · exact .inl (by rw [h]; rfl)
    · exact .inr ⟨overrun, by rw [h]; rfl⟩
  refine ⟨?_, fun limit hlimit hle => hlate ?_⟩
  · by_cases hpassed : Deadline.hasPassed env.now ctx.kind
    · refine ⟨[], ?_, fun _ h => (List.not_mem_nil h).elim⟩
      rw [invocations, (hlate hpassed).1, List.append_nil]
      rfl
    · obtain ⟨sent, hsent, hlet⟩ := hmakes.sends (p.world.callState ctx)
      refine ⟨sent, by rw [hq]; exact hsent, fun inv hinv => ?_⟩
      obtain rfl | rfl := hlet
      · exact (List.not_mem_nil hinv).elim
      · rw [Client.deadline_of_letThrough hm hi inv hinv, ← hnow]
        exact Deadline.admits_compute ht hpassed
  · rw [hnow]
    exact Deadline.hasPassed_iff.2 ⟨limit, hlimit, hle⟩

/-- Calls and health checks that are sent leave before the deadline of their request and end no
later than it, and without such a deadline just with their timeout. -/
theorem calls_end_in_time (now : Instant) (before : List Operation) {op : Operation}
    {kind : RequestKind} (hcall : op.Calls x i c) (hkind : (requestKinds before)[i]? = some kind)
    (ht : c.timeout ≠ .zero) (hm : ∀ o, (c.mutate o).deadline = o.deadline)
    (hi : ∀ o ∈ before ++ [op], ∀ j ∈ o.interceptors, j.KeepsDeadline) :
    ((start now).run before).Timely op kind c.timeout := by
  rw [← kinds_run now before, List.getElem?_map, Option.map_eq_some_iff] at hkind
  obtain ⟨ctx, hc, rfl⟩ := hkind
  have hx : x.interceptors = op.interceptors := by cases hcall <;> rfl
  have hkeep : ∀ j ∈ (x.outlook (((start now).run before).world.callState ctx)).interceptors
      c.service c.storage, j.KeepsDeadline := by
    intro j hj
    simp only [Client.outlook] at hj
    cases hf : Registry.find? (((start now).run before).world.callState ctx).transport.connections
        c.service c.storage with
    | none =>
      rw [hf] at hj
      exact hi op (by simp) j (hx ▸ hj)
    | some conn =>
      rw [hf] at hj
      obtain hstart | ⟨o, ho, heq⟩ := connections_run before conn (List.mem_of_find?_eq_some hf)
      · exact (List.not_mem_nil hstart).elim
      · exact hi o (List.mem_append_left _ ho) j (heq ▸ hj)
  cases hcall with
  | call _ files elapsed =>
    exact timely_of_within rfl hc rfl (Client.call_eq ..) (x.makes_call _ ctx c) ht hm hkeep
  | checkHealth _ files elapsed _ storage =>
    exact timely_of_within rfl hc rfl (Client.checkHealth_eq ..) (x.makes_checkHealth _ ctx storage)
      ht hm hkeep

/-- A child of a request that ends with the epoch makes the same call a second before the end and at
the end. The first one is sent and has to be back by the end, the second one is not sent. -/
theorem calls_end_in_time_at_epoch :
    let storage : StorageConfig := ⟨"default", "unix:/run/storage.sock", some "secret"⟩
    let x : Client := ⟨⟨(default : ClientConfig).addStorage storage,
      [.tracing, .appending "region" "north"]⟩, default, .fixed true, fun n => s!"session-{n}"⟩
    let c : Call := ⟨"default", "repository", "find", [], .ofSeconds 2, none, id⟩
    let now : Instant := ⟨-1000000000, by decide, by decide⟩
    let op : Operation := .call x .empty .zero 1 c
    let before : List Operation := [.startRequest (.web (some .epoch)) true .nobody none, .fork 0,
      op, .moveClock (.set .epoch)]
    let p := (start now).run before
    (op.Calls x 1 c ∧ (requestKinds (before.take 2))[1]? = some (.web (some .epoch)) ∧
      (requestKinds before)[1]? = some (.web (some .epoch)) ∧ c.timeout ≠ .zero ∧
      (∀ o, (c.mutate o).deadline = o.deadline) ∧
      (∀ o ∈ before ++ [op], ∀ j ∈ o.interceptors, j.KeepsDeadline)) ∧
    ((start now).run (before.take 2)).Timely op (.web (some .epoch)) c.timeout ∧
      p.Timely op (.web (some .epoch)) c.timeout ∧
      (p.perform op).1.invocations.map (·.options.deadline) = [some .epoch] := by
  intro storage x c now op before p
  have hcall : op.Calls x 1 c := .call ..
  have ht : c.timeout ≠ .zero := by decide
  have hm : ∀ o, (c.mutate o).deadline = o.deadline := fun _ => rfl
  have hx : ∀ j ∈ x.interceptors, j.KeepsDeadline := by
    simp [x, Interceptor.keepsDeadline_tracing, Interceptor.keepsDeadline_appending]
  have hi : ∀ o ∈ before ++ [op], ∀ j ∈ o.interceptors, j.KeepsDeadline := by
    simpa [before, op, Operation.interceptors] using hx
  have hi' : ∀ o ∈ before.take 2 ++ [op], ∀ j ∈ o.interceptors, j.KeepsDeadline := by
    simpa [before, op, Operation.interceptors] using hx
  exact ⟨⟨hcall, rfl, rfl, ht, hm, hi⟩, calls_end_in_time now (before.take 2) hcall rfl ht hm hi',
    calls_end_in_time now before hcall rfl ht hm hi, by decide +kernel⟩

end Process

end StorageCalls
