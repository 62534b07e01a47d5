import StorageCalls.Proofs.LimitedRuns
import StorageCalls.Proofs.MirroredCalls
import StorageCalls.Proofs.Positions

namespace StorageCalls

open Scenario (Answer)

def Guard.isFrame : Guard → Bool
  | .frame _ _ => true
  | _ => false

def RequestContext.untracked (ctx : RequestContext) : RequestContext := { ctx with store := none }

/-- What is answered in a run in which requests are tracked, next to what is answered in the run in
which none is. Only session ids differ. A response is lost if the calls took too long to be added
up. -/
inductive Scenario.Answer.Matches (spent : Nat) : Answer → Answer → Prop
  | same (a : Answer) : Matches spent a a
  | session (id id' : String) : Matches spent (.session id) (.session id')
  | lost (response : Bytes) (h : Duration.tooManyTicks ≤ spent) :
      Matches spent (.failed .timeOverflow) (.response response)

namespace Operation

def spent : Operation → Nat
  | .call _ _ elapsed _ _ => elapsed.ticks
  | _ => 0

/-- The operation enforces no limits, puts nothing in quarantine, and brings nothing along that
looks at session ids. -/
structure Neutral (op : Operation) : Prop where
  off : op.Enforces false
  unquarantined : ∀ i, op ≠ .markQuarantined i
  mutate : ∀ x i c, op.Calls x i c → CallOptions.BlindChange c.mutate
  interceptors : ∀ j ∈ op.interceptors, j.Blind

theorem Neutral.of_no_client {op : Operation} (hc : op.client? = none) (hi : op.interceptors = [])
    (hq : ∀ i, op ≠ .markQuarantined i) : op.Neutral where
  off x hx := by
    rw [hc] at hx
    cases hx
  unquarantined := hq
  mutate x i c hcalls := by cases hcalls <;> cases hc
  interceptors j hj := by
    rw [hi] at hj
    exact absurd hj List.not_mem_nil

end Operation

namespace Process

/-- The same operation where no request is tracked. There are no scopes there, and so none to drop,
and guards have the numbers that they have among those of frames. -/
def twin (p : Process) : Operation → Option Operation
  | .startRequest kind _ caller correlationId =>
    some (.startRequest kind false caller correlationId)
  | .drop n =>
    match p.guards[n]? with
    | some (.frame _ _) => some (.drop ((p.guards.take n).filter Guard.isFrame).length)
    | _ => none
  | op => some op

def twins (p : Process) : List Operation → List Operation
  | [] => []
  | op :: ops => (p.twin op).toList ++ (p.perform op).1.twins ops

/-- The process in which requests are tracked, next to the one in which none is. -/
structure Mirrors (limit : Nat) (p q : Process) : Prop where
  now : q.world.now = p.world.now
  contexts : q.world.contexts = p.world.contexts.map (·.untracked)
  guards : q.guards = p.guards.filter Guard.isFrame
  plain : ∀ s ∈ p.world.stores, s.Plain limit
  transport : p.world.transport.anonymous = q.world.transport.anonymous
  blind : ∀ conn ∈ p.world.transport.connections, conn.Blind

/-- What is said of an operation next to its twin. -/
structure Alike (limit : Nat) (r r' : Process × Answer) : Prop where
  state : Mirrors limit r.1 r'.1
  answer : r.2.Matches limit r'.2

variable {α : Type} {limit later i : Nat} {p q : Process} {op op' : Operation}
  {ctx : RequestContext}

theorem matches_ofResult {Q : α → α → Prop} {f : α → Answer} {r r' : Except CallError α}
    (hf : ∀ a b, Q a b → (f a).Matches limit (f b)) (h : Pair.Related Q r r') :
    (Answer.ofResult f r).Matches limit (.ofResult f r') := by
  cases r with
  | ok a =>
    obtain ⟨b, rfl, hQ⟩ := h.of_ok
    exact hf a b hQ
  | error e =>
    rw [h.of_error]
    exact .same _

theorem filter_keep (p : Process) (taken : Option Guard) {gs : List Guard}
    (h : gs = p.guards.filter Guard.isFrame) :
    gs ++ (taken.filter Guard.isFrame).toList =
      (p.guards ++ taken.toList).filter Guard.isFrame := by
  rw [List.filter_append, h]
  cases taken with
  | none => rfl
  | some g => cases g <;> rfl

namespace Mirrors

theorem start (now : Instant) : Mirrors 0 (start now) (start now) where
  now := rfl
  contexts := rfl
  guards := rfl
  plain _ hs := absurd hs List.not_mem_nil
  transport := rfl
  blind _ hconn := absurd hconn List.not_mem_nil

theorem mono (h : Mirrors limit p q) (hle : limit ≤ later) : Mirrors later p q :=
  { h with plain := fun s hs => (h.plain s hs).mono hle }

variable (h : Mirrors limit p q)

include h

theorem callState (ctx : RequestContext) :
    (p.world.callState ctx).Mirrors limit (q.world.callState ctx.untracked) where
  untracked := rfl
  plain store hstore := by
    obtain ⟨k, -, hk⟩ := Option.bind_eq_some_iff.1 hstore
    exact h.plain store (List.mem_of_getElem? hk)
  transport := h.transport
  blind := h.blind

theorem absorb {s s' : CallState} (hs : s.Mirrors later s') (hle : limit ≤ later) :
    Mirrors later { p with world := p.world.absorb ctx s }
      { q with world := q.world.absorb ctx.untracked s' } where
  now := h.now
  contexts := h.contexts
  guards := h.guards
  plain store hstore := by
    simp only [World.absorb] at hstore
    split at hstore
    · next hnew =>
      obtain hold | rfl := List.mem_or_eq_of_mem_set hstore
      · exact (h.plain store hold).mono hle
      · exact hs.plain _ hnew
    · exact (h.plain store hstore).mono hle
  transport := hs.transport
  blind := hs.blind

theorem context_eq (i : Nat) : q.world.contexts[i]? = (p.world.contexts[i]?).map (·.untracked) := by
  rw [h.contexts, List.getElem?_map]

theorem within {y : RequestContext → Stage CallState α} {f : α → Answer}
    (hy : ∀ ctx, y ctx.untracked = y ctx) (hle : limit ≤ later)
    (hstep : ∀ ctx s s', s.Mirrors limit s' →
      ((y ctx).run s).state.Mirrors later ((y ctx).run s').state ∧
        (Answer.ofResult f ((y ctx).run s).result).Matches later
          (.ofResult f ((y ctx).run s').result)) (i : Nat) :
    Alike later (p.within i y f) (q.within i y f) := by
  unfold Process.within withContext
  rw [h.context_eq]
  cases p.world.contexts[i]? with
  | none => exact ⟨h.mono hle, .same _⟩
  | some ctx =>
    obtain ⟨hstate, hanswer⟩ := hstep ctx _ _ (h.callState ctx)
    rw [Option.map_some]
    simp only [hy]
    exact ⟨h.absorb hstate hle, hanswer⟩

theorem within_of_mirrored {Q : α → α → Prop} {y : RequestContext → Stage CallState α}
    {f : α → Answer} (hy : ∀ ctx, y ctx.untracked = y ctx)
    (hm : ∀ ctx, Stage.Mirrored Q (y ctx) (y ctx))
    (hf : ∀ a b, Q a b → (f a).Matches limit (f b)) (i : Nat) :
    Alike limit (p.within i y f) (q.within i y f) := by
  apply h.within hy (Nat.le_refl _)
  intro ctx s s' hs
  obtain ⟨hstate, hresult⟩ := hm ctx limit s s' hs
  exact ⟨hstate, matches_ofResult hf hresult⟩

theorem transported {Q : α → α → Prop} {y : Stage Transport α} {f : α → Answer}
    (hm : Stage.Mirrored Q (onTransport y) (onTransport y))
    (hf : ∀ a b, Q a b → (f a).Matches limit (f b)) :
    Alike limit (p.onWorld (World.transported y) f) (q.onWorld (World.transported y) f) := by
  have hs : CallState.Mirrors limit ⟨none, 0, p.world.transport⟩ ⟨none, 0, q.world.transport⟩ :=
    ⟨rfl, fun _ hstore => absurd hstore (Option.not_mem_none _), h.transport, h.blind⟩
  obtain ⟨hstate, hresult⟩ := hm limit _ _ hs
  exact ⟨⟨h.now, h.contexts, h.guards, h.plain, hstate.transport, hstate.blind⟩,
    matches_ofResult hf hresult⟩

theorem of_parts {p' q' : Process} (hnow : p'.world.now = p.world.now)
    (hnow' : q'.world.now = q.world.now) (htransport : p'.world.transport = p.world.transport)
    (htransport' : q'.world.transport = q.world.transport)
    (hcontexts : q'.world.contexts = p'.world.contexts.map (·.untracked))
    (hguards : q'.guards = p'.guards.filter Guard.isFrame)
    (hplain : ∀ s ∈ p'.world.stores, s.Plain limit) : Mirrors limit p' q' where
  now := by rw [hnow, hnow', h.now]
  contexts := hcontexts
  guards := hguards
  plain := hplain
  transport := by rw [htransport, htransport', h.transport]
  blind := htransport ▸ h.blind

theorem contexts_modify {f : RequestContext → RequestContext}
    (hf : ∀ ctx : RequestContext, f ctx.untracked = (f ctx).untracked) (i : Nat) :
    (q.world.modifyContext i f).contexts =
      (p.world.modifyContext i f).contexts.map (·.untracked) := by
  apply List.ext_getElem?
  intro j
  rw [World.modifyContext, World.modifyContext, List.getElem?_map, List.getElem?_modify,
    List.getElem?_modify, h.context_eq]
  cases p.world.contexts[j]? with
  | none => rfl
  | some ctx => by_cases hij : i = j <;> simp [hij, hf]

theorem stores_modify {f : RequestStore → RequestStore}
    (hf : ∀ s, RequestStore.Plain limit s → (f s).Plain limit) (k : Nat) :
    ∀ s ∈ (p.world.modifyStore k f).stores, s.Plain limit := by
  intro s hs
  obtain ⟨j, hj⟩ := List.mem_iff_getElem?.1 hs
  rw [World.modifyStore, List.getElem?_modify] at hj
  obtain ⟨old, hold, rfl⟩ := Option.map_eq_some_iff.1 hj
  have hplain := h.plain old (List.mem_of_getElem? hold)
  split
  · exact hf old hplain
  · exact hplain

theorem startRequest (kind : RequestKind) (tracked : Bool) (caller : Caller)
    (correlationId : Option String) :
    Alike limit (p.perform (.startRequest kind tracked caller correlationId))
      (q.perform (.startRequest kind false caller correlationId)) := by
  refine ⟨h.of_parts rfl rfl rfl rfl ?_ h.guards ?_, .same _⟩
  · simp only [perform, World.startRequest, h.contexts, List.map_append, List.map_singleton]
    rfl
  · intro s hs
    simp only [perform, World.startRequest] at hs
    split at hs
    · obtain hold | hnew := List.mem_append.1 hs
      · exact h.plain s hold
      · rw [List.mem_singleton.1 hnew]
        exact ⟨rfl, Nat.zero_le _⟩
    · exact h.plain s hs

theorem fork (i : Nat) : Alike limit (p.perform (.fork i)) (q.perform (.fork i)) := by
  simp only [perform, withContext]
  rw [h.context_eq]
  cases p.world.contexts[i]? with
  | none => exact ⟨h, .same _⟩
  | some ctx =>
    refine ⟨h.of_parts rfl rfl rfl rfl ?_ h.guards h.plain, .same _⟩
    simp only [World.fork, h.contexts, Option.map_some, List.map_append, List.map_singleton]
    rfl

theorem enterFrame (i : Nat) (label : String) :
    Alike limit (p.perform (.enterFrame i label)) (q.perform (.enterFrame i label)) := by
  have hcontexts := h.contexts_modify (f := (·.enter label)) (fun _ => rfl) i
  simp only [perform, World.enterFrame]
  rw [h.context_eq]
  cases p.world.contexts[i]? with
  | none =>
    have hguards := filter_keep p none h.guards
    exact ⟨h.of_parts rfl rfl rfl rfl h.contexts hguards h.plain, .same _⟩
  | some ctx =>
    have hguards := filter_keep p (some (.frame i ctx.frames.next)) h.guards
    exact ⟨h.of_parts rfl rfl rfl rfl hcontexts hguards h.plain, .same _⟩

theorem enterScope (i : Nat) (scope : Scope) :
    Alike limit (p.perform (.enterScope i scope)) (q.perform (.enterScope i scope)) := by
  simp only [perform, withContext]
  rw [h.context_eq]
  cases p.world.contexts[i]? with
  | none => exact ⟨h, .same _⟩
  | some ctx =>
    have hright : q.world.enterScope ctx.untracked scope = (q.world, none) :=
      enterScope_untracked rfl scope
    rw [Option.map_some]
    simp only [hright, keep]
    refine ⟨?_, .same _⟩
    simp only [World.enterScope]
    split
    · next k store _ _ =>
      cases scope with
      | exemption =>
        have hguards := filter_keep p (some (.exemption k)) h.guards
        have hplain := h.stores_modify (f := (·.beginExemption)) (fun _ hs => ⟨hs.1, hs.2⟩) k
        exact h.of_parts rfl rfl rfl rfl h.contexts hguards hplain
      | refNameCaching allowed =>
        have hguards := filter_keep p (some (.refNameCaching k store.refNameCaching)) h.guards
        have hplain := h.stores_modify (f := (·.setRefNameCaching allowed))
          (fun _ hs => ⟨hs.1, hs.2⟩) k
        exact h.of_parts rfl rfl rfl rfl h.contexts hguards hplain
    · exact h.of_parts rfl rfl rfl rfl h.contexts (filter_keep p none h.guards) h.plain

theorem drop_scope {n : Nat} {g : Guard} (hg : p.guards[n]? = some g) (hscope : g.isFrame = false) :
    Mirrors limit (p.perform (.drop n)).1 q := by
  have hguards := filter_eraseIdx_of_dropped hg hscope
  rw [← h.guards] at hguards
  simp only [perform, hg]
  cases g with
  | frame j id => cases hscope
  | exemption k =>
    have hplain := h.stores_modify (f := (·.endExemption)) (fun _ hs => ⟨hs.1, hs.2⟩) k
    exact h.of_parts rfl rfl rfl rfl h.contexts hguards.symm hplain
  | refNameCaching k previous =>
    have hplain := h.stores_modify (f := (·.setRefNameCaching previous))
      (fun _ hs => ⟨hs.1, hs.2⟩) k
    exact h.of_parts rfl rfl rfl rfl h.contexts hguards.symm hplain

theorem drop_frame {n j id : Nat} (hg : p.guards[n]? = some (.frame j id)) :
    Alike limit (p.perform (.drop n))
      (q.perform (.drop ((p.guards.take n).filter Guard.isFrame).length)) := by
  obtain ⟨hfound, herased⟩ := filter_eraseIdx_of_kept (f := Guard.isFrame) hg rfl
  rw [← h.guards] at hfound herased
  simp only [perform, hg, hfound]
  have hcontexts := h.contexts_modify (f := (·.leave id)) (fun _ => rfl) j
  exact ⟨h.of_parts rfl rfl rfl rfl hcontexts herased h.plain, .same _⟩

theorem moveClock (step : ClockStep) :
    Alike limit (p.perform (.moveClock step)) (q.perform (.moveClock step)) := by
  simp only [perform, onWorld, Stage.run, World.moveClock, h.now]
  cases step.next? p.world.now with
  | none => exact ⟨h, .same _⟩
  | some now => exact ⟨{ h with now := rfl }, .same _⟩

theorem script (responses : Table (Except Status Bytes)) (health : Except Status HealthStatus)
    (refusal : ChannelTarget → Option String) :
    Alike limit (p.perform (.script responses health refusal))
      (q.perform (.script responses health refusal)) := by
  obtain ⟨hconnections, hnetwork⟩ := Transport.mk.inj h.transport
  obtain ⟨hbuilds, hsent, -, -, -⟩ := Network.mk.inj hnetwork
  refine ⟨⟨h.now, h.contexts, h.guards, h.plain, ?_, h.blind⟩, .same _⟩
  simp only [perform, Transport.anonymous, Network.anonymous, hconnections, hbuilds, hsent]

theorem call {x : Client} {c : Call} (files : Files) (elapsed : Duration)
    (hoff : x.isEnforcing = false) (hx : ∀ j ∈ x.interceptors, j.Blind)
    (hm : CallOptions.BlindChange c.mutate) (i : Nat) :
    Alike (limit + elapsed.ticks) (p.perform (.call x files elapsed i c))
      (q.perform (.call x files elapsed i c)) := by
  simp only [perform, surroundings, h.now]
  refine h.within (fun _ => rfl) (Nat.le_add_right _ _) (fun ctx s s' hs => ?_) i
  obtain ⟨hstate, hresult⟩ :=
    Client.mirrors_call ⟨p.world.now, files, elapsed⟩ ctx hoff hx hm hs
  refine ⟨hstate, ?_⟩
  obtain heq | ⟨hlost, ⟨response, hresponse⟩, hover⟩ := hresult
  · rw [heq]
    exact .same _
  · rw [hlost, hresponse]
    exact .lost response hover

theorem perform (hop : op.Neutral) (ht : p.twin op = some op') :
    Alike (limit + op.spent) (p.perform op) (q.perform op') := by
  have heq {β : Type} (f : β → Answer) : ∀ a b, a = b → (f a).Matches limit (f b) := by
    rintro a _ rfl
    exact .same _
  cases op with
  | startRequest kind tracked caller correlationId =>
    cases ht
    exact h.startRequest ..
  | fork i =>
    cases ht
    exact h.fork i
  | enterFrame i label =>
    cases ht
    exact h.enterFrame i label
  | enterScope i scope =>
    cases ht
    exact h.enterScope i scope
  | drop n =>
    simp only [twin] at ht
    split at ht
    · next hg =>
      cases ht
      exact h.drop_frame hg
    · cases ht
  | enforce x i site =>
    cases ht
    exact h.within_of_mirrored (fun _ => rfl)
      (fun ctx => x.mirrored_enforce ctx (hop.off x rfl) site) (heq _) i
  | resetCounts i =>
    cases ht
    have hm : Stage.Mirrored Eq (onStore Budget.resetCounts) (onStore Budget.resetCounts) :=
      .onStore (fun _ _ hs => ⟨hs.1, hs.2⟩) fun _ => rfl
    exact h.within_of_mirrored (fun _ => rfl) (fun _ => hm) (heq _) i
  | markQuarantined i => exact absurd rfl (hop.unquarantined i)
  | keepDetails i =>
    cases ht
    have hm : Stage.Mirrored Eq (onStore (.update (·.keepDetails)))
        (onStore (.update (·.keepDetails))) :=
      .onStore (fun _ _ hs => ⟨hs.1, hs.2⟩) fun _ => rfl
    exact h.within_of_mirrored (fun _ => rfl) (fun _ => hm) (heq _) i
  | sessionId x i =>
    cases ht
    exact h.within_of_mirrored (fun _ => rfl) (fun _ => x.mirrored_sessionId)
      (fun id id' _ => .session id id') i
  | call x files elapsed i c =>
    cases ht
    exact h.call files elapsed (hop.off x rfl) hop.interceptors (hop.mutate x i c (.call ..)) i
  | checkHealth x files elapsed i storage =>
    cases ht
    simp only [Process.perform, surroundings, h.now]
    have hm (ctx : RequestContext) :=
      Client.mirrored_checkHealth ⟨p.world.now, files, elapsed⟩ ctx (hop.off x rfl)
        hop.interceptors storage
    exact h.within_of_mirrored (fun _ => rfl) hm (heq _) i
  | connectionFor r files service storage =>
    cases ht
    apply h.transported (r.mirrored_connectionFor files service storage hop.interceptors)
    rintro conn _ ⟨rfl, -⟩
    exact .same _
  | clear =>
    cases ht
    apply h.transported (Q := Eq) (.onTransport fun t t' ht _ => ?_) (heq _)
    exact ⟨congrArg (fun u : Transport => { u with connections := [] }) ht,
      fun _ hconn => absurd hconn List.not_mem_nil, rfl⟩
  | moveClock step =>
    cases ht
    exact h.moveClock step
  | script responses health refusal =>
    cases ht
    exact h.script responses health refusal

/-- Each operation, with its twin or without one, takes both processes along. -/
theorem follow (hop : op.Neutral) :
    Mirrors (limit + op.spent) (p.perform op).1 (q.run (p.twin op).toList) := by
  cases ht : p.twin op with
  | some op' => exact (h.perform hop ht).state
  | none =>
    -- only guards that are not taken on the other side have no twin that drops them
    cases op with
    | drop n =>
      cases hg : p.guards[n]? with
      | none =>
        simp only [Process.perform, hg]
        exact h
      | some g =>
        cases g with
        | frame j id =>
          rw [twin, hg] at ht
          cases ht
        | exemption k => exact h.drop_scope hg rfl
        | refNameCaching k previous => exact h.drop_scope hg rfl
    | _ => cases ht

end Mirrors

end Process

end StorageCalls
