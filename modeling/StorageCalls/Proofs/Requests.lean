import StorageCalls.Proofs.Branches
import StorageCalls.Proofs.FrameStack

namespace StorageCalls

open Scenario (Answer)
open Branch (View)

namespace Request

inductive Deed where
  | fork (i : Nat)
  | enterFrame (i : Nat) (label : String)
  | dropFrame (i n : Nat)
  | enterScope (i : Nat) (scope : Scope)
  | dropScope (n : Nat)
  | enforce (i : Nat) (site : String)
  | resetCounts (i : Nat)
  | markQuarantined (i : Nat)
  | keepDetails (i : Nat)
  | sessionId (i : Nat)
  | call (i : Nat) (c : Call)
  | checkHealth (i : Nat) (storage : String)

/-- A deed of the request with the store of a number, a new request, or the registry being cleared.
-/
inductive Turn where
  | deed (request : Nat) (elapsed : Duration) (d : Deed)
  | begin (kind : RequestKind) (tracked : Bool) (caller : Caller) (correlationId : Option String)
  | clear

def Turn.isOf (k : Nat) : Turn → Bool
  | deed r _ _ => r == k
  | begin .. | clear => false

end Request

open Request

/-- The guard, if it ends an exemption or restores a setting of the given store. -/
def Guard.scopeOf (k : Nat) : Guard → Option Guard
  | .frame .. => none
  | .exemption j => if j = k then some (.exemption j) else none
  | .refNameCaching j previous => if j = k then some (.refNameCaching j previous) else none

namespace Process

/-- What the context of a number and its guards are, if it works on the given store. -/
def viewOn (p : Process) (k b : Nat) : Option View :=
  (p.view b).filter fun v => v.context.store = some k

def viewsOf (p : Process) (k : Nat) : List View :=
  (List.range p.world.contexts.length).filterMap (p.viewOn k)

def scopesOf (p : Process) (k : Nat) : List Guard := p.guards.filterMap (Guard.scopeOf k)

/-- The number that a context of a request has in the process. -/
def locate (p : Process) (k i : Nat) : Nat :=
  place (p.viewOn k) (List.range p.world.contexts.length) i

def deedOperation (p : Process) (x : Client) (files : Files) (k : Nat) (elapsed : Duration) :
    Deed → Operation
  | .fork i => .fork (p.locate k i)
  | .enterFrame i label => .enterFrame (p.locate k i) label
  | .dropFrame i n => .drop (place (Guard.frameOf (p.locate k i)) p.guards n)
  | .enterScope i scope => .enterScope (p.locate k i) scope
  | .dropScope n => .drop (place (Guard.scopeOf k) p.guards n)
  | .enforce i site => .enforce x (p.locate k i) site
  | .resetCounts i => .resetCounts (p.locate k i)
  | .markQuarantined i => .markQuarantined (p.locate k i)
  | .keepDetails i => .keepDetails (p.locate k i)
  | .sessionId i => .sessionId x (p.locate k i)
  | .call i c => .call x files elapsed (p.locate k i) c
  | .checkHealth i storage => .checkHealth x files elapsed (p.locate k i) storage

def turnOperation (p : Process) (x : Client) (files : Files) : Turn → Operation
  | .deed r elapsed d => p.deedOperation x files r elapsed d
  | .begin kind tracked caller correlationId => .startRequest kind tracked caller correlationId
  | .clear => .clear

def play (p : Process) (x : Client) (files : Files) (t : Turn) : Process × Answer :=
  p.perform (p.turnOperation x files t)

def playAll (p : Process) (x : Client) (files : Files) (turns : List Turn) : Process :=
  turns.foldl (fun p t => (p.play x files t).1) p

/-- What holds of every process that comes about: stores and frames go with contexts and guards. -/
structure Proper (p : Process) : Prop where
  sound : p.Sound
  nested : ∃ l gs, p.Nested l gs

variable {p q : Process} {k : Nat}

theorem proper_run (now : Instant) (ops : List Operation) : ((start now).run ops).Proper where
  sound := (sound_start now).run ops
  nested := ⟨_, (nested_start now).run (sound_start now) ops⟩

theorem Proper.perform (h : p.Proper) (op : Operation) : (p.perform op).1.Proper where
  sound := h.sound.perform op
  nested := by
    obtain ⟨l, gs, hn⟩ := h.nested
    exact ⟨_, hn.perform h.sound op⟩

theorem Proper.frameOf_eq_nil (h : p.Proper) {b : Nat} (hb : p.world.contexts.length ≤ b) :
    p.guards.filterMap (Guard.frameOf b) = [] := by
  obtain ⟨l, gs, hn⟩ := h.nested
  rw [List.filterMap_eq_nil_iff]
  intro g hg
  rw [hn.guards, List.mem_map] at hg
  obtain ⟨grip, hgrip, rfl⟩ := hg
  cases grip with
  | frame j id label =>
    have hlt := hn.known _ hgrip j ⟨id, label⟩ (by simp [Grip.frameIn])
    simp [Grip.guard, Guard.frameOf, Nat.ne_of_lt (Nat.lt_of_lt_of_le hlt hb)]
  | exemption j => rfl
  | refNameCaching j previous => rfl

theorem viewOn_of_length_le (h : p.world.contexts.length ≤ b) : p.viewOn k b = none := by
  rw [viewOn, view, List.getElem?_eq_none h]
  rfl

theorem getElem?_range_bind (p : Process) (k m : Nat) :
    ((List.range p.world.contexts.length)[m]?).bind (p.viewOn k) = p.viewOn k m := by
  by_cases h : m < p.world.contexts.length
  · rw [List.getElem?_range h, Option.bind_some]
  · rw [viewOn_of_length_le (Nat.le_of_not_lt h), List.getElem?_eq_none (by simpa using h),
      Option.bind_none]

theorem viewOn_locate (i : Nat) : p.viewOn k (p.locate k i) = (p.viewsOf k)[i]? := by
  rw [← getElem?_range_bind, locate, getElem?_place, viewsOf]

theorem contexts_locate_eq_none {i : Nat} (h : (p.viewsOf k)[i]? = none) :
    p.world.contexts[p.locate k i]? = none := by
  have hnone := (getElem?_place_eq_none (List.range p.world.contexts.length) i).2 h
  rw [List.getElem?_eq_none_iff] at hnone ⊢
  rwa [List.length_range] at hnone

theorem viewOn_eq_some {b : Nat} {v : View} :
    p.viewOn k b = some v ↔ p.view b = some v ∧ v.context.store = some k := by
  rw [viewOn, Option.filter_eq_some_iff, decide_eq_true_eq]

theorem contextOn_of_viewOn {b : Nat} {v : View} (h : p.viewOn k b = some v) :
    p.contextOn k b = some v.context := by
  obtain ⟨hv, hk⟩ := viewOn_eq_some.1 h
  rw [contextOn_eq_view, hv]
  simp [hk]

theorem contextOn_locate {i : Nat} {v : View} (h : (p.viewsOf k)[i]? = some v) :
    p.contextOn k (p.locate k i) = some v.context :=
  contextOn_of_viewOn ((viewOn_locate i).trans h)

theorem held_locate (hp : p.Proper) (i : Nat) :
    p.guards.filterMap (Guard.frameOf (p.locate k i)) =
      ((p.viewsOf k)[i]?.map (·.held)).getD [] := by
  cases hv : (p.viewsOf k)[i]? with
  | none => exact hp.frameOf_eq_nil (List.getElem?_eq_none_iff.1 (contexts_locate_eq_none hv))
  | some v =>
    obtain ⟨hview, -⟩ := viewOn_eq_some.1 ((viewOn_locate i).trans hv)
    obtain ⟨ctx, -, rfl⟩ := Option.map_eq_some_iff.1 hview
    rfl

theorem viewsOf_congr (hl : q.world.contexts.length = p.world.contexts.length)
    (hv : ∀ b, q.viewOn k b = p.viewOn k b) : q.viewsOf k = p.viewsOf k := by
  rw [viewsOf, viewsOf, hl]
  exact List.filterMap_congr fun b _ => hv b

theorem viewsOf_modify (hl : q.world.contexts.length = p.world.contexts.length) (i : Nat)
    {g : View → View} (hv : ∀ b, q.viewOn k b =
      if p.locate k i = b then (p.viewOn k b).map g else p.viewOn k b) :
    q.viewsOf k = (p.viewsOf k).modify i g := by
  have hall : q.viewOn k = fun b =>
      if p.locate k i = b then (p.viewOn k b).map g else p.viewOn k b := funext hv
  rw [viewsOf, viewsOf, hl, hall]
  by_cases hi : p.locate k i < p.world.contexts.length
  · exact filterMap_update_place List.nodup_range (List.getElem?_range hi)
  · have hnone : (p.viewsOf k)[i]? = none := by
      rw [← viewOn_locate, viewOn_of_length_le (Nat.le_of_not_lt hi)]
    rw [← viewsOf, List.modify_eq_self (List.getElem?_eq_none_iff.1 hnone), viewsOf]
    apply List.filterMap_congr
    intro b hb
    rw [if_neg]
    rintro rfl
    exact hi (List.mem_range.1 hb)

theorem viewsOf_concat (hp : p.Proper) {ctx : RequestContext}
    (hc : q.world.contexts = p.world.contexts ++ [ctx]) (hg : q.guards = p.guards) :
    q.viewsOf k = p.viewsOf k ++ if ctx.store = some k then [⟨ctx, []⟩] else [] := by
  have hview : ∀ b < p.world.contexts.length, q.viewOn k b = p.viewOn k b := by
    intro b hb
    rw [viewOn, viewOn, view, view, hc, hg, List.getElem?_append_left hb]
  have hnew : q.viewOn k p.world.contexts.length =
      if ctx.store = some k then some ⟨ctx, []⟩ else none := by
    rw [viewOn, view, hc, hg, List.getElem?_concat_length, hp.frameOf_eq_nil (Nat.le_refl _)]
    simp only [Option.map_some, Option.filter_some, decide_eq_true_eq]
  rw [viewsOf, hc, List.length_append, List.length_singleton, List.range_succ,
    List.filterMap_append, List.filterMap_cons, hnew, viewsOf]
  congr 1
  · exact List.filterMap_congr fun b hb => hview b (List.mem_range.1 hb)
  · split <;> simp_all

end Process

end StorageCalls
