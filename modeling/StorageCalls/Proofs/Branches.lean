import StorageCalls.Proofs.CallTraces
import StorageCalls.Proofs.Positions
import StorageCalls.Proofs.StoreStates

namespace StorageCalls

open Scenario (Answer)

namespace Branch

/-- What a branch can do. The guard that it drops is one of those that it holds for its own frames,
counted from the oldest. -/
inductive Step where
  | enter (label : String)
  | drop (n : Nat)
  | call (c : Call)
  | checkHealth (storage : String)

def Step.callOf (x : Client) : Step → Option Call
  | enter _ | drop _ => none
  | call c => some c
  | checkHealth storage => some (x.healthCall storage)

structure Turn where
  branch : Nat
  step : Step
  files : Files
  elapsed : Duration
  responses : Table (Except Status Bytes)
  health : Except Status HealthStatus
  refusal : ChannelTarget → Option String

/-- What a branch has for itself: its context, and the frames that it holds guards for. -/
structure View where
  context : RequestContext
  held : List Nat

def View.after (v : View) : Step → View
  | .enter label => ⟨v.context.enter label, v.held ++ [v.context.frames.next]⟩
  | .drop n =>
    match v.held[n]? with
    | none => v
    | some id => ⟨v.context.leave id, v.held.eraseIdx n⟩
  | .call _ | .checkHealth _ => v

theorem View.store_after (v : View) (step : Step) :
    (v.after step).context.store = v.context.store := by
  cases step with
  | drop n =>
    simp only [after]
    cases v.held[n]? <;> rfl
  | _ => rfl

end Branch

open Branch

def Guard.frameOf (i : Nat) : Guard → Option Nat
  | .frame j id => if j = i then some id else none
  | .exemption _ | .refNameCaching .. => none

namespace Process

def view (p : Process) (b : Nat) : Option View :=
  p.world.contexts[b]?.map fun ctx => ⟨ctx, p.guards.filterMap (Guard.frameOf b)⟩

def operation (p : Process) (x : Client) (t : Turn) : Operation :=
  match t.step with
  | .enter label => .enterFrame t.branch label
  | .drop n => .drop (place (Guard.frameOf t.branch) p.guards n)
  | .call c => .call x t.files t.elapsed t.branch c
  | .checkHealth storage => .checkHealth x t.files t.elapsed t.branch storage

def weathered (p : Process) (t : Turn) : Process :=
  (p.perform (.script t.responses t.health t.refusal)).1

def take (p : Process) (x : Client) (t : Turn) : Process × Answer :=
  (p.weathered t).perform (p.operation x t)

def takeAll (p : Process) (x : Client) (turns : List Turn) : Process :=
  turns.foldl (fun p t => (p.take x t).1) p

variable {p : Process} {x : Client} {b : Nat} {v : View}

theorem view_within {α : Type} (i : Nat) (y : RequestContext → Stage CallState α) (f : α → Answer) :
    (p.within i y f).1.view b = p.view b := by
  obtain ⟨hc, hg, -⟩ := p.same_within i y f
  rw [view, view, hc, hg]

theorem view_enterFrame (i : Nat) (label : String) :
    (p.perform (.enterFrame i label)).1.view b =
      if i = b then (p.view b).map (·.after (.enter label)) else p.view b := by
  simp only [perform, World.enterFrame, keep]
  cases hc : p.world.contexts[i]? with
  | none =>
    by_cases hib : i = b
    · subst hib
      simp [view, hc]
    · simp [view, hib]
  | some ctx =>
    simp only [view, World.modifyContext, List.getElem?_modify, List.filterMap_append,
      Option.toList_some, List.filterMap_cons, List.filterMap_nil, Guard.frameOf]
    by_cases hib : i = b
    · subst hib
      simp [hc, View.after]
    · simp [hib]

theorem eq_frame_of_frameOf {i id : Nat} {g : Guard} (h : g.frameOf i = some id) :
    g = .frame i id := by
  cases g with
  | frame j id' =>
    simp only [Guard.frameOf, Option.ite_none_right_eq_some, Option.some.injEq] at h
    rw [h.1, h.2]
  | exemption k => cases h
  | refNameCaching k previous => cases h

theorem frame_at_place {gs : List Guard} {i n : Nat} {g : Guard}
    (h : gs[place (Guard.frameOf i) gs n]? = some g) :
    ∃ id, g = .frame i id ∧ (gs.filterMap (Guard.frameOf i))[n]? = some id := by
  obtain ⟨id, hid, hn⟩ := kept_at_place h
  exact ⟨id, eq_frame_of_frameOf hid, hn⟩

theorem view_drop (i n : Nat) :
    (p.perform (.drop (place (Guard.frameOf i) p.guards n))).1.view b =
      if i = b then (p.view b).map (·.after (.drop n)) else p.view b := by
  cases hg : p.guards[place (Guard.frameOf i) p.guards n]? with
  | none =>
    have hnone := (getElem?_place_eq_none p.guards n).1 hg
    simp only [perform, hg]
    split
    · subst i
      simp [view, View.after, Function.comp_def, hnone]
    · rfl
  | some g =>
    obtain ⟨id, rfl, hid⟩ := frame_at_place hg
    simp only [perform, hg, view, World.release, World.modifyContext, List.getElem?_modify]
    split
    · subst i
      rw [filterMap_eraseIdx_place]
      simp [View.after, hid, Function.comp_def]
    · rename_i hne
      rw [filterMap_eraseIdx_of_dropped hg (by simp [Guard.frameOf, hne])]
      simp

theorem view_weathered (t : Turn) : (p.weathered t).view b = p.view b := rfl

/-- A turn changes what its branch has for itself as the step says, and nothing of the others. -/
theorem view_take (t : Turn) :
    (p.take x t).1.view b =
      if t.branch = b then (p.view b).map (·.after t.step) else p.view b := by
  rw [take, operation]
  cases t.step with
  | enter label => exact view_enterFrame t.branch label
  | drop n => exact view_drop t.branch n
  | call c =>
    refine (view_within ..).trans ?_
    simp [View.after, view_weathered]
  | checkHealth storage =>
    refine (view_within ..).trans ?_
    simp [View.after, view_weathered]

theorem contextOn_eq_view (k : Nat) :
    p.contextOn k b = ((p.view b).map (·.context)).filter fun ctx => ctx.store = some k := by
  rw [contextOn, view, Option.map_map]
  simp [Function.comp_def]

theorem contextOn_take (t : Turn) (k : Nat) :
    ((p.take x t).1.contextOn k b).isSome = (p.contextOn k b).isSome := by
  rw [contextOn_eq_view, contextOn_eq_view, view_take]
  split
  · cases p.view b with
    | none => rfl
    | some v => simp [Option.isSome_filter, View.store_after]
  · rfl

theorem now_take (t : Turn) : (p.take x t).1.world.now = p.world.now := by
  rw [take, operation]
  cases t.step with
  | enter label =>
    simp only [perform, World.enterFrame, keep]
    cases (p.weathered t).world.contexts[t.branch]? <;> rfl
  | drop n =>
    simp only [perform]
    cases hg : (p.weathered t).guards[place (Guard.frameOf t.branch) p.guards n]? with
    | none => rfl
    | some g => cases g <;> rfl
  | call c =>
    simp only [perform, within, withContext]
    cases (p.weathered t).world.contexts[t.branch]? <;> rfl
  | checkHealth storage =>
    simp only [perform, within, withContext]
    cases (p.weathered t).world.contexts[t.branch]? <;> rfl

theorem Sound.take (hs : p.Sound) (t : Turn) : (p.take x t).1.Sound := (hs.perform _).perform _

end Process

end StorageCalls
