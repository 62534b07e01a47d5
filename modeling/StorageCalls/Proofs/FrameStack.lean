import StorageCalls.Proofs.FrameNumbers
import StorageCalls.Proofs.Positions
import StorageCalls.Proofs.ProcessSound

namespace StorageCalls

open Scenario (Answer)

/-- A guard as its holder knows it: the context and the label of a frame, or no frame at all. -/
inductive Held where
  | frame (context : Nat) (label : String)
  | scope
  deriving DecidableEq

namespace Held

def labelIn (i : Nat) : Held → Option String
  | frame j label => if j = i then some label else none
  | scope => none

end Held

/-- What is told of frames without the frames of any context that has them: the guards that are
held, oldest first, and for each context the frames that its parent had at the fork. -/
structure FrameLog where
  held : List Held
  inherited : List (List Frame)

namespace FrameLog

def empty : FrameLog := ⟨[], []⟩

def inheritedBy (l : FrameLog) (i : Nat) : List Frame := (l.inherited[i]?).getD []

def heldIn (l : FrameLog) (i : Nat) : List String := l.held.filterMap (·.labelIn i)

/-- The log after one more operation. What a context inherited is noted once and for all. -/
def after (l : FrameLog) (p : Process) : Operation → FrameLog
  | .startRequest .. => { l with inherited := l.inherited ++ [[]] }
  | .fork i =>
    { l with
      inherited := l.inherited ++ ((p.world.contexts[i]?).map (·.frames.entries)).toList }
  | .enterFrame i label =>
    { l with
      held := l.held ++ if i < p.world.contexts.length then [.frame i label] else [] }
  | .enterScope i _ =>
    { l with
      held := l.held ++ if (p.world.contexts[i]?).any (·.isTracked) then [.scope] else [] }
  | .drop n => { l with held := l.held.eraseIdx n }
  | _ => l

end FrameLog

namespace Process

def frameLog (p : Process) (l : FrameLog) : List Operation → FrameLog
  | [] => l
  | op :: ops => (p.perform op).1.frameLog (l.after p op) ops

/-- What is said of the frames of all contexts, going by a log. -/
structure FramesFollow (p : Process) (l : FrameLog) : Prop where
  stack : ∀ i ctx, p.world.contexts[i]? = some ctx →
    ∃ own, ctx.frames.entries = l.inheritedBy i ++ own ∧ own.map (·.label) = l.heldIn i
  /-- The frame that goes stands behind those inherited and those entered before it. -/
  dropped : ∀ n i label, l.held[n]? = some (.frame i label) →
    ∃ ctx outer frame inner, p.world.contexts[i]? = some ctx ∧
      ctx.frames.entries = outer ++ frame :: inner ∧ frame.label = label ∧
      outer.length =
        (l.inheritedBy i).length + ((l.held.take n).filterMap (·.labelIn i)).length ∧
      (p.perform (.drop n)).1 =
        { p with
          world := { p.world with
            contexts := p.world.contexts.set i
              { ctx with frames := ⟨outer ++ inner, ctx.frames.next⟩ } }
          guards := p.guards.eraseIdx n }
  /-- Labels of the client itself are passed over. -/
  sites : ∀ i ctx, p.world.contexts[i]? = some ctx →
    let labels := ((l.inheritedBy i).map (·.label) ++ l.heldIn i).filter fun label =>
      ¬ "depot_client::".toList <+: label.toList
    ctx.callSite = labels.getLast? ∧ ctx.signature = "\n".intercalate labels

end Process

inductive Grip where
  | frame (context id : Nat) (label : String)
  | exemption (store : Nat)
  | refNameCaching (store : Nat) (previous : Bool)

namespace Grip

def guard : Grip → Guard
  | frame i id _ => .frame i id
  | exemption k => .exemption k
  | refNameCaching k previous => .refNameCaching k previous

def held : Grip → Held
  | frame i _ label => .frame i label
  | exemption _ | refNameCaching .. => .scope

def frameIn (i : Nat) : Grip → Option Frame
  | frame j id label => if j = i then some ⟨id, label⟩ else none
  | exemption _ | refNameCaching .. => none

theorem label_frameIn (i : Nat) (g : Grip) :
    (g.frameIn i).map (·.label) = g.held.labelIn i := by
  cases g with
  | frame j id label =>
    simp only [frameIn, held, Held.labelIn]
    split <;> rfl
  | exemption k => rfl
  | refNameCaching k previous => rfl

theorem filterMap_labelIn (i : Nat) (gs : List Grip) :
    (gs.map held).filterMap (·.labelIn i) = (gs.filterMap (frameIn i)).map (·.label) := by
  rw [List.filterMap_map, List.map_filterMap]
  congr 1
  funext g
  exact (label_frameIn i g).symm

end Grip

namespace Process

/-- The frames of each context go with the guards that are held on it. -/
structure Nested (p : Process) (l : FrameLog) (gs : List Grip) : Prop where
  guards : p.guards = gs.map Grip.guard
  held : l.held = gs.map Grip.held
  inherited : l.inherited.length = p.world.contexts.length
  known : ∀ g ∈ gs, ∀ i f, g.frameIn i = some f → i < p.world.contexts.length
  numbered : ∀ (i : Nat) (ctx : RequestContext), p.world.contexts[i]? = some ctx →
    ctx.frames.Numbered
  entries : ∀ (i : Nat) (ctx : RequestContext), p.world.contexts[i]? = some ctx →
    ctx.frames.entries = l.inheritedBy i ++ gs.filterMap (Grip.frameIn i)

variable {p q : Process} {l : FrameLog} {gs : List Grip}

theorem nested_start (now : Instant) : (start now).Nested .empty [] where
  guards := rfl
  held := rfl
  inherited := rfl
  known := by simp
  numbered := by simp [start, World.start]
  entries := by simp [start, World.start]

namespace Nested

theorem of_same (h : p.Nested l gs) (hc : q.world.contexts = p.world.contexts)
    (hg : q.guards = p.guards) : q.Nested l gs where
  guards := hg.trans h.guards
  held := h.held
  inherited := by rw [hc, h.inherited]
  known := by
    rw [hc]
    exact h.known
  numbered := by
    rw [hc]
    exact h.numbered
  entries := by
    rw [hc]
    exact h.entries

theorem frameIn_length (h : p.Nested l gs) :
    gs.filterMap (Grip.frameIn p.world.contexts.length) = [] := by
  rw [List.filterMap_eq_nil_iff]
  intro g hg
  cases hf : g.frameIn p.world.contexts.length with
  | none => rfl
  | some f => exact absurd (h.known g hg _ f hf) (Nat.lt_irrefl _)

theorem inheritedBy_of_lt {frames : List Frame} {i : Nat} (hi : i < l.inherited.length) :
    FrameLog.inheritedBy { l with inherited := l.inherited ++ [frames] } i = l.inheritedBy i := by
  rw [FrameLog.inheritedBy, FrameLog.inheritedBy, List.getElem?_append_left hi]

/-- A context that is new begins with frames that are noted for it. -/
theorem addContext (h : p.Nested l gs) {ctx : RequestContext} (hctx : ctx.frames.Numbered)
    (hc : q.world.contexts = p.world.contexts ++ [ctx]) (hg : q.guards = p.guards) :
    q.Nested { l with inherited := l.inherited ++ [ctx.frames.entries] } gs where
  guards := hg.trans h.guards
  held := h.held
  inherited := by rw [hc, List.length_append, List.length_append, h.inherited]; rfl
  known g hmem i f hf := by
    rw [hc, List.length_append]
    exact Nat.lt_add_right _ (h.known g hmem i f hf)
  numbered i c hi := by
    rw [hc] at hi
    obtain hold | ⟨-, rfl⟩ := getElem?_concat_cases hi
    · exact h.numbered i c hold
    · exact hctx
  entries i c hi := by
    rw [hc] at hi
    obtain hold | ⟨rfl, rfl⟩ := getElem?_concat_cases hi
    · have hlt : i < l.inherited.length := by
        rw [h.inherited]
        exact (List.getElem?_eq_some_iff.1 hold).1
      rw [inheritedBy_of_lt hlt]
      exact h.entries i c hold
    · rw [h.frameIn_length, List.append_nil, FrameLog.inheritedBy, ← h.inherited,
        List.getElem?_concat_length, Option.getD_some]

theorem enterFrame (h : p.Nested l gs) {i : Nat} {ctx : RequestContext} (label : String)
    (hi : p.world.contexts[i]? = some ctx) :
    (p.perform (.enterFrame i label)).1.Nested { l with held := l.held ++ [.frame i label] }
      (gs ++ [.frame i ctx.frames.next label]) := by
  have hlt : i < p.world.contexts.length := (List.getElem?_eq_some_iff.1 hi).1
  have hq : (p.perform (.enterFrame i label)).1 =
      ⟨p.world.modifyContext i (·.enter label), p.guards ++ [.frame i ctx.frames.next]⟩ := by
    simp only [perform, World.enterFrame, hi, keep, Option.toList_some]
  have hcontexts : ∀ j, (p.world.modifyContext i (·.enter label)).contexts[j]? =
      (p.world.contexts[j]?).map fun c => if i = j then c.enter label else c :=
    fun j => List.getElem?_modify ..
  rw [hq]
  refine ⟨?_, ?_, ?_, fun g hg j f hf => ?_, fun j c hj => ?_, fun j c hj => ?_⟩
  · rw [h.guards, List.map_append]
    rfl
  · rw [h.held, List.map_append]
    rfl
  · rw [h.inherited]
    exact (List.length_modify ..).symm
  · have hlen : (p.world.modifyContext i (·.enter label)).contexts.length =
        p.world.contexts.length := List.length_modify ..
    rw [hlen]
    obtain hold | hnew := List.mem_append.1 hg
    · exact h.known g hold j f hf
    · rw [List.mem_singleton.1 hnew, Grip.frameIn] at hf
      split at hf
      · next heq => exact heq ▸ hlt
      · cases hf
  · rw [hcontexts, Option.map_eq_some_iff] at hj
    obtain ⟨old, hold, rfl⟩ := hj
    split
    · exact (h.numbered j old hold).enter label
    · exact h.numbered j old hold
  · rw [hcontexts, Option.map_eq_some_iff] at hj
    obtain ⟨old, hold, rfl⟩ := hj
    rw [List.filterMap_append, ← List.append_assoc]
    change _ = (l.inheritedBy j ++ _) ++ _
    rw [← h.entries j old hold]
    by_cases hij : i = j
    · subst hij
      obtain rfl : ctx = old := Option.some.inj (hi.symm.trans hold)
      simp [Grip.frameIn, RequestContext.enter, Frames.enter]
    · simp [Grip.frameIn, hij]

theorem enterScope (h : p.Nested l gs) (hs : p.Sound) {i : Nat} {ctx : RequestContext}
    (hi : p.world.contexts[i]? = some ctx) (hctx : ctx.isTracked) (scope : Scope) :
    ∃ gs', (p.perform (.enterScope i scope)).1.Nested { l with held := l.held ++ [.scope] }
      gs' := by
  obtain ⟨k, hk⟩ := Option.isSome_iff_exists.1 hctx
  have hq : (p.perform (.enterScope i scope)).1 =
      ⟨(p.world.enterScope ctx scope).1, p.guards ++ (p.world.enterScope ctx scope).2.toList⟩ := by
    simp only [perform, withContext, hi, keep]
  have hgrip : ∃ g : Grip, g.held = .scope ∧ (∀ j, g.frameIn j = none) ∧
      (p.world.enterScope ctx scope).2 = some g.guard ∧
      (p.world.enterScope ctx scope).1.contexts = p.world.contexts := by
    rw [enterScope_of_store hs hi hk]
    cases scope with
    | exemption => exact ⟨.exemption k, rfl, fun _ => rfl, rfl, rfl⟩
    | refNameCaching allowed => exact ⟨.refNameCaching k _, rfl, fun _ => rfl, rfl, rfl⟩
  obtain ⟨g, hheld, hframe, hguard, hcontexts⟩ := hgrip
  refine ⟨gs ++ [g], ?_⟩
  rw [hq, hguard]
  have hfilter : ∀ j, (gs ++ [g]).filterMap (Grip.frameIn j) = gs.filterMap (Grip.frameIn j) := by
    intro j
    simp [hframe]
  refine ⟨?_, ?_, ?_, fun g' hg' j f hf => ?_, ?_, fun j c hj => ?_⟩
  · rw [h.guards, List.map_append]
    rfl
  · rw [h.held, List.map_append, List.map_singleton, hheld]
  · rw [hcontexts]
    exact h.inherited
  · rw [hcontexts]
    obtain hold | hnew := List.mem_append.1 hg'
    · exact h.known g' hold j f hf
    · rw [List.mem_singleton.1 hnew, hframe] at hf
      cases hf
  · rw [hcontexts]
    exact h.numbered
  · rw [hcontexts] at hj
    rw [hfilter]
    exact h.entries j c hj

theorem entries_split (h : p.Nested l gs) {n i id : Nat} {label : String} {ctx : RequestContext}
    (hn : gs[n]? = some (.frame i id label)) (hi : p.world.contexts[i]? = some ctx) :
    ctx.frames.entries = (l.inheritedBy i ++ (gs.take n).filterMap (Grip.frameIn i)) ++
      ⟨id, label⟩ :: (gs.drop (n + 1)).filterMap (Grip.frameIn i) := by
  rw [h.entries i ctx hi, List.append_assoc]
  conv_lhs => rw [take_append_getElem?_drop hn]
  rw [List.filterMap_append, List.filterMap_cons, Grip.frameIn, if_pos rfl]

theorem drop_frame (h : p.Nested l gs) {n i id : Nat} {label : String}
    (hn : gs[n]? = some (.frame i id label)) :
    ∃ ctx, p.world.contexts[i]? = some ctx ∧
      (p.perform (.drop n)).1 =
        { p with
          world := { p.world with
            contexts := p.world.contexts.set i
              { ctx with
                frames := ⟨(l.inheritedBy i ++ (gs.take n).filterMap (Grip.frameIn i)) ++
                  (gs.drop (n + 1)).filterMap (Grip.frameIn i), ctx.frames.next⟩ } }
          guards := p.guards.eraseIdx n } := by
  have hlt : i < p.world.contexts.length :=
    h.known _ (List.mem_of_getElem? hn) i ⟨id, label⟩ (if_pos rfl)
  have hi : p.world.contexts[i]? = some p.world.contexts[i] := List.getElem?_eq_getElem hlt
  have hguard : p.guards[n]? = some (.frame i id) := by
    rw [h.guards, List.getElem?_map, hn]
    rfl
  refine ⟨_, hi, ?_⟩
  have hleave := (h.numbered i _ hi).leave_split (h.entries_split hn hi)
  simp only [perform, hguard, World.release, World.modifyContext]
  rw [modify_of_getElem? hi, RequestContext.leave, hleave]

theorem drop_scope (h : p.Nested l gs) {n : Nat}
    (hn : ∀ i id label, gs[n]? ≠ some (.frame i id label)) :
    (p.perform (.drop n)).1.world.contexts = p.world.contexts ∧
      (p.perform (.drop n)).1.guards = p.guards.eraseIdx n := by
  cases hg : gs[n]? with
  | none =>
    have hguard : p.guards[n]? = none := by
      rw [h.guards, List.getElem?_map, hg]
      rfl
    rw [List.eraseIdx_of_length_le (List.getElem?_eq_none_iff.1 hguard)]
    simp only [perform, hguard]
    exact ⟨trivial, trivial⟩
  | some g =>
    have hguard : p.guards[n]? = some g.guard := by
      rw [h.guards, List.getElem?_map, hg]
      rfl
    simp only [perform, hguard, and_true]
    cases g with
    | frame i id label => exact absurd hg (hn i id label)
    | exemption k => rfl
    | refNameCaching k previous => rfl

theorem drop (h : p.Nested l gs) (n : Nat) :
    (p.perform (.drop n)).1.Nested { l with held := l.held.eraseIdx n } (gs.eraseIdx n) := by
  have hguards : p.guards.eraseIdx n = (gs.eraseIdx n).map Grip.guard := by
    rw [h.guards, List.eraseIdx_map]
  have hheld : l.held.eraseIdx n = (gs.eraseIdx n).map Grip.held := by
    rw [h.held, List.eraseIdx_map]
  have hknown : ∀ g ∈ gs.eraseIdx n, ∀ i f, g.frameIn i = some f → i < p.world.contexts.length :=
    fun g hg => h.known g (List.mem_of_mem_eraseIdx hg)
  by_cases hn : ∃ i id label, gs[n]? = some (.frame i id label)
  · obtain ⟨i, id, label, hn⟩ := hn
    obtain ⟨ctx, hi, hq⟩ := h.drop_frame hn
    have hsplit := h.entries_split hn hi
    rw [hq]
    have hlt : i < p.world.contexts.length := (List.getElem?_eq_some_iff.1 hi).1
    refine ⟨hguards, hheld, ?_, ?_, fun j c hj => ?_, fun j c hj => ?_⟩
    · rw [List.length_set]
      exact h.inherited
    · rw [List.length_set]
      exact hknown
    · by_cases hij : i = j
      · subst hij
        rw [List.getElem?_set_self hlt, Option.some.injEq] at hj
        rw [← hj]
        exact (h.numbered i ctx hi).without hsplit
      · rw [List.getElem?_set_ne hij] at hj
        exact h.numbered j c hj
    · by_cases hij : i = j
      · subst hij
        rw [List.getElem?_set_self hlt, Option.some.injEq] at hj
        rw [← hj, List.eraseIdx_eq_take_drop_succ gs, List.filterMap_append, ← List.append_assoc]
        rfl
      · rw [List.getElem?_set_ne hij] at hj
        have hother : Grip.frameIn j (.frame i id label) = none := if_neg hij
        rw [filterMap_eraseIdx_of_dropped hn hother]
        exact h.entries j c hj
  · push Not at hn
    obtain ⟨hc, hg⟩ := h.drop_scope hn
    refine ⟨hg.trans hguards, hheld, by rw [hc]; exact h.inherited, by rw [hc]; exact hknown,
      by rw [hc]; exact h.numbered, fun j c hj => ?_⟩
    rw [hc] at hj
    have hnone : ∀ g, gs[n]? = some g → g.frameIn j = none := by
      intro g hg
      cases g with
      | frame i id label => exact absurd hg (hn i id label)
      | exemption k => rfl
      | refNameCaching k previous => rfl
    rw [filterMap_eraseIdx_of_none hnone]
    exact h.entries j c hj

/-- Whatever is done, the frames go with the guards again. -/
theorem perform (h : p.Nested l gs) (hs : p.Sound) (op : Operation) :
    ∃ gs', (p.perform op).1.Nested (l.after p op) gs' := by
  cases op with
  | startRequest kind tracked caller correlationId =>
    let q := (p.perform (.startRequest kind tracked caller correlationId)).1
    let store := if tracked then some p.world.stores.length else none
    have hadded : q.world.contexts =
        p.world.contexts ++ [⟨kind, store, caller, correlationId, .empty⟩] := rfl
    exact ⟨gs, h.addContext .empty hadded rfl⟩
  | fork i =>
    simp only [Process.perform, withContext, FrameLog.after]
    cases hi : p.world.contexts[i]? with
    | none =>
      rw [Option.map_none, Option.toList_none, List.append_nil]
      exact ⟨gs, h⟩
    | some ctx => exact ⟨gs, h.addContext (h.numbered i ctx hi) rfl rfl⟩
  | enterFrame i label =>
    simp only [FrameLog.after]
    cases hi : p.world.contexts[i]? with
    | none =>
      have hge := Nat.not_lt.2 (List.getElem?_eq_none_iff.1 hi)
      rw [if_neg hge, List.append_nil]
      simp only [Process.perform, World.enterFrame, hi, keep, Option.toList_none, List.append_nil]
      exact ⟨gs, h⟩
    | some ctx =>
      rw [if_pos (List.getElem?_eq_some_iff.1 hi).1]
      exact ⟨_, h.enterFrame label hi⟩
  | enterScope i scope =>
    simp only [FrameLog.after]
    cases hi : p.world.contexts[i]? with
    | none =>
      simp only [Process.perform, withContext, hi, Option.any_none, Bool.false_eq_true, if_false,
        List.append_nil]
      exact ⟨gs, h⟩
    | some ctx =>
      by_cases htracked : ctx.isTracked
      · rw [Option.any_some, if_pos htracked]
        exact h.enterScope hs hi htracked scope
      · have hstore : ctx.store = none := by simpa [RequestContext.isTracked] using htracked
        rw [Option.any_some, if_neg htracked, List.append_nil]
        simp only [Process.perform, withContext, hi, keep, enterScope_untracked hstore,
          Option.toList_none, List.append_nil]
        exact ⟨gs, h⟩
  | drop n => exact ⟨_, h.drop n⟩
  | _ => exact ⟨gs, h.of_same (same_perform rfl).1 (same_perform rfl).2.1⟩

theorem run (h : p.Nested l gs) (hs : p.Sound) (ops : List Operation) :
    ∃ gs', (p.run ops).Nested (p.frameLog l ops) gs' := by
  induction ops generalizing p l gs with
  | nil => exact ⟨gs, h⟩
  | cons op ops ih =>
    obtain ⟨gs', h'⟩ := h.perform hs op
    exact ih h' (hs.perform op)

theorem labels (h : p.Nested l gs) {i : Nat} {ctx : RequestContext}
    (hi : p.world.contexts[i]? = some ctx) :
    ctx.frames.stack = (l.inheritedBy i).map (·.label) ++ l.heldIn i := by
  rw [Frames.stack, h.entries i ctx hi, List.map_append, FrameLog.heldIn, h.held,
    Grip.filterMap_labelIn]

theorem follow (h : p.Nested l gs) : p.FramesFollow l where
  stack i ctx hi :=
    ⟨_, h.entries i ctx hi, by rw [FrameLog.heldIn, h.held, Grip.filterMap_labelIn]⟩
  dropped n i label hn := by
    rw [h.held, List.getElem?_map, Option.map_eq_some_iff] at hn
    obtain ⟨g, hg, hlabel⟩ := hn
    cases g with
    | exemption k => cases hlabel
    | refNameCaching k previous => cases hlabel
    | frame j id label' =>
      cases hlabel
      obtain ⟨ctx, hi, hq⟩ := h.drop_frame hg
      refine ⟨ctx, _, ⟨id, label⟩, _, hi, h.entries_split hg hi, rfl, ?_, hq⟩
      rw [List.length_append, h.held, ← List.map_take, Grip.filterMap_labelIn, List.length_map]
  sites i ctx hi := by
    rw [RequestContext.callSite, RequestContext.signature, Frames.callSite, Frames.signature,
      Frames.labels_eq, h.labels hi]
    exact ⟨rfl, rfl⟩

end Nested

/-- For every run, on any tree of contexts and with guards dropped in any order. -/
theorem frames_are_live_guards (now : Instant) (ops : List Operation) :
    ((start now).run ops).FramesFollow ((start now).frameLog .empty ops) := by
  obtain ⟨gs, h⟩ := (nested_start now).run (sound_start now) ops
  exact h.follow

/-- The child keeps the frame that its parent leaves, and loses the first of its own. -/
example :
    ((start .epoch).run [.startRequest .background true .nobody none, .enterFrame 0 "a", .fork 0,
      .enterFrame 1 "b", .enterFrame 1 "c", .drop 0, .drop 0]).world.contexts.map
        (·.frames.stack) = [[], ["a", "c"]] := by
  rfl

end Process

end StorageCalls
