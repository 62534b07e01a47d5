import StorageCalls.Proofs.CallParts
import StorageCalls.Proofs.Requests
import StorageCalls.Proofs.StoreStates

namespace StorageCalls

open Scenario (Answer)
open Branch (View)

variable {α : Type}

namespace Request

def inView (views : List View) (i : Nat) (f : RequestContext → Stage CallState Answer) :
    Stage CallState Answer :=
  match views[i]? with
  | none => pure .unknownName
  | some v => f v.context

def answering (y : Stage CallState α) (f : α → Answer) : Stage CallState Answer := do
  return f (← y)

def entering : Scope → Stage RequestStore Unit
  | .exemption => .update (·.beginExemption)
  | .refNameCaching allowed => .update (·.setRefNameCaching allowed)

def leaving : Guard → Stage RequestStore Unit
  | .frame .. => pure ()
  | .exemption _ => .update (·.endExemption)
  | .refNameCaching _ previous => .update (·.setRefNameCaching previous)

/-- A deed as a stage on what the contexts of the request read and change. -/
def deedStage (x : Client) (env : Surroundings) (views : List View) (scopes : List Guard) :
    Deed → Stage CallState Answer
  | .fork i => inView views i fun _ => pure .done
  | .enterFrame _ _ => pure .done
  | .dropFrame i n => pure (.dropped (views[i]?.any fun v => n < v.held.length))
  | .enterScope i scope =>
    inView views i fun _ => answering (onStore (entering scope)) fun _ => .done
  | .dropScope n =>
    match scopes[n]? with
    | none => pure (.dropped false)
    | some g => answering (onStore (leaving g)) fun _ => .dropped true
  | .enforce i site => inView views i fun ctx => answering (x.enforce ctx site) fun _ => .done
  | .resetCounts i => inView views i fun _ => answering (onStore Budget.resetCounts) fun _ => .done
  | .markQuarantined i =>
    inView views i fun _ => answering (onStore (.update (·.markQuarantined))) fun _ => .done
  | .keepDetails i =>
    inView views i fun _ => answering (onStore (.update (·.keepDetails))) fun _ => .done
  | .sessionId i => inView views i fun _ => answering x.sessionId .session
  | .call i c => inView views i fun ctx => answering (x.call env ctx c) .response
  | .checkHealth i storage =>
    inView views i fun ctx => answering (x.checkHealth env ctx storage) .health

def viewsAfter (views : List View) : Deed → List View
  | .fork i => views ++ (views[i]?.map fun v => ⟨v.context.child, []⟩).toList
  | .enterFrame i label => views.modify i (·.after (.enter label))
  | .dropFrame i n => views.modify i (·.after (.drop n))
  | _ => views

def scopesAfter (k : Nat) (s : RequestStore) (views : List View) (scopes : List Guard) :
    Deed → List Guard
  | .enterScope i .exemption => scopes ++ (views[i]?.map fun _ => .exemption k).toList
  | .enterScope i (.refNameCaching _) =>
    scopes ++ (views[i]?.map fun _ => .refNameCaching k s.refNameCaching).toList
  | .dropScope n => scopes.eraseIdx n
  | _ => scopes

end Request

open Request

def Stage.Tracks (y : Stage CallState α) : Prop :=
  ∀ s, s.store.isSome → (y.run s).state.store.isSome

namespace Stage.Tracks

theorem of_outlook {x : Client} {y : Stage CallState α} (h : y.Keeps x.outlook) : y.Tracks := by
  intro s hs
  have hsession := congrArg (fun o => o.session.isSome) (h s)
  simpa [Client.outlook, hs] using hsession

theorem onStore (y : Stage RequestStore Unit) : (onStore y).Tracks := by
  rintro ⟨_ | store, issued, transport⟩ hs
  · cases hs
  · rfl

end Stage.Tracks

namespace Process

variable {p q : Process} {k i : Nat}

theorem state_answering (y : Stage CallState α) (f : α → Answer) (s : CallState) :
    ((answering y f).run s).state = (y.run s).state ∧
      Answer.ofResult id ((answering y f).run s).result = .ofResult f (y.run s).result := by
  cases h : (y.run s).result with
  | ok a =>
    rw [answering, Stage.state_bind_of_ok h, Stage.result_bind_of_ok h]
    exact ⟨rfl, rfl⟩
  | error e =>
    rw [answering, Stage.state_bind_of_error h, Stage.result_bind_of_error h]
    exact ⟨rfl, rfl⟩

/-- What is done to a process is, as far as its store goes, what a stage does. -/
def Performs (p : Process) (k : Nat) (r : Process × Answer) (y : Stage CallState Answer) : Prop :=
  r.1.stateOn k = (y.run (p.stateOn k)).state ∧ r.2 = .ofResult id (y.run (p.stateOn k)).result

theorem performs_within (hs : p.Sound) {y : RequestContext → Stage CallState α} {f : α → Answer}
    (hy : ∀ ctx, (y ctx).Tracks) :
    p.Performs k (p.within (p.locate k i) y f)
      (inView (p.viewsOf k) i fun ctx => answering (y ctx) f) := by
  cases hv : (p.viewsOf k)[i]? with
  | none =>
    rw [within, withContext, contexts_locate_eq_none hv, inView, hv]
    exact ⟨rfl, rfl⟩
  | some v =>
    have hctx := contextOn_locate hv
    obtain ⟨hstate, hanswer⟩ := state_answering (y v.context) f (p.stateOn k)
    rw [inView, hv, Performs, hstate, hanswer]
    exact ⟨stateOn_within hs hctx (hy v.context _ rfl), answer_within hs hctx⟩

theorem scope_at_place {gs : List Guard} {n : Nat} {g : Guard}
    (h : gs[place (Guard.scopeOf k) gs n]? = some g) :
    (gs.filterMap (Guard.scopeOf k))[n]? = some g ∧
      (g = .exemption k ∨ ∃ previous, g = .refNameCaching k previous) := by
  obtain ⟨g', hg', hn⟩ := kept_at_place h
  rw [hn]
  cases g with
  | frame j id => cases hg'
  | exemption j =>
    simp only [Guard.scopeOf, Option.ite_none_right_eq_some, Option.some.injEq] at hg'
    exact ⟨congrArg some hg'.2.symm, .inl (by rw [hg'.1])⟩
  | refNameCaching j previous =>
    simp only [Guard.scopeOf, Option.ite_none_right_eq_some, Option.some.injEq] at hg'
    exact ⟨congrArg some hg'.2.symm, .inr ⟨previous, by rw [hg'.1]⟩⟩

theorem performs_dropFrame (hp : p.Proper) (i n : Nat) :
    p.Performs k (p.perform (.drop (place (Guard.frameOf (p.locate k i)) p.guards n)))
      (pure (.dropped ((p.viewsOf k)[i]?.any fun v => n < v.held.length))) := by
  have hheld := held_locate (k := k) hp i
  have hany : ((p.viewsOf k)[i]?.any fun v => n < v.held.length) =
      ((p.guards.filterMap (Guard.frameOf (p.locate k i)))[n]?).isSome := by
    rw [hheld, Bool.eq_iff_iff]
    cases (p.viewsOf k)[i]? <;> simp
  rw [hany]
  cases hg : p.guards[place (Guard.frameOf (p.locate k i)) p.guards n]? with
  | none =>
    have hnone := (getElem?_place_eq_none p.guards n).1 hg
    simp only [perform, hg, hnone]
    exact ⟨rfl, rfl⟩
  | some g =>
    obtain ⟨id, rfl, hid⟩ := frame_at_place hg
    simp only [perform, hg, hid]
    exact ⟨rfl, rfl⟩

theorem performs_enterScope (hp : p.Proper) (i : Nat) (scope : Scope) :
    p.Performs k (p.perform (.enterScope (p.locate k i) scope))
      (inView (p.viewsOf k) i fun _ => answering (onStore (entering scope)) fun _ => .done) := by
  cases hv : (p.viewsOf k)[i]? with
  | none =>
    simp only [perform, withContext, contexts_locate_eq_none hv, inView, hv]
    exact ⟨rfl, rfl⟩
  | some v =>
    have hctx := contextOn_locate hv
    obtain ⟨hc, hk⟩ := contextOn_eq_some.1 hctx
    have hlt := hp.sound.lt_of_contextOn hctx
    have hstores := storeAt_modify (stores_enterScope hp.sound hc hk scope) hlt k
    rw [if_pos rfl] at hstores
    rw [inView, hv]
    have hrest : (p.perform (.enterScope (p.locate k i) scope)).1.stateOn k =
        { p.stateOn k with
          store := some ((p.perform (.enterScope (p.locate k i) scope)).1.storeAt k) } := by
      simp only [perform, withContext, hc, keep, enterScope_of_store hp.sound hc hk]
      cases scope <;> rfl
    constructor
    · rw [hrest, hstores]
      cases scope <;> rfl
    · simp only [perform, withContext, hc, keep]
      cases scope <;> rfl

theorem performs_dropScope (hk : k < p.world.stores.length) (n : Nat) :
    p.Performs k (p.perform (.drop (place (Guard.scopeOf k) p.guards n)))
      (match (p.scopesOf k)[n]? with
        | none => pure (.dropped false)
        | some g => answering (onStore (leaving g)) fun _ => .dropped true) := by
  cases hg : p.guards[place (Guard.scopeOf k) p.guards n]? with
  | none =>
    have hnone := (getElem?_place_eq_none p.guards n).1 hg
    simp only [perform, hg, scopesOf, hnone]
    exact ⟨rfl, rfl⟩
  | some g =>
    obtain ⟨hn, hscope⟩ := scope_at_place hg
    have hstores := stores_drop hg
    simp only [scopesOf, hn]
    obtain rfl | ⟨previous, rfl⟩ := hscope
    all_goals
      have hat := storeAt_modify hstores hk k
      rw [if_pos rfl] at hat
      rw [Performs, stateOn, hat]
      simp only [perform, hg]
      exact ⟨rfl, rfl⟩

theorem tracks_session (x : Client) : x.sessionId.Tracks := by
  intro s hs
  rw [x.run_sessionId]
  simpa [Client.withSession] using hs

/-- A deed does to the store of its request, and answers, what can be told from the request alone.
-/
theorem performs_deed (hp : p.Proper) (hk : k < p.world.stores.length) (x : Client) (files : Files)
    (elapsed : Duration) (d : Deed) :
    p.Performs k (p.perform (p.deedOperation x files k elapsed d))
      (deedStage x (p.surroundings files elapsed) (p.viewsOf k) (p.scopesOf k) d) := by
  have hs := hp.sound
  cases d with
  | fork i =>
    simp only [deedOperation, deedStage, inView, perform, withContext]
    cases hv : (p.viewsOf k)[i]? with
    | none =>
      rw [contexts_locate_eq_none hv]
      exact ⟨rfl, rfl⟩
    | some v =>
      rw [(contextOn_eq_some.1 (contextOn_locate hv)).1]
      exact ⟨rfl, rfl⟩
  | enterFrame i label =>
    simp only [deedOperation, perform, World.enterFrame, keep]
    cases p.world.contexts[p.locate k i]? <;> exact ⟨rfl, rfl⟩
  | dropFrame i n => exact performs_dropFrame hp i n
  | enterScope i scope => exact performs_enterScope hp i scope
  | dropScope n => exact performs_dropScope hk n
  | enforce i site => exact performs_within hs fun _ => .onStore _
  | resetCounts i => exact performs_within hs fun _ => .onStore _
  | markQuarantined i => exact performs_within hs fun _ => .onStore _
  | keepDetails i => exact performs_within hs fun _ => .onStore _
  | sessionId i => exact performs_within hs fun _ => tracks_session x
  | call i c => exact performs_within hs fun ctx => .of_outlook (x.keeps_outlook_call _ ctx c)
  | checkHealth i storage =>
    exact performs_within hs fun ctx => .of_outlook (x.keeps_outlook_checkHealth _ ctx storage)

end Process

end StorageCalls
