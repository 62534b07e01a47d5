import StorageCalls.Proofs.RequestParts
import StorageCalls.Proofs.SteadyTransport

namespace StorageCalls

open Scenario (Answer)
open Request

variable {α : Type}

namespace Process

variable {p q : Process} {x : Client} {files : Files} {n : Network}

/-- What goes on in a process with requests, whoever it is for. -/
structure GoesOn (x : Client) (files : Files) (p q : Process) : Prop where
  now : q.world.now = p.world.now
  stores : p.world.stores.length ≤ q.world.stores.length
  steady : ∀ n, x.Steady files n p.world.transport → x.Steady files n q.world.transport

namespace GoesOn

theorem of_same (hnow : q.world.now = p.world.now)
    (hstores : q.world.stores.length = p.world.stores.length)
    (ht : q.world.transport = p.world.transport) : p.GoesOn x files q where
  now := hnow
  stores := Nat.le_of_eq hstores.symm
  steady n h := by
    rw [ht]
    exact h

theorem within {y : RequestContext → Stage CallState α} {f : α → Answer}
    (hy : ∀ n ctx, (y ctx).Preserves (x.SteadyState files n)) (i : Nat) :
    p.GoesOn x files (p.within i y f).1 := by
  have hstores := (p.same_within i y f).2.2
  cases hc : p.world.contexts[i]? with
  | none =>
    simp only [Process.within, withContext, hc]
    exact of_same rfl rfl rfl
  | some ctx =>
    simp only [Process.within, withContext, hc] at hstores ⊢
    exact ⟨rfl, Nat.le_of_eq hstores.symm, fun n h => hy n ctx (p.world.callState ctx) h⟩

theorem enterScope (i : Nat) (scope : Scope) :
    p.GoesOn x files (p.perform (.enterScope i scope)).1 := by
  simp only [perform, withContext]
  cases p.world.contexts[i]? with
  | none => exact of_same rfl rfl rfl
  | some ctx =>
    simp only [World.enterScope, keep]
    cases ctx.store with
    | none => exact of_same rfl rfl rfl
    | some j =>
      cases p.world.store? ctx with
      | none => exact of_same rfl rfl rfl
      | some store => cases scope <;> exact of_same rfl (List.length_modify ..) rfl

theorem drop (n : Nat) : p.GoesOn x files (p.perform (.drop n)).1 := by
  simp only [perform]
  cases p.guards[n]? with
  | none => exact of_same rfl rfl rfl
  | some g =>
    cases g with
    | frame i id => exact of_same rfl rfl rfl
    | exemption k => exact of_same rfl (List.length_modify ..) rfl
    | refNameCaching k previous => exact of_same rfl (List.length_modify ..) rfl

theorem deed (k : Nat) (elapsed : Duration) (d : Deed) :
    p.GoesOn x files (p.perform (p.deedOperation x files k elapsed d)).1 := by
  have hkeeps : ∀ {α : Type} {y : Stage CallState α} {n : Network}, y.Keeps (·.transport) →
      y.Preserves (x.SteadyState files n) := Client.preserves_of_keeps
  have hupholds : ∀ n, x.Upholds (p.surroundings files elapsed).files (x.Steady files n) :=
    fun _ => Registry.Steady.upholds
  cases d with
  | fork i =>
    simp only [deedOperation, perform, withContext]
    cases p.world.contexts[p.locate k i]? <;> exact of_same rfl rfl rfl
  | enterFrame i label =>
    simp only [deedOperation, perform, World.enterFrame, keep]
    cases p.world.contexts[p.locate k i]? <;> exact of_same rfl rfl rfl
  | dropFrame i n => exact drop _
  | enterScope i scope => exact enterScope _ scope
  | dropScope n => exact drop _
  | enforce i site => exact within (fun _ _ => hkeeps (Client.keeps_transport_onStore _)) _
  | resetCounts i => exact within (fun _ _ => hkeeps (Client.keeps_transport_onStore _)) _
  | markQuarantined i => exact within (fun _ _ => hkeeps (Client.keeps_transport_onStore _)) _
  | keepDetails i => exact within (fun _ _ => hkeeps (Client.keeps_transport_onStore _)) _
  | sessionId i => exact within (fun _ _ => hkeeps Client.keeps_transport_sessionId) _
  | call i c => exact within (fun n ctx => Client.preserves_call ctx (hupholds n) c) _
  | checkHealth i storage =>
    exact within (fun n ctx => Client.preserves_checkHealth ctx (hupholds n) storage) _

theorem play (t : Turn) : p.GoesOn x files (p.play x files t).1 := by
  cases t with
  | deed k elapsed d => exact deed k elapsed d
  | begin kind tracked caller correlationId =>
    refine ⟨rfl, ?_, fun _ h => h⟩
    cases tracked with
    | false => exact Nat.le_refl _
    | true => simp [Process.play, turnOperation, perform, World.startRequest]
  | clear => exact ⟨rfl, Nat.le_refl _, fun _ h => Registry.Steady.clear _ h⟩

end GoesOn

/-- A request is untouched if its contexts, guards and store are as before. -/
structure Untouched (k : Nat) (p q : Process) : Prop where
  views : q.viewsOf k = p.viewsOf k
  scopes : q.scopesOf k = p.scopesOf k
  store : q.storeAt k = p.storeAt k

/-- The turns of others leave a request untouched. -/
theorem untouched_play (hp : p.Proper) {k : Nat} (hk : k < p.world.stores.length) {t : Turn}
    (ht : t.isOf k = false) : Untouched k p (p.play x files t).1 := by
  cases t with
  | deed r elapsed d =>
    have hr : r ≠ k := beq_eq_false_iff_ne.1 ht
    exact ⟨(viewsOf_deed hp d).trans (if_neg hr), (scopesOf_deed hp.sound d).trans (if_neg hr),
      storeAt_deed_of_ne hp.sound hr d⟩
  | begin kind tracked caller correlationId =>
    let q : Process := (p.perform (.startRequest kind tracked caller correlationId)).1
    have hviews : q.viewsOf k = p.viewsOf k := by
      cases tracked with
      | false =>
        exact (viewsOf_concat (q := q) hp rfl rfl).trans (List.append_nil _)
      | true =>
        refine (viewsOf_concat (q := q) hp rfl rfl).trans ?_
        simp [Nat.ne_of_gt hk]
    exact ⟨hviews, rfl, storeAt_startRequest ..⟩
  | clear => exact ⟨viewsOf_of_guards rfl fun _ => rfl, rfl, rfl⟩

end Process

end StorageCalls
