import StorageCalls.Proofs.ParallelCalls
import StorageCalls.Proofs.RequestTurns

namespace StorageCalls

open Scenario (Answer)
open Branch (View)
open Request

variable {α : Type}

/-- A change of a store that has nothing to do with time or with the session. -/
structure RequestStore.Timeless (g : RequestStore → RequestStore) : Prop where
  untimed : ∀ s, (g s).untimed = g s.untimed
  queryTime : ∀ s, (g s).queryTime = s.queryTime
  sessionId : ∀ s, (g s).sessionId = s.sessionId

namespace RequestStore.Timeless

theorem beginExemption : Timeless (·.beginExemption) := ⟨fun _ => rfl, fun _ => rfl, fun _ => rfl⟩

theorem endExemption : Timeless (·.endExemption) := ⟨fun _ => rfl, fun _ => rfl, fun _ => rfl⟩

theorem setRefNameCaching (allowed : Bool) : Timeless (·.setRefNameCaching allowed) :=
  ⟨fun _ => rfl, fun _ => rfl, fun _ => rfl⟩

theorem markQuarantined : Timeless (·.markQuarantined) := ⟨fun _ => rfl, fun _ => rfl, fun _ => rfl⟩

theorem keepDetails : Timeless (·.keepDetails) := ⟨fun _ => rfl, fun _ => rfl, fun _ => rfl⟩

theorem resetTotals : Timeless (·.resetTotals) := ⟨fun _ => rfl, fun _ => rfl, fun _ => rfl⟩

theorem id : Timeless fun s => s := ⟨fun _ => rfl, fun _ => rfl, fun _ => rfl⟩

end RequestStore.Timeless

namespace Pair

variable {P : Pair} {T U : Duration → Duration → Prop} {y z : Stage CallState α} {f : α → Answer}

theorem parallel_change {y : Stage RequestStore Unit} {g : RequestStore → RequestStore}
    (hg : RequestStore.Timeless g)
    (hy : ∀ s, (y.run s).state = g s ∧ (y.run s).result = .ok ()) :
    P.Parallel (P.Alike T) (P.Alike T) Eq (onStore y) (onStore y) := by
  have hid : y.Keeps (·.sessionId) := by
    intro s
    rw [(hy s).1]
    exact hg.sessionId s
  apply parallel_onStore hid hid
  intro s s' heq ht
  obtain ⟨hstate, hresult⟩ := hy s
  obtain ⟨hstate', hresult'⟩ := hy s'
  refine ⟨?_, hresult.trans hresult'.symm, ?_⟩
  · rw [hstate, hstate', hg.untimed, hg.untimed, heq]
  · rw [hstate, hstate', hg.queryTime, hg.queryTime]
    exact ht

theorem parallel_answering {R R' : CallState → CallState → Prop}
    (h : P.Parallel R R' Eq y z) : P.Parallel R R' Eq (answering y f) (answering z f) := by
  apply Parallel.bind h (fun _ => rfl) fun _ _ h => h
  rintro a _ rfl
  exact .pure rfl

theorem parallel_inView {R R' : CallState → CallState → Prop} (hweak : ∀ s s', R s s' → R' s s')
    {y z : RequestContext → Stage CallState Answer} (h : ∀ ctx, P.Parallel R R' Eq (y ctx) (z ctx))
    (views : List View) (i : Nat) : P.Parallel R R' Eq (inView views i y) (inView views i z) := by
  unfold inView
  cases views[i]? with
  | none => exact Parallel.weaken (.pure rfl) hweak
  | some v => exact h v.context

theorem parallel_entering (scope : Scope) :
    P.Parallel (P.Alike T) (P.Alike T) Eq (onStore (entering scope))
      (onStore (entering scope)) := by
  cases scope with
  | exemption => exact parallel_change .beginExemption fun _ => ⟨rfl, rfl⟩
  | refNameCaching allowed => exact parallel_change (.setRefNameCaching allowed) fun _ => ⟨rfl, rfl⟩

theorem parallel_leaving (g : Guard) :
    P.Parallel (P.Alike T) (P.Alike T) Eq (onStore (leaving g)) (onStore (leaving g)) := by
  cases g with
  | frame i id => exact parallel_change .id fun _ => ⟨rfl, rfl⟩
  | exemption k => exact parallel_change .endExemption fun _ => ⟨rfl, rfl⟩
  | refNameCaching k previous =>
    exact parallel_change (.setRefNameCaching previous) fun _ => ⟨rfl, rfl⟩

theorem parallel_deedStage (now : Instant) {e e' : Duration} (views : List View)
    (scopes : List Guard) (hT : Spends e e' T U) (d : Deed) :
    P.Parallel (P.Alike T) (P.Alike U) Eq
      (deedStage P.client ⟨now, P.files, e⟩ views scopes d)
      (deedStage P.other ⟨now, P.files, e'⟩ views scopes d) := by
  have hweak : ∀ s s', P.Alike T s s' → P.Alike U s s' := fun _ _ h => h.mono hT.weaken
  have hin : ∀ {y z : RequestContext → Stage CallState Answer} (i : Nat),
      (∀ ctx, P.Parallel (P.Alike T) (P.Alike T) Eq (y ctx) (z ctx)) →
      P.Parallel (P.Alike T) (P.Alike U) Eq (inView views i y) (inView views i z) :=
    fun i h => (parallel_inView (fun _ _ h => h) h views i).weaken hweak
  cases d with
  | fork i => exact hin i fun _ => .pure rfl
  | enterFrame i label => exact Parallel.weaken (.pure rfl) hweak
  | dropFrame i n => exact Parallel.weaken (.pure rfl) hweak
  | enterScope i scope => exact hin i fun _ => parallel_answering (parallel_entering scope)
  | dropScope n =>
    simp only [deedStage]
    cases scopes[n]? with
    | none => exact Parallel.weaken (.pure rfl) hweak
    | some g => exact (parallel_answering (parallel_leaving g)).weaken hweak
  | enforce i site => exact hin i fun ctx => parallel_answering (parallel_enforce ctx site)
  | resetCounts i =>
    exact hin i fun _ => parallel_answering (parallel_change .resetTotals fun _ => ⟨rfl, rfl⟩)
  | markQuarantined i =>
    exact hin i fun _ => parallel_answering (parallel_change .markQuarantined fun _ => ⟨rfl, rfl⟩)
  | keepDetails i =>
    exact hin i fun _ => parallel_answering (parallel_change .keepDetails fun _ => ⟨rfl, rfl⟩)
  | sessionId i => exact hin i fun _ => parallel_answering parallel_sessionId
  | call i c =>
    exact parallel_inView hweak
      (fun ctx => parallel_answering (parallel_call now ctx c hT)) views i
  | checkHealth i storage =>
    exact hin i fun ctx => parallel_answering (parallel_checkHealth now ctx e e' storage)

end Pair

end StorageCalls
