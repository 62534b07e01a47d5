import StorageCalls.Proofs.ScopedPrograms

namespace StorageCalls

open Scenario (Answer)

/-- What is said of a point of a run. -/
structure Moment.Settled (m : Moment) : Prop where
  depth : ∀ k, (m.process.storeAt k).exemptions =
    m.process.guards.count (.exemption k) + m.opened.count ⟨some k, .exemption⟩
  /-- No exemption can end that has not begun. -/
  positive : ∀ k, .exemption k ∈ m.process.guards ∨ ⟨some k, .exemption⟩ ∈ m.opened →
    0 < (m.process.storeAt k).exemptions
  refNames : ∀ ctx, m.process.world.allowsRefNames ctx = ctx.store.any (settingOf m.opened)

/-- What is said of a scope that was left. -/
structure Passage.Restores (q : Passage) : Prop where
  refNames : ∀ ctx, q.after.world.allowsRefNames ctx = q.before.world.allowsRefNames ctx
  untracked : q.context.store = none → q.entered = q.before ∧ q.after = q.ended

structure Trace.Lawful (t : Trace) : Prop where
  moments : ∀ m ∈ t.moments, m.Settled
  passages : ∀ q ∈ t.passages, q.Restores

def OpenScope.exemption? (o : OpenScope) : Option Guard :=
  match o.scope, o.store with
  | .exemption, some k => some (.exemption k)
  | _, _ => none

def exemptionsOf (opened : List OpenScope) : List Guard := opened.filterMap (·.exemption?)

theorem count_exemptionsOf (opened : List OpenScope) (k : Nat) :
    (exemptionsOf opened).count (.exemption k) = opened.count ⟨some k, .exemption⟩ := by
  induction opened with
  | nil => rfl
  | cons o opened ih =>
    rw [List.count_cons, ← ih, exemptionsOf, List.filterMap_cons]
    obtain ⟨_ | j, _ | allowed⟩ := o <;>
      simp [OpenScope.exemption?, exemptionsOf, List.count_cons]

theorem not_setting_of_mem {opened : List OpenScope} {g : Guard} (h : g ∈ exemptionsOf opened) :
    ∃ k, g = .exemption k := by
  obtain ⟨⟨store, scope⟩, -, ho⟩ := List.mem_filterMap.1 h
  cases scope with
  | refNameCaching allowed => cases ho
  | exemption =>
    cases store with
    | none => cases ho
    | some k => exact ⟨k, (Option.some.inj ho).symm⟩

/-- The same operation when a number of guards come before the ones that it knows. -/
def Operation.shift (n : Nat) : Operation → Operation
  | .drop m => .drop (n + m)
  | op => op

theorem Operation.setsRefNames_shift (n : Nat) (op : Operation) :
    (op.shift n).setsRefNames = op.setsRefNames := by
  cases op <;> rfl

namespace Process

variable {α : Type} {p q : Process} {gs : List Guard} {j : Nat}

def holding (gs : List Guard) (p : Process) : Process := ⟨p.world, gs ++ p.guards⟩

theorem within_holding (gs : List Guard) (i : Nat) (x : RequestContext → Stage CallState α)
    (f : α → Answer) :
    (p.holding gs).within i x f = ((p.within i x f).1.holding gs, (p.within i x f).2) := by
  simp only [within, withContext, holding]
  cases p.world.contexts[i]? <;> rfl

theorem perform_holding (gs : List Guard) (op : Operation) :
    (p.holding gs).perform (op.shift gs.length) =
      ((p.perform op).1.holding gs, (p.perform op).2) := by
  cases op with
  | fork i =>
    simp only [Operation.shift, perform, withContext, holding]
    cases p.world.contexts[i]? <;> rfl
  | enterFrame i label =>
    simp only [Operation.shift, perform, keep, holding, List.append_assoc]
  | enterScope i scope =>
    simp only [Operation.shift, perform, withContext, keep, holding]
    cases p.world.contexts[i]? with
    | none => rfl
    | some ctx => simp only [List.append_assoc]
  | drop n =>
    have hget : (gs ++ p.guards)[gs.length + n]? = p.guards[n]? := by
      rw [List.getElem?_append_right (Nat.le_add_right ..), Nat.add_sub_cancel_left]
    have herase : (gs ++ p.guards).eraseIdx (gs.length + n) = gs ++ p.guards.eraseIdx n := by
      rw [List.eraseIdx_append_of_length_le (Nat.le_add_right ..), Nat.add_sub_cancel_left]
    simp only [Operation.shift, perform, holding, hget, herase]
    cases p.guards[n]? <;> rfl
  | enforce x i site => exact within_holding gs i _ _
  | resetCounts i => exact within_holding gs i _ _
  | markQuarantined i => exact within_holding gs i _ _
  | keepDetails i => exact within_holding gs i _ _
  | sessionId x i => exact within_holding gs i _ _
  | call x files elapsed i c => exact within_holding gs i _ _
  | checkHealth x files elapsed i storage => exact within_holding gs i _ _
  | _ => rfl

/-- No store ever goes away. -/
theorem stores_le_perform (op : Operation) :
    p.world.stores.length ≤ (p.perform op).1.world.stores.length := by
  cases hop : op.isLocal with
  | true => exact Nat.le_of_eq (same_perform hop).2.2.symm
  | false =>
    cases op with
    | startRequest kind tracked caller correlationId =>
      cases tracked <;> simp [perform, World.startRequest]
    | fork i =>
      simp only [perform, withContext]
      cases p.world.contexts[i]? <;> exact Nat.le_refl _
    | enterFrame i label =>
      simp only [perform, World.enterFrame, keep]
      cases p.world.contexts[i]? <;> exact Nat.le_refl _
    | enterScope i scope =>
      simp only [perform, withContext]
      cases p.world.contexts[i]? with
      | none => exact Nat.le_refl _
      | some ctx =>
        simp only [keep, World.enterScope]
        split
        · cases scope <;> simp [World.modifyStore]
        · exact Nat.le_refl _
    | drop n =>
      simp only [perform]
      cases p.guards[n]? with
      | none => exact Nat.le_refl _
      | some g => cases g <;> simp [World.release, World.modifyStore, World.modifyContext]
    | _ => cases hop

theorem Sound.allowRefNames (hs : p.Sound) (j : Nat) (allowed : Bool) :
    Sound { p with world := p.world.modifyStore j (·.setRefNameCaching allowed) } := by
  refine hs.of_same rfl rfl (List.length_modify ..) fun k => ?_
  rw [storeAt, World.modifyStore, List.getElem?_modify, storeAt]
  cases p.world.stores[k]? with
  | none => rfl
  | some s =>
    simp only [Option.map_eq_map, Option.map_some, Option.getD_some]
    split <;> rfl

theorem Sound.exempt (hs : p.Sound) (hj : j < p.world.stores.length) :
    Sound ⟨p.world.modifyStore j (·.beginExemption), .exemption j :: p.guards⟩ where
  contexts := by
    simp only [World.modifyStore, List.length_modify]
    exact hs.contexts
  guards k hk := by
    simp only [World.modifyStore, List.length_modify]
    obtain hnew | hold := List.mem_cons.1 hk
    · cases hnew
      exact hj
    · exact hs.guards k hold
  exemptions k := by
    rw [storeAt_modify (p := p) rfl hj, List.count_cons, ← hs.exemptions]
    by_cases hjk : j = k <;> simp [hjk, RequestStore.beginExemption]

/-- What is true between the steps of a run: counted with the guards of the open scopes, each
exemption is one that is held, and only the guards of scopes change what reference names may do. -/
structure Between (p : Process) (opened : List OpenScope) : Prop where
  sound : (p.holding (exemptionsOf opened)).Sound
  stores : ∀ o ∈ opened, ∀ k, o.store = some k → k < p.world.stores.length
  unset : p.Unset
  refNames : ∀ k, (p.storeAt k).refNameCaching = settingOf opened k

namespace Between

variable {opened : List OpenScope} {i : Nat} {ctx : RequestContext} {s : Scope} {allowed : Bool}

theorem start (now : Instant) : (start now).Between [] where
  sound := sound_start now
  stores _ h := (List.not_mem_nil h).elim
  unset _ _ := List.not_mem_nil
  refNames _ := rfl

theorem settled (h : p.Between opened) : Moment.Settled ⟨p, opened⟩ := by
  have hdepth : ∀ k, (p.storeAt k).exemptions =
      p.guards.count (.exemption k) + opened.count ⟨some k, .exemption⟩ := by
    intro k
    have hk := h.sound.exemptions k
    rw [holding, List.count_append, count_exemptionsOf, Nat.add_comm] at hk
    exact hk
  refine ⟨hdepth, fun k hk => ?_, fun ctx => ?_⟩
  · rw [hdepth]
    obtain hheld | hopen := hk
    · exact Nat.add_pos_left (List.count_pos_iff.2 hheld) _
    · exact Nat.add_pos_right _ (List.count_pos_iff.2 hopen)
  · rw [allowsRefNames_eq]
    simp only [h.refNames]

theorem perform (h : p.Between opened) {op : Operation} (hop : op.setsRefNames = false) :
    (p.perform op).1.Between opened := by
  let gs := exemptionsOf opened
  have hunset : (p.holding gs).Unset := by
    intro j allowed hmem
    obtain hopen | hheld := List.mem_append.1 hmem
    · obtain ⟨k, hk⟩ := not_setting_of_mem hopen
      cases hk
    · exact h.unset j allowed hheld
  have hshift : (op.shift gs.length).setsRefNames = false :=
    (op.setsRefNames_shift gs.length).trans hop
  have hperform := perform_holding (p := p) gs op
  refine ⟨?_, fun o ho k hk => ?_, unset_perform h.unset hop, fun k => ?_⟩
  · have hs := h.sound.perform (op.shift gs.length)
    rw [hperform] at hs
    exact hs
  · exact Nat.lt_of_lt_of_le (h.stores o ho k hk) (stores_le_perform op)
  · have hk := refNames_perform h.sound hunset hshift k
    rw [hperform] at hk
    exact hk.trans (h.refNames k)

theorem untracked_iff : p.Between (⟨none, s⟩ :: opened) ↔ p.Between opened := by
  have hguards : exemptionsOf (⟨none, s⟩ :: opened) = exemptionsOf opened := by cases s <;> rfl
  have hsetting : ∀ k, settingOf (⟨none, s⟩ :: opened) k = settingOf opened k := by
    cases s <;> exact fun _ => rfl
  constructor
  · intro h
    refine ⟨hguards ▸ h.sound, fun o ho => h.stores o (.tail _ ho), h.unset, fun k => ?_⟩
    rw [h.refNames, hsetting]
  · intro h
    refine ⟨hguards ▸ h.sound, fun o ho k hk => ?_, h.unset, fun k => ?_⟩
    · obtain rfl | ho := List.mem_cons.1 ho
      · cases hk
      · exact h.stores o ho k hk
    · rw [h.refNames, hsetting]

theorem stores_cons (h : p.Between opened) (hj : j < p.world.stores.length)
    (f : RequestStore → RequestStore) :
    ∀ o ∈ (⟨some j, s⟩ : OpenScope) :: opened, ∀ k, o.store = some k →
      k < (p.world.modifyStore j f).stores.length := by
  intro o ho k hk
  rw [World.modifyStore, List.length_modify]
  obtain rfl | ho := List.mem_cons.1 ho
  · exact Option.some.inj hk ▸ hj
  · exact h.stores o ho k hk

theorem stores_tail (h : p.Between (⟨some j, s⟩ :: opened)) (f : RequestStore → RequestStore) :
    ∀ o ∈ opened, ∀ k, o.store = some k → k < (p.world.modifyStore j f).stores.length := by
  intro o ho k hk
  rw [World.modifyStore, List.length_modify]
  exact h.stores o (.tail _ ho) k hk

theorem exempt (h : p.Between opened) (hj : j < p.world.stores.length) :
    Between { p with world := p.world.modifyStore j (·.beginExemption) }
      (⟨some j, .exemption⟩ :: opened) where
  sound := h.sound.exempt hj
  stores := h.stores_cons hj _
  unset := h.unset
  refNames k := by
    rw [storeAt_modify (p := p) rfl hj]
    refine Eq.trans ?_ (h.refNames k)
    split <;> rfl

theorem endExempt (h : p.Between (⟨some j, .exemption⟩ :: opened)) :
    Between { p with world := p.world.modifyStore j (·.endExemption) } opened where
  sound := h.sound.drop 0
  stores := h.stores_tail _
  unset := h.unset
  refNames k := by
    rw [storeAt_modify (p := p) rfl (h.stores _ (.head _) j rfl)]
    refine Eq.trans ?_ (h.refNames k)
    split <;> rfl

theorem settingOf_cons (j k : Nat) (allowed : Bool) :
    settingOf (⟨some j, .refNameCaching allowed⟩ :: opened) k =
      if j = k then allowed else settingOf opened k := by
  unfold settingOf
  rw [List.findSome?_cons]
  by_cases hjk : j = k <;> simp [OpenScope.setting, hjk]

theorem allow (h : p.Between opened) (hj : j < p.world.stores.length) (allowed : Bool) :
    Between { p with world := p.world.modifyStore j (·.setRefNameCaching allowed) }
      (⟨some j, .refNameCaching allowed⟩ :: opened) where
  sound := h.sound.allowRefNames j allowed
  stores := h.stores_cons hj _
  unset := h.unset
  refNames k := by
    rw [storeAt_modify (p := p) rfl hj, settingOf_cons, ← h.refNames]
    split <;> rfl

theorem restore (h : p.Between (⟨some j, .refNameCaching allowed⟩ :: opened)) :
    Between { p with world := p.world.modifyStore j (·.setRefNameCaching (settingOf opened j)) }
      opened where
  sound := h.sound.allowRefNames j _
  stores := h.stores_tail _
  unset := h.unset
  refNames k := by
    rw [storeAt_modify (p := p) rfl (h.stores _ (.head _) j rfl)]
    have hk := h.refNames k
    rw [settingOf_cons] at hk
    by_cases hjk : j = k
    · rw [if_pos hjk, hjk]
      rfl
    · rw [if_neg hjk] at hk ⊢
      exact hk

/-- Entering a scope, and leaving it from whatever its body has made of the process. -/
theorem enter_leave (h : p.Between opened) (hc : p.world.contexts[i]? = some ctx) (s : Scope) :
    Between { p with world := (p.world.enterScope ctx s).1 } (⟨ctx.store, s⟩ :: opened) ∧
      ∀ q : Process, q.Between (⟨ctx.store, s⟩ :: opened) →
        Between { q with world := q.world.releaseSome (p.world.enterScope ctx s).2 } opened := by
  cases hj : ctx.store with
  | none =>
    rw [enterScope_untracked hj]
    exact ⟨untracked_iff.2 h, fun q hq => untracked_iff.1 hq⟩
  | some j =>
    have hlt : j < p.world.stores.length :=
      h.sound.contexts ctx (List.mem_of_getElem? hc) j hj
    have henter : p.world.enterScope ctx s = _ := enterScope_of_store h.sound hc hj s
    rw [henter]
    cases s with
    | exemption => exact ⟨h.exempt hlt, fun q hq => hq.endExempt⟩
    | refNameCaching allowed =>
      refine ⟨h.allow hlt allowed, fun q hq => ?_⟩
      have hprevious : ((p.holding (exemptionsOf opened)).storeAt j).refNameCaching =
          settingOf opened j := h.refNames j
      rw [hprevious]
      exact hq.restore

end Between

end Process

namespace Trace.Lawful

variable {t rest : Trace} {m : Moment} {q : Passage}

theorem since (ht : t.Lawful) (hm : m.Settled) : (t.since m).Lawful where
  moments := List.forall_mem_cons.2 ⟨hm, ht.moments⟩
  passages := ht.passages

theorem append (ht : t.Lawful) (hq : q.Restores) (hrest : rest.Lawful) :
    (t.append q rest).Lawful where
  moments n hn := (List.mem_append.1 hn).elim (ht.moments n) (hrest.moments n)
  passages r hr := by
    obtain hinner | hr := List.mem_append.1 hr
    · exact ht.passages r hinner
    · obtain rfl | hrest' := List.mem_cons.1 hr
      · exact hq
      · exact hrest.passages r hrest'

end Trace.Lawful

namespace Program

open Process

theorem lawful_run (program : Program) {p : Process} {opened : List OpenScope}
    (h : p.Between opened) :
    (program.run p opened).process.Between opened ∧ (program.run p opened).Lawful := by
  induction program generalizing p opened with
  | finish exit =>
    refine ⟨h, fun m hm => ?_, fun q hq => (List.not_mem_nil hq).elim⟩
    rw [List.mem_singleton.1 hm]
    exact h.settled
  | act op held next ih =>
    obtain ⟨hend, hlaw⟩ := ih (p.perform op).2 (h.perform held)
    exact ⟨hend, hlaw.since h.settled⟩
  | scope i s body next ihbody ihnext =>
    rw [run]
    cases hc : p.world.contexts[i]? with
    | none =>
      obtain ⟨hend, hlaw⟩ := ihnext .error h
      exact ⟨hend, hlaw.since h.settled⟩
    | some ctx =>
      obtain ⟨henter, hleave⟩ := h.enter_leave hc s
      obtain ⟨hinner, hbody⟩ := ihbody henter
      have hafter := hleave _ hinner
      obtain ⟨hend, hrest⟩ := ihnext _ hafter
      refine ⟨hend, (hbody.append ⟨fun c => ?_, fun hnone => ?_⟩ hrest).since h.settled⟩
      · exact (hafter.settled.refNames c).trans (h.settled.refNames c).symm
      · rw [enterScope_untracked hnone]
        exact ⟨rfl, rfl⟩

/-- Whatever a program does, and however the bodies of its scopes end. -/
theorem scopes_undo_what_they_did (now : Instant) (program : Program) :
    (program.run (.start now) []).Lawful :=
  (lawful_run program (Between.start now)).2

/-- The inner one of two scopes is left by a panic that the outer one makes an error of. -/
example :
    let inner : Program := .scope 0 (.refNameCaching false) (.finish .panic) fun _ =>
      .finish .error
    let program : Program := .act (.startRequest .background true .nobody none) rfl fun _ =>
      .scope 0 (.refNameCaching true) inner .finish
    let t := program.run (.start .epoch) []
    t.exit = .error ∧ t.passages.map (·.exit) = [.panic, .error] ∧
      t.moments.map (fun m => (m.process.storeAt 0).refNameCaching) =
        [false, false, true, false, true, false] := ⟨rfl, rfl, rfl⟩

end Program

end StorageCalls
