import StorageCalls.Proofs.RequestDeeds

namespace StorageCalls

open Scenario (Answer)
open Branch (View)
open Request

namespace Process

variable {α : Type} {p q : Process} {k r : Nat} {x : Client} {files : Files} {elapsed : Duration}

theorem viewOn_of_view {b c : Nat} {step : Branch.Step}
    (h : q.view b = if c = b then (p.view b).map (·.after step) else p.view b) :
    q.viewOn k b = if c = b then (p.viewOn k b).map (·.after step) else p.viewOn k b := by
  rw [viewOn, h, viewOn]
  split
  · cases p.view b with
    | none => rfl
    | some v =>
      simp only [Option.map_some, Option.filter_some, Branch.View.store_after]
      split <;> rfl
  · rfl

theorem viewOn_locate_of_ne (h : r ≠ k) (i : Nat) : p.viewOn k (p.locate r i) = none := by
  cases hv : (p.viewsOf r)[i]? with
  | none => rw [viewOn, view, contexts_locate_eq_none hv]; rfl
  | some v =>
    obtain ⟨hview, hstore⟩ := viewOn_eq_some.1 ((viewOn_locate i).trans hv)
    simp [viewOn, hview, hstore, h]

theorem viewsOf_step (hl : q.world.contexts.length = p.world.contexts.length) {i : Nat}
    {step : Branch.Step}
    (h : ∀ b, q.view b = if p.locate r i = b then (p.view b).map (·.after step) else p.view b) :
    q.viewsOf k =
      if r = k then (p.viewsOf k).modify i (·.after step) else p.viewsOf k := by
  by_cases hr : r = k
  · subst hr
    rw [if_pos rfl]
    exact viewsOf_modify hl i fun b => viewOn_of_view (h b)
  · rw [if_neg hr]
    apply viewsOf_congr hl
    intro b
    rw [viewOn_of_view (h b)]
    split
    · rename_i hb
      rw [← hb, viewOn_locate_of_ne hr]
      rfl
    · rfl

theorem viewsOf_of_guards (hc : q.world.contexts = p.world.contexts)
    (hg : ∀ b, q.guards.filterMap (Guard.frameOf b) = p.guards.filterMap (Guard.frameOf b)) :
    q.viewsOf k = p.viewsOf k := by
  apply viewsOf_congr (by rw [hc])
  intro b
  rw [viewOn, view, hc, hg, viewOn, view]

theorem viewsOf_within (i : Nat) (y : RequestContext → Stage CallState α) (f : α → Answer) :
    (p.within i y f).1.viewsOf k = p.viewsOf k := by
  obtain ⟨hc, hg, -⟩ := p.same_within i y f
  exact viewsOf_of_guards hc fun b => by rw [hg]

theorem viewsOf_fork (hp : p.Proper) (i : Nat) :
    (p.perform (.fork (p.locate r i))).1.viewsOf k =
      if r = k then viewsAfter (p.viewsOf k) (.fork i) else p.viewsOf k := by
  cases hv : (p.viewsOf r)[i]? with
  | none =>
    simp only [perform, withContext, contexts_locate_eq_none hv]
    split
    · rename_i hr
      subst hr
      simp [viewsAfter, hv]
    · rfl
  | some v =>
    obtain ⟨hc, hr⟩ := contextOn_eq_some.1 (contextOn_locate hv)
    have hchild : v.context.child.store = some r := hr
    simp only [perform, withContext, hc]
    have hforked : (p.world.fork v.context).contexts = p.world.contexts ++ [v.context.child] := rfl
    rw [viewsOf_concat (q := ⟨p.world.fork v.context, p.guards⟩) hp hforked rfl, hchild]
    by_cases h : r = k
    · subst h
      simp [viewsAfter, hv]
    · simp [h]

theorem viewsOf_enterScope (i : Nat) (scope : Scope) :
    (p.perform (.enterScope i scope)).1.viewsOf k = p.viewsOf k := by
  simp only [perform, withContext]
  cases p.world.contexts[i]? with
  | none => rfl
  | some ctx =>
    simp only [World.enterScope, keep]
    cases ctx.store with
    | none => exact viewsOf_of_guards rfl fun b => by simp
    | some j =>
      cases p.world.store? ctx with
      | none => exact viewsOf_of_guards rfl fun b => by simp
      | some store => cases scope <;> exact viewsOf_of_guards rfl fun b => by simp [Guard.frameOf]

theorem viewsOf_dropScope (n : Nat) :
    (p.perform (.drop (place (Guard.scopeOf r) p.guards n))).1.viewsOf k = p.viewsOf k := by
  cases hg : p.guards[place (Guard.scopeOf r) p.guards n]? with
  | none => simp only [perform, hg]
  | some g =>
    obtain ⟨-, hscope⟩ := scope_at_place hg
    simp only [perform, hg]
    have hnone : ∀ b, g.frameOf b = none := by
      obtain rfl | ⟨previous, rfl⟩ := hscope <;> exact fun _ => rfl
    have hcontexts : (p.world.release g).contexts = p.world.contexts := by
      obtain rfl | ⟨previous, rfl⟩ := hscope <;> rfl
    apply viewsOf_of_guards hcontexts
    exact fun b => filterMap_eraseIdx_of_dropped hg (hnone b)

theorem viewsOf_deed (hp : p.Proper) (d : Deed) :
    (p.perform (p.deedOperation x files r elapsed d)).1.viewsOf k =
      if r = k then viewsAfter (p.viewsOf k) d else p.viewsOf k := by
  have hself : p.viewsOf k = if r = k then p.viewsOf k else p.viewsOf k := by rw [ite_self]
  cases d with
  | fork i => exact viewsOf_fork hp i
  | enterFrame i label =>
    apply viewsOf_step _ fun b => view_enterFrame (p.locate r i) label
    simp only [perform, World.enterFrame, keep]
    cases p.world.contexts[p.locate r i]? with
    | none => rfl
    | some ctx => exact List.length_modify ..
  | dropFrame i n =>
    apply viewsOf_step _ fun b => view_drop (p.locate r i) n
    simp only [perform]
    cases hg : p.guards[place (Guard.frameOf (p.locate r i)) p.guards n]? with
    | none => rfl
    | some g =>
      obtain ⟨id, rfl, -⟩ := frame_at_place hg
      exact List.length_modify ..
  | enterScope i scope => exact (viewsOf_enterScope ..).trans hself
  | dropScope n => exact (viewsOf_dropScope n).trans hself
  | enforce i site => exact (viewsOf_within ..).trans hself
  | resetCounts i => exact (viewsOf_within ..).trans hself
  | markQuarantined i => exact (viewsOf_within ..).trans hself
  | keepDetails i => exact (viewsOf_within ..).trans hself
  | sessionId i => exact (viewsOf_within ..).trans hself
  | call i c => exact (viewsOf_within ..).trans hself
  | checkHealth i storage => exact (viewsOf_within ..).trans hself

theorem scopesOf_within (i : Nat) (y : RequestContext → Stage CallState α) (f : α → Answer) :
    (p.within i y f).1.scopesOf k = p.scopesOf k :=
  congrArg (List.filterMap (Guard.scopeOf k)) (p.same_within i y f).2.1

theorem scopesOf_enterFrame (i : Nat) (label : String) :
    (p.perform (.enterFrame i label)).1.scopesOf k = p.scopesOf k := by
  simp only [perform, World.enterFrame, keep]
  cases p.world.contexts[i]? <;> simp [scopesOf, Guard.scopeOf]

theorem scopesOf_dropFrame (i n : Nat) :
    (p.perform (.drop (place (Guard.frameOf i) p.guards n))).1.scopesOf k = p.scopesOf k := by
  cases hg : p.guards[place (Guard.frameOf i) p.guards n]? with
  | none => simp only [perform, hg]
  | some g =>
    obtain ⟨id, rfl, -⟩ := frame_at_place hg
    simp only [perform, hg]
    exact filterMap_eraseIdx_of_dropped hg rfl

theorem scopesOf_enterScope (hs : p.Sound) (i : Nat) (scope : Scope) :
    (p.perform (.enterScope (p.locate r i) scope)).1.scopesOf k =
      if r = k then scopesAfter k (p.storeAt k) (p.viewsOf k) (p.scopesOf k) (.enterScope i scope)
      else p.scopesOf k := by
  cases hv : (p.viewsOf r)[i]? with
  | none =>
    simp only [perform, withContext, contexts_locate_eq_none hv]
    split
    · rename_i hr
      subst hr
      cases scope <;> simp [scopesAfter, hv]
    · rfl
  | some v =>
    obtain ⟨hc, hr⟩ := contextOn_eq_some.1 (contextOn_locate hv)
    simp only [perform, withContext, hc, keep, enterScope_of_store hs hc hr]
    by_cases h : r = k
    · subst h
      cases scope <;> simp [scopesAfter, scopesOf, hv, Guard.scopeOf]
    · cases scope <;> simp [h, scopesOf, Guard.scopeOf]

theorem scopesOf_dropScope (n : Nat) :
    (p.perform (.drop (place (Guard.scopeOf r) p.guards n))).1.scopesOf k =
      if r = k then (p.scopesOf k).eraseIdx n else p.scopesOf k := by
  cases hg : p.guards[place (Guard.scopeOf r) p.guards n]? with
  | none =>
    simp only [perform, hg]
    split
    · rename_i hr
      subst hr
      have hnone := (getElem?_place_eq_none p.guards n).1 hg
      exact (List.eraseIdx_of_length_le (List.getElem?_eq_none_iff.1 hnone)).symm
    · rfl
  | some g =>
    simp only [perform, hg]
    split
    · rename_i hr
      subst hr
      exact filterMap_eraseIdx_place p.guards n
    · rename_i hr
      apply filterMap_eraseIdx_of_dropped hg
      obtain ⟨-, rfl | ⟨previous, rfl⟩⟩ := scope_at_place hg <;> simp [Guard.scopeOf, hr]

theorem scopesOf_deed (hs : p.Sound) (d : Deed) :
    (p.perform (p.deedOperation x files r elapsed d)).1.scopesOf k =
      if r = k then scopesAfter k (p.storeAt k) (p.viewsOf k) (p.scopesOf k) d
      else p.scopesOf k := by
  have hself : p.scopesOf k = if r = k then p.scopesOf k else p.scopesOf k := by rw [ite_self]
  cases d with
  | fork i =>
    simp only [deedOperation, perform, withContext]
    cases p.world.contexts[p.locate r i]? <;> exact hself
  | enterFrame i label => exact (scopesOf_enterFrame ..).trans hself
  | dropFrame i n => exact (scopesOf_dropFrame ..).trans hself
  | enterScope i scope => exact scopesOf_enterScope hs i scope
  | dropScope n => exact scopesOf_dropScope n
  | enforce i site => exact (scopesOf_within ..).trans hself
  | resetCounts i => exact (scopesOf_within ..).trans hself
  | markQuarantined i => exact (scopesOf_within ..).trans hself
  | keepDetails i => exact (scopesOf_within ..).trans hself
  | sessionId i => exact (scopesOf_within ..).trans hself
  | call i c => exact (scopesOf_within ..).trans hself
  | checkHealth i storage => exact (scopesOf_within ..).trans hself

theorem storeAt_within_locate (hr : r ≠ k) (i : Nat) (y : RequestContext → Stage CallState α)
    (f : α → Answer) : (p.within (p.locate r i) y f).1.storeAt k = p.storeAt k := by
  cases hv : (p.viewsOf r)[i]? with
  | none => rw [within, withContext, contexts_locate_eq_none hv]
  | some v => exact storeAt_within_of_ne (contextOn_locate hv) hr

theorem storeAt_enterScope_of_ne (hs : p.Sound) (hr : r ≠ k) (i : Nat) (scope : Scope) :
    (p.perform (.enterScope (p.locate r i) scope)).1.storeAt k = p.storeAt k := by
  cases hv : (p.viewsOf r)[i]? with
  | none => simp only [perform, withContext, contexts_locate_eq_none hv]
  | some v =>
    have hctx := contextOn_locate hv
    obtain ⟨hc, hstore⟩ := contextOn_eq_some.1 hctx
    have hat := storeAt_modify (stores_enterScope hs hc hstore scope) (hs.lt_of_contextOn hctx) k
    rw [hat, if_neg hr]

theorem storeAt_dropScope_of_ne (hr : r ≠ k) (n : Nat) :
    (p.perform (.drop (place (Guard.scopeOf r) p.guards n))).1.storeAt k = p.storeAt k := by
  cases hg : p.guards[place (Guard.scopeOf r) p.guards n]? with
  | none => simp only [perform, hg]
  | some g =>
    have hstores := stores_drop hg
    rw [storeAt, hstores, storeAt]
    obtain ⟨-, rfl | ⟨previous, rfl⟩⟩ := scope_at_place hg <;>
      simp [World.release, World.modifyStore, hr]

theorem storeAt_deed_of_ne (hs : p.Sound) (hr : r ≠ k) (d : Deed) :
    (p.perform (p.deedOperation x files r elapsed d)).1.storeAt k = p.storeAt k := by
  cases d with
  | fork i =>
    simp only [deedOperation, perform, withContext]
    cases p.world.contexts[p.locate r i]? <;> rfl
  | enterFrame i label =>
    simp only [deedOperation, perform, World.enterFrame, keep]
    cases p.world.contexts[p.locate r i]? <;> rfl
  | dropFrame i n =>
    simp only [deedOperation, perform]
    cases hg : p.guards[place (Guard.frameOf (p.locate r i)) p.guards n]? with
    | none => rfl
    | some g =>
      obtain ⟨id, rfl, -⟩ := frame_at_place hg
      rfl
  | enterScope i scope => exact storeAt_enterScope_of_ne hs hr i scope
  | dropScope n => exact storeAt_dropScope_of_ne hr n
  | enforce i site => exact storeAt_within_locate hr ..
  | resetCounts i => exact storeAt_within_locate hr ..
  | markQuarantined i => exact storeAt_within_locate hr ..
  | keepDetails i => exact storeAt_within_locate hr ..
  | sessionId i => exact storeAt_within_locate hr ..
  | call i c => exact storeAt_within_locate hr ..
  | checkHealth i storage => exact storeAt_within_locate hr ..

end Process

end StorageCalls
