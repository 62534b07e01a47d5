import Mathlib.Data.Finset.Card
import Mathlib.Data.List.Induction
import StorageCalls.Proofs.RegistryRuns

namespace StorageCalls

def Connection.pair (c : Connection) : String × String := (c.target.service, c.target.storage)

namespace Registry

/-- The notes since the registry was last cleared. -/
def sinceClear (h : List Note) : List Note := h.rtakeWhile (!·.isCleared)

def Note.pair? : Note → Option (String × String)
  | answered service storage (.ok _) => some (service, storage)
  | answered _ _ (.error _) | cleared => none

/-- The pairs of the lookups that succeeded since the registry was last cleared. -/
def obtained (h : List Note) : List (String × String) := (sinceClear h).filterMap Note.pair?

def Note.fresh (past : List Note) : Note → List Connection
  | answered service storage (.ok c) => if (service, storage) ∈ obtained past then [] else [c]
  | answered _ _ (.error _) | cleared => []

/-- The connections of all lookups that were the first to succeed for their pair. -/
def fresh (past : List Note) : List Note → List Connection
  | [] => []
  | n :: later => n.fresh past ++ fresh (past ++ [n]) later

variable {r : Registry} {w : Workplace} {h : List Note} {service storage : String}

theorem sinceClear_answered (h : List Note) (service storage : String)
    (answer : Except CallError Connection) :
    sinceClear (h ++ [.answered service storage answer]) =
      sinceClear h ++ [.answered service storage answer] :=
  List.rtakeWhile_concat_pos _ _ _ rfl

theorem sinceClear_cleared (h : List Note) : sinceClear (h ++ [.cleared]) = [] :=
  List.rtakeWhile_concat_neg _ _ _ (by simp [Note.isCleared])

theorem mem_obtained :
    (service, storage) ∈ obtained h ↔ ∃ c, .answered service storage (.ok c) ∈ sinceClear h := by
  rw [obtained, List.mem_filterMap]
  constructor
  · rintro ⟨n, hn, hpair⟩
    match n with
    | .answered _ _ (.ok c) =>
      cases hpair
      exact ⟨c, hn⟩
    | .answered _ _ (.error e) => cases hpair
    | .cleared => cases hpair
  · rintro ⟨c, hc⟩
    exact ⟨_, hc, rfl⟩

theorem fresh_concat (past h : List Note) (n : Note) :
    fresh past (h ++ [n]) = fresh past h ++ n.fresh (past ++ h) := by
  induction h generalizing past with
  | nil => simp [fresh]
  | cons m h ih => simp [fresh, ih]

theorem mem_pairs_iff {connections : List Connection} :
    (service, storage) ∈ connections.map (·.pair) ↔
      ∃ c, find? connections service storage = some c := by
  rw [← Option.isSome_iff_exists, find?, List.find?_isSome, List.mem_map]
  refine exists_congr fun c => and_congr_right fun _ => ?_
  rw [isFor_iff, Connection.pair, Prod.mk.injEq]

/-- The connections as the notes tell them, none of them twice. -/
structure Mirrors (start w : Workplace) (h : List Note) : Prop where
  table : ∀ service storage c, find? w.transport.connections service storage = some c ↔
    .answered service storage (.ok c) ∈ sinceClear h
  distinct : (w.transport.connections.map (·.pair)).Nodup
  builds : w.transport.network.builds =
    start.transport.network.builds ++ (fresh [] h).map (·.target)

namespace Mirrors

variable {start : Workplace}

theorem obtained_iff (hm : Mirrors start w h) :
    (service, storage) ∈ obtained h ↔
      ∃ c, find? w.transport.connections service storage = some c := by
  rw [mem_obtained]
  exact exists_congr fun c => (hm.table service storage c).symm

theorem absent (hm : Mirrors start w h) (hpair : (service, storage) ∉ obtained h) :
    find? w.transport.connections service storage = none := by
  rw [hm.obtained_iff] at hpair
  exact Option.eq_none_iff_forall_ne_some.2 fun c hc => hpair ⟨c, hc⟩

theorem failed (hm : Mirrors start w h) (service storage : String) (e : CallError) :
    Mirrors start w (h ++ [.answered service storage (.error e)]) where
  table service' storage' c := by simp [hm.table, sinceClear_answered]
  distinct := hm.distinct
  builds := by rw [hm.builds, fresh_concat, Note.fresh, List.append_nil]

theorem found (hm : Mirrors start w h) {c : Connection}
    (hc : find? w.transport.connections service storage = some c) :
    Mirrors start w (h ++ [.answered service storage (.ok c)]) where
  table service' storage' c' := by
    rw [hm.table, sinceClear_answered, List.mem_append, List.mem_singleton]
    constructor
    · exact .inl
    · rintro (hold | hnew)
      · exact hold
      · cases hnew
        exact (hm.table _ _ _).1 hc
  distinct := hm.distinct
  builds := by
    rw [hm.builds, fresh_concat, Note.fresh, List.nil_append, if_pos (hm.obtained_iff.2 ⟨c, hc⟩),
      List.append_nil]

theorem made (hm : Mirrors start w h) {c : Connection} (hfor : c.isFor service storage)
    (hc : find? w.transport.connections service storage = none) :
    Mirrors start ⟨⟨w.transport.connections ++ [c], w.transport.network.build c.target⟩, w.files⟩
      (h ++ [.answered service storage (.ok c)]) where
  table service' storage' c' := by
    rw [find?_concat, sinceClear_answered, List.mem_append, List.mem_singleton, ← hm.table,
      Note.answered.injEq, Except.ok.injEq]
    obtain ⟨hservice, hstorage⟩ := isFor_iff.1 hfor
    cases hf : find? w.transport.connections service' storage' with
    | some d =>
      rw [Option.some_or]
      -- nothing was kept for the pair that is new, so this is another one
      refine ⟨.inl, ?_⟩
      rintro (hd | ⟨rfl, rfl, -⟩)
      · exact hd
      · rw [hc] at hf
        cases hf
    | none =>
      by_cases hpair : c.isFor service' storage'
      · obtain ⟨hservice', hstorage'⟩ := isFor_iff.1 hpair
        rw [Option.none_or, if_pos hpair]
        constructor
        · rintro ⟨rfl⟩
          exact .inr ⟨hservice'.symm.trans hservice, hstorage'.symm.trans hstorage, rfl⟩
        · rintro (hd | ⟨-, -, rfl⟩)
          · cases hd
          · rfl
      · rw [Option.none_or, if_neg hpair]
        constructor
        · rintro ⟨⟩
        · rintro (hd | ⟨rfl, rfl, -⟩)
          · cases hd
          · exact absurd hfor hpair
  distinct := by
    obtain ⟨hservice, hstorage⟩ := isFor_iff.1 hfor
    have hnew : c.pair ∉ w.transport.connections.map (·.pair) := by
      rw [Connection.pair, mem_pairs_iff, hservice, hstorage, hc]
      simp
    rw [List.map_append]
    exact hm.distinct.append (List.nodup_singleton _) (by simpa using hnew)
  builds := by
    have hpair : (service, storage) ∉ obtained h := by
      rw [hm.obtained_iff, hc]
      simp
    rw [fresh_concat, Note.fresh, List.nil_append, if_neg hpair, List.map_append,
      ← List.append_assoc, ← hm.builds]
    rfl

theorem cleared (hm : Mirrors start w h) :
    Mirrors start (r.perform w .clear).1 (h ++ [.cleared]) where
  table service storage c := by
    rw [sinceClear_cleared]
    simp [perform, clear, Stage.run, find?]
  distinct := .nil
  builds := by rw [fresh_concat, Note.fresh, List.append_nil]; exact hm.builds

theorem perform (hm : Mirrors start w h) (r : Registry) (a : Action) :
    Mirrors start (r.perform w a).1 (h ++ (r.perform w a).2) := by
  cases a with
  | clear => exact hm.cleared
  | change files refusal =>
    rw [Registry.perform, List.append_nil]
    exact ⟨hm.table, hm.distinct, hm.builds⟩
  | lookup service storage =>
    simp only [Registry.perform]
    cases hc : find? w.transport.connections service storage with
    | some c =>
      rw [lookup_of_kept hc]
      exact hm.found hc
    | none =>
      by_cases ho : Obstacle r w.files w.transport.network.refusal service storage
      · obtain ⟨fault, hfault⟩ := lookup_of_obstacle hc ho
        rw [hfault]
        exact hm.failed service storage _
      · obtain ⟨t, ht, hmade⟩ := lookup_of_no_obstacle hc ho
        rw [hmade]
        exact hm.made (isFor_iff.2 (target_ok ht)) hc

theorem run (r : Registry) (n : Network) (files : Files) (actions : List Action) :
    Mirrors ⟨⟨[], n⟩, files⟩ (r.run ⟨⟨[], n⟩, files⟩ actions)
      (r.history ⟨⟨[], n⟩, files⟩ actions) := by
  induction actions using List.reverseRecOn with
  | nil => exact ⟨by simp [Registry.run, find?, history, sinceClear], .nil, by
      simp [Registry.run, history, fresh]⟩
  | append_singleton actions a ih =>
    rw [run_concat, history_concat]
    exact ih.perform r a

end Mirrors

end Registry

end StorageCalls
