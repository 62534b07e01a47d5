import Mathlib.Logic.Function.Basic
import StorageCalls.Proofs.Stages
import StorageCalls.Proofs.Targets

namespace StorageCalls

namespace Registry

def build (r : Registry) (files : Files) (service storage : String) :
    Stage Transport Connection := fun s =>
  match r.target files service storage with
  | .error fault => ⟨s, [], .error (.configuration fault)⟩
  | .ok t =>
    match s.network.refusal t with
    | some reason => ⟨s, [], .error (.configuration (.stated reason))⟩
    | none =>
      ⟨{ s with network := s.network.build t }, [],
        .ok ⟨s.network.builds.length, t, r.interceptors⟩⟩

def put (c : Connection) (connections : List Connection) : List Connection :=
  connections.filter (fun d => !d.isFor c.target.service c.target.storage) ++ [c]

def insert (c : Connection) : Stage Transport Connection := fun s =>
  ⟨{ s with connections := put c s.connections }, [.connectionCreated c.target], .ok c⟩

theorem put_of_absent {c : Connection} {cs : List Connection}
    (h : find? cs c.target.service c.target.storage = none) : put c cs = cs ++ [c] := by
  rw [put, List.filter_eq_self.2]
  intro d hd
  simpa using List.find?_eq_none.1 h d hd

theorem find?_put_self (c : Connection) (cs : List Connection) :
    find? (put c cs) c.target.service c.target.storage = some c := by
  have hnone : find? (cs.filter fun d => !d.isFor c.target.service c.target.storage)
      c.target.service c.target.storage = none := by
    rw [find?, List.find?_eq_none]
    intro d hd
    simpa using (List.mem_filter.1 hd).2
  have hself : c.isFor c.target.service c.target.storage := isFor_iff.2 ⟨rfl, rfl⟩
  rw [find?] at hnone ⊢
  rw [put, List.find?_append, hnone, Option.none_or, List.find?_singleton, if_pos hself]

theorem find?_put_of_ne {c : Connection} {service storage : String}
    (h : ¬ c.isFor service storage) (cs : List Connection) :
    find? (put c cs) service storage = find? cs service storage := by
  rw [find?, find?, put, List.find?_append, List.find?_singleton, if_neg h, Option.or_none,
    List.find?_filter]
  congr 1
  funext d
  by_cases hd : d.isFor service storage
  · have hne : ¬ d.isFor c.target.service c.target.storage := by
      intro hc
      rw [isFor_iff] at hd hc
      exact h (isFor_iff.2 ⟨hc.1.symm.trans hd.1, hc.2.symm.trans hd.2⟩)
    simp [hd, hne]
  · simp [hd]

theorem build_ok {r : Registry} {files : Files} {service storage : String} {t : Transport}
    {c : Connection} (h : ((r.build files service storage).run t).result = .ok c) :
    ((r.build files service storage).run t).state =
        { t with network := t.network.build c.target } ∧
      c.serial = t.network.builds.length ∧ c.isFor service storage := by
  rw [Stage.run, build] at h ⊢
  cases ht : r.target files service storage with
  | error fault => simp [ht] at h
  | ok target =>
    simp only [ht] at h ⊢
    cases hn : t.network.refusal target with
    | some reason => simp [hn] at h
    | none =>
      simp only [hn, Except.ok.injEq] at h ⊢
      subst h
      exact ⟨rfl, rfl, isFor_iff.2 (target_ok ht)⟩

theorem build_error {r : Registry} {files : Files} {service storage : String} {t : Transport}
    {e : CallError} (h : ((r.build files service storage).run t).result = .error e) :
    ((r.build files service storage).run t).state = t := by
  rw [Stage.run, build] at h ⊢
  cases ht : r.target files service storage with
  | error fault => rfl
  | ok target =>
    simp only [ht] at h ⊢
    cases hn : t.network.refusal target with
    | some reason => rfl
    | none => simp [hn] at h

/-- A lookup that nobody disturbs makes the connection of the registry. -/
theorem connectionFor_of_absent (r : Registry) (files : Files) {service storage : String}
    {t : Transport} (h : find? t.connections service storage = none) :
    (r.connectionFor files service storage).run t =
      (r.build files service storage >>= insert).run t := by
  rw [Stage.run_bind, Stage.run, connectionFor, Stage.run, build, h]
  cases ht : r.target files service storage with
  | error fault => rfl
  | ok target =>
    simp only [connect]
    cases t.network.refusal target with
    | some reason => rfl
    | none =>
      obtain ⟨hservice, hstorage⟩ := target_ok ht
      have hput := put_of_absent (c := ⟨t.network.builds.length, target, r.interceptors⟩)
        (by rw [hservice, hstorage]; exact h)
      simp only [Outcome.andThen, Stage.run, insert, hput]
      rfl

end Registry

/-- A connection as it was obtained for a pair, with the number of times that the registry had been
emptied by then. -/
structure Obtained where
  service : String
  storage : String
  era : Nat
  connection : Connection

/-- Where a thread is between two steps. -/
inductive Position where
  | idle
  | waiting (service storage : String)
  | rereading (service storage : String)
  | building (service storage : String)
  | inserting (service storage : String) (c : Connection)
  | emptying
  | leaving (result : Option Obtained)
  | returning (result : Obtained)

def Position.holds : Position → Bool
  | idle | waiting .. | returning _ => false
  | rereading .. | building .. | inserting .. | emptying | leaving _ => true

inductive Mark (ι : Type) where
  | found (thread : ι) (o : Obtained)
  | built (thread : ι) (era : Nat) (c : Connection)
  | inserted (thread : ι) (o : Obtained) (replaced : Option Connection)
  | emptied (thread : ι)
  | returned (thread : ι) (o : Obtained)

structure Machine (ι : Type) where
  transport : Transport
  holder : Option ι
  position : ι → Position
  /-- How many times the registry was emptied. -/
  era : Nat

namespace Machine

variable {ι : Type} [DecidableEq ι]

def start (t : Transport) : Machine ι := ⟨t, none, fun _ => .idle, 0⟩

def find? (m : Machine ι) (service storage : String) : Option Connection :=
  Registry.find? m.transport.connections service storage

def goTo (m : Machine ι) (i : ι) (p : Position) : Machine ι :=
  { m with position := Function.update m.position i p }

/-- One step of one thread, or a change of what the channels do that no thread of the registry made.
Files may be others for each build. -/
inductive Step (r : Registry) (m : Machine ι) : Option (Mark ι) → Machine ι → Prop
  | hit {i : ι} {service storage : String} {c : Connection} (hi : m.position i = .idle)
      (hc : m.find? service storage = some c) :
      Step r m (some (.found i ⟨service, storage, m.era, c⟩))
        (m.goTo i (.returning ⟨service, storage, m.era, c⟩))
  | miss {i : ι} {service storage : String} (hi : m.position i = .idle)
      (hc : m.find? service storage = none) :
      Step r m none (m.goTo i (.waiting service storage))
  | acquire {i : ι} {service storage : String} (hi : m.position i = .waiting service storage)
      (hl : m.holder = none) :
      Step r m none { m.goTo i (.rereading service storage) with holder := some i }
  | rehit {i : ι} {service storage : String} {c : Connection}
      (hi : m.position i = .rereading service storage) (hc : m.find? service storage = some c) :
      Step r m (some (.found i ⟨service, storage, m.era, c⟩))
        (m.goTo i (.leaving (some ⟨service, storage, m.era, c⟩)))
  | remiss {i : ι} {service storage : String} (hi : m.position i = .rereading service storage)
      (hc : m.find? service storage = none) :
      Step r m none (m.goTo i (.building service storage))
  | build {i : ι} {service storage : String} {c : Connection} (files : Files)
      (hi : m.position i = .building service storage)
      (hr : ((r.build files service storage).run m.transport).result = .ok c) :
      Step r m (some (.built i m.era c))
        { m.goTo i (.inserting service storage c) with
          transport := ((r.build files service storage).run m.transport).state }
  | fail {i : ι} {service storage : String} {e : CallError} (files : Files)
      (hi : m.position i = .building service storage)
      (hr : ((r.build files service storage).run m.transport).result = .error e) :
      Step r m none
        { m.goTo i (.leaving none) with
          transport := ((r.build files service storage).run m.transport).state }
  | insert {i : ι} {service storage : String} {c : Connection}
      (hi : m.position i = .inserting service storage c) :
      Step r m (some (.inserted i ⟨service, storage, m.era, c⟩ (m.find? service storage)))
        { m.goTo i (.leaving (some ⟨service, storage, m.era, c⟩)) with
          transport := ((Registry.insert c).run m.transport).state }
  | acquireToEmpty {i : ι} (hi : m.position i = .idle) (hl : m.holder = none) :
      Step r m none { m.goTo i .emptying with holder := some i }
  | empty {i : ι} (hi : m.position i = .emptying) :
      Step r m (some (.emptied i))
        { m.goTo i (.leaving none) with
          transport := (Registry.clear.run m.transport).state
          era := m.era + 1 }
  | release {i : ι} {result : Option Obtained} (hi : m.position i = .leaving result) :
      Step r m none { m.goTo i (result.elim .idle .returning) with holder := none }
  | finish {i : ι} {o : Obtained} (hi : m.position i = .returning o) :
      Step r m (some (.returned i o)) (m.goTo i .idle)
  | surroundings (n : Network) (hn : n.builds = m.transport.network.builds) :
      Step r m none { m with transport := { m.transport with network := n } }

/-- Steps of any threads in any order, with the marks of those that leave one. -/
inductive Run (r : Registry) (m : Machine ι) : List (Mark ι) → Machine ι → Prop
  | nil : Run r m [] m
  | step {t : List (Mark ι)} {x : Option (Mark ι)} {m₁ m₂ : Machine ι} (h : Run r m t m₁)
      (hs : Step r m₁ x m₂) : Run r m (t ++ x.toList) m₂

theorem Run.split {r : Registry} {m₀ m : Machine ι} {t a b : List (Mark ι)} {x : Mark ι}
    (h : Run r m₀ t m) (ht : t = a ++ x :: b) :
    ∃ m₁ m₂, Run r m₀ a m₁ ∧ Step r m₁ (some x) m₂ := by
  induction h generalizing b with
  | nil => exact absurd ht (by simp)
  | @step t y m₁ m₂ h hs ih =>
    cases y with
    | none =>
      rw [Option.toList_none, List.append_nil] at ht
      exact ih ht
    | some y =>
      rw [Option.toList_some] at ht
      obtain rfl | ⟨b', z, rfl⟩ := b.eq_nil_or_concat
      · obtain ⟨rfl, hxy⟩ := List.append_inj' ht rfl
        cases hxy
        exact ⟨m₁, m₂, h, hs⟩
      · rw [List.concat_eq_append, ← List.cons_append, ← List.append_assoc] at ht
        exact ih (List.append_inj' ht rfl).1

def moved (m : Machine ι) (i : ι) (transport : Transport) (holder : Option ι) (p : Position) :
    Machine ι :=
  ⟨transport, holder, Function.update m.position i p, m.era⟩

variable {r : Registry} {m m₀ : Machine ι} {i : ι} {t : List (Mark ι)}

theorem moved_self {transport : Transport} {holder : Option ι} {p : Position} :
    (m.moved i transport holder p).position i = p := Function.update_self ..

theorem Run.goOn {x : Option (Mark ι)} {transport transport' : Transport}
    {holder holder' : Option ι} {p q : Position} (h : Run r m₀ t (m.moved i transport holder p))
    (hs : Step r (m.moved i transport holder p) x
      ⟨transport', holder', ((m.moved i transport holder p).goTo i q).position, m.era⟩) :
    Run r m₀ (t ++ x.toList) (m.moved i transport' holder' q) := by
  have h' := h.step hs
  rw [goTo, moved, Function.update_idem] at h'
  exact h'

/-- What a thread does between the lock and the end of a lookup, once it has found nothing twice. -/
theorem run_building {files : Files} {service storage : String}
    (h : Run r m₀ t (m.moved i m.transport (some i) (.building service storage))) :
    let o := (r.build files service storage >>= Registry.insert).run m.transport
    ∃ t', Run r m₀ t' (m.moved i o.state none .idle) ∧
      ∀ c, o.result = .ok c → .returned i ⟨service, storage, m.era, c⟩ ∈ t' := by
  intro o
  cases hr : ((r.build files service storage).run m.transport).result with
  | error e =>
    have hstate : o.state = ((r.build files service storage).run m.transport).state :=
      Stage.state_bind_of_error hr
    have hresult : o.result = .error e := Stage.result_bind_of_error hr
    have h₁ := h.goOn (Step.fail files moved_self hr)
    have h₂ := h₁.goOn (Step.release moved_self)
    refine ⟨_, hstate ▸ h₂, fun c hc => ?_⟩
    rw [hresult] at hc
    cases hc
  | ok c =>
    have hstate : o.state =
        ((Registry.insert c).run ((r.build files service storage).run m.transport).state).state :=
      Stage.state_bind_of_ok hr
    have hresult : o.result = .ok c := Stage.result_bind_of_ok hr
    have h₁ := h.goOn (Step.build files moved_self hr)
    have h₂ := h₁.goOn (Step.insert moved_self)
    have h₃ := h₂.goOn (Step.release moved_self)
    have h₄ := h₃.goOn (Step.finish moved_self)
    refine ⟨_, hstate ▸ h₄, fun d hd => ?_⟩
    rw [hresult] at hd
    cases hd
    exact List.mem_append_right _ (List.mem_singleton.2 rfl)

/-- A lookup that no other thread disturbs gets the connection of the registry and leaves the
registry as that does. -/
theorem run_lookup (r : Registry) (files : Files) (service storage : String)
    (hi : m.position i = .idle) (hl : m.holder = none) :
    let o := (r.connectionFor files service storage).run m.transport
    ∃ t, Run r m t { m with transport := o.state } ∧
      ∀ c, o.result = .ok c → .returned i ⟨service, storage, m.era, c⟩ ∈ t := by
  intro o
  have hidle : m.moved i o.state none .idle = { m with transport := o.state } := by
    rw [moved, ← hl, ← hi, Function.update_eq_self]
  have h₀ : Run r m [] (m.moved i m.transport none .idle) := by
    rw [moved, ← hl, ← hi, Function.update_eq_self]
    exact .nil
  rw [← hidle]
  cases hc : Registry.find? m.transport.connections service storage with
  | some c =>
    have ho : o = ⟨m.transport, [], .ok c⟩ := by
      simp only [o, Stage.run, Registry.connectionFor, hc]
    have h₁ := h₀.goOn (Step.hit moved_self hc)
    have h₂ := h₁.goOn (Step.finish moved_self)
    rw [ho]
    refine ⟨_, h₂, fun d hd => ?_⟩
    cases hd
    exact List.mem_append_right _ (List.mem_singleton.2 rfl)
  | none =>
    have h₁ := h₀.goOn (Step.miss moved_self hc)
    have h₂ := h₁.goOn (Step.acquire moved_self rfl)
    have h₃ := h₂.goOn (Step.remiss moved_self hc)
    have ho : o = (r.build files service storage >>= Registry.insert).run m.transport :=
      r.connectionFor_of_absent files hc
    rw [ho]
    exact run_building h₃

end Machine

end StorageCalls
