import Mathlib.Data.List.DropRight
import StorageCalls.Proofs.Securing

namespace StorageCalls

/-- What a registry works on: its connections with their channels, and the files there are. -/
structure Workplace where
  transport : Transport
  files : Files

namespace Registry

inductive Action where
  | lookup (service storage : String)
  | clear
  | change (files : Files) (refusal : ChannelTarget → Option String)

inductive Note where
  | answered (service storage : String) (answer : Except CallError Connection)
  | cleared

def Note.isCleared : Note → Bool
  | cleared => true
  | answered .. => false

variable (r : Registry) (w : Workplace)

def lookup (service storage : String) : Outcome Transport Connection :=
  (r.connectionFor w.files service storage).run w.transport

def perform : Action → Workplace × List Note
  | .lookup service storage =>
    ({ w with transport := (r.lookup w service storage).state },
      [.answered service storage (r.lookup w service storage).result])
  | .clear => ({ w with transport := (clear.run w.transport).state }, [.cleared])
  | .change files refusal =>
    (⟨{ w.transport with network := { w.transport.network with refusal } }, files⟩, [])

def run (w : Workplace) (actions : List Action) : Workplace :=
  actions.foldl (fun w a => (r.perform w a).1) w

def history (w : Workplace) : List Action → List Note
  | [] => []
  | a :: actions => (r.perform w a).2 ++ history (r.perform w a).1 actions

theorem run_cons (a : Action) (actions : List Action) :
    r.run w (a :: actions) = r.run (r.perform w a).1 actions := rfl

theorem run_concat (actions : List Action) (a : Action) :
    r.run w (actions ++ [a]) = (r.perform (r.run w actions) a).1 := by
  rw [run, List.foldl_append]
  rfl

theorem history_concat (actions : List Action) (a : Action) :
    r.history w (actions ++ [a]) = r.history w actions ++ (r.perform (r.run w actions) a).2 := by
  induction actions generalizing w with
  | nil => rw [List.nil_append, history, history, history, List.append_nil, List.nil_append, run,
      List.foldl_nil]
  | cons b actions ih => rw [List.cons_append, history, history, ih, run_cons, List.append_assoc]

variable {r w} {service storage : String}

theorem lookup_of_kept {c : Connection}
    (h : find? w.transport.connections service storage = some c) :
    r.lookup w service storage = ⟨w.transport, [], .ok c⟩ := by
  simp only [lookup, Stage.run, connectionFor, h]

theorem lookup_of_obstacle (h : find? w.transport.connections service storage = none)
    (ho : Obstacle r w.files w.transport.network.refusal service storage) :
    ∃ fault, r.lookup w service storage = ⟨w.transport, [], .error (.configuration fault)⟩ := by
  simp only [lookup, Stage.run, connectionFor, h]
  cases ht : r.target w.files service storage with
  | error fault => exact ⟨fault, rfl⟩
  | ok t =>
    obtain ⟨reason, hreason⟩ := Option.isSome_iff_exists.1 (obstacle_iff.1 ho t ht)
    exact ⟨.stated reason, by simp only [connect, hreason]⟩

/-- A lookup that finds nothing and no obstacle either makes a connection and keeps it. -/
theorem lookup_of_no_obstacle (h : find? w.transport.connections service storage = none)
    (ho : ¬ Obstacle r w.files w.transport.network.refusal service storage) :
    ∃ t, r.target w.files service storage = .ok t ∧
      let c : Connection := ⟨w.transport.network.builds.length, t, r.interceptors⟩
      r.lookup w service storage = ⟨⟨w.transport.connections ++ [c], w.transport.network.build t⟩,
        [.connectionCreated t], .ok c⟩ := by
  rw [obstacle_iff] at ho
  push Not at ho
  obtain ⟨t, ht, hr⟩ := ho
  refine ⟨t, ht, ?_⟩
  simp only [lookup, Stage.run, connectionFor, h, ht, connect, Option.not_isSome_iff_eq_none.1 hr]

end Registry

end StorageCalls
