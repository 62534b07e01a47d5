import StorageCalls.Call.State

namespace StorageCalls

variable {σ τ α β : Type}

def verdict : Option CallError → Except CallError Unit
  | none => .ok ()
  | some e => .error e

def errorOf {ε : Type} (wrap : ε → CallError) : Except ε α → Option CallError
  | .ok _ => none
  | .error e => some (wrap e)

namespace Stage

variable {x : Stage σ α} {f : α → Stage σ β} {s : σ}

theorem state_bind_of_ok {a : α} (h : (x.run s).result = .ok a) :
    ((x >>= f).run s).state = ((f a).run (x.run s).state).state := by
  rw [run_bind, Outcome.andThen, h]

theorem result_bind_of_ok {a : α} (h : (x.run s).result = .ok a) :
    ((x >>= f).run s).result = ((f a).run (x.run s).state).result := by
  rw [run_bind, Outcome.andThen, h]

theorem state_bind_of_error {e : CallError} (h : (x.run s).result = .error e) :
    ((x >>= f).run s).state = (x.run s).state := by
  rw [run_bind, Outcome.andThen, h]

theorem result_bind_of_error {e : CallError} (h : (x.run s).result = .error e) :
    ((x >>= f).run s).result = .error e := by
  rw [run_bind, Outcome.andThen, h]

theorem state_log_bind (e : Event) (f : Unit → Stage σ β) (s : σ) :
    ((log e >>= f).run s).state = ((f ()).run s).state := rfl

theorem result_log_bind (e : Event) (f : Unit → Stage σ β) (s : σ) :
    ((log e >>= f).run s).result = ((f ()).run s).result := rfl

theorem run_ofConfiguration_ok (a : α) (s : σ) :
    (ofConfiguration (.ok a) : Stage σ α).run s = ⟨s, [], .ok a⟩ := rfl

/-- A stage that leaves a part of the state as it was, also when it fails. -/
def Keeps (part : σ → τ) (x : Stage σ α) : Prop := ∀ s, part (x.run s).state = part s

namespace Keeps

variable {part : σ → τ}

theorem pure (a : α) : Keeps part (Pure.pure a : Stage σ α) := fun _ => rfl

theorem fail (e : CallError) : Keeps part (fail e : Stage σ α) := fun _ => rfl

theorem log (e : Event) : Keeps part (log e) := fun _ => rfl

theorem read : Keeps part read := fun _ => rfl

theorem ofConfiguration (r : Except ConfigurationFault α) :
    Keeps part (ofConfiguration r : Stage σ α) := by
  cases r <;> exact fun _ => rfl

theorem bind (hx : Keeps part x) (hf : ∀ a, Keeps part (f a)) : Keeps part (x >>= f) := by
  intro s
  cases h : (x.run s).result with
  | ok a => rw [state_bind_of_ok h, hf a, hx]
  | error e => rw [state_bind_of_error h, hx]

end Keeps

end Stage

theorem run_onStore_some (x : Stage RequestStore Unit) {s : CallState} {store : RequestStore}
    (h : s.store = some store) :
    (onStore x).run s =
      ⟨{ s with store := some (x store).state }, (x store).events, (x store).result⟩ := by
  rw [Stage.run, onStore, h]

theorem run_onTransport (x : Stage Transport α) (s : CallState) :
    (onTransport x).run s =
      ⟨{ s with transport := (x.run s.transport).state }, (x.run s.transport).events,
        (x.run s.transport).result⟩ := rfl

end StorageCalls
