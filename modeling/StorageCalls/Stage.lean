import StorageCalls.Event

namespace StorageCalls

variable {σ τ α β : Type}

structure Outcome (σ α : Type) where
  state : σ
  events : List Event
  result : Except CallError α

def Outcome.andThen (o : Outcome σ α) (next : α → σ → Outcome σ β) : Outcome σ β :=
  match o.result with
  | .error e => ⟨o.state, o.events, .error e⟩
  | .ok a =>
    let o' := next a o.state
    ⟨o'.state, o.events ++ o'.events, o'.result⟩

/-- A stage of work changes a state, logs events, and gives a result or fails. What it changed and
logged before it failed stays. -/
def Stage (σ α : Type) : Type := σ → Outcome σ α

namespace Stage

def run (x : Stage σ α) (s : σ) : Outcome σ α := x s

instance : Monad (Stage σ) where
  pure a := fun s => ⟨s, [], .ok a⟩
  bind x f := fun s => (x s).andThen f

def fail (e : CallError) : Stage σ α := fun s => ⟨s, [], .error e⟩

def misconfigured (fault : ConfigurationFault) : Stage σ α := fail (.configuration fault)

def log (e : Event) : Stage σ Unit := fun s => ⟨s, [e], .ok ()⟩

def read : Stage σ σ := fun s => ⟨s, [], .ok s⟩

def update (f : σ → σ) : Stage σ Unit := fun s => ⟨f s, [], .ok ()⟩

def ofConfiguration : Except ConfigurationFault α → Stage σ α
  | .ok a => pure a
  | .error fault => misconfigured fault

def zoom (part : σ → τ) (put : τ → σ → σ) (x : Stage τ α) : Stage σ α := fun s =>
  let o := x (part s)
  ⟨put o.state s, o.events, o.result⟩

theorem run_bind (x : Stage σ α) (f : α → Stage σ β) (s : σ) :
    (x >>= f).run s = (x.run s).andThen (fun a => (f a).run) := rfl

end Stage

end StorageCalls
