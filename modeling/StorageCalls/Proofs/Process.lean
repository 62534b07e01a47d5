import StorageCalls.Scenario.Answer

namespace StorageCalls

open Scenario (Answer)

structure Process where
  world : World
  /-- Taken and not yet dropped, oldest first. -/
  guards : List Guard

/-- What a host does. Each operation brings its own client and files, so configuration, policy and
interceptors may differ from one operation to the next. -/
inductive Operation where
  | startRequest (kind : RequestKind) (tracked : Bool) (caller : Caller)
      (correlationId : Option String)
  | fork (context : Nat)
  | enterFrame (context : Nat) (label : String)
  | enterScope (context : Nat) (scope : Scope)
  | drop (guard : Nat)
  | enforce (x : Client) (context : Nat) (site : String)
  | resetCounts (context : Nat)
  | markQuarantined (context : Nat)
  | keepDetails (context : Nat)
  | sessionId (x : Client) (context : Nat)
  | call (x : Client) (files : Files) (elapsed : Duration) (context : Nat) (c : Call)
  | checkHealth (x : Client) (files : Files) (elapsed : Duration) (context : Nat) (storage : String)
  | connectionFor (r : Registry) (files : Files) (service storage : String)
  | clear
  | moveClock (step : ClockStep)
  | script (responses : Table (Except Status Bytes)) (health : Except Status HealthStatus)
      (refusal : ChannelTarget → Option String)

namespace Process

def start (now : Instant) : Process := ⟨.start now, []⟩

def onWorld {α : Type} (p : Process) (x : Stage World α) (f : α → Answer) : Process × Answer :=
  ({ p with world := (x.run p.world).state }, .ofResult f (x.run p.world).result)

def withContext (p : Process) (i : Nat) (f : RequestContext → Process × Answer) :
    Process × Answer :=
  match p.world.contexts[i]? with
  | none => (p, .unknownName)
  | some ctx => f ctx

def within {α : Type} (p : Process) (i : Nat) (x : RequestContext → Stage CallState α)
    (f : α → Answer) : Process × Answer :=
  p.withContext i fun ctx => p.onWorld (World.within ctx (x ctx)) f

def keep (p : Process) (r : World × Option Guard) : Process × Answer :=
  (⟨r.1, p.guards ++ r.2.toList⟩, .done)

def surroundings (p : Process) (files : Files) (elapsed : Duration) : Surroundings :=
  ⟨p.world.now, files, elapsed⟩

def perform (p : Process) : Operation → Process × Answer
  | .startRequest kind tracked caller correlationId =>
    ({ p with world := p.world.startRequest kind tracked caller correlationId }, .done)
  | .fork i => p.withContext i fun ctx => ({ p with world := p.world.fork ctx }, .done)
  | .enterFrame i label => p.keep (p.world.enterFrame i label)
  | .enterScope i scope => p.withContext i fun ctx => p.keep (p.world.enterScope ctx scope)
  | .drop n =>
    match p.guards[n]? with
    | none => (p, .dropped false)
    | some g => (⟨p.world.release g, p.guards.eraseIdx n⟩, .dropped true)
  | .enforce x i site => p.within i (fun ctx => x.enforce ctx site) fun _ => .done
  | .resetCounts i => p.within i (fun _ => onStore Budget.resetCounts) fun _ => .done
  | .markQuarantined i => p.within i (fun _ => onStore (.update (·.markQuarantined))) fun _ => .done
  | .keepDetails i => p.within i (fun _ => onStore (.update (·.keepDetails))) fun _ => .done
  | .sessionId x i => p.within i (fun _ => x.sessionId) .session
  | .call x files elapsed i c =>
    p.within i (fun ctx => x.call (p.surroundings files elapsed) ctx c) .response
  | .checkHealth x files elapsed i storage =>
    p.within i (fun ctx => x.checkHealth (p.surroundings files elapsed) ctx storage) .health
  | .connectionFor r files service storage =>
    p.onWorld (World.transported (r.connectionFor files service storage)) fun c =>
      .connection c.serial c
  | .clear => p.onWorld (World.transported Registry.clear) fun _ => .done
  | .moveClock step => p.onWorld (World.moveClock step) fun _ => .done
  | .script responses health refusal =>
    ({ p with world := { p.world with transport := { p.world.transport with
        network := { p.world.transport.network with responses, health, refusal } } } }, .done)

def run (p : Process) (ops : List Operation) : Process := ops.foldl (fun p op => (p.perform op).1) p

/-- The store of a number; one that there is not is as good as an empty one. -/
def storeAt (p : Process) (k : Nat) : RequestStore := (p.world.stores[k]?).getD .empty

def exempts (p : Process) (k : Nat) : Bool := p.guards.contains (.exemption k)

def invocations (p : Process) : List Invocation := p.world.transport.network.invocations

variable (p : Process)

theorem run_cons (op : Operation) (ops : List Operation) :
    p.run (op :: ops) = (p.perform op).1.run ops := rfl

theorem run_append (ops later : List Operation) : p.run (ops ++ later) = (p.run ops).run later :=
  List.foldl_append

/-- Contexts and guards refer to stores that there are, and each exemption is one that is held. -/
structure Sound (p : Process) : Prop where
  contexts : ∀ ctx ∈ p.world.contexts, ∀ k, ctx.store = some k → k < p.world.stores.length
  guards : ∀ k, .exemption k ∈ p.guards → k < p.world.stores.length
  exemptions : ∀ k, (p.storeAt k).exemptions = p.guards.count (.exemption k)

theorem sound_start (now : Instant) : (start now).Sound where
  contexts := by simp [start, World.start]
  guards := by simp [start]
  exemptions := by simp [start, World.start, storeAt, RequestStore.empty]

end Process

end StorageCalls
