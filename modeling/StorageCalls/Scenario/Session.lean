import StorageCalls.Description
import StorageCalls.Scenario.Answer

namespace StorageCalls.Scenario

structure Setting where
  client : Client
  files : Files
  elapsed : Duration

structure Session where
  world : World
  contexts : Table Nat
  guards : Table Guard
  handles : List Connection

structure Reply where
  session : Session
  events : List Event
  answer : Answer

namespace Session

def start (now : Instant) : Session := ⟨.start now, .empty, .empty, []⟩

def surroundings (env : Setting) (s : Session) : Surroundings :=
  ⟨s.world.now, env.files, env.elapsed⟩

def answer (s : Session) (a : Answer) : Reply := ⟨s, [], a⟩

def change (s : Session) (f : World → World) : Reply := ⟨{ s with world := f s.world }, [], .done⟩

def perform {α : Type} (s : Session) (x : Stage World α) (f : α → Answer) : Reply :=
  let o := x s.world
  ⟨{ s with world := o.state }, o.events, .ofResult f o.result⟩

def contextNumber? (s : Session) (name : String) : Option Nat := s.contexts.get? name

def withContext (s : Session) (name : String) (f : Nat → RequestContext → Reply) : Reply :=
  match s.contextNumber? name with
  | none => s.answer .unknownName
  | some i =>
    match s.world.contexts[i]? with
    | none => s.answer .unknownName
    | some ctx => f i ctx

def withStore (s : Session) (name : String) (f : Nat → RequestStore → Reply) : Reply :=
  s.withContext name fun _ ctx =>
    match ctx.store, s.world.store? ctx with
    | some i, some store => f i store
    | _, _ => s.answer .untracked

def withConnection (s : Session) (handle : Nat) (f : Connection → Reply) : Reply :=
  match s.handles[handle]? with
  | none => s.answer .unknownName
  | some c => f c

def named (s : Session) (name : String) (w : World) : Reply :=
  let i := s.world.contexts.length
  let s := { s with world := w, contexts := s.contexts.insert name i }
  s.withContext name fun _ ctx => s.answer (.context ctx)

/-- Keeps a guard under a name. A guard that had the name before is released, after the new one was
taken. -/
def hold (s : Session) (name : String) (w : World) (guard : Guard) : Session :=
  { s with
    world := w.releaseSome (s.guards.get? name)
    guards := s.guards.insert name guard }

def handleOf (s : Session) (c : Connection) : Session × Nat :=
  match s.handles.findIdx? (fun known => known.serial == c.serial) with
  | some i => (s, i)
  | none => ({ s with handles := s.handles ++ [c] }, s.handles.length)

def connectionFor (env : Setting) (service storage : String) (s : Session) : Reply :=
  let o := World.transported (env.client.connectionFor env.files service storage) s.world
  let s := { s with world := o.state }
  match o.result with
  | .error e => ⟨s, o.events, .failed e⟩
  | .ok c =>
    let (s, handle) := s.handleOf c
    ⟨s, o.events, .connection handle c⟩

end Session

end StorageCalls.Scenario
