import StorageCalls.Proofs.RefNames

namespace StorageCalls

open Scenario (Answer)

/-- How a body ends. -/
inductive Exit where
  | normal
  | error
  | panic
  deriving DecidableEq, Repr

/-- A program goes on by what it is answered, and by how the body of a scope has ended. Other than
settings for reference names, exemptions and frames can be held across scopes and dropped at any
time. -/
inductive Program where
  | finish (exit : Exit)
  | act (op : Operation) (held : op.setsRefNames = false) (next : Answer → Program)
  | scope (context : Nat) (scope : Scope) (body : Program) (next : Exit → Program)

/-- A scope whose body is running. There is no store if the context is not tracked. -/
structure OpenScope where
  store : Option Nat
  scope : Scope
  deriving DecidableEq

def OpenScope.setting (k : Nat) (o : OpenScope) : Option Bool :=
  match o.scope with
  | .exemption => none
  | .refNameCaching allowed => if o.store = some k then some allowed else none

/-- What the innermost of the open scopes says that says anything of a store. -/
def settingOf (opened : List OpenScope) (k : Nat) : Bool :=
  (opened.findSome? (·.setting k)).getD false

/-- A point of a run, with the scopes that are open there, the innermost first. -/
structure Moment where
  process : Process
  opened : List OpenScope

/-- A scope from just before it was entered to just after it was left. -/
structure Passage where
  context : RequestContext
  scope : Scope
  exit : Exit
  before : Process
  entered : Process
  ended : Process
  after : Process

/-- What there is to see of a run. -/
structure Trace where
  process : Process
  exit : Exit
  moments : List Moment
  passages : List Passage

namespace Trace

def since (m : Moment) (t : Trace) : Trace := { t with moments := m :: t.moments }

def append (inner : Trace) (q : Passage) (rest : Trace) : Trace where
  process := rest.process
  exit := rest.exit
  moments := inner.moments ++ rest.moments
  passages := inner.passages ++ q :: rest.passages

end Trace

/-- Runs a program while some scopes are open. A scope on a context that is not there is an error.
-/
def Program.run : Program → Process → List OpenScope → Trace
  | .finish exit, p, opened => ⟨p, exit, [⟨p, opened⟩], []⟩
  | .act op _ next, p, opened =>
    ((next (p.perform op).2).run (p.perform op).1 opened).since ⟨p, opened⟩
  | .scope i s body next, p, opened =>
    match p.world.contexts[i]? with
    | none => ((next .error).run p opened).since ⟨p, opened⟩
    | some ctx =>
      let entrance := p.world.enterScope ctx s
      let entered := { p with world := entrance.1 }
      let inner := body.run entered (⟨ctx.store, s⟩ :: opened)
      let after := { inner.process with world := inner.process.world.releaseSome entrance.2 }
      let q : Passage := ⟨ctx, s, inner.exit, p, entered, inner.process, after⟩
      (inner.append q ((next inner.exit).run after opened)).since ⟨p, opened⟩

end StorageCalls
