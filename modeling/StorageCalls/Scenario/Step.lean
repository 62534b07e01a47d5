import StorageCalls.Scenario.Action

namespace StorageCalls.Scenario

inductive Step where
  | act (action : Action)
  | scope (ctx : String) (scope : Scope) (body : List Step)
  /-- Unwinds the innermost scope. -/
  | unwind
  | repeated (times : Nat) (step : Step)

instance : Inhabited Step := ⟨.unwind⟩

structure Ran where
  reply : Reply
  unwinding : Bool

/-- The answers of a list of steps, up to one that unwinds. -/
structure RanAll where
  session : Session
  answers : List (Answer × List Event)
  unwinding : Bool

def inScope (s : Session) (ctx : String) (scope : Scope) (body : Session → RanAll) : Reply :=
  s.withContext ctx fun _ c =>
    let (w, guard) := s.world.enterScope c scope
    let r := body { s with world := w }
    ⟨{ r.session with world := r.session.world.releaseSome guard }, [],
      .scope r.answers r.unwinding⟩

def again (run : Session → Ran) : Nat → Session → Session × List Event × List Answer × Bool
  | 0, s => (s, [], [], false)
  | n + 1, s =>
    let r := run s
    if r.unwinding then (r.reply.session, r.reply.events, [], true)
    else
      let (s, events, answers, unwinding) := again run n r.reply.session
      (s, r.reply.events ++ events, r.reply.answer :: answers, unwinding)

mutual

def Step.run (env : Setting) : Step → Session → Ran
  | .act action, s => ⟨action.perform env s, false⟩
  | .scope ctx scope body, s => ⟨inScope s ctx scope (fun s => runAll env body s), false⟩
  | .unwind, s => ⟨s.answer .unwound, true⟩
  | .repeated times step, s =>
    let (s, events, answers, unwinding) := again (fun s => step.run env s) times s
    ⟨⟨s, events, if unwinding then .unwound else .repeated answers⟩, unwinding⟩

def runAll (env : Setting) : List Step → Session → RanAll
  | [], s => ⟨s, [], false⟩
  | step :: rest, s =>
    let r := step.run env s
    if r.unwinding then ⟨r.reply.session, [], true⟩
    else
      let more := runAll env rest r.reply.session
      ⟨more.session, (r.reply.answer, r.reply.events) :: more.answers, more.unwinding⟩

end

/-- Runs the steps of a session one after the other. Outside of scopes an unwinding ends its own
step and nothing else. -/
def runSession (env : Setting) : List Step → Session → List (Answer × List Event)
  | [], _ => []
  | step :: rest, s =>
    let r := (step.run env s).reply
    (r.answer, r.events) :: runSession env rest r.session

end StorageCalls.Scenario
