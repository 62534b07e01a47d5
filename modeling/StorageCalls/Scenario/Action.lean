import StorageCalls.Scenario.Session

namespace StorageCalls.Scenario

inductive StoreAction where
  | countActual (site : String)
  | countEnforced (site : String)
  | siteCounts (site : String)
  | recordStack (signature : String)
  | worstStacks
  | resetTotals
  | setRefNameCaching (allowed : Bool)
  | markQuarantined
  | keepDetails
  | addDetail (record : CallRecord)
  | details
  | addQueryTime (duration : Duration)
  | queryTime
  | coversDetails

namespace StoreAction

def perform (store : RequestStore) : StoreAction → RequestStore × Answer
  | countActual site =>
    let store := store.countActual site
    (store, .count (store.actualCount site))
  | countEnforced site =>
    let store := store.countEnforced site
    (store, .count (store.enforcedCount site))
  | siteCounts site => (store, .siteCounts (store.actualCount site) (store.enforcedCount site))
  | recordStack signature =>
    let store := store.recordStack signature
    (store, .count (store.stackCount signature))
  | worstStacks => (store, .worstStacks store.worstStacks.1 store.worstStacks.2)
  | resetTotals => (store.resetTotals, .done)
  | setRefNameCaching allowed =>
    (store.setRefNameCaching allowed, .previous store.refNameCaching)
  | markQuarantined => (store.markQuarantined, .done)
  | keepDetails => (store.keepDetails, .done)
  | addDetail record =>
    let store := store.addDetail record
    (store, .detailCount store.details.length)
  | details => (store, .details store.details)
  | addQueryTime duration =>
    match store.addQueryTime? duration with
    | some store => (store, .queryTime store.queryTime)
    | none => (store, .failed .timeOverflow)
  | queryTime => (store, .queryTime store.queryTime)
  | coversDetails =>
    match store.detailTime? with
    | some d => (store, .value (decide (d.ticks ≤ store.queryTime.ticks)))
    | none => (store, .failed .timeOverflow)

end StoreAction

inductive Part where
  | client
  | registry
  | budget
  | metadata
  | deadlines
  | connection (handle : Nat)

inductive Action where
  | context (name : String) (kind : RequestKind) (tracked : Bool) (caller : Caller)
      (correlationId : Option String)
  | child (ctx name : String)
  | inspect (ctx : String)
  | enter (ctx guard label : String)
  | drop (guard : String)
  | enforce (ctx site : String)
  | isEnforcing
  | resetCounts (ctx : String)
  | budget (ctx : String) (sites : List String)
  | store (ctx : String) (action : StoreAction)
  | exempt (ctx guard : String)
  | sessionId (ctx : String)
  | resolve (storage : String)
  | token (storage : String)
  | connectionFor (service storage : String)
  | connectAtOnce (service storage : String) (threads : Nat)
  | invoke (handle : Nat) (rpc : String) (request : Bytes) (mutate : CallOptions → CallOptions)
  | checkConnection (handle : Nat) (mutate : CallOptions → CallOptions)
  | clearAll
  | registrySize
  | script (rpc : String) (answer : Except Status Bytes)
  | setHealth (health : Except Status HealthStatus)
  | refuseBuilds (reason : Option String)
  | builds
  | invocations
  | lastInvocation
  | moveClock (step : ClockStep)
  | buildOptions (ctx storage : String) (timeout : Duration) (remote : Option String)
  | call (ctx : String) (c : Call)
  | checkHealth (ctx storage : String)
  | describe (part : Part)

def onNetwork (f : Network → Network) (w : World) : World :=
  { w with transport := { w.transport with network := f w.transport.network } }

def channelAnswer {α : Type} (f : α → Answer) : Except Status α → Answer
  | .ok a => f a
  | .error status => .rejected status

/-- Asks for one connection as often as given; the answer is the first one. -/
def connectTimes (env : Setting) (service storage : String) : Nat → Session → Reply
  | 0, s => s.answer .done
  | n + 1, s =>
    let first := s.connectionFor env service storage
    let rest := connectTimes env service storage n first.session
    ⟨rest.session, first.events ++ rest.events, first.answer⟩

def describe (env : Setting) (s : Session) : Part → Reply
  | .client => s.answer (.description (Description.client env.client s.world.transport))
  | .registry =>
    s.answer (.description (Description.registry env.client.toRegistry s.world.transport))
  | .budget => s.answer (.description (Description.budget env.client))
  | .metadata => s.answer (.description (Description.metadata env.client))
  | .deadlines => s.answer (.description Description.deadlines)
  | .connection handle => s.withConnection handle fun c => s.answer (.description (Description.connection c))

namespace Action

def perform (env : Setting) (s : Session) : Action → Reply
  | context name kind tracked caller correlationId =>
    s.named name (s.world.startRequest kind tracked caller correlationId)
  | child ctx name => s.withContext ctx fun _ c => s.named name (s.world.fork c)
  | inspect ctx => s.withContext ctx fun _ c => s.answer (.context c)
  | enter ctx guard label =>
    s.withContext ctx fun i _ =>
      match s.world.enterFrame i label with
      | (_, none) => s.answer .unknownName
      | (w, some g) =>
        let s := s.hold guard w g
        s.withContext ctx fun _ c => s.answer (.position c.callSite c.signature)
  | drop guard =>
    match s.guards.get? guard with
    | none => s.answer (.dropped false)
    | some g =>
      { s with world := s.world.release g, guards := s.guards.erase guard }.answer (.dropped true)
  | enforce ctx site =>
    s.withContext ctx fun _ c =>
      s.perform (World.within c (env.client.enforce c site)) fun _ => .done
  | isEnforcing => s.answer (.value env.client.isEnforcing)
  | resetCounts ctx =>
    s.withContext ctx fun _ c =>
      s.perform (World.within c (onStore Budget.resetCounts)) fun _ => .done
  | budget ctx sites =>
    s.withContext ctx fun _ c => s.answer (.budget ⟨s.world.store? c, sites⟩)
  | store ctx action =>
    s.withStore ctx fun i store =>
      let (store, answer) := action.perform store
      { s with world := s.world.modifyStore i (fun _ => store) }.answer answer
  | exempt ctx guard =>
    s.withContext ctx fun _ c =>
      match s.world.enterScope c .exemption with
      | (_, none) => s.answer .untracked
      | (w, some g) =>
        let s := s.hold guard w g
        s.withStore ctx fun _ store => s.answer (.depth store.exemptions)
  | sessionId ctx =>
    s.withStore ctx fun _ _ =>
      s.withContext ctx fun _ c =>
        s.perform (World.within c env.client.sessionId) .session
  | resolve storage =>
    s.perform (.ofConfiguration (env.client.config.resolve storage)) .resolved
  | token storage =>
    s.perform (.ofConfiguration (env.client.config.tokenOf storage)) .token
  | connectionFor service storage => s.connectionFor env service storage
  | connectAtOnce service storage threads =>
    let r := connectTimes env service storage threads s
    ⟨r.session, r.events, .shared r.answer⟩
  | invoke handle rpc request mutate =>
    s.withConnection handle fun c =>
      s.perform (World.transported (c.invoke rpc request (mutate default))) (channelAnswer .response)
  | checkConnection handle mutate =>
    s.withConnection handle fun c =>
      s.perform (World.transported (c.checkHealth (mutate default))) (channelAnswer .health)
  | clearAll => s.perform (World.transported Registry.clear) fun _ => .done
  | registrySize => s.answer (.size s.world.transport.connections.length)
  | script rpc answer => s.change (onNetwork (·.script rpc answer))
  | setHealth health => s.change (onNetwork (·.setHealth health))
  | refuseBuilds reason => s.change (onNetwork (·.refuse reason))
  | builds => s.answer (.builds s.world.transport.network.builds)
  | invocations => s.answer (.invocations s.world.transport.network.invocations)
  | lastInvocation =>
    s.answer (.lastInvocation s.world.transport.network.invocations.getLast?)
  | moveClock step => s.perform (World.moveClock step) fun _ => .done
  | buildOptions ctx storage timeout remote =>
    s.withContext ctx fun _ c =>
      s.perform (World.within c (env.client.buildOptions (s.surroundings env) c storage timeout remote))
        .options
  | call ctx request =>
    s.withContext ctx fun _ c =>
      s.perform (World.within c (env.client.call (s.surroundings env) c request)) .response
  | checkHealth ctx storage =>
    s.withContext ctx fun _ c =>
      s.perform (World.within c (env.client.checkHealth (s.surroundings env) c storage)) .health
  | describe part => Scenario.describe env s part

end Action

end StorageCalls.Scenario
