import StorageCalls.Call.Options

namespace StorageCalls

/-- What a caller asks for. A zero timeout means no deadline, and `mutate` has the last word on the
options before the interceptors. -/
structure Call where
  storage : String
  service : String
  rpc : String
  request : Bytes
  timeout : Duration
  remote : Option String
  mutate : CallOptions → CallOptions

namespace Client

def ensureTimeLeft (env : Surroundings) (ctx : RequestContext) : Stage CallState Unit :=
  if Deadline.hasPassed env.now ctx.kind then .fail .requestDeadlinePassed else pure ()

def prepare (x : Client) (env : Surroundings) (ctx : RequestContext) (c : Call) :
    Stage CallState (CallOptions × Connection) := do
  x.enforce ctx c.rpc
  ensureTimeLeft env ctx
  let options ← x.buildOptions env ctx c.storage c.timeout c.remote
  let connection ← onTransport (x.connectionFor env.files c.service c.storage)
  return (c.mutate options, connection)

/-- Only calls that succeed add to the query time, whose sum may be out of range. -/
def spend (elapsed : Duration) : CallResult → Stage RequestStore Unit
  | .failed _ => pure ()
  | .ok => fun s =>
    match s.addQueryTime? elapsed with
    | some s => ⟨s, [], .ok ()⟩
    | none => ⟨s, [], .error .timeOverflow⟩

def record (env : Surroundings) (ctx : RequestContext) (c : Call) (result : CallResult) :
    Stage CallState Unit :=
  onStore do
    spend env.elapsed result
    .update (·.addDetail ⟨ctx.callSite, c.storage, c.service, c.rpc, env.elapsed, result⟩)

def call (x : Client) (env : Surroundings) (ctx : RequestContext) (c : Call) :
    Stage CallState Bytes := do
  let (options, connection) ← x.prepare env ctx c
  match ← onTransport (connection.invoke c.rpc c.request options) with
  | .ok response =>
    .log (.callCompleted c.storage c.service c.rpc)
    record env ctx c .ok
    return response
  | .error status =>
    .log (.callFailed c.storage c.service c.rpc status.code)
    record env ctx c (.failed status.code)
    .fail (.transport status)

def healthCall (x : Client) (storage : String) : Call where
  storage := storage
  service := Connection.healthService
  rpc := Connection.healthRpc
  request := []
  timeout := x.config.timeouts.fast
  remote := none
  mutate := id

/-- Asks a storage whether it is serving. This is accounted for like a call, but no record is made
of it. -/
def checkHealth (x : Client) (env : Surroundings) (ctx : RequestContext) (storage : String) :
    Stage CallState HealthStatus := do
  let (options, connection) ← x.prepare env ctx (x.healthCall storage)
  match ← onTransport (connection.checkHealth options) with
  | .ok health =>
    .log (.healthChecked storage health)
    return health
  | .error status => .fail (.transport status)

end Client

end StorageCalls
