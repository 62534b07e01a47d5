import StorageCalls.Call.Deadline
import StorageCalls.Call.Delegation
import StorageCalls.Call.State
import StorageCalls.Digest.Sha256
import StorageCalls.Text.Bytes

namespace StorageCalls

def tokenVersion : String := "v2"

/-- The digest signs the decimal text of `issuedAt`, which follows it in clear. -/
def authorizationToken (secret : String) (issuedAt : Nat) : String :=
  let stamp := toString issuedAt
  let signature := Digest.hmacSha256 (Text.utf8Bytes secret) (Text.utf8Bytes stamp)
  tokenVersion ++ "." ++ Text.hex signature ++ "." ++ stamp

namespace Client

def settingText (enabled : Bool) : String := if enabled then "true" else "false"

def addFlags (flags : List (String × Bool)) (m : Metadata) : Metadata :=
  flags.foldl (fun m flag => m.insert (Metadata.flagKey flag.1) (settingText flag.2)) m

def identity (x : Client) (env : Surroundings) (ctx : RequestContext)
    (token session : String) : Metadata :=
  let m : Metadata := .empty
  let m := m.insert Metadata.authorization (authorizationToken token env.now.unixSeconds)
  let m := m.insert Metadata.clientName x.config.clientName
  let m := Metadata.insertSome m Metadata.callSite ctx.callSite
  let m := Metadata.insertSome m Metadata.correlationId ctx.correlationId
  let m := m.insert Metadata.sessionId session
  let m := Metadata.insertSome m Metadata.username ctx.caller.username
  let m := Metadata.insertSome m Metadata.userId ctx.caller.userId
  let m := Metadata.insertSome m Metadata.remoteIp ctx.caller.remoteIp
  addFlags x.flags.forwardedList m

/-- A call from a request with staged objects must reach the node that has them. -/
def routing (quarantined : Bool) (m : Metadata) : Metadata :=
  if quarantined then m.insert Metadata.routingPolicy Metadata.primaryOnly else m

def labelDeadline (d : Deadline) (m : Metadata) : Metadata :=
  if d.isLimited then m.insert Metadata.deadlineType DeadlineKind.limited.name else m

def delegation (x : Client) (m : Metadata) :
    Option String → Except ConfigurationFault Metadata
  | none => .ok m
  | some remote => do
    let resolved ← x.config.resolve remote
    return m.insert Metadata.servers (Delegation.encode resolved)

/-- The options for a call to `storage`. The session id is given out as soon as the token of the
storage is found. -/
def buildOptions (x : Client) (env : Surroundings) (ctx : RequestContext) (storage : String)
    (timeout : Duration) (remote : Option String) : Stage CallState CallOptions := do
  let token ← .ofConfiguration (x.config.tokenOf storage)
  let session ← x.sessionId
  let m ← .ofConfiguration (x.delegation (x.identity env ctx token session) remote)
  let quarantined := (← Stage.read).store.any (·.quarantined)
  let deadline := Deadline.compute env.now ctx.kind timeout
  return ⟨labelDeadline deadline (routing quarantined m), deadline.expiresAt⟩

end Client

end StorageCalls
