import StorageCalls.Table
import StorageCalls.Text.Split

namespace StorageCalls

abbrev Metadata := Table String

namespace Metadata

def authorization : String := "authorization"
def clientName : String := "client_name"
def callSite : String := "call_site"
def servers : String := "gitaly-servers"
def correlationId : String := "x-gitlab-correlation-id"
def sessionId : String := "gitaly-session-id"
def username : String := "username"
def userId : String := "user_id"
def remoteIp : String := "remote_ip"
def routingPolicy : String := "gitaly-route-repository-accessor-policy"
def primaryOnly : String := "primary-only"
def deadlineType : String := "deadline_type"
def flagMark : String := "gitaly-feature-"

/-- The key for a feature flag that is sent along. Underscores become hyphens. -/
def flagKey (flag : String) : String :=
  flagMark ++ String.ofList (flag.toList.map fun c => if c = '_' then '-' else c)

def insertSome (m : Metadata) (key : String) : Option String → Metadata
  | some value => m.insert key value
  | none => m

end Metadata

end StorageCalls
