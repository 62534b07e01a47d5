import StorageCalls.World

namespace StorageCalls.Description

open StorageCalls.Text (quoted)

def record (name : String) (fields : List (String × String)) (more : Bool) : String :=
  let shown := fields.map (fun f => f.1 ++ ": " ++ f.2) ++ (if more then [".."] else [])
  name ++ " \x7b " ++ ", ".intercalate shown ++ " \x7d"

def credentials : Credentials → String
  | .insecure => "Insecure"
  | .tls path pem =>
    record "Tls" [("ca_bundle_path", quoted path), ("ca_pem_len", toString pem.length)] false

def channelOptions (o : ChannelOptions) : String :=
  record "ChannelOptions" [("keepalive_time", toString o.keepaliveSeconds ++ "s"),
    ("keepalive_permit_without_calls", toString o.pingsWithoutCalls)] false

def policy : EnforcementPolicy → String
  | .fixed enforcing => "FixedPolicy(" ++ toString enforcing ++ ")"
  | .byEnvironment disabled _ =>
    record "EnvironmentPolicy" [("disabled", toString disabled),
      ("flags", quoted "<dyn FeatureFlags>")] false

def connection (c : Connection) : String :=
  record "Connection" [("service", quoted c.target.service), ("storage", quoted c.target.storage),
    ("endpoint", quoted c.target.endpoint), ("credentials", credentials c.target.credentials),
    ("options", channelOptions c.target.options),
    ("interceptors", toString c.interceptors.length)] false

def registry (r : Registry) (t : Transport) : String :=
  record "ConnectionRegistry" [("options", channelOptions default),
    ("interceptors", toString r.interceptors.length),
    ("stubs", toString t.connections.length)] false

def budget (x : Client) : String :=
  record "CallBudgetTracker" [("environment", x.config.environment.title),
    ("policy", quoted "<dyn EnforcementPolicy>")] false

def metadata (x : Client) : String :=
  record "RequestMetadataBuilder" [("client_name", quoted x.config.clientName)] true

def deadlines : String := record "DeadlineCoordinator" [] true

def client (x : Client) (t : Transport) : String :=
  record "CallExecutor" [("registry", registry x.toRegistry t), ("budget", budget x),
    ("metadata", metadata x)] false

end StorageCalls.Description
