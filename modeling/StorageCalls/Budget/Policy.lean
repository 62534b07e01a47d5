import StorageCalls.Table

namespace StorageCalls

inductive Environment where
  | development
  | test
  | production
  deriving DecidableEq, Repr

namespace Environment

instance : Inhabited Environment := ⟨.development⟩

def name : Environment → String
  | .development => "development"
  | .test => "test"
  | .production => "production"

def title : Environment → String
  | .development => "Development"
  | .test => "Test"
  | .production => "Production"

def ofName? (s : String) : Option Environment :=
  [.development, .test, .production].find? (fun e => e.name == s)

def isProduction : Environment → Bool
  | .production => true
  | _ => false

end Environment

structure FeatureFlags where
  own : Table Bool
  forwarded : Table Bool

namespace FeatureFlags

def empty : FeatureFlags := ⟨.empty, .empty⟩

instance : Inhabited FeatureFlags := ⟨empty⟩

def ofLists (own forwarded : List (String × Bool)) : FeatureFlags :=
  ⟨.ofList own, .ofList forwarded⟩

def isEnabled (flags : FeatureFlags) (flag : String) : Bool :=
  (flags.own.get? flag).getD false

def forwardedList (flags : FeatureFlags) : List (String × Bool) :=
  flags.forwarded.toList

end FeatureFlags

/-- A policy answers the same in every environment, or goes by the environment, a switch that
turns enforcement off and a flag that forces it on. -/
inductive EnforcementPolicy where
  | fixed (enforcing : Bool)
  | byEnvironment (disabled : Bool) (flags : FeatureFlags)

namespace EnforcementPolicy

def forcingFlag : String := "gitaly_enforce_requests_limits"

/-- The switch wins over the flag, and the flag over the environment. -/
def isEnforcing (environment : Environment) : EnforcementPolicy → Bool
  | fixed enforcing => enforcing
  | byEnvironment disabled flags =>
    if disabled then false
    else if flags.isEnabled forcingFlag then true
    else !environment.isProduction

end EnforcementPolicy

end StorageCalls
