import StorageCalls.Call.Error
import StorageCalls.Call.Metadata
import StorageCalls.Time.Instant

namespace StorageCalls

inductive Credentials where
  | insecure
  | tls (bundlePath : String) (pem : List UInt8)
  deriving DecidableEq

namespace Credentials

def isTls : Credentials → Bool
  | insecure => false
  | tls _ _ => true

/-- The bundle is read only for `tls`. -/
def forScheme (files : Files) (bundle : Option String) :
    AddressScheme → Except ConfigurationFault Credentials
  | .tcp | .unix => .ok .insecure
  | .tls =>
    match bundle with
    | none => .error .missingBundle
    | some path =>
      match Files.read files path with
      | .ok pem => .ok (.tls path pem)
      | .error fault => .error (.unreadableBundle path fault)

end Credentials

abbrev Bytes := List UInt8

structure CallOptions where
  metadata : Metadata
  deadline : Option Instant

instance : Inhabited CallOptions := ⟨⟨.empty, none⟩⟩

structure ChannelOptions where
  keepaliveSeconds : Nat
  pingsWithoutCalls : Bool
  deriving DecidableEq

instance : Inhabited ChannelOptions := ⟨⟨20, true⟩⟩

structure ChannelTarget where
  service : String
  storage : String
  endpoint : String
  credentials : Credentials
  options : ChannelOptions
  deriving DecidableEq

inductive HealthStatus where
  | serving
  | notServing
  | unknown
  deriving DecidableEq, Repr

def HealthStatus.title : HealthStatus → String
  | .serving => "Serving"
  | .notServing => "NotServing"
  | .unknown => "Unknown"

end StorageCalls
