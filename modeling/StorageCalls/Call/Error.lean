import StorageCalls.Call.Status
import StorageCalls.Files
import StorageCalls.Storage.Address

namespace StorageCalls

inductive ConfigurationFault where
  | malformedDocument
  | unreadableDocument (path : String) (fault : FileFault)
  | unknownStorage (storage : String)
  | missingToken (storage : String)
  | badAddress (fault : AddressFault)
  | badStorageAddress (address storage : String)
  | missingBundle
  | unreadableBundle (path : String) (fault : FileFault)
  | stated (reason : String)
  deriving DecidableEq

def ConfigurationFault.message : ConfigurationFault → String
  | .malformedDocument => "malformed configuration document"
  | .unreadableDocument path fault => "cannot read " ++ path ++ ": " ++ fault.message
  | .unknownStorage storage => "storage not found: " ++ Text.quoted storage
  | .missingToken storage => "no token configured for storage " ++ Text.quoted storage
  | .badAddress fault => fault.message
  | .badStorageAddress address storage =>
    "invalid address " ++ Text.quoted address ++ " for storage " ++ Text.quoted storage
  | .missingBundle => "tls storage address requires a configured ca_bundle"
  | .unreadableBundle path fault => "cannot read ca_bundle " ++ path ++ ": " ++ fault.message
  | .stated reason => reason

/-- One call site called too often from one request, with the stacks seen most often. -/
structure Overrun where
  callSite : String
  invocationCount : Nat
  maxCallCount : Nat
  maxCallStacks : List String
  deriving DecidableEq, Repr

def Overrun.message (o : Overrun) : String :=
  o.callSite ++ " called " ++ toString o.invocationCount ++
    " times from single request. Potential n+1? Worst offender seen " ++
    toString o.maxCallCount ++ " times from " ++ toString o.maxCallStacks.length ++ " stack(s)"

/-- Why a call fails. Times that are out of range are no fault of the call, but end it all the
same. -/
inductive CallError where
  | configuration (fault : ConfigurationFault)
  | tooManyInvocations (overrun : Overrun)
  | deadlineExceeded (reason : String)
  | transport (status : Status)
  | timeOverflow
  deriving DecidableEq

namespace CallError

def message : CallError → String
  | configuration fault => "Configuration error: " ++ fault.message
  | tooManyInvocations overrun => overrun.message
  | deadlineExceeded reason => "Deadline exceeded: " ++ reason
  | transport status => "Transport error: " ++ status.text
  | timeOverflow => "time out of range"

def isConfiguration : CallError → Bool
  | configuration _ => true
  | _ => false

def isTooManyInvocations : CallError → Bool
  | tooManyInvocations _ => true
  | _ => false

def status? : CallError → Option Status
  | transport status => some status
  | _ => none

def requestDeadlinePassed : CallError :=
  .deadlineExceeded "request deadline passed before storage call"

end CallError

end StorageCalls
