import StorageCalls.Event

namespace StorageCalls

abbrev Interceptor :=
  (service rpc : String) → CallOptions → List Event × Except Status CallOptions

namespace Interceptor

def tracing : Interceptor := fun service rpc options =>
  let correlationId := (options.metadata.get? Metadata.correlationId).getD ""
  ([.outboundCall service rpc correlationId options.deadline.isSome], .ok options)

def appending (key value : String) : Interceptor := fun service rpc options =>
  let old := (options.metadata.get? key).getD ""
  let new := old ++ value ++ "(" ++ service ++ "/" ++ rpc ++ ")"
  ([], .ok { options with metadata := options.metadata.insert key new })

def rejecting (status : Status) : Interceptor := fun _ _ _ => ([], .error status)

def only (rpc : String) (i : Interceptor) : Interceptor := fun service called options =>
  if called = rpc then i service called options else ([], .ok options)

/-- Runs interceptors in order, each on what the one before made of the options. The first rejection
ends it. -/
def runAll (service rpc : String) :
    List Interceptor → CallOptions → List Event × Except Status CallOptions
  | [], options => ([], .ok options)
  | i :: rest, options =>
    match i service rpc options with
    | (events, .error status) => (events, .error status)
    | (events, .ok options) =>
      let (more, result) := runAll service rpc rest options
      (events ++ more, result)

end Interceptor

end StorageCalls
