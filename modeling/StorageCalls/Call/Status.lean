namespace StorageCalls

inductive StatusCode where
  | cancelled
  | unknown
  | invalidArgument
  | deadlineExceeded
  | notFound
  | alreadyExists
  | permissionDenied
  | resourceExhausted
  | failedPrecondition
  | aborted
  | outOfRange
  | unimplemented
  | internal
  | unavailable
  | dataLoss
  | unauthenticated
  deriving DecidableEq, Repr

namespace StatusCode

def all : List StatusCode := [
  .cancelled, .unknown, .invalidArgument, .deadlineExceeded, .notFound, .alreadyExists,
  .permissionDenied, .resourceExhausted, .failedPrecondition, .aborted, .outOfRange,
  .unimplemented, .internal, .unavailable, .dataLoss, .unauthenticated]

def ofNumber? (n : Nat) : Option StatusCode :=
  if n = 0 then none else all[n - 1]?

def name : StatusCode → String
  | .cancelled => "CANCELLED"
  | .unknown => "UNKNOWN"
  | .invalidArgument => "INVALID_ARGUMENT"
  | .deadlineExceeded => "DEADLINE_EXCEEDED"
  | .notFound => "NOT_FOUND"
  | .alreadyExists => "ALREADY_EXISTS"
  | .permissionDenied => "PERMISSION_DENIED"
  | .resourceExhausted => "RESOURCE_EXHAUSTED"
  | .failedPrecondition => "FAILED_PRECONDITION"
  | .aborted => "ABORTED"
  | .outOfRange => "OUT_OF_RANGE"
  | .unimplemented => "UNIMPLEMENTED"
  | .internal => "INTERNAL"
  | .unavailable => "UNAVAILABLE"
  | .dataLoss => "DATA_LOSS"
  | .unauthenticated => "UNAUTHENTICATED"

end StatusCode

structure Status where
  code : StatusCode
  message : String
  deriving DecidableEq, Repr

namespace Status

def unavailable (message : String) : Status := ⟨.unavailable, message⟩

def text (s : Status) : String := s.code.name ++ ": " ++ s.message

end Status

end StorageCalls
