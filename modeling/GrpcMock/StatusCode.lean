/-!
The names of the status codes with which a call can end.
-/

namespace GrpcMock.StatusCode

def names : List String :=
  [
    "OK", "Canceled", "Unknown", "InvalidArgument", "DeadlineExceeded", "NotFound", "AlreadyExists",
    "PermissionDenied", "ResourceExhausted", "FailedPrecondition", "Aborted", "OutOfRange",
    "Unimplemented", "Internal", "Unavailable", "DataLoss", "Unauthenticated"
  ]

def isName (code : String) : Bool :=
  names.contains code

end GrpcMock.StatusCode
