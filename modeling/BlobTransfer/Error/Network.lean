/-!
Failures of a connection that never produced a response.
-/

namespace BlobTransfer

inductive NetworkFailure where
  | temporary
  | timeout
  | fatal
  deriving DecidableEq, Repr

def NetworkFailure.name : NetworkFailure → String
  | .temporary => "Temporary"
  | .timeout => "Timeout"
  | .fatal => "Fatal"

structure NetworkError where
  failure : NetworkFailure
  detail : String
  deriving DecidableEq, Repr

namespace NetworkError

def message (error : NetworkError) : String :=
  match error.failure with
  | .temporary => "temporary: " ++ error.detail
  | .timeout => "timeout: " ++ error.detail
  | .fatal => error.detail

def isRetryable (error : NetworkError) : Bool :=
  error.failure = .temporary || error.failure = .timeout

end NetworkError

end BlobTransfer
