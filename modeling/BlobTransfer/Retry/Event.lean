import BlobTransfer.Http.Response
import BlobTransfer.Time.Duration

/-!
What became of a single try, and whether another one may help.
-/

namespace BlobTransfer

inductive RetryTarget where
  | primary
  | secondary
  deriving DecidableEq, Repr

def RetryTarget.name : RetryTarget → String
  | .primary => "Primary"
  | .secondary => "Secondary"

inductive RetryDecision where
  | done
  | scopeOver
  | secondaryNotFound
  | tryTimeout
  | networkFailure
  deriving DecidableEq, Repr

namespace RetryDecision

def name : RetryDecision → String
  | .done => "Done"
  | .scopeOver => "ContextDone"
  | .secondaryNotFound => "SecondaryNotFound"
  | .tryTimeout => "TryTimeout"
  | .networkFailure => "NetworkError"

def isRetryable : RetryDecision → Bool
  | .secondaryNotFound | .tryTimeout | .networkFailure => true
  | .done | .scopeOver => false

end RetryDecision

structure RetryEvent where
  tryNumber : Nat
  target : RetryTarget
  primaryTries : Nat
  delay : Duration
  decision : RetryDecision
  willRetry : Bool
  deriving DecidableEq, Repr

def isNotFound : Except TransferError Response → Bool
  | .ok response => response.status = .notFound
  | .error (.status status _) => status = .notFound
  | .error _ => false

/-- Judges an outcome, given why the caller's scope and that of the try are over, if they are. -/
def RetryDecision.ofOutcome (callerEnd tryEnd : Option ScopeEnd) (target : RetryTarget)
    (outcome : Except TransferError Response) : RetryDecision :=
  if callerEnd.isSome then .scopeOver
  else if target = .secondary && isNotFound outcome then .secondaryNotFound
  else
    match outcome with
    | .ok _ => .done
    | .error error =>
        if error = .deadlineExceeded || tryEnd = some .deadlineExceeded then .tryTimeout
        else if error.isRetryableNetwork then .networkFailure
        else .done

end BlobTransfer
