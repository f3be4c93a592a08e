import BlobTransfer.Base64
import BlobTransfer.Error.IoError
import BlobTransfer.Http.Status
import BlobTransfer.Text.Quoted
import BlobTransfer.Url.Failure

/-!
Every way in which a transfer fails. A misuse names what was given and why it cannot be used;
`message` holds the wording of each failure.
-/

namespace BlobTransfer

inductive Misuse where
  | blockIdText (text : String) (error : Base64.DecodeError)
  | blockIdLength (text : String) (length : Nat)
  | blockUnknown (id : String)
  | blockSize (size largest : Nat)
  | concurrency
  | blockCount (size blocks blockSize most : Nat)
  | sourceLength (blockSize most : Nat)
  | policyName (name : String)
  | delayOrder
  | delayMix
  | tries
  | number (name value : String)
  | headerValue (name : String)
  | userAgent
  | secondaryHost (host : String) (failure : UrlFailure)
  | other (message : String)
  deriving DecidableEq, Repr

def Misuse.message : Misuse → String
  | .blockIdText text error => "Malformed block id " ++ Quoted.quote text ++ ": " ++ error.message
  | .blockIdLength text length =>
      "Block id " ++ Quoted.quote text ++ s!" decodes to {length} bytes, expected 16"
  | .blockUnknown id => "Unknown block id " ++ id
  | .blockSize size largest => s!"block_size must be > 0 and <= {largest}, got {size}"
  | .concurrency => "max_concurrency must be at least 1"
  | .blockCount size blocks each most =>
      s!"{size} bytes need {blocks} blocks of {each} bytes; at most {most} are allowed"
  | .sourceLength each most =>
      s!"Source needs more than {most} blocks of {each} bytes"
  | .policyName name =>
      "Unknown retry policy " ++ Quoted.quote name ++ " (expected exponential or fixed)"
  | .delayOrder => "retry_delay must be <= max_retry_delay"
  | .delayMix => "retry_delay and max_retry_delay must both be zero or both be non-zero"
  | .tries => "max_tries must be at least 1"
  | .number name value => name ++ " must be a number, got " ++ Quoted.quote value
  | .headerValue name => "Invalid value for header " ++ name ++ ": failed to parse header value"
  | .userAgent => "Telemetry value is not a valid header: failed to parse header value"
  | .secondaryHost host failure =>
      "Invalid secondary host " ++ Quoted.quote host ++ ": " ++ failure.message
  | .other message => message

inductive TransferError where
  | invalid (misuse : Misuse)
  | network (error : NetworkError)
  | status (status : StatusCode) (requestId : Option String)
  | canceled
  | deadlineExceeded
  | backend (detail : String)
  | io (error : IoError)
  | internal (detail : String)
  deriving DecidableEq, Repr

namespace TransferError

def message : TransferError → String
  | .invalid misuse => "Invalid configuration: " ++ misuse.message
  | .network error => "Network error: " ++ error.message
  | .status code _ => "Service returned status " ++ code.text
  | .canceled => "Operation canceled"
  | .deadlineExceeded => "Operation deadline exceeded"
  | .backend detail => "Storage backend error: " ++ detail
  | .io error => "I/O error: " ++ error.message
  | .internal detail => "Internal error: " ++ detail

def kind : TransferError → String
  | .invalid _ => "Invalid"
  | .network _ => "Network"
  | .status _ _ => "Status"
  | .canceled => "Canceled"
  | .deadlineExceeded => "DeadlineExceeded"
  | .backend _ => "Backend"
  | .io _ => "Io"
  | .internal _ => "Internal"

def isContextError : TransferError → Bool
  | .canceled | .deadlineExceeded => true
  | _ => false

def isRetryableNetwork : TransferError → Bool
  | .network error => error.isRetryable
  | _ => false

def toIo (error : TransferError) : IoError :=
  match error with
  | .io inner => inner
  | .network inner => .ofNetwork inner
  | .deadlineExceeded => ⟨.timedOut, .text error.message⟩
  | _ => ⟨.other, .text error.message⟩

end TransferError

end BlobTransfer
