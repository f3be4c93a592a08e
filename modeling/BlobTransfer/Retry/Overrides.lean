import BlobTransfer.Retry.Options
import BlobTransfer.Text.Blank
import BlobTransfer.Text.Decimal

/-!
Retry options set by named variables. Only variables that start with a given text and go on with
the name of an option count; the first value that cannot be read ends it all.
-/

namespace BlobTransfer

abbrev Variable := String × String

inductive RetrySetting where
  | maxTries | tryTimeoutSeconds | retryDelayMillis | maxRetryDelayMillis | policy | secondaryHost
  deriving DecidableEq, Repr

namespace RetrySetting

def key : RetrySetting → String
  | .maxTries => "MAX_TRIES"
  | .tryTimeoutSeconds => "TRY_TIMEOUT_SECS"
  | .retryDelayMillis => "RETRY_DELAY_MS"
  | .maxRetryDelayMillis => "MAX_RETRY_DELAY_MS"
  | .policy => "POLICY"
  | .secondaryHost => "SECONDARY_HOST"

def all : List RetrySetting :=
  [.maxTries, .tryTimeoutSeconds, .retryDelayMillis, .maxRetryDelayMillis, .policy, .secondaryHost]

def ofVariable? (start name : String) : Option RetrySetting :=
  all.find? fun setting => name = start ++ setting.key

def number (setting : RetrySetting) (bound : Nat) (value : String) : Except TransferError Nat :=
  match Decimal.parse? bound value with
  | some number => .ok number
  | none => .error (.invalid (.number setting.key value))

def apply (setting : RetrySetting) (value : String) (options : RetryOptions) :
    Except TransferError RetryOptions :=
  match setting with
  | .maxTries => do
      let tries ← setting.number UInt32.size value
      return { options with maxTries := UInt32.ofNat tries }
  | .tryTimeoutSeconds => do
      let seconds ← setting.number UInt64.size value
      return { options with tryTimeout := .ofSeconds seconds }
  | .retryDelayMillis => do
      let millis ← setting.number UInt64.size value
      return { options with retryDelay := .ofMillis millis }
  | .maxRetryDelayMillis => do
      let millis ← setting.number UInt64.size value
      return { options with maxRetryDelay := .ofMillis millis }
  | .policy => do
      let policy ← RetryPolicyKind.ofText value
      return { options with policy }
  | .secondaryHost =>
      return { options with secondaryHost := if value = "" then none else some value }

end RetrySetting

namespace RetryOptions

def withVariable (start : String) (options : RetryOptions) (assigned : Variable) :
    Except TransferError RetryOptions :=
  match RetrySetting.ofVariable? start assigned.1 with
  | some setting => setting.apply (Blank.trim assigned.2) options
  | none => .ok options

def withVariables (start : String) (assignments : List Variable) (options : RetryOptions) :
    Except TransferError RetryOptions :=
  assignments.foldlM (withVariable start) options

end RetryOptions

/-- Variables as an environment holds them: one value for each name, in the order in which the
names first appeared. -/
def Variable.assign (environment : List Variable) (assigned : Variable) : List Variable :=
  if environment.any (·.1 = assigned.1) then
    environment.map fun held => if held.1 = assigned.1 then assigned else held
  else environment ++ [assigned]

end BlobTransfer
