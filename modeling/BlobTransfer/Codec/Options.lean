import BlobTransfer.Json.Record
import BlobTransfer.Pipeline.Options

/-!
Options as JSON. Whatever is left out keeps its default.
-/

namespace BlobTransfer

namespace Duration

def fieldNames : List String := ["secs", "nanos"]

def toJson (duration : Duration) : Json :=
  .record [("secs", .natural duration.seconds), ("nanos", .natural duration.subsecNanos)]

def ofJson? (json : Json) : Option Duration := do
  if !json.hasOnly fieldNames then none
  let fields ← json.fields? fieldNames true
  let seconds ← fields.read "secs" (Json.toNatural? UInt64.size) none
  let nanos ← fields.read "nanos" (Json.toNatural? UInt32.size) none
  ofParts? seconds nanos

end Duration

namespace RetryPolicyKind

def cases : List (String × RetryPolicyKind) := [("exponential", .exponential), ("fixed", .fixed)]

def name : RetryPolicyKind → String
  | .exponential => "exponential"
  | .fixed => "fixed"

def toJson (policy : RetryPolicyKind) : Json := .string policy.name
def ofJson? (json : Json) : Option RetryPolicyKind := json.toCase? cases

end RetryPolicyKind

namespace LogLevel

def cases : List (String × LogLevel) :=
  [("none", .none), ("error", .error), ("warning", .warning), ("info", .info), ("debug", .debug)]

def name : LogLevel → String
  | .none => "none"
  | .error => "error"
  | .warning => "warning"
  | .info => "info"
  | .debug => "debug"

def toJson (level : LogLevel) : Json := .string level.name
def ofJson? (json : Json) : Option LogLevel := json.toCase? cases

end LogLevel

namespace RetryOptions

def fieldNames : List String :=
  ["policy", "max_tries", "try_timeout", "retry_delay", "max_retry_delay",
    "retry_reads_from_secondary_host"]

def toJson (options : RetryOptions) : Json :=
  .record [
    ("policy", options.policy.toJson),
    ("max_tries", .natural options.maxTries.toNat),
    ("try_timeout", options.tryTimeout.toJson),
    ("retry_delay", options.retryDelay.toJson),
    ("max_retry_delay", options.maxRetryDelay.toJson),
    ("retry_reads_from_secondary_host", .ofOption .string options.secondaryHost)]

def ofJson? (json : Json) : Option RetryOptions := do
  let fields ← json.fields? fieldNames false
  let policy ← fields.read "policy" RetryPolicyKind.ofJson? (some .exponential)
  let maxTries ← fields.read "max_tries" (Json.toNatural? UInt32.size) (some 0)
  let tryTimeout ← fields.read "try_timeout" Duration.ofJson? (some .zero)
  let retryDelay ← fields.read "retry_delay" Duration.ofJson? (some .zero)
  let maxRetryDelay ← fields.read "max_retry_delay" Duration.ofJson? (some .zero)
  let secondaryHost ←
    fields.read "retry_reads_from_secondary_host" (Json.toOption? Json.toText?) (some none)
  return { policy, maxTries := UInt32.ofNat maxTries, tryTimeout, retryDelay, maxRetryDelay,
           secondaryHost }

end RetryOptions

namespace RequestLogOptions

def fieldNames : List String := ["min_level", "slow_threshold", "expected_statuses", "force_log"]

def toJson (options : RequestLogOptions) : Json :=
  .record [
    ("min_level", options.minLevel.toJson),
    ("slow_threshold", .ofOption Duration.toJson options.slowThreshold),
    ("expected_statuses", .array (options.expectedStatuses.map (.natural ·.toNat))),
    ("force_log", .bool options.forceLog)]

/-- A threshold of null switches the check off; none at all keeps the default. -/
def ofJson? (json : Json) : Option RequestLogOptions := do
  let standard : RequestLogOptions := {}
  let fields ← json.fields? fieldNames false
  let minLevel ← fields.read "min_level" LogLevel.ofJson? (some standard.minLevel)
  let slowThreshold ←
    fields.read "slow_threshold" (Json.toOption? Duration.ofJson?) (some standard.slowThreshold)
  let expectedStatuses ←
    fields.read "expected_statuses"
      (Json.toList? fun item => (item.toNatural? UInt16.size).map UInt16.ofNat)
      (some standard.expectedStatuses)
  let forceLog ← fields.read "force_log" Json.toBool? (some standard.forceLog)
  return { minLevel, slowThreshold, expectedStatuses, forceLog }

end RequestLogOptions

namespace TelemetryOptions

def fieldNames : List String := ["value"]

def toJson (options : TelemetryOptions) : Json := .record [("value", .string options.value)]

def ofJson? (json : Json) : Option TelemetryOptions := do
  let fields ← json.fields? fieldNames false
  let value ← fields.read "value" Json.toText? (some "")
  return { value }

end TelemetryOptions

namespace PipelineOptions

def fieldNames : List String := ["retry", "request_log", "telemetry", "unique_request_id"]

def toJson (options : PipelineOptions) : Json :=
  .record [
    ("retry", options.retry.toJson),
    ("request_log", options.requestLog.toJson),
    ("telemetry", options.telemetry.toJson),
    ("unique_request_id", .bool options.uniqueRequestId)]

def ofJson? (json : Json) : Option PipelineOptions := do
  let fields ← json.fields? fieldNames false
  let retry ← fields.read "retry" RetryOptions.ofJson? (some {})
  let requestLog ← fields.read "request_log" RequestLogOptions.ofJson? (some {})
  let telemetry ← fields.read "telemetry" TelemetryOptions.ofJson? (some {})
  let uniqueRequestId ← fields.read "unique_request_id" Json.toBool? (some true)
  return { retry, requestLog, telemetry, uniqueRequestId }

end PipelineOptions

instance : Json.Codec RetryPolicyKind := ⟨RetryPolicyKind.toJson, RetryPolicyKind.ofJson?⟩
instance : Json.Codec LogLevel := ⟨LogLevel.toJson, LogLevel.ofJson?⟩
instance : Json.Codec RetryOptions := ⟨RetryOptions.toJson, RetryOptions.ofJson?⟩
instance : Json.Codec RequestLogOptions := ⟨RequestLogOptions.toJson, RequestLogOptions.ofJson?⟩
instance : Json.Codec TelemetryOptions := ⟨TelemetryOptions.toJson, TelemetryOptions.ofJson?⟩
instance : Json.Codec PipelineOptions := ⟨PipelineOptions.toJson, PipelineOptions.ofJson?⟩

end BlobTransfer
