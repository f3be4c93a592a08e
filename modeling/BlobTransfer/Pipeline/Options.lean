import BlobTransfer.Log.Options
import BlobTransfer.Retry.Options

/-!
Options of the chain that every request passes through.
-/

namespace BlobTransfer

structure TelemetryOptions where
  value : String := ""
  deriving DecidableEq, Repr

structure PipelineOptions where
  retry : RetryOptions := {}
  requestLog : RequestLogOptions := {}
  telemetry : TelemetryOptions := {}
  uniqueRequestId : Bool := true
  deriving DecidableEq, Repr

end BlobTransfer
