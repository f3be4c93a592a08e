import BlobTransfer.Description.Basic
import BlobTransfer.Pipeline.Basic

/-!
Responses, retry policies and pipelines in one line.
-/

namespace BlobTransfer

open Description

def HeaderValue.describe (value : HeaderValue) : String :=
  let shown := (Bytes.ofText value.text).map fun byte =>
    let c := Char.ofNat byte.toNat
    if c = '"' then "\\\""
    else if c = '\t' || (' ' ≤ c && c < '\x7f') then c.toString
    else "\\x" ++ String.ofList (Nat.toDigits 16 byte.toNat)
  "\"" ++ String.join shown ++ "\""

def Headers.describe (headers : Headers) : String :=
  braced (headers.entries.map fun entry =>
    Quoted.quote entry.1.text ++ ": " ++ entry.2.describe)

def Response.describe (response : Response) : String :=
  record "Response" [
    ("status", number response.status.code),
    ("headers", response.headers.describe),
    ("guards", number response.retained.length)] true

def RetryPolicyKind.describe : RetryPolicyKind → String
  | .exponential => "Exponential"
  | .fixed => "Fixed"

def RetryOptions.describe (options : RetryOptions) : String :=
  record "RetryOptions" [
    ("policy", options.policy.describe),
    ("max_tries", number options.maxTries.toNat),
    ("try_timeout", options.tryTimeout.text),
    ("retry_delay", options.retryDelay.text),
    ("max_retry_delay", options.maxRetryDelay.text),
    ("retry_reads_from_secondary_host", quoted options.secondaryHost)] false

def RetryOptions.describePolicy (options : RetryOptions) (observed : Bool) : String :=
  record "RetryPolicyFactory" [
    ("options", options.describe), ("observer", flag observed)] false

def PipelineBuilder.size (builder : PipelineBuilder) : Nat :=
  [builder.userAgent.isSome, builder.addsRequestId, builder.retry.isSome,
    builder.requestLog.isSome].countP id + builder.layers.length

def PipelineBuilder.describe (builder : PipelineBuilder) : String :=
  record "Pipeline" [("policies", number builder.size)] true

end BlobTransfer
