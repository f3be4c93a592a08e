import BlobTransfer.Pipeline.UserAgent
import BlobTransfer.Retry.Loop
import BlobTransfer.Uuid

/-!
Pipelines: user agent, request id, retries, request log, the caller's layers, transport, always
in this order and each but the last only if it was asked for.
-/

namespace BlobTransfer

structure PipelineBuilder where
  userAgent : Option HeaderValue := none
  addsRequestId : Bool := false
  retry : Option RetryOptions := none
  requestLog : Option RequestLogOptions := none
  layers : List Layer := []

namespace PipelineBuilder

def withUserAgent (builder : PipelineBuilder) (value : HeaderValue) : PipelineBuilder :=
  { builder with userAgent := some value }

def withRequestId (builder : PipelineBuilder) : PipelineBuilder :=
  { builder with addsRequestId := true }

def withRetry (builder : PipelineBuilder) (options : RetryOptions) :
    Except TransferError PipelineBuilder := do
  return { builder with retry := some (← options.validated) }

def withRequestLog (builder : PipelineBuilder) (options : RequestLogOptions) : PipelineBuilder :=
  { builder with requestLog := some options }

def withLayer (builder : PipelineBuilder) (layer : Layer) : PipelineBuilder :=
  { builder with layers := builder.layers ++ [layer] }

def standard (platform : Platform) (options : PipelineOptions) :
    Except TransferError PipelineBuilder := do
  let userAgent ← platform.userAgent options.telemetry
  let builder ← (({} : PipelineBuilder).withUserAgent userAgent).withRetry options.retry
  let logging := builder.withRequestLog options.requestLog
  return if options.uniqueRequestId then logging.withRequestId else logging

end PipelineBuilder

structure Chance where
  jitter : Nat → Rat
  entropy : Nat → Nat → UInt8

structure Pipeline (Service : Type) where
  parts : PipelineBuilder
  transport : Transport Service
  chance : Chance

namespace Pipeline

variable {Service : Type}

def lastMile (pipeline : Pipeline Service) : LastMile Service where
  transport := pipeline.transport
  requestLog := pipeline.parts.requestLog
  layers := pipeline.parts.layers

def withUserAgent (pipeline : Pipeline Service) (request : Request) : Request :=
  match pipeline.parts.userAgent with
  | some value => { request with headers := request.headers.insert .userAgent value }
  | none => request

def withRequestId (pipeline : Pipeline Service) (progress : Progress Service)
    (request : Request) : Request × Progress Service :=
  if pipeline.parts.addsRequestId && (request.headers.get? .clientRequestId).isNone then
    let id := (Uuid.random (pipeline.chance.entropy progress.ids)).text
    let named :=
      match HeaderValue.ofText? id with
      | some value => { request with headers := request.headers.insert .clientRequestId value }
      | none => request
    (named, { progress with ids := progress.ids + 1 })
  else (request, progress)

def send (pipeline : Pipeline Service) (progress : Progress Service) (caller : Scope)
    (request : Request) : Except Halt (Except TransferError Response × Progress Service) :=
  let (named, progress) :=
    pipeline.withRequestId { progress with log := {} } (pipeline.withUserAgent request)
  match pipeline.parts.retry with
  | none => pipeline.lastMile.send progress caller named
  | some options =>
      RetryPolicy.send ⟨options, pipeline.chance.jitter⟩ pipeline.lastMile progress caller named

end Pipeline

end BlobTransfer
