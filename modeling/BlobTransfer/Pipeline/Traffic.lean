import BlobTransfer.Pipeline.Basic

/-!
Pipelines put together call by call, and a request on its way through one, step by step. Between
any two of its steps other requests may take theirs.
-/

namespace BlobTransfer

inductive BuilderCall where
  | userAgent (value : HeaderValue)
  | requestId
  | retry (options : RetryOptions)
  | requestLog (options : RequestLogOptions)
  | layer (layer : Layer)

namespace PipelineBuilder

def perform (builder : PipelineBuilder) : BuilderCall → Except TransferError PipelineBuilder
  | .userAgent value => .ok (builder.withUserAgent value)
  | .requestId => .ok builder.withRequestId
  | .retry options => builder.withRetry options
  | .requestLog options => .ok (builder.withRequestLog options)
  | .layer layer => .ok (builder.withLayer layer)

def ofCalls (calls : List BuilderCall) : Except TransferError PipelineBuilder :=
  calls.foldlM perform {}

end PipelineBuilder

structure Turn where
  state : RetryState
  left : Nat
  delay : Duration

inductive SendPhase where
  | idle (state : RetryState) (left : Nat)
  | resting (turn : Turn) (wake : Nat)
  /-- The try has its scope, but nobody has looked yet whether that is over. -/
  | ready (turn : Turn) (scope : Scope) (prepared : Request)
  | trying (turn : Turn) (scope : Scope) (attempt : Attempt)
  /-- The try is over, but whether another one follows is not decided yet. -/
  | judging (turn : Turn) (scope : Scope) (outcome : Except TransferError Response)
  | returned (result : Except TransferError Response)

def SendPhase.isReady : SendPhase → Bool
  | .ready _ _ _ => true
  | _ => false

/-- The numbers of a try that has just come to the request log: there, and among the retries. -/
def SendPhase.numbers (log : LogState) : SendPhase → List (Nat × Nat)
  | .trying turn _ _ => [(log.tries, turn.state.tryNumber)]
  | _ => []

/-- The number of a try that is over before it comes to the request log. -/
def SendPhase.skipped : SendPhase → SendPhase → List Nat
  | .ready turn _ _, .judging _ _ _ => [turn.state.tryNumber]
  | _, _ => []

variable {Service : Type}

def Turn.conclude (turn : Turn) (caller scope : Scope) (outcome : Except TransferError Response)
    (progress : Progress Service) : SendPhase × Progress Service :=
  let event := RetryPolicy.judge caller turn.state turn.left turn.delay scope outcome progress
  let noted := progress.note (.tried event)
  if event.willRetry then
    (.idle (turn.state.next event.decision) turn.left, RetryPolicy.discard scope outcome noted)
  else
    let (result, final) := RetryPolicy.handBack scope outcome noted
    (.returned result, final)

/-- The steps of a request that is sent with retries. None of them takes time. -/
inductive RetryPolicy.Step (policy : RetryPolicy) (lastMile : LastMile Service) (caller : Scope)
    (request : Request) : SendPhase → Progress Service → SendPhase → Progress Service → Prop
  | exhaust {state progress} :
      Step policy lastMile caller request (.idle state 0) progress
        (.returned (.error (.invalid .tries))) progress
  | decline {state left delay reason progress}
      (drawn : policy.delay state (policy.jitter progress.draws) = some delay)
      (ended : progress.timeline.end? caller = some reason) :
      Step policy lastMile caller request (.idle state (left + 1)) progress
        (.returned (.error reason.error)) { progress with draws := progress.draws + 1 }
  | rest {state left delay progress}
      (drawn : policy.delay state (policy.jitter progress.draws) = some delay)
      (going : progress.timeline.end? caller = none) :
      Step policy lastMile caller request (.idle state (left + 1)) progress
        (.resting ⟨state, left, delay⟩ (progress.timeline.wake delay))
        { progress with draws := progress.draws + 1 }
  | interrupt {turn wake reason progress}
      (ended : progress.timeline.end? caller = some reason) :
      Step policy lastMile caller request (.resting turn wake) progress
        (.returned (.error reason.error)) progress
  | refuse {turn wake error progress} (woken : wake ≤ progress.timeline.now)
      (refusal : prepare turn.state request (policy.timeout progress.timeline caller) =
        .error error) :
      Step policy lastMile caller request (.resting turn wake) progress
        (.returned (.error error)) progress
  | begin {turn wake prepared scope timeline progress} (woken : wake ≤ progress.timeline.now)
      (ready : prepare turn.state request (policy.timeout progress.timeline caller) =
        .ok prepared)
      (short : progress.timeline.spans (policy.timeout progress.timeline caller) = true)
      (nested : progress.timeline.childFor caller (policy.timeout progress.timeline caller) =
        (scope, timeline)) :
      Step policy lastMile caller request (.resting turn wake) progress
        (.ready turn scope prepared) { progress with timeline }
  | skip {turn scope prepared reason progress}
      (ended : progress.timeline.end? scope = some reason) :
      Step policy lastMile caller request (.ready turn scope prepared) progress
        (.judging turn scope (.error reason.error)) progress
  | enter {turn scope prepared attempt progress started}
      (going : progress.timeline.end? scope = none)
      (begun : lastMile.start progress scope prepared = (attempt, started)) :
      Step policy lastMile caller request (.ready turn scope prepared) progress
        (.trying turn scope attempt) started
  | answer {turn scope attempt delay outcome progress answered}
      (replies : attempt.reply.delay = some delay)
      (due : attempt.startedAt + delay ≤ progress.timeline.now)
      (finished : lastMile.finish progress caller scope attempt = (outcome, answered)) :
      Step policy lastMile caller request (.trying turn scope attempt) progress
        (.judging turn scope outcome) answered
  | abandon {turn scope attempt reason progress}
      (ended : progress.timeline.end? scope = some reason) :
      Step policy lastMile caller request (.trying turn scope attempt) progress
        (.judging turn scope (.error reason.error)) progress
  | judge {turn scope outcome phase progress concluded}
      (conclusion : turn.conclude caller scope outcome progress = (phase, concluded)) :
      Step policy lastMile caller request (.judging turn scope outcome) progress phase concluded

structure SendTrace where
  log : LogState := {}
  records : List LogRecord := []
  calls : List TransportCall := []

def Progress.trace (progress : Progress Service) : SendTrace :=
  ⟨progress.log, progress.records, progress.calls⟩

structure Sending where
  caller : Scope
  request : Request
  phase : SendPhase
  trace : SendTrace := {}
  /-- The numbers of all tries that came to the request log. -/
  entered : List (Nat × Nat) := []
  /-- The numbers, among the retries, of those that did not. -/
  skipped : List Nat := []

def Sending.resume (sending : Sending) (phase : SendPhase) (progress : Progress Service) :
    Sending :=
  { sending with
    phase
    trace := progress.trace
    entered := sending.entered ++ phase.numbers progress.log
    skipped := sending.skipped ++ sending.phase.skipped phase }

structure Traffic (Service : Type) where
  timeline : Timeline
  service : Service
  draws : Nat := 0
  ids : Nat := 0
  sendings : List Sending := []

def Traffic.progress (traffic : Traffic Service) (trace : SendTrace) : Progress Service where
  timeline := traffic.timeline
  service := traffic.service
  log := trace.log
  records := trace.records
  calls := trace.calls
  draws := traffic.draws
  ids := traffic.ids

def Progress.traffic (progress : Progress Service) (sendings : List Sending) : Traffic Service where
  timeline := progress.timeline
  service := progress.service
  draws := progress.draws
  ids := progress.ids
  sendings := sendings

end BlobTransfer
