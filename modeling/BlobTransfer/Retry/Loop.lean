import BlobTransfer.Pipeline.Attempt
import BlobTransfer.Retry.Options
import BlobTransfer.Time.Scaling

/-!
Trying a request again until its outcome is worth handing on. Every try starts from the request
as the caller made it and has a scope of its own, which is over before the next try starts.
-/

namespace BlobTransfer

structure RetryPolicy where
  options : RetryOptions
  jitter : Nat → Rat

structure RetryState where
  tryNumber : Nat := 1
  primaryTries : Nat := 0
  secondary : Option String
  deriving DecidableEq, Repr

namespace RetryState

/-- Every other try goes to the secondary host. -/
def target (state : RetryState) : RetryTarget :=
  if state.secondary.isSome && state.tryNumber % 2 = 0 then .secondary else .primary

def next (state : RetryState) (decision : RetryDecision) : RetryState where
  tryNumber := state.tryNumber + 1
  primaryTries :=
    if state.target = .primary then state.primaryTries + 1 else state.primaryTries
  secondary := if decision = .secondaryNotFound then none else state.secondary

end RetryState

def RetryOptions.delayFor (options : RetryOptions) (target : RetryTarget) (primaryTry : Nat)
    (factor : Rat) : Option Duration :=
  match target with
  | .primary => options.delay (Duration.scale factor) primaryTry
  | .secondary => Duration.scale factor (.ofSeconds 1)

def RetryOptions.delayBounds (options : RetryOptions) (target : RetryTarget) (primaryTry : Nat) :
    Option (Duration × Duration) := do
  return (← options.delayFor target primaryTry (8 / 10),
    ← options.delayFor target primaryTry (13 / 10))

namespace RetryPolicy

def delay (policy : RetryPolicy) (state : RetryState) (factor : Rat) : Option Duration :=
  policy.options.delayFor state.target (state.primaryTries + 1) factor

def timeout (policy : RetryPolicy) (timeline : Timeline) (caller : Scope) : Duration :=
  match caller.remaining timeline.instant with
  | some left => min policy.options.tryTimeout (.saturating left)
  | none => policy.options.tryTimeout

def prepare (state : RetryState) (request : Request) (timeout : Duration) :
    Except TransferError Request := do
  let payload := if state.tryNumber = 1 then request.payload else request.payload.rewind
  let url ←
    match state.target, state.secondary with
    | .secondary, some host =>
        (request.url.setHost host).mapError fun failure => .invalid (.secondaryHost host failure)
    | _, _ => .ok request.url
  return {
    { request with url, payload, timeout := some timeout }.setParameter
      "timeout" (toString timeout.seconds) with
    timeout := some timeout }

variable {Service : Type}

def judge (caller : Scope) (state : RetryState) (left : Nat) (delay : Duration) (scope : Scope)
    (outcome : Except TransferError Response) (answered : Progress Service) : RetryEvent :=
  let decision := RetryDecision.ofOutcome (answered.timeline.end? caller)
    (answered.timeline.end? scope) state.target outcome
  { tryNumber := state.tryNumber, target := state.target
    primaryTries := (state.next decision).primaryTries, delay, decision
    willRetry := decision.isRetryable && left ≠ 0 }

/-- What is left behind by a try whose outcome is not handed back. -/
def discard (scope : Scope) (outcome : Except TransferError Response)
    (progress : Progress Service) : Progress Service :=
  let timeline :=
    match outcome with
    | .ok response => response.drop progress.timeline
    | .error _ => progress.timeline
  { progress with timeline := timeline.cancel scope }

/-- A response keeps the scope of its try. -/
def handBack (scope : Scope) (outcome : Except TransferError Response)
    (progress : Progress Service) : Except TransferError Response × Progress Service :=
  match outcome with
  | .ok response => (.ok (response.retain scope), progress)
  | .error error => (.error error, { progress with timeline := progress.timeline.cancel scope })

def tryFrom (policy : RetryPolicy) (lastMile : LastMile Service) (caller : Scope)
    (request : Request) (state : RetryState) :
    (left : Nat) → Progress Service →
      Except Halt (Except TransferError Response × Progress Service)
  | 0, progress => .ok (.error (.invalid .tries), progress)
  | left + 1, progress => do
      let delay ←
        match policy.delay state (policy.jitter progress.draws) with
        | some delay => .ok delay
        | none => .error .overflow
      let drawn := { progress with draws := progress.draws + 1 }
      match drawn.timeline.sleep caller delay with
      | none => .error .forever
      | some (.ended reason, timeline) =>
          return (.error reason.error, { drawn with timeline })
      | some (.finished, timeline) =>
          let timeout := policy.timeout timeline caller
          match prepare state request timeout with
          | .error error => return (.error error, { drawn with timeline })
          | .ok prepared =>
              if !timeline.spans timeout then .error .overflow
              else do
                let (scope, timeline) := timeline.childFor caller timeout
                let (outcome, answered) ←
                  lastMile.sendWithin { drawn with timeline } caller scope prepared
                let event := judge caller state left delay scope outcome answered
                let noted := answered.note (.tried event)
                if event.willRetry then
                  policy.tryFrom lastMile caller request (state.next event.decision) left
                    (discard scope outcome noted)
                else return handBack scope outcome noted

def send (policy : RetryPolicy) (lastMile : LastMile Service) (progress : Progress Service)
    (caller : Scope) (request : Request) :
    Except Halt (Except TransferError Response × Progress Service) :=
  let secondary := if request.isRead then policy.options.secondaryHost else none
  policy.tryFrom lastMile caller request { secondary } policy.options.maxTries.toNat progress

end RetryPolicy

end BlobTransfer
