import BlobTransfer.Pipeline.Activity
import BlobTransfer.Pipeline.Basic

/-!
Policies, each in front of another one and at last of a transport. They are made anew for every
operation, from the last to the first.
-/

namespace BlobTransfer

/-- What onlookers see of a request and of what became of it. -/
inductive Sighting where
  | sent (policy : String)
  | kept (policy : String) (outcome : Except TransferError Response)
  | seen (policy : String) (outcome : Except TransferError Response)
  | gave (policy : String) (outcome : Except TransferError Response)
  | tried (event : RetryEvent) (outcome : Except TransferError Response)

abbrev Policy (Service : Type) :=
  Scope → Request → Progress Service →
    Activity Service Sighting (Except TransferError Response)

abbrev PolicyFactory (Service : Type) :=
  Policy Service → Progress Service → Policy Service × Progress Service

variable {Service : Type}

def RequestLogOptions.policy (options : RequestLogOptions) (next : Policy Service) :
    Policy Service := fun scope request progress =>
  let entered := options.enter request progress
  (next scope request entered).bind fun outcome answered =>
    .done outcome (options.leave entered.log progress.timeline.now request outcome answered)

namespace RetryPolicy

abbrev Observer (Service : Type) := RetryEvent → Progress Service → Progress Service

variable (policy : RetryPolicy) (observer : Observer Service) (next : Policy Service)
  (caller : Scope) (request : Request)

def attempts (state : RetryState) :
    (left : Nat) → Progress Service →
      Activity Service Sighting (Except TransferError Response)
  | 0, progress => .done (.error (.invalid .tries)) progress
  | left + 1, progress =>
      match policy.delay state (policy.jitter progress.draws) with
      | none => .halted .overflow
      | some delay =>
          (Activity.sleep caller delay { progress with draws := progress.draws + 1 }).bind
            fun slept progress =>
              let timeout := policy.timeout progress.timeline caller
              match slept with
              | .error error => .done (.error error) progress
              | .ok () =>
              match prepare state request timeout with
              | .error error => .done (.error error) progress
              | .ok prepared =>
                  if !progress.timeline.spans timeout then .halted .overflow
                  else
                    let (scope, timeline) := progress.timeline.childFor caller timeout
                    (Activity.within scope (next scope prepared)
                      { progress with timeline }).bind fun outcome answered =>
                        let event := judge caller state left delay scope outcome answered
                        let noted := observer event (answered.note (.tried event))
                        .mark (.tried event outcome)
                          (if event.willRetry then
                            attempts (state.next event.decision) left (discard scope outcome noted)
                          else
                            let (result, final) := handBack scope outcome noted
                            .done result final)

end RetryPolicy

structure RetryFactory (Service : Type) where
  options : RetryOptions
  observer : RetryPolicy.Observer Service := fun _ progress => progress

namespace PolicyFactory

def userAgent (value : HeaderValue) : PolicyFactory Service := fun next progress =>
  (fun scope request =>
    next scope { request with headers := request.headers.insert .userAgent value }, progress)

def requestId (entropy : Nat → Nat → UInt8) : PolicyFactory Service := fun next progress =>
  (fun scope request progress =>
    if (request.headers.get? .clientRequestId).isNone then
      let named :=
        match HeaderValue.ofText? (Uuid.random (entropy progress.ids)).text with
        | some value => { request with headers := request.headers.insert .clientRequestId value }
        | none => request
      next scope named { progress with ids := progress.ids + 1 }
    else next scope request progress, progress)

def retry (jitter : Nat → Rat) (factory : RetryFactory Service) : PolicyFactory Service :=
  fun next progress =>
    (fun scope request =>
      let policy : RetryPolicy := ⟨factory.options, jitter⟩
      let secondary := if request.isRead then factory.options.secondaryHost else none
      policy.attempts factory.observer next scope request { secondary }
        factory.options.maxTries.toNat, progress)

def requestLog (options : RequestLogOptions) : PolicyFactory Service := fun next progress =>
  (options.policy next, { progress with log := {} })

end PolicyFactory

/-- What a policy does with a request: answer it, or hand it on and answer then. -/
inductive Handling (Service : Type) where
  | keep (outcome : Except TransferError Response)
  | pass (scope : Scope) (request : Request)
      (finish : Except TransferError Response → Progress Service →
        Activity Service Empty (Except TransferError Response))
      (giveUp : Progress Service → Progress Service)

/-- A policy that hands no request on twice, as it is made for an operation. -/
structure Link (Service : Type) where
  name : String
  make : Progress Service →
    (Scope → Request → Progress Service → Activity Service Empty (Handling Service)) ×
      Progress Service

namespace Link

def policy (name : String)
    (handle : Scope → Request → Progress Service → Activity Service Empty (Handling Service))
    (next : Policy Service) : Policy Service := fun scope request progress =>
  (handle scope request progress).unmarked.bind fun handling progress =>
    match handling with
    | .keep outcome => .mark (.kept name outcome) (.done outcome progress)
    | .pass scope request finish giveUp =>
        .mark (.sent name) (((next scope request progress).releasing giveUp).bind
          fun outcome progress =>
            .mark (.seen name outcome) ((finish outcome progress).unmarked.bind
              fun outcome progress => .mark (.gave name outcome) (.done outcome progress)))

def factory (link : Link Service) : PolicyFactory Service := fun next progress =>
  let (handle, progress) := link.make progress
  (policy link.name handle next, progress)

end Link

end BlobTransfer
