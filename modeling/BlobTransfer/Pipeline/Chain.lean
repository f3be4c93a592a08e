import BlobTransfer.Pipeline.Policy
import BlobTransfer.Pipeline.Traffic

/-!
Chains put together call by call. Whatever the order of the calls, the chain has its own.
-/

namespace BlobTransfer

/-- The places of a chain that hold one policy at most, in their order. -/
inductive Slot where
  | userAgent
  | requestId
  | retry
  | requestLog
  deriving DecidableEq, Repr

def Slot.all : List Slot := [.userAgent, .requestId, .retry, .requestLog]

variable {Service : Type}

inductive ChainCall (Service : Type) where
  | userAgent (value : HeaderValue)
  | requestId
  | retry (factory : RetryFactory Service)
  | requestLog (options : RequestLogOptions)
  | policy (factory : PolicyFactory Service)

namespace ChainCall

def slot? : ChainCall Service → Option Slot
  | .userAgent _ => some .userAgent
  | .requestId => some .requestId
  | .retry _ => some .retry
  | .requestLog _ => some .requestLog
  | .policy _ => none

def factory (chance : Chance) : ChainCall Service → PolicyFactory Service
  | .userAgent value => .userAgent value
  | .requestId => .requestId chance.entropy
  | .retry factory => .retry chance.jitter factory
  | .requestLog options => .requestLog options
  | .policy factory => factory

end ChainCall

@[ext]
structure ChainBuilder (Service : Type) where
  held : Slot → Option (PolicyFactory Service) := fun _ => none
  custom : List (PolicyFactory Service) := []

namespace ChainBuilder

variable (chance : Chance)

/-- A later policy takes the place of an earlier one; only custom policies are added. -/
def perform (builder : ChainBuilder Service) (call : ChainCall Service) : ChainBuilder Service :=
  match call.slot? with
  | some slot =>
      { builder with
        held := fun other =>
          if other = slot then some (call.factory chance) else builder.held other }
  | none => { builder with custom := builder.custom ++ [call.factory chance] }

def ofCalls (calls : List (ChainCall Service)) : ChainBuilder Service :=
  calls.foldl (perform chance) {}

def factories (builder : ChainBuilder Service) : List (PolicyFactory Service) :=
  Slot.all.filterMap builder.held ++ builder.custom

end ChainBuilder

/-- The first policy of a chain that is made for one operation, from the transport on. -/
def assemble (factories : List (PolicyFactory Service)) (transport : Policy Service)
    (progress : Progress Service) : Policy Service × Progress Service :=
  factories.reverse.foldl (fun made factory => factory made.1 made.2) (transport, progress)

def sendThrough (factories : List (PolicyFactory Service)) (transport : Policy Service)
    (progress : Progress Service) (caller : Scope) (request : Request) :
    Activity Service Sighting (Except TransferError Response) :=
  let (first, progress) := assemble factories transport progress
  first caller request progress

def Transport.policy (transport : Transport Service) (caller : Scope) : Policy Service :=
  fun scope request progress =>
    let (reply, service) := transport progress.service request
    let now := progress.timeline.now
    .wait { progress with service, calls := progress.calls ++ [⟨request, scope⟩] }
      (reply.delay.map fun delay => progress.timeline.advanceTo (now + delay))
      (fun progress =>
        let timeline := progress.timeline
        let timeline := if reply.cancelsTry then timeline.cancel scope else timeline
        let timeline := if reply.cancelsCaller then timeline.cancel caller else timeline
        .done reply.outcome { progress with timeline }) id

def Layer.link (layer : Layer) : Link Service where
  name := "layer"
  make := fun progress =>
    let pass scope request progress :=
      .done (.pass scope (layer.onRequest request)
        (fun outcome progress => .done (outcome.map layer.onResponse) progress) id) progress
    (pass, progress)

def BuilderCall.chainCall : BuilderCall → Except TransferError (ChainCall Service)
  | .userAgent value => .ok (.userAgent value)
  | .requestId => .ok .requestId
  | .retry options => return .retry { options := ← options.validated }
  | .requestLog options => .ok (.requestLog options)
  | .layer added => .ok (.policy added.link.factory)

end BlobTransfer
