import BlobTransfer.Pipeline.Attempt

/-!
Tries that pass through the last mile one after the other, each begun at its own time, by one
operation or by several.
-/

namespace BlobTransfer

structure Dispatch where
  begun : Timeline
  caller : Scope
  /-- The scope that the try has to itself; without it the try has that of the caller. -/
  own : Option Scope := none
  request : Request

namespace Dispatch

def scope (dispatch : Dispatch) : Scope := dispatch.own.getD dispatch.caller

def isSent (dispatch : Dispatch) : Bool :=
  dispatch.own.all fun scope => (dispatch.begun.end? scope).isNone

def call (dispatch : Dispatch) (layers : List Layer) : TransportCall where
  request := Layer.outbound layers dispatch.request
  scope := dispatch.scope

end Dispatch

def TransportReply.inbound (reply : TransportReply) (layers : List Layer) : TransportReply :=
  { reply with outcome := reply.outcome.map (Layer.inbound layers) }

variable {Service : Type}

def Progress.settle (started : Progress Service) :
    Except Halt (Except TransferError Response × Progress Service) →
      Option (Except TransferError Response) × Progress Service
  | .ok (outcome, answered) => (some outcome, answered)
  | .error _ => (none, started)

namespace LastMile

def answers (lastMile : LastMile Service) (service : Service) : List Dispatch → List TransportReply
  | [] => []
  | dispatch :: later =>
      if dispatch.isSent then
        let (reply, service) := lastMile.transport service
          (Layer.outbound lastMile.layers dispatch.request)
        reply.inbound lastMile.layers :: lastMile.answers service later
      else lastMile.answers service later

def dispatch (lastMile : LastMile Service) (progress : Progress Service) (dispatch : Dispatch) :
    Option (Except TransferError Response) × Progress Service :=
  let begun := { progress with timeline := dispatch.begun }
  let sent :=
    match dispatch.own with
    | none => lastMile.send begun dispatch.caller dispatch.request
    | some scope => lastMile.sendWithin begun dispatch.caller scope dispatch.request
  (lastMile.start begun dispatch.scope dispatch.request).2.settle sent

def dispatchAll (lastMile : LastMile Service) (progress : Progress Service) :
    List Dispatch → List (Option (Except TransferError Response)) × Progress Service
  | [] => ([], progress)
  | first :: later =>
      let (outcome, next) := lastMile.dispatch progress first
      let (outcomes, last) := lastMile.dispatchAll next later
      (outcome :: outcomes, last)

end LastMile

end BlobTransfer
