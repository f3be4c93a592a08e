import BlobTransfer.Http.Response

/-!
What may be done with a response, one thing after the other: it is checked, its body is taken and
read item by item or at once, and whatever is held of it may be dropped at any moment.
-/

namespace BlobTransfer

inductive ResponsePart where
  | whole (response : Response)
  | stream (body : ResponseBody)
  | nothing
  deriving DecidableEq, Repr

inductive ResponseUse where
  | check
  | takeBody
  | next (limit : Option Nat)
  | drain
  | collect
  | drop
  | pause (time : Nat)
  deriving DecidableEq, Repr

inductive ResponseAnswer where
  | done
  | refused (error : TransferError)
  | item (item : BodyItem)
  | late
  | ended (items : List BodyItem)
  | collected (result : Except TransferError Bytes)
  | dropped

namespace ResponseBody

/-- No item is passed over, even if it has no bytes. -/
def passesOver (_ : Bytes) : Bool := false

def serve (body : ResponseBody) (item : Option BodyItem) (rest : Body) (later : Timeline) :
    ResponseAnswer × ResponsePart × Timeline :=
  match item with
  | some item => (.item item, .stream { body with body := rest }, later)
  | none => (.ended [], .nothing, body.drop later)

def giveUp (body : ResponseBody) (limit : Nat) (timeline : Timeline) :
    ResponseAnswer × ResponsePart × Timeline :=
  (.late, .stream { body with body := body.body.waitUntil passesOver timeline.now limit },
    timeline.advanceTo limit)

/-- What comes first of the next item and a time. An item that comes just then is taken. -/
def next (body : ResponseBody) (limit : Option Nat) (timeline : Timeline) :
    Option (ResponseAnswer × ResponsePart × Timeline) :=
  match body.body.next passesOver timeline.now, limit with
  | some (item, rest, time), some limit =>
      if max timeline.now limit < time then some (body.giveUp limit timeline)
      else some (body.serve item rest (timeline.advanceTo time))
  | some (item, rest, time), none => some (body.serve item rest (timeline.advanceTo time))
  | none, some limit => some (body.giveUp limit timeline)
  | none, none => none

end ResponseBody

namespace ResponsePart

/-- Nothing comes back of a use that never ends. A use that does not fit what is held does
nothing. -/
def use (part : ResponsePart) (timeline : Timeline) (use : ResponseUse) :
    Option (ResponseAnswer × ResponsePart × Timeline) :=
  match use, part with
  | .check, .whole response =>
      match response.checked timeline with
      | (.ok response, later) => some (.done, .whole response, later)
      | (.error error, later) => some (.refused error, .nothing, later)
  | .takeBody, .whole response => some (.done, .stream response.intoBody, timeline)
  | .next limit, .stream body => body.next limit timeline
  | .drain, .stream body => (body.drain timeline).map fun (items, later) =>
      (.ended items, .nothing, later)
  | .collect, .whole response => (response.intoBody.collect timeline).map fun (result, later) =>
      (.collected result, .nothing, later)
  | .drop, .whole response => some (.dropped, .nothing, response.drop timeline)
  | .drop, .stream body => some (.dropped, .nothing, body.drop timeline)
  | .pause time, part => some (.done, part, timeline.advanceTo time)
  | _, part => some (.done, part, timeline)

def uses (part : ResponsePart) (timeline : Timeline) :
    List ResponseUse → Option (List ResponseAnswer × ResponsePart × Timeline)
  | [] => some ([], part, timeline)
  | next :: later => do
      let (answer, part, timeline) ← part.use timeline next
      let (answers, part, timeline) ← part.uses timeline later
      return (answer :: answers, part, timeline)

end ResponsePart

end BlobTransfer
