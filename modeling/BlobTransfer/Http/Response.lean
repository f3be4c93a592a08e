import BlobTransfer.Body.Basic
import BlobTransfer.Http.Header
import BlobTransfer.Scope.Timeline

/-!
Responses. The scopes that a response retains end with it, or with the body taken from it.
-/

namespace BlobTransfer

structure Response where
  status : StatusCode
  headers : Headers := {}
  body : Body := {}
  retained : List Scope := []
  deriving DecidableEq, Repr

structure ResponseBody where
  body : Body
  retained : List Scope
  deriving DecidableEq, Repr

namespace Response

def requestId? (response : Response) : Option String :=
  (response.headers.get? .requestId).bind (·.visible?)

def retain (response : Response) (scope : Scope) : Response :=
  { response with retained := response.retained ++ [scope] }

def intoBody (response : Response) : ResponseBody := ⟨response.body, response.retained⟩

def drop (response : Response) (timeline : Timeline) : Timeline :=
  timeline.cancelAll response.retained

/-- Statuses of the 400s and 500s count as errors; the response is then dropped. -/
def checked (response : Response) (timeline : Timeline) :
    Except TransferError Response × Timeline :=
  if response.status.isError then
    (.error (.status response.status response.requestId?), response.drop timeline)
  else (.ok response, timeline)

end Response

namespace ResponseBody

def drop (body : ResponseBody) (timeline : Timeline) : Timeline :=
  timeline.cancelAll body.retained

def drain (body : ResponseBody) (timeline : Timeline) : Option (List BodyItem × Timeline) :=
  (body.body.drain timeline.now).map fun (items, time) =>
    (items, body.drop (timeline.advanceTo time))

def collect (body : ResponseBody) (timeline : Timeline) :
    Option (Except TransferError Bytes × Timeline) :=
  (body.body.collect timeline.now).map fun (collected, time) =>
    (collected.mapError .io, body.drop (timeline.advanceTo time))

end ResponseBody

end BlobTransfer
