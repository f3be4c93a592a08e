import BlobTransfer.Http.Request
import BlobTransfer.Http.Response

/-!
What lies at the end of a pipeline, and layers that callers put right in front of it.
-/

namespace BlobTransfer

structure TransportReply where
  outcome : Except TransferError Response
  delay : Option Nat := some 0
  cancelsTry : Bool := false
  cancelsCaller : Bool := false

abbrev Transport (Service : Type) := Service → Request → TransportReply × Service

structure Layer where
  onRequest : Request → Request := id
  onResponse : Response → Response := id

namespace Layer

/-- The first layer sees a request first. -/
def outbound (layers : List Layer) (request : Request) : Request :=
  layers.foldl (fun request layer => layer.onRequest request) request

def inbound (layers : List Layer) (response : Response) : Response :=
  layers.foldr (fun layer response => layer.onResponse response) response

end Layer

end BlobTransfer
