import BlobTransfer.Http.Header
import BlobTransfer.Time.Duration
import BlobTransfer.Url.Parser

/-!
Requests, with a payload that every try can send from its start.
-/

namespace BlobTransfer

structure Payload where
  data : Bytes := []
  position : Nat := 0
  position_le : position ≤ data.length := by simp
  deriving DecidableEq, Repr

namespace Payload

def ofBytes (data : Bytes) : Payload := { data }

def rewind (payload : Payload) : Payload := { data := payload.data }

def advance (payload : Payload) (count : Nat) : Payload where
  data := payload.data
  position := min (payload.position + count) payload.data.length
  position_le := Nat.min_le_right _ _

def remaining (payload : Payload) : Bytes := payload.data.drop payload.position

end Payload

def isMethod (text : String) : Bool := !text.isEmpty && text.toList.all isTokenChar

structure Request where
  method : String := "GET"
  url : Url
  headers : Headers := {}
  payload : Payload := {}
  timeout : Option Duration := none
  deriving DecidableEq, Repr

inductive RequestFault where
  | url (failure : UrlFailure)
  | method
  | header (fault : HeaderFault)
  deriving DecidableEq, Repr

namespace Request

/-- A request from texts. The address is looked at first, then the method, then the headers. -/
def ofTexts (method url : String) (headers : List (String × String)) (payload : Payload) :
    Except RequestFault Request := do
  let url ← (Url.parse url).mapError .url
  if !isMethod method then throw .method
  let headers ← (({} : Headers).putAll headers).mapError .header
  return { method, url, headers, payload }

def isRead (request : Request) : Bool := request.method = "GET" || request.method = "HEAD"

def setParameter (request : Request) (name value : String) : Request :=
  { request with url := request.url.setParameter name value }

end Request

end BlobTransfer
