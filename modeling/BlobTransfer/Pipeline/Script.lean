import BlobTransfer.Pipeline.Transport

/-!
A transport whose answers are laid down beforehand, and layers that leave a mark, for trying out
pipelines.
-/

namespace BlobTransfer

structure TransportScript where
  replies : List TransportReply := []

namespace TransportScript

def transport : Transport TransportScript := fun script _ =>
  match script.replies with
  | [] => ({ outcome := .ok { status := ⟨200⟩ } }, script)
  | [last] => (last, script)
  | reply :: rest => (reply, ⟨rest⟩)

end TransportScript

namespace Layer

def appendTo (name : HeaderName) (text : String) (headers : Headers) : Headers :=
  let present := ((headers.get? name).bind (·.visible?)).getD ""
  match HeaderValue.ofText? (present ++ text) with
  | some value => headers.insert name value
  | none => headers

def tagging (name : HeaderName) (text : String) : Layer where
  onRequest := fun request => { request with headers := appendTo name text request.headers }
  onResponse := fun response => { response with headers := appendTo name text response.headers }

end Layer

end BlobTransfer
