import BlobTransfer.Body.Abortable

/-!
The answer to a request for a part of a blob, and its body while it is being read.
-/

namespace BlobTransfer

structure LiveResponse where
  body : Body
  etag : Option String := none
  abortable : Bool := false
  deriving DecidableEq, Repr

/-- A body with the part of its last item that is not yet handed out. -/
structure LiveBody where
  source : AbortableBody
  buffered : Bytes := []
  deriving DecidableEq, Repr

namespace LiveBody

def ofResponse (response : LiveResponse) : LiveBody := { source := .ofBody response.body }

def abort (body : LiveBody) : LiveBody := { body with source := body.source.abort }

/-- Up to so many bytes, none only at the end of the body, and when they come, if ever. Items
without bytes are passed over. -/
def read (body : LiveBody) (limit now : Nat) (abortAt : Option Nat) :
    Option (Except IoError Bytes × LiveBody × Nat) :=
  if body.buffered.isEmpty then
    (body.source.next List.isEmpty now abortAt).map fun (item, source, time) =>
      match item with
      | some (.ok bytes) => (.ok (bytes.take limit), ⟨source, bytes.drop limit⟩, time)
      | some (.error error) => (.error error, ⟨source, []⟩, time)
      | none => (.ok [], ⟨source, []⟩, time)
  else
    some (.ok (body.buffered.take limit), { body with buffered := body.buffered.drop limit }, now)

def waitUntil (body : LiveBody) (now limit : Nat) : LiveBody :=
  if body.buffered.isEmpty then
    { body with source := body.source.waitUntil List.isEmpty now limit }
  else body

end LiveBody

end BlobTransfer
