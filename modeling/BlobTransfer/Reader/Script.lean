import BlobTransfer.Reader.Session

/-!
A service whose answers are laid down beforehand, for trying out readers.
-/

namespace BlobTransfer

structure ReplyScript where
  replies : List GetReply := []
  repeatsLast : Bool := false
  served : Nat := 0

namespace ReplyScript

def getter : Getter ReplyScript := fun script _ =>
  let next := { script with served := script.served + 1 }
  let last := if script.repeatsLast then script.replies.getLast? else none
  match script.replies[script.served]?.or last with
  | some reply => (reply, next)
  | none => ({ outcome := .error (.internal s!"unexpected GET #{next.served}") }, next)

end ReplyScript

end BlobTransfer
