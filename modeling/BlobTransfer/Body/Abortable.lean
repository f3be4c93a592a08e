import BlobTransfer.Body.Basic

/-!
Bodies that can be aborted from elsewhere. After an abort the next item is an error, whatever the
body would have answered, and then the body ends. Once a body has ended, an abort is too late.
-/

namespace BlobTransfer

structure AbortableBody where
  /-- What is still to come, until the end has been seen. -/
  inner : Option Body
  aborted : Bool := false
  deriving DecidableEq, Repr

namespace AbortableBody

def ofBody (body : Body) : AbortableBody := { inner := some body }

def interruption : IoError := ⟨.interrupted, .text "request canceled"⟩

def abort (body : AbortableBody) : AbortableBody := { body with aborted := true }

/-- The next item or the end, what follows, and when it comes, if ever. An abort at a time given
is noticed by those who still wait then. -/
def next (body : AbortableBody) (skipped : Bytes → Bool) (now : Nat) (abortAt : Option Nat) :
    Option (Option BodyItem × AbortableBody × Nat) :=
  let interrupted := fun (time : Nat) =>
    some (some (.error interruption), { inner := none, aborted := true : AbortableBody }, time)
  match body.inner with
  | none => some (none, body, now)
  | some inner =>
      if body.aborted then interrupted now
      else
        match inner.next skipped now, abortAt with
        | some (item, rest, time), some abort =>
            if max now abort < time then interrupted (max now abort)
            else some (item, { body with inner := item.map fun _ => rest }, time)
        | some (item, rest, time), none =>
            some (item, { body with inner := item.map fun _ => rest }, time)
        | none, some abort => interrupted (max now abort)
        | none, none => none

def waitUntil (body : AbortableBody) (skipped : Bytes → Bool) (now limit : Nat) :
    AbortableBody :=
  { body with inner := body.inner.map (·.waitUntil skipped now limit) }

end AbortableBody

end BlobTransfer
