import BlobTransfer.Body.Abortable

/-!
Bodies as they show themselves to those who look at them from time to time and do not stay until
something comes. What can be aborted may be any source of items, and an abort may come between any
two looks. All handles share one mark, so it does not matter through which of them it comes.
-/

namespace BlobTransfer

inductive Sight where
  /-- Nothing new by now; maybe there never will be. -/
  | nothing
  | item (item : BodyItem)
  | finish

/-- How sources of items show themselves at a time. A look may change them. -/
abbrev Glance (Source : Type) := Source → Nat → Sight × Source

inductive BodyAct where
  | look (wait : Nat)
  | abort

def BodyAct.isLook : BodyAct → Bool
  | .look _ => true
  | .abort => false

def BodyAct.looks (acts : List BodyAct) : Nat := (acts.filter isLook).length

def glances {Source : Type} (glance : Glance Source) (source : Source) (now : Nat) :
    (waits : List Nat) → List Sight
  | [] => []
  | wait :: later =>
      (glance source (now + wait)).1 ::
        glances glance (glance source (now + wait)).2 (now + wait) later

/-- What is seen of something that is never asked again once its end has been seen. -/
def fuse : List Sight → List Sight
  | [] => []
  | .finish :: later => .finish :: List.replicate later.length .finish
  | sight :: later => sight :: fuse later

def interrupted : (looks : Nat) → List Sight
  | 0 => []
  | later + 1 => .item (.error AbortableBody.interruption) :: List.replicate later .finish

structure AbortableSource (Source : Type) where
  inner : Option Source
  aborted : Bool := false

namespace AbortableSource

variable {Source : Type}

def ofSource (source : Source) : AbortableSource Source := { inner := some source }

def abort (body : AbortableSource Source) : AbortableSource Source := { body with aborted := true }

/-- An abort is looked for first, and the source only if there is none. -/
def look (glance : Glance Source) (body : AbortableSource Source) (now : Nat) :
    Sight × AbortableSource Source :=
  match body.inner with
  | none => (.finish, body)
  | some source =>
      if body.aborted then
        (.item (.error AbortableBody.interruption), { body with inner := none })
      else
        match glance source now with
        | (.finish, _) => (.finish, { body with inner := none })
        | (sight, rest) => (sight, { body with inner := some rest })

def watch (glance : Glance Source) (body : AbortableSource Source) (now : Nat) :
    List BodyAct → List Sight
  | [] => []
  | .look wait :: later =>
      (body.look glance (now + wait)).1 ::
        watch glance (body.look glance (now + wait)).2 (now + wait) later
  | .abort :: later => watch glance body.abort now later

end AbortableSource

def Body.look (skipped : Bytes → Bool) : Glance Body := fun body now =>
  match body.next skipped now with
  | some (answer, rest, time) =>
      if time ≤ now then (answer.elim .finish .item, rest)
      else (.nothing, body.waitUntil skipped now (now + 1))
  | none => (.nothing, body.waitUntil skipped now (now + 1))

namespace AbortableBody

def asSource (body : AbortableBody) : AbortableSource Body := ⟨body.inner, body.aborted⟩

def look (skipped : Bytes → Bool) : Glance AbortableBody := fun body now =>
  let (sight, rest) := body.asSource.look (Body.look skipped) now
  (sight, ⟨rest.inner, rest.aborted⟩)

/-- Looks again and again, every millisecond, until there is something to see. An abort at a time
given comes right after the look at that time. -/
def lookFor (skipped : Bytes → Bool) (abortAt : Option Nat) :
    (fuel : Nat) → AbortableBody → (now : Nat) → Option (Option BodyItem × AbortableBody × Nat)
  | 0, _, _ => none
  | fuel + 1, body, now =>
      match body.look skipped now with
      | (.item item, rest) => some (some item, rest, now)
      | (.finish, rest) => some (none, rest, now)
      | (.nothing, rest) =>
          if abortAt.any (· ≤ now) then lookFor skipped abortAt fuel rest.abort now
          else lookFor skipped abortAt fuel rest (now + 1)

end AbortableBody

end BlobTransfer
