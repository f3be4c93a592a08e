import BlobTransfer.Reader.Session

/-!
What a caller may do with a reader, one thing after the other. A read that is given up leaves the
reader as if a scope of its own had been cancelled.
-/

namespace BlobTransfer

inductive ReaderUse (Service : Type) where
  | read (size : Nat) (abandonAt : Option Nat)
  | close
  | force
  | forceAt (time : Nat)
  /-- Time passes, scopes end or get an end, the service changes. -/
  | meanwhile (timeline : Timeline) (service : Service)

structure ReadTurn where
  forced : Bool := false
  size : Nat

namespace ReadSession

variable {Service : Type}

/-- The session after one use of its reader, and the bytes that the caller got by it. Nothing
comes back of a read that never ends. -/
def use (session : ReadSession Service) (getter : Getter Service) (scope : Scope) :
    ReaderUse Service → Option (Bytes × ReadSession Service)
  | .read size none => (session.read getter scope size).map fun (result, session) =>
      (result.toOption.getD [], session)
  | .read size (some time) =>
      let (attempt, timeline) := session.timeline.child scope
      let session := { session with timeline := timeline.plan attempt time }
      (session.read getter attempt size).map fun (result, session) =>
        (result.toOption.getD [], session)
  | .close => some ([], session.close)
  | .force => some ([], { session with reader := session.reader.force })
  | .forceAt time => some ([], { session with forces := session.forces ++ [time] })
  | .meanwhile timeline service =>
      some ([], { session.moveTo timeline false with service })

def uses (session : ReadSession Service) (getter : Getter Service) (scope : Scope) :
    List (ReaderUse Service) → Option (Bytes × ReadSession Service)
  | [] => some ([], session)
  | next :: later => do
      let (bytes, session) ← session.use getter scope next
      let (others, session) ← session.uses getter scope later
      return (bytes ++ others, session)

def prepare (session : ReadSession Service) (turn : ReadTurn) : ReadSession Service :=
  if turn.forced then { session with reader := session.reader.force } else session

def readTurns (session : ReadSession Service) (getter : Getter Service) (scope : Scope) :
    List ReadTurn → Option (Bytes × Except TransferError Unit × ReadSession Service)
  | [] => none
  | turn :: later =>
      let prepared := session.prepare turn
      match prepared.read getter scope turn.size with
      | none => none
      | some (.error error, _) => some ([], .error error, prepared)
      | some (.ok [], _) => some ([], .ok (), prepared)
      | some (.ok bytes, session) =>
          (session.readTurns getter scope later).map fun (others, outcome, last) =>
            (bytes ++ others, outcome, last)

def readBuffers (session : ReadSession Service) (getter : Getter Service) (scope : Scope) :
    (sizes : List Nat) → Option (Bytes × Except TransferError Unit × ReadSession Service)
  | [] => none
  | size :: later =>
      match session.read getter scope size with
      | none => none
      | some (.error error, session) => some ([], .error error, session)
      | some (.ok [], session) => some ([], .ok (), session)
      | some (.ok bytes, session) =>
          (session.readBuffers getter scope later).map fun (others, outcome, last) =>
            (bytes ++ others, outcome, last)

end ReadSession

end BlobTransfer
