import BlobTransfer.Reader.Basic
import BlobTransfer.Scope.Timeline

/-!
Reading on a timeline, with a service that answers requests. The scope of a read is looked at
before the body is: bytes that come when the scope ends are not taken.
-/

namespace BlobTransfer

structure GetReply where
  outcome : Except TransferError LiveResponse
  /-- Milliseconds until the answer comes, if it ever does. -/
  delay : Option Nat := some 0

abbrev Getter (Service : Type) := Service → Span → GetReply × Service

inductive ReadEvent where
  | asked (span : Span)
  | answered (response : LiveResponse)
  | delivered (bytes : Bytes)
  | discarded

structure ReadSession (Service : Type) where
  timeline : Timeline
  service : Service
  reader : RangeReader
  /-- Times at which a retry is going to be forced. -/
  forces : List Nat := []
  requests : List Span := []
  failures : List FailedRead := []
  history : List ReadEvent := []

namespace ReadSession

variable {Service : Type}

def start (timeline : Timeline) (service : Service) (initial : Option LiveResponse) (span : Span)
    (retries : Nat) : ReadSession Service :=
  { timeline, service
    reader := .new initial span retries
    history := (initial.map .answered).toList }

def isDue (timeline : Timeline) (through : Bool) (time : Nat) : Bool :=
  time < timeline.now || (through && time = timeline.now)

/-- Moves to a later timeline; retries planned before it are forced on the way, and those planned
for its very time if it is moved through. -/
def moveTo (session : ReadSession Service) (timeline : Timeline) (through : Bool) :
    ReadSession Service :=
  { session with
    timeline
    reader := if session.forces.any (isDue timeline through) then session.reader.force
      else session.reader
    forces := session.forces.filter fun time => !isDue timeline through time }

def nextForce? (session : ReadSession Service) : Option Nat :=
  if session.reader.canForce then
    session.forces.foldl (fun earliest time => earlier? earliest (some time)) none
  else none

def ask (session : ReadSession Service) (service : Service) : ReadSession Service :=
  { session with
    service
    requests := session.requests ++ [session.reader.span]
    history := session.history ++ [.asked session.reader.span] }

def install (session : ReadSession Service) (response : LiveResponse) : ReadSession Service :=
  { session with
    reader := session.reader.install response
    history := session.history ++ [.answered response] }

def deliver (session : ReadSession Service) (bytes : Bytes) (rest : LiveBody) :
    ReadSession Service :=
  { session with
    reader := session.reader.advance rest bytes.length
    history := session.history ++ [.delivered bytes] }

def close (session : ReadSession Service) : ReadSession Service :=
  { session with reader := session.reader.close, history := session.history ++ [.discarded] }

def request (session : ReadSession Service) (getter : Getter Service) (scope : Scope) :
    Option (Except TransferError Unit × ReadSession Service) :=
  match session.timeline.end? scope with
  | some reason => some (.error reason.error, session)
  | none => do
      let (reply, service) := getter session.service session.reader.span
      let (waited, timeline) ←
        session.timeline.run scope (reply.delay.map (session.timeline.now + ·))
      let moved := (session.ask service).moveTo timeline (waited = Waited.ended .canceled)
      match waited, reply.outcome with
      | .ended reason, _ => return (.error reason.error, moved)
      | .finished, .error error => return (.error error, moved)
      | .finished, .ok response => return (.ok (), moved.install response)

inductive BodyRead where
  | ended (reason : ScopeEnd)
  | read (result : Except IoError Bytes) (rest : LiveBody)

def endsBefore (reason : ScopeEnd) (endTime time : Nat) (aborted : Bool) : Bool :=
  endTime < time || (endTime = time && (reason = .deadlineExceeded || aborted))

def giveUp (session : ReadSession Service) (body : LiveBody) (reason : ScopeEnd)
    (later : Timeline) : BodyRead × ReadSession Service :=
  let waiting := { session.reader with
    body := some (body.waitUntil session.timeline.now later.now) }
  (.ended reason, { session with reader := waiting }.moveTo later (reason = ScopeEnd.canceled))

def take (session : ReadSession Service) (result : Except IoError Bytes) (rest : LiveBody)
    (time : Nat) : BodyRead × ReadSession Service :=
  let later := if rest.source.aborted then session.timeline.advanceThrough time
    else session.timeline.advanceTo time
  (.read result rest, session.moveTo later rest.source.aborted)

def await (session : ReadSession Service) (scope : Scope) (body : LiveBody) (size : Nat) :
    Option (BodyRead × ReadSession Service) :=
  let timeline := session.timeline
  match timeline.race scope with
  | some reason => some (.ended reason, session)
  | none =>
      match body.read (session.reader.limit size) timeline.now session.nextForce?,
        timeline.endAhead? scope with
      | some (result, rest, time), some (reason, later) =>
          if endsBefore reason later.now time rest.source.aborted then
            some (session.giveUp body reason later)
          else some (session.take result rest time)
      | some (result, rest, time), none => some (session.take result rest time)
      | none, some (reason, later) => some (session.giveUp body reason later)
      | none, none => none

inductive ReadTry where
  | done (result : Except TransferError Bytes)
  | failed (error : IoError)

def readHeld (session : ReadSession Service) (scope : Scope) (size : Nat) :
    Option (ReadTry × ReadSession Service) :=
  match session.reader.body with
  | none => some (.done (.ok []), session)
  | some body => (session.await scope body size).map fun (outcome, session) =>
      match outcome with
      | .ended reason => (.done (.error reason.error), session)
      | .read (.ok bytes) rest => (.done (.ok bytes), session.deliver bytes rest)
      | .read (.error error) _ => (.failed error, session)

def tryRead (session : ReadSession Service) (getter : Getter Service) (scope : Scope)
    (size : Nat) : Option (ReadTry × ReadSession Service) :=
  if session.reader.isExhausted then some (.done (.ok []), session)
  else if session.reader.body.isSome then session.readHeld scope size
  else (session.request getter scope).bind fun (ready, session) =>
    match ready with
    | .error error => some (.done (.error error), session)
    | .ok () => session.readHeld scope size

def fail (session : ReadSession Service) (failures left : Nat) (error : IoError) :
    ReadSession Service :=
  { session.close with
    failures := session.failures ++ [session.reader.report failures left error] }

/-- Reads with a number of failures that may still be made up for. -/
def readFrom (getter : Getter Service) (scope : Scope) (size : Nat) :
    (left failures : Nat) → ReadSession Service →
      Option (Except TransferError Bytes × ReadSession Service)
  | 0, failures, session => (session.tryRead getter scope size).map fun
      | (.done result, session) => (result, session)
      | (.failed error, session) => (.error (.io error), session.fail failures 0 error)
  | left + 1, failures, session => (session.tryRead getter scope size).bind fun
      | (.done result, session) => some (result, session)
      | (.failed error, session) =>
          let closed := session.fail failures (left + 1) error
          if session.reader.mayRetry error then
            readFrom getter scope size left (failures + 1) closed
          else some (.error (.io error), closed)

/-- Up to `size` bytes; none of them means that there are no more. Asking for none reads
nothing. -/
def read (session : ReadSession Service) (getter : Getter Service) (scope : Scope) (size : Nat) :
    Option (Except TransferError Bytes × ReadSession Service) :=
  if size = 0 then some (.ok [], session)
  else readFrom getter scope size session.reader.retries 0 session

end ReadSession

end BlobTransfer
