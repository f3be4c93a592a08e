import BlobTransfer.Log.Entry
import BlobTransfer.Pipeline.Transport
import BlobTransfer.Retry.Event

/-!
A single try of an operation: through the request log and the layers to the transport, and back.
-/

namespace BlobTransfer

inductive Halt where
  /-- All waits for something that never comes. -/
  | forever
  /-- A delay or a deadline is too long to be told. -/
  | overflow
  deriving DecidableEq, Repr

inductive LogRecord where
  | tried (event : RetryEvent)
  | request (entry : LogEntry)
  deriving DecidableEq, Repr

structure LogState where
  /-- No more than the retries may make, so 32 bits hold it. -/
  tries : Nat := 0
  startedAt : Option Nat := none
  deriving DecidableEq, Repr

structure TransportCall where
  request : Request
  scope : Scope
  deriving DecidableEq, Repr

structure Progress (Service : Type) where
  timeline : Timeline
  service : Service
  log : LogState := {}
  records : List LogRecord := []
  calls : List TransportCall := []
  draws : Nat := 0
  ids : Nat := 0

structure LastMile (Service : Type) where
  transport : Transport Service
  requestLog : Option RequestLogOptions := none
  layers : List Layer := []

structure Attempt where
  request : Request
  startedAt : Nat
  reply : TransportReply

namespace Progress

variable {Service : Type}

def note (progress : Progress Service) (record : LogRecord) : Progress Service :=
  { progress with records := progress.records ++ [record] }

def elapsedSince (progress : Progress Service) (start : Nat) : Duration :=
  .ofMillis (progress.timeline.now - start)

end Progress

namespace RequestLogOptions

variable {Service : Type}

def enter (options : RequestLogOptions) (request : Request) (progress : Progress Service) :
    Progress Service :=
  let log := {
    tries := progress.log.tries + 1
    startedAt := progress.log.startedAt.or (some progress.timeline.now) : LogState }
  let counted := { progress with log }
  if options.minLevel.allows .info then counted.note (.request (.outgoing log.tries request))
  else counted

def leave (options : RequestLogOptions) (log : LogState) (startedAt : Nat) (request : Request)
    (outcome : Except TransferError Response) (progress : Progress Service) : Progress Service :=
  let entry? := options.completed? log.tries request outcome (progress.elapsedSince startedAt)
    (progress.elapsedSince (log.startedAt.getD startedAt))
  match entry? with
  | some entry => progress.note (.request entry)
  | none => progress

end RequestLogOptions

namespace LastMile

variable {Service : Type}

def start (lastMile : LastMile Service) (progress : Progress Service) (scope : Scope)
    (request : Request) : Attempt × Progress Service :=
  let logged :=
    match lastMile.requestLog with
    | none => progress
    | some options => options.enter request progress
  let sent := Layer.outbound lastMile.layers request
  let (reply, service) := lastMile.transport logged.service sent
  ({ request, startedAt := progress.timeline.now, reply },
    { logged with service, calls := logged.calls ++ [⟨sent, scope⟩] })

def finish (lastMile : LastMile Service) (progress : Progress Service)
    (caller scope : Scope) (attempt : Attempt) :
    Except TransferError Response × Progress Service :=
  let reply := attempt.reply
  let timeline := progress.timeline
  let timeline := if reply.cancelsTry then timeline.cancel scope else timeline
  let timeline := if reply.cancelsCaller then timeline.cancel caller else timeline
  let outcome := reply.outcome.map (Layer.inbound lastMile.layers)
  let progress := { progress with timeline }
  (outcome, match lastMile.requestLog with
    | none => progress
    | some options =>
        options.leave progress.log attempt.startedAt attempt.request outcome progress)

def send (lastMile : LastMile Service) (progress : Progress Service) (caller : Scope)
    (request : Request) : Except Halt (Except TransferError Response × Progress Service) :=
  let (attempt, started) := lastMile.start progress caller request
  match attempt.reply.delay with
  | none => .error .forever
  | some delay =>
      let timeline := started.timeline.advanceTo (started.timeline.now + delay)
      .ok (lastMile.finish { started with timeline } caller caller attempt)

/-- One try within a scope of its own. It is not begun if the scope is over, and given up when
the scope ends. -/
def sendWithin (lastMile : LastMile Service) (progress : Progress Service)
    (caller scope : Scope) (request : Request) :
    Except Halt (Except TransferError Response × Progress Service) :=
  match progress.timeline.end? scope with
  | some reason => .ok (.error reason.error, progress)
  | none =>
      let (attempt, started) := lastMile.start progress scope request
      match started.timeline.run scope
        (attempt.reply.delay.map (started.timeline.now + ·)) with
      | none => .error .forever
      | some (.ended reason, timeline) => .ok (.error reason.error, { started with timeline })
      | some (.finished, timeline) =>
          .ok (lastMile.finish { started with timeline } caller scope attempt)

end LastMile

end BlobTransfer
