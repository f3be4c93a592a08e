import BlobTransfer.Body.Live
import BlobTransfer.Scope.Timeline
import BlobTransfer.Upload.Writer

/-!
An upload carried out on a clock: whatever can happen now happens, and the clock moves on only
when nothing can. The producer goes on as far as it can, then every worker does so in its turn,
then the producer again. What is ready at the very end of the scope still counts.
-/

namespace BlobTransfer

structure UploadRun (Service : Type) where
  upload : Upload
  timeline : Timeline
  caller : Scope
  /-- Derived from the caller's scope for the whole upload. -/
  scope : Scope
  service : Service
  source : LiveBody
  nextRead : Option (Except IoError Bytes × LiveBody × Nat) := none
  stageEnds : List (Option Nat)
  commitEnd : Option Nat := none
  mostInFlight : Nat := 0
  /-- Workers that go on before the producer does. -/
  queue : List Nat := []

namespace UploadRun

variable {Service : Type}

def step (run : UploadRun Service) (next : UploadStep) : Option (UploadRun Service) :=
  (run.upload.step next).map fun upload => { run with upload }

def isDue (run : UploadRun Service) (time : Option Nat) : Bool :=
  time.any (· ≤ run.timeline.now)

def learnEnd (run : UploadRun Service) : Option (UploadRun Service) :=
  if run.timeline.scopes.isCanceled run.scope && !run.upload.canceled then run.step .cancel
  else if run.scope.hasExpired run.timeline.instant && !run.upload.expired then run.step .expire
  else none

def produce (run : UploadRun Service) : Option (UploadRun Service) :=
  match run.upload.producer, run.nextRead with
  | .finished _, _ => none
  | .sending _, _ => run.step .giveUp <|> run.step .send
  | .reading filled, none =>
      let limit := run.upload.options.blockSize - filled.length
      match run.source.read limit run.timeline.now none with
      | some nextRead => some { run with nextRead := some nextRead }
      | none => run.step .giveUp
  | .reading _, some (item, source, time) =>
      if time ≤ run.timeline.now then
        let next := match item with
          | .ok [] => .sourceEnd
          | .ok bytes => .read bytes
          | .error error => .sourceFailure error
        { run with source, nextRead := none }.step next
      else run.step .giveUp

def beginStage (writer : BlockWriter Service) (run : UploadRun Service) (worker : Nat) :
    UploadRun Service :=
  match run.upload.workers[worker]? with
  | some (.staging block) =>
      let id := run.upload.blockId block.number
      let delay := writer.stageDelay run.service id
      { run with
        stageEnds := run.stageEnds.set worker (delay.map (run.timeline.now + ·))
        mostInFlight := max run.mostInFlight (run.upload.workers.countP (·.isStaging)) }
  | _ => run

def endStage (writer : BlockWriter Service) (run : UploadRun Service) (worker : Nat)
    (block : Block) : Option (UploadRun Service) :=
  let id := run.upload.blockId block.number
  let (reply, service) := writer.stage run.service run.upload.end? id block.payload
    run.upload.options.conditions.lease
  if reply.cancelsCaller then do
    let canceled ← { run with service, timeline := run.timeline.cancel run.caller }.step .cancel
    canceled.step (.stageEnd worker reply.outcome)
  else { run with service }.step (.stageEnd worker reply.outcome)

def work (writer : BlockWriter Service) (run : UploadRun Service) (worker : Nat) :
    Worker → Option (UploadRun Service)
  | .waiting => run.step (.turn worker)
  | .receiving => (run.step (.receive worker)).map fun run => run.beginStage writer worker
  | .staging block =>
      if run.isDue (run.stageEnds.getD worker none) then run.endStage writer worker block
      else run.step (.abandonStage worker)
  | .exited _ | .joined => none

/-- The first of some workers that can go on does so, and is asked first again. -/
def workFirst (writer : BlockWriter Service) (run : UploadRun Service) :
    List Nat → Option (UploadRun Service)
  | [] => none
  | worker :: rest =>
      match (run.upload.workers[worker]?).bind (run.work writer worker) with
      | some next => some { next with queue := worker :: rest }
      | none => run.workFirst writer rest

/-- All workers. Those whose stage calls have ended come first, in the order of their blocks. -/
def turns (run : UploadRun Service) : List Nat :=
  let ended := run.upload.workers.zipIdx.filterMap fun
    | (.staging block, worker) =>
        if run.isDue (run.stageEnds.getD worker none) then some (block.number, worker) else none
    | _ => none
  (ended.mergeSort fun left right => left.1 ≤ right.1).map (·.2) ++
    List.range run.upload.workers.length

def carryOut (run : UploadRun Service) : Option (UploadRun Service) :=
  if run.timeline.planned.any (·.1 ≤ run.timeline.now) then
    some { run with timeline := run.timeline.advanceThrough run.timeline.now }
  else none

def join (run : UploadRun Service) : Option (UploadRun Service) :=
  (List.range run.upload.workers.length).findSome? fun worker => run.step (.join worker)

def conclude (writer : BlockWriter Service) (run : UploadRun Service) :
    Option (UploadRun Service) :=
  match run.upload.phase with
  | .staging => (run.step .settle).map fun settled =>
      { settled with
        commitEnd := (writer.commitDelay settled.service).map (settled.timeline.now + ·) }
  | .committing =>
      if run.isDue run.commitEnd then
        let options := run.upload.options
        let (outcome, service) := writer.commit run.service run.upload.end? {
          ids := run.upload.blockIds.map (·.text), headers := options.headers
          metadata := options.metadata, conditions := options.conditions }
        { run with service }.step (.commitEnd outcome)
      else run.step .abandonCommit
  | .returned _ => none

def act (writer : BlockWriter Service) (run : UploadRun Service) : Option (UploadRun Service) :=
  run.learnEnd <|> run.workFirst writer run.queue <|>
    ((run.produce <|> run.join <|> run.conclude writer).map ({ · with queue := [] })) <|>
    run.carryOut <|> run.workFirst writer run.turns

def nextReady (run : UploadRun Service) : Option Nat :=
  let reading := match run.upload.producer with
    | .reading _ => run.nextRead.map (·.2.2)
    | _ => none
  let committing := match run.upload.phase with
    | .committing => run.commitEnd
    | _ => none
  (run.upload.workers.zip run.stageEnds).foldl
    (fun earliest (worker, time) => if worker.isStaging then earlier? earliest time else earliest)
    (earlier? reading committing)

def wait (run : UploadRun Service) : Option (UploadRun Service) :=
  (run.timeline.run run.scope run.nextReady).map fun (_, timeline) => { run with timeline }

/-- Carries on until the upload returns. Nothing comes back if all waits for something that never
comes. -/
def finish (writer : BlockWriter Service) : (fuel : Nat) → UploadRun Service →
    Option (Except TransferError CommitReceipt × UploadRun Service)
  | 0, _ => none
  | fuel + 1, run =>
      match run.upload.phase with
      | .returned result => some (result, run)
      | _ => ((run.act writer) <|> run.wait).bind (finish writer fuel)

def start (options : UploadOptions) (transfer : Uuid) (timeline : Timeline) (caller : Scope)
    (service : Service) (source : Body) : UploadRun Service :=
  let (scope, timeline) := timeline.child caller
  { upload := .start options transfer (timeline.end? scope)
    timeline, caller, scope, service
    source := .ofResponse { body := source }
    stageEnds := List.replicate options.maxConcurrency none }

def enoughFuel (options : UploadOptions) (timeline : Timeline) (source : Body) : Nat :=
  let bytes := source.events.flatMap fun
    | .data bytes => bytes
    | _ => []
  16 * (bytes.length + source.events.length + options.maxConcurrency + timeline.planned.length + 4)

end UploadRun

def BlockWriter.upload {Service : Type} (writer : BlockWriter Service) (options : UploadOptions)
    (transfer : Uuid) (timeline : Timeline) (caller : Scope) (service : Service) (source : Body) :
    Option (Except TransferError CommitReceipt × UploadRun Service) :=
  (UploadRun.start options transfer timeline caller service source).finish writer
    (UploadRun.enoughFuel options timeline source)

end BlobTransfer
