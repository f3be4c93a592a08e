import BlobTransfer.Upload.State

/-!
What can happen in an upload, one step at a time. Any order of steps that are possible is a
schedule; where a step depends on the source, the writer or the scope, it carries what they do.
-/

namespace BlobTransfer

inductive StageOutcome where
  | staged
  | failed (error : TransferError)
  | panicked
  /-- The block is staged, but the report of it panics. -/
  | reportPanicked
  deriving DecidableEq, Repr

inductive UploadStep where
  | read (bytes : Bytes)
  | sourceEnd
  | sourceFailure (error : IoError)
  | send
  | giveUp
  | turn (worker : Nat)
  | receive (worker : Nat)
  | stageEnd (worker : Nat) (outcome : StageOutcome)
  | abandonStage (worker : Nat)
  | join (worker : Nat)
  | settle
  | commitEnd (outcome : Except TransferError CommitReceipt)
  | abandonCommit
  | cancel
  | expire

namespace Upload

def recordError (upload : Upload) (error : TransferError) : Upload :=
  { upload with firstError := upload.firstError.or (some error), canceled := true }

/-- The failure that ends an upload before its commit, if there is one: the fault of the source
counts first, then the first failure of a worker, then the end of the scope. -/
def failure? (upload : Upload) : Except TransferError Unit → Option TransferError
  | .error error => some error
  | .ok () => upload.firstError.or (upload.end?.map (·.error))

def setWorker (upload : Upload) (worker : Nat) (state : Worker) : Upload :=
  { upload with workers := upload.workers.set worker state }

def recycle (upload : Upload) : Upload :=
  { upload with idleBuffers := upload.idleBuffers + 1 }

def workerPanicked : TransferError := .internal "upload worker failed: the worker panicked"

def read (upload : Upload) (bytes : Bytes) : Option Upload :=
  match upload.producer with
  | .reading filled =>
      let filled' := filled ++ bytes
      if bytes.isEmpty || upload.options.blockSize < filled'.length then none
      else if filled'.length < upload.options.blockSize then
        some { upload with producer := .reading filled' }
      else some (upload.completeBlock filled')
  | _ => none

def sourceEnd (upload : Upload) : Option Upload :=
  match upload.producer with
  | .reading [] => some (upload.recycle.finishProducing (.ok ()))
  | .reading filled => some (upload.completeBlock filled)
  | _ => none

def sourceFailure (upload : Upload) (error : IoError) : Option Upload :=
  match upload.producer with
  | .reading _ => some (upload.finishProducing (.error (.io error)))
  | _ => none

def hand (upload : Upload) (payload : Bytes) : Upload :=
  { upload with channel := some ⟨upload.handed, payload⟩, handed := upload.handed + 1 }

/-- A block shorter than the others is the last one. A cancellation is noticed at once, but a
deadline only when its timer rings, and until then a block may still be sent. -/
def send (upload : Upload) : Option Upload :=
  match upload.producer, upload.channel with
  | .sending payload, none =>
      if upload.canceled || upload.workers.all (·.isGone) then none
      else if payload.length < upload.options.blockSize then
        some ((upload.hand payload).finishProducing (.ok ()))
      else some (upload.hand payload).beginBlock
  | _, _ => none

def giveUp (upload : Upload) : Option Upload :=
  match upload.producer with
  | .reading _ => if upload.isOver then some (upload.finishProducing (.ok ())) else none
  | .sending _ =>
      if upload.isOver || upload.workers.all (·.isGone) then
        some (upload.finishProducing (.ok ()))
      else none
  | .finished _ => none

def turn (upload : Upload) (worker : Nat) : Option Upload :=
  if upload.workers[worker]? = some .waiting ∧ .receiving ∉ upload.workers then
    some (upload.setWorker worker .receiving)
  else none

def receive (upload : Upload) (worker : Nat) : Option Upload :=
  if upload.workers[worker]? = some .receiving then
    match upload.channel, upload.producer with
    | some block, _ =>
        let taken := { upload with channel := none }
        if upload.isOver then some (taken.recycle.setWorker worker (.exited false))
        else some { taken.setWorker worker (.staging block) with calls := block :: upload.calls }
    | none, .finished _ => some (upload.setWorker worker (.exited false))
    | none, _ => none
  else none

def recordStaged (upload : Upload) (block : Block) : Upload :=
  let total := upload.total + block.payload.length
  { upload with
    staged := block :: upload.staged
    total
    reports := if upload.options.reportsProgress then total :: upload.reports else upload.reports }

/-- A failure that comes when the scope is over anyway is passed over. -/
def stageEnd (upload : Upload) (worker : Nat) (outcome : StageOutcome) : Option Upload :=
  match upload.workers[worker]? with
  | some (.staging block) =>
      match outcome with
      | .staged => some ((upload.recycle.recordStaged block).setWorker worker .waiting)
      | .failed error =>
          let gone := upload.recycle.setWorker worker (.exited false)
          some (if upload.isOver then gone else gone.recordError error)
      | .panicked => some (upload.setWorker worker (.exited true))
      | .reportPanicked =>
          if upload.options.reportsProgress then
            some ((upload.recycle.recordStaged block).setWorker worker (.exited true))
          else none
  | _ => none

def abandonStage (upload : Upload) (worker : Nat) : Option Upload :=
  match upload.workers[worker]? with
  | some (.staging _) =>
      if upload.isOver then some (upload.recycle.setWorker worker (.exited false)) else none
  | _ => none

def join (upload : Upload) (worker : Nat) : Option Upload :=
  match upload.workers[worker]? with
  | some (.exited panicked) =>
      let joined := upload.setWorker worker .joined
      some (if panicked then joined.recordError workerPanicked else joined)
  | _ => none

def settle (upload : Upload) : Option Upload :=
  match upload.phase, upload.producer with
  | .staging, .finished outcome =>
      if upload.workers.all (· = .joined) then
        match upload.failure? outcome with
        | some error => some { upload with phase := .returned (.error error) }
        | none => some {
            upload with phase := .committing, commits := upload.blockIds :: upload.commits }
      else none
  | _, _ => none

def commitEnd (upload : Upload) (outcome : Except TransferError CommitReceipt) :
    Option Upload :=
  match upload.phase with
  | .committing =>
      let result := outcome.map fun receipt =>
        { receipt with blockCount := .ofNat upload.handed }
      some { upload with phase := .returned result }
  | _ => none

def abandonCommit (upload : Upload) : Option Upload :=
  match upload.phase, upload.end? with
  | .committing, some reason => some { upload with phase := .returned (.error reason.error) }
  | _, _ => none

def step (upload : Upload) : UploadStep → Option Upload
  | .read bytes => upload.read bytes
  | .sourceEnd => upload.sourceEnd
  | .sourceFailure error => upload.sourceFailure error
  | .send => upload.send
  | .giveUp => upload.giveUp
  | .turn worker => upload.turn worker
  | .receive worker => upload.receive worker
  | .stageEnd worker outcome => upload.stageEnd worker outcome
  | .abandonStage worker => upload.abandonStage worker
  | .join worker => upload.join worker
  | .settle => upload.settle
  | .commitEnd outcome => upload.commitEnd outcome
  | .abandonCommit => upload.abandonCommit
  | .cancel => some { upload with canceled := true }
  | .expire => some { upload with expired := true }

def steps (upload : Upload) (schedule : List UploadStep) : Option Upload :=
  schedule.foldlM step upload

end Upload

end BlobTransfer
