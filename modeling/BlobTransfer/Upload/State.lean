import BlobTransfer.BlockId
import BlobTransfer.Scope.Basic
import BlobTransfer.Upload.Options

/-!
An upload under way. A producer cuts the source into blocks and hands them to a channel that
holds one; workers take turns at the channel, and each stages what it has taken. Once all are
done, the blocks are committed in the order of the source.
-/

namespace BlobTransfer

structure Block where
  number : Nat
  payload : Bytes
  deriving DecidableEq, Repr

inductive Producer where
  | reading (filled : Bytes)
  | sending (payload : Bytes)
  | finished (outcome : Except TransferError Unit)

/-- Where a worker waits. -/
inductive Worker where
  | waiting
  | receiving
  | staging (block : Block)
  | exited (panicked : Bool)
  | joined
  deriving DecidableEq, Repr

namespace Worker

def isGone : Worker → Bool
  | .exited _ | .joined => true
  | _ => false

def isStaging : Worker → Bool
  | .staging _ => true
  | _ => false

end Worker

inductive UploadPhase where
  | staging
  | committing
  | returned (result : Except TransferError CommitReceipt)

structure Upload where
  options : UploadOptions
  transfer : Uuid
  producer : Producer
  workers : List Worker
  channel : Option Block := none
  phase : UploadPhase := .staging
  handed : Nat := 0
  firstError : Option TransferError := none
  /-- Whether the upload was cancelled, by its caller or by a failure. -/
  canceled : Bool := false
  expired : Bool := false
  idleBuffers : Nat := 0
  calls : List Block := []
  staged : List Block := []
  total : Nat := 0
  reports : List Nat := []
  commits : List (List BlockId) := []

namespace Upload

def end? (upload : Upload) : Option ScopeEnd :=
  if upload.canceled then some .canceled
  else if upload.expired then some .deadlineExceeded
  else none

def isOver (upload : Upload) : Bool := upload.end?.isSome

theorem isOver_eq (upload : Upload) : upload.isOver = (upload.canceled || upload.expired) := by
  cases canceled : upload.canceled <;> cases expired : upload.expired <;>
    simp [isOver, end?, canceled, expired]

def blockId (upload : Upload) (number : Nat) : BlockId := .new upload.transfer (.ofNat number)

def blockIds (upload : Upload) : List BlockId := (List.range upload.handed).map upload.blockId

/-- The producer at its end. If the source is to blame, the workers are stopped. -/
def finishProducing (upload : Upload) (outcome : Except TransferError Unit) : Upload :=
  { upload with
    producer := .finished outcome
    canceled := upload.canceled || !outcome.isOk }

def beginBlock (upload : Upload) : Upload :=
  if upload.firstError.isSome || upload.isOver then upload.finishProducing (.ok ())
  else { upload with producer := .reading [], idleBuffers := upload.idleBuffers - 1 }

def completeBlock (upload : Upload) (payload : Bytes) : Upload :=
  if upload.handed = mostBlocks then
    upload.finishProducing (.error (.invalid (.sourceLength upload.options.blockSize mostBlocks)))
  else { upload with producer := .sending payload }

def start (options : UploadOptions) (transfer : Uuid) (ended : Option ScopeEnd) : Upload :=
  match options.validate with
  | .error error => {
      options, transfer, producer := .finished (.ok ()), workers := []
      phase := .returned (.error error) }
  | .ok () => beginBlock {
      options, transfer, producer := .reading []
      workers := List.replicate options.maxConcurrency .waiting
      canceled := ended = some .canceled
      expired := ended = some .deadlineExceeded }

end Upload

end BlobTransfer
