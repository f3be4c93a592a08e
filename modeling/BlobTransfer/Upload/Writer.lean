import BlobTransfer.Store.Basic
import BlobTransfer.Upload.Step

/-!
Where an upload puts its blocks. A call takes some time, and its effect comes at the end of it.
-/

namespace BlobTransfer

structure StageReply where
  outcome : StageOutcome
  cancelsCaller : Bool := false

structure BlockWriter (Service : Type) where
  stageDelay : Service → BlockId → Option Nat
  stage : Service → Option ScopeEnd → BlockId → Bytes → LeaseCondition → StageReply × Service
  commitDelay : Service → Option Nat
  commit : Service → Option ScopeEnd → BlockList → Except TransferError CommitReceipt × Service

def BlobStore.writer (mark : ServiceMark) : BlockWriter BlobStore where
  stageDelay := fun _ _ => some 0
  stage := fun store ended id data _ =>
    let (receipt, store) := store.stage ended id.text data mark
    (⟨match receipt with
      | .ok _ => .staged
      | .error error => .failed error, false⟩, store)
  commitDelay := fun _ => some 0
  commit := fun store ended list => store.commit ended list mark

end BlobTransfer
