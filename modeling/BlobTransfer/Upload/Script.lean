import BlobTransfer.Upload.Writer

/-!
A store behind a writer that is slow and fails as laid down beforehand, for trying out uploads.
-/

namespace BlobTransfer

structure StageFault where
  block : Nat
  delay : Option Nat := none
  panics : Bool := false
  cancelsCaller : Bool := false
  error : Option TransferError := none

structure FaultyStore where
  store : BlobStore
  stageDelay : Nat := 0
  commitDelay : Nat := 0
  faults : List StageFault := []
  commitError : Option TransferError := none

namespace FaultyStore

def fault (faulty : FaultyStore) (id : BlockId) : StageFault :=
  let number := id.number.toNat
  (faulty.faults.find? (·.block = number)).getD { block := number }

def stage (mark : ServiceMark) (faulty : FaultyStore) (ended : Option ScopeEnd) (id : BlockId)
    (data : Bytes) (lease : LeaseCondition) : StageReply × FaultyStore :=
  let fault := faulty.fault id
  match fault.panics, fault.error with
  | true, _ => (⟨.panicked, false⟩, faulty)
  | false, some error => (⟨.failed error, fault.cancelsCaller⟩, faulty)
  | false, none =>
      let ended := if fault.cancelsCaller then some .canceled else ended
      let (reply, store) := (BlobStore.writer mark).stage faulty.store ended id data lease
      ({ reply with cancelsCaller := fault.cancelsCaller }, { faulty with store })

def commit (mark : ServiceMark) (faulty : FaultyStore) (ended : Option ScopeEnd)
    (list : BlockList) : Except TransferError CommitReceipt × FaultyStore :=
  match faulty.commitError with
  | some error => (.error error, faulty)
  | none =>
      let (outcome, store) := faulty.store.commit ended list mark
      (outcome, { faulty with store })

def writer (mark : ServiceMark) : BlockWriter FaultyStore where
  stageDelay := fun faulty id => some ((faulty.fault id).delay.getD faulty.stageDelay)
  stage := stage mark
  commitDelay := fun faulty => some faulty.commitDelay
  commit := commit mark

end FaultyStore

end BlobTransfer
