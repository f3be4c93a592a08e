import BlobTransfer.Reader.Drain
import BlobTransfer.Upload.Run

/-!
Uploads and downloads of one blob with the same options each time.
-/

namespace BlobTransfer

structure ReaderOptions where
  retries : Nat := 0
  notifies : Bool := false
  deriving DecidableEq, Repr

structure TransferAdapter (Service : Type) where
  writer : BlockWriter Service
  getter : Getter Service
  uploadOptions : UploadOptions := {}
  readerOptions : ReaderOptions := { retries := 3 }

def BlobStore.getter : Getter BlobStore := fun store span =>
  let (outcome, store) := store.get none span
  ({ outcome }, store)

namespace TransferAdapter

def ofStore (mark : ServiceMark) : TransferAdapter BlobStore where
  writer := BlobStore.writer mark
  getter := BlobStore.getter

variable {Service : Type}

def upload (adapter : TransferAdapter Service) (timeline : Timeline) (scope : Scope)
    (service : Service) (transfer : Uuid) (source : Body) (options : Option UploadOptions) :
    Option (Except TransferError CommitReceipt × UploadRun Service) :=
  adapter.writer.upload (options.getD adapter.uploadOptions) transfer timeline scope service
    source

def openPart (adapter : TransferAdapter Service) (timeline : Timeline) (scope : Scope)
    (service : Service) (offset : Nat) (count : Option Nat) :
    Option (Except TransferError Unit × ReadSession Service) :=
  (ReadSession.start timeline service none { offset, count } adapter.readerOptions.retries).request
    adapter.getter scope

def download (adapter : TransferAdapter Service) (timeline : Timeline) (scope : Scope)
    (service : Service) (fuel : Nat) :
    Option (Except TransferError Bytes × ReadSession Service) := do
  match ← adapter.openPart timeline scope service 0 none with
  | (.error error, session) => return (.error error, session)
  | (.ok (), session) =>
      let (copied, destination, session) ← session.copy adapter.getter scope {} 0 fuel
      return (copied.map fun _ => destination.data, session)

end TransferAdapter

end BlobTransfer
