import BlobTransfer.Store.Basic

/-!
Calls of every kind on one store, one after the other, with what each of them was answered.
-/

namespace BlobTransfer

inductive StoreRequest where
  | put (data : Bytes)
  | stage (ended : Option ScopeEnd) (id : String) (data : Bytes) (mark : ServiceMark)
  | commit (ended : Option ScopeEnd) (list : BlockList) (mark : ServiceMark)
  | get (ended : Option ScopeEnd) (span : Span)

inductive StoreAnswer where
  | written (etag : String)
  | staged (receipt : StageReceipt)
  | committed (receipt : CommitReceipt)
  | opened (response : LiveResponse)
  | refused (error : TransferError)

namespace StoreAnswer

def ofResult {Value : Type} (answer : Value → StoreAnswer) :
    Except TransferError Value → StoreAnswer
  | .ok value => answer value
  | .error error => .refused error

def tag? : StoreAnswer → Option String
  | .written etag => some etag
  | .committed receipt => receipt.etag
  | .staged _ | .opened _ | .refused _ => none

end StoreAnswer

structure StoreEvent where
  before : BlobStore
  request : StoreRequest
  answer : StoreAnswer
  after : BlobStore

def StoreEvent.granted? (event : StoreEvent) : Option AccessConditions :=
  match event.request, event.answer with
  | .commit _ list _, .committed _ => some list.conditions
  | _, _ => none

namespace BlobStore

def answer (store : BlobStore) : StoreRequest → StoreAnswer × BlobStore
  | .put data =>
      let (etag, next) := store.put data
      (.written etag, next)
  | .stage ended id data mark =>
      let (result, next) := store.stage ended id data mark
      (.ofResult .staged result, next)
  | .commit ended list mark =>
      let (result, next) := store.commit ended list mark
      (.ofResult .committed result, next)
  | .get ended span =>
      let (result, next) := store.get ended span
      (.ofResult .opened result, next)

def log (store : BlobStore) : List StoreRequest → List StoreEvent
  | [] => []
  | request :: later =>
      let (answer, next) := store.answer request
      ⟨store, request, answer, next⟩ :: next.log later

end BlobStore

end BlobTransfer
