import BlobTransfer.Blob.Properties
import BlobTransfer.Blob.Span
import BlobTransfer.BlockId
import BlobTransfer.Body.Live
import BlobTransfer.Scope.Basic
import Std.Data.TreeMap.Basic

/-!
A blob held in memory: blocks are staged one by one, and a commit puts the blob together from
them. Every version of the blob has an entity tag of its own. A call that fails changes nothing
but the count of calls.
-/

namespace BlobTransfer

structure StoredBlob where
  data : Bytes
  etag : String
  blockIds : List String := []
  headers : BlobHeaders := {}
  metadata : Metadata := {}
  deriving DecidableEq, Repr

structure CallCounts where
  stage : Nat := 0
  commit : Nat := 0
  get : Nat := 0
  deriving DecidableEq, Repr

structure BlobStore where
  staged : Std.TreeMap String Bytes := {}
  blob : Option StoredBlob := none
  version : Nat := 0
  pieceSize : Nat := 65536
  pieceSize_pos : 0 < pieceSize := by decide
  calls : CallCounts := {}

structure ServiceMark where
  requestId : Uuid
  time : Timestamp
  deriving DecidableEq, Repr

structure BlockList where
  ids : List String
  headers : BlobHeaders := {}
  metadata : Metadata := {}
  conditions : AccessConditions := {}
  deriving DecidableEq, Repr

def versionTag (version : Nat) : String :=
  let digits := (Nat.toDigits 16 version).map Char.toUpper
  "\"0x" ++ String.ofList (List.replicate (16 - digits.length) '0' ++ digits) ++ "\""

/-- Whether a blob with this entity tag, or no blob at all, may be written. -/
def AccessConditions.allow (conditions : AccessConditions) (etag : Option String) : Bool :=
  (match conditions.ifMatch, etag with
    | some wanted, some current => wanted = "*" || wanted = current
    | some _, none => false
    | none, _ => true) &&
  match conditions.ifNoneMatch, etag with
  | some unwanted, some current => unwanted ≠ "*" && unwanted ≠ current
  | _, _ => true

def Span.part (span : Span) (data : Bytes) : Bytes :=
  match span.count with
  | some count => (data.drop span.offset).take count
  | none => data.drop span.offset

def piecesOf (size : Nat) (size_pos : 0 < size) (bytes : Bytes) : List Bytes :=
  if bytes.isEmpty then []
  else bytes.take size :: piecesOf size size_pos (bytes.drop size)
termination_by bytes.length
decreasing_by
  rename_i filled
  have : bytes ≠ [] := by simpa using filled
  have := List.length_pos_iff.mpr this
  simp only [List.length_drop]
  omega

namespace BlobStore

def withPieceSize (store : BlobStore) (size : Nat) : BlobStore :=
  { store with pieceSize := max size 1, pieceSize_pos := by omega }

def put (store : BlobStore) (data : Bytes) : String × BlobStore :=
  let etag := versionTag (store.version + 1)
  (etag, { store with version := store.version + 1, blob := some { data, etag } })

def stage (store : BlobStore) (ended : Option ScopeEnd) (id : String) (data : Bytes)
    (mark : ServiceMark) : Except TransferError StageReceipt × BlobStore :=
  match ended with
  | some reason => (.error reason.error, store)
  | none =>
      match BlockId.ofText id with
      | .error error => (.error error, store)
      | .ok _ =>
          (.ok { requestId := some mark.requestId.text },
            { store with
              staged := store.staged.insert id data
              calls := { store.calls with stage := store.calls.stage + 1 } })

def assemble (store : BlobStore) (ids : List String) : Except TransferError Bytes := do
  let blocks ← ids.mapM fun id =>
    match store.staged[id]? with
    | some block => .ok block
    | none => .error (.invalid (.blockUnknown id))
  return blocks.flatten

/-- Puts the blob together and gives up all staged blocks, listed or not. -/
def commit (store : BlobStore) (ended : Option ScopeEnd) (list : BlockList) (mark : ServiceMark) :
    Except TransferError CommitReceipt × BlobStore :=
  match ended with
  | some reason => (.error reason.error, store)
  | none =>
      let counted := { store with calls := { store.calls with commit := store.calls.commit + 1 } }
      if list.conditions.allow (store.blob.map (·.etag)) then
        match store.assemble list.ids with
        | .error error => (.error error, counted)
        | .ok data =>
            let etag := versionTag (store.version + 1)
            (.ok {
                etag := some etag
                lastModified := some mark.time
                requestId := some mark.requestId.text
                blockCount := UInt32.ofNat list.ids.length },
              { counted with
                staged := {}
                version := store.version + 1
                blob := some {
                  data, etag, blockIds := list.ids, headers := list.headers
                  metadata := list.metadata } })
      else (.error (.status .preconditionFailed none), counted)

def read (store : BlobStore) (span : Span) : Except TransferError LiveResponse :=
  match store.blob with
  | none => .error (.status .notFound none)
  | some blob =>
      if span.etag.any (· ≠ blob.etag) then .error (.status .preconditionFailed none)
      else
        let size := blob.data.length
        if size < span.offset ∨ (span.offset = size ∧ 0 < size) then
          .error (.status .rangeNotSatisfiable none)
        else
          let pieces := piecesOf store.pieceSize store.pieceSize_pos (span.part blob.data)
          .ok { body := { events := pieces.map .data }, etag := some blob.etag, abortable := true }

def get (store : BlobStore) (ended : Option ScopeEnd) (span : Span) :
    Except TransferError LiveResponse × BlobStore :=
  match ended with
  | some reason => (.error reason.error, store)
  | none =>
      (store.read span, { store with calls := { store.calls with get := store.calls.get + 1 } })

end BlobStore

end BlobTransfer
