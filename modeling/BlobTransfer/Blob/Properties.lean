import BlobTransfer.Bytes
import BlobTransfer.Time.Timestamp

/-!
What is stored with a blob besides its bytes, the conditions on writing it, and the answers to
a write.
-/

namespace BlobTransfer

structure BlobHeaders where
  contentType : Option String := none
  contentEncoding : Option String := none
  contentLanguage : Option String := none
  contentDisposition : Option String := none
  cacheControl : Option String := none
  contentMd5 : Option Bytes := none
  deriving DecidableEq, Repr

structure LeaseCondition where
  leaseId : Option String := none
  deriving DecidableEq, Repr

/-- Conditions on a commit. An entity tag of `*` stands for any version. -/
structure AccessConditions where
  ifMatch : Option String := none
  ifNoneMatch : Option String := none
  ifModifiedSince : Option Timestamp := none
  ifUnmodifiedSince : Option Timestamp := none
  lease : LeaseCondition := {}
  deriving DecidableEq, Repr

/-- Names and values, in the order of the names, each name once. -/
structure Metadata where
  entries : List (String × String) := []
  deriving DecidableEq, Repr

namespace Metadata

def insertEntry (name value : String) : List (String × String) → List (String × String)
  | [] => [(name, value)]
  | entry :: rest =>
      if name < entry.1 then (name, value) :: entry :: rest
      else if name = entry.1 then (name, value) :: rest
      else entry :: insertEntry name value rest

def insert (metadata : Metadata) (name value : String) : Metadata :=
  ⟨insertEntry name value metadata.entries⟩

def ofList (entries : List (String × String)) : Metadata :=
  entries.foldl (fun metadata entry => metadata.insert entry.1 entry.2) {}

end Metadata

structure StageReceipt where
  requestId : Option String := none
  contentMd5 : Option Bytes := none
  deriving DecidableEq, Repr

structure CommitReceipt where
  etag : Option String := none
  lastModified : Option Timestamp := none
  requestId : Option String := none
  blockCount : UInt32 := 0
  deriving DecidableEq, Repr

end BlobTransfer
