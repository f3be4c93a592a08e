import BlobTransfer.Blob.Properties
import BlobTransfer.Json.Record

/-!
Blob properties, conditions and receipts as JSON. In an object an optional field may be left
out; an array holds every field.
-/

namespace BlobTransfer

namespace Json

def ofBytes (bytes : Bytes) : Json := .array (bytes.map (.natural ·.toNat))

def toBytes? : Json → Option Bytes :=
  toList? fun item => (item.toNatural? UInt8.size).map UInt8.ofNat

def ofTimestamp (instant : Timestamp) : Json := .string instant.text

def toTimestamp? (json : Json) : Option Timestamp := json.toText?.bind Timestamp.ofText?

def Fields.optional {α : Type} (fields : Fields) (name : String) (decode : Json → Option α) :
    Option (Option α) :=
  fields.read name (toOption? decode) (some none)

end Json

namespace BlobHeaders

def fieldNames : List String :=
  ["content_type", "content_encoding", "content_language", "content_disposition",
    "cache_control", "content_md5"]

def toJson (headers : BlobHeaders) : Json :=
  .record [
    ("content_type", .ofOption .string headers.contentType),
    ("content_encoding", .ofOption .string headers.contentEncoding),
    ("content_language", .ofOption .string headers.contentLanguage),
    ("content_disposition", .ofOption .string headers.contentDisposition),
    ("cache_control", .ofOption .string headers.cacheControl),
    ("content_md5", .ofOption .ofBytes headers.contentMd5)]

def ofJson? (json : Json) : Option BlobHeaders := do
  let fields ← json.fields? fieldNames true
  let contentType ← fields.optional "content_type" Json.toText?
  let contentEncoding ← fields.optional "content_encoding" Json.toText?
  let contentLanguage ← fields.optional "content_language" Json.toText?
  let contentDisposition ← fields.optional "content_disposition" Json.toText?
  let cacheControl ← fields.optional "cache_control" Json.toText?
  let contentMd5 ← fields.optional "content_md5" Json.toBytes?
  return { contentType, contentEncoding, contentLanguage, contentDisposition, cacheControl,
           contentMd5 }

end BlobHeaders

namespace LeaseCondition

def fieldNames : List String := ["lease_id"]

def toJson (lease : LeaseCondition) : Json :=
  .record [("lease_id", .ofOption .string lease.leaseId)]

def ofJson? (json : Json) : Option LeaseCondition := do
  let fields ← json.fields? fieldNames true
  let leaseId ← fields.optional "lease_id" Json.toText?
  return { leaseId }

end LeaseCondition

namespace AccessConditions

def fieldNames : List String :=
  ["if_match", "if_none_match", "if_modified_since", "if_unmodified_since", "lease"]

def toJson (conditions : AccessConditions) : Json :=
  .record [
    ("if_match", .ofOption .string conditions.ifMatch),
    ("if_none_match", .ofOption .string conditions.ifNoneMatch),
    ("if_modified_since", .ofOption .ofTimestamp conditions.ifModifiedSince),
    ("if_unmodified_since", .ofOption .ofTimestamp conditions.ifUnmodifiedSince),
    ("lease", conditions.lease.toJson)]

def ofJson? (json : Json) : Option AccessConditions := do
  let fields ← json.fields? fieldNames true
  let ifMatch ← fields.optional "if_match" Json.toText?
  let ifNoneMatch ← fields.optional "if_none_match" Json.toText?
  let ifModifiedSince ← fields.optional "if_modified_since" Json.toTimestamp?
  let ifUnmodifiedSince ← fields.optional "if_unmodified_since" Json.toTimestamp?
  let lease ← fields.read "lease" LeaseCondition.ofJson? none
  return { ifMatch, ifNoneMatch, ifModifiedSince, ifUnmodifiedSince, lease }

end AccessConditions

namespace StageReceipt

def fieldNames : List String := ["request_id", "content_md5"]

def toJson (receipt : StageReceipt) : Json :=
  .record [
    ("request_id", .ofOption .string receipt.requestId),
    ("content_md5", .ofOption .ofBytes receipt.contentMd5)]

def ofJson? (json : Json) : Option StageReceipt := do
  let fields ← json.fields? fieldNames true
  let requestId ← fields.optional "request_id" Json.toText?
  let contentMd5 ← fields.optional "content_md5" Json.toBytes?
  return { requestId, contentMd5 }

end StageReceipt

namespace CommitReceipt

def fieldNames : List String := ["etag", "last_modified", "request_id", "block_count"]

def toJson (receipt : CommitReceipt) : Json :=
  .record [
    ("etag", .ofOption .string receipt.etag),
    ("last_modified", .ofOption .ofTimestamp receipt.lastModified),
    ("request_id", .ofOption .string receipt.requestId),
    ("block_count", .natural receipt.blockCount.toNat)]

def ofJson? (json : Json) : Option CommitReceipt := do
  let fields ← json.fields? fieldNames true
  let etag ← fields.optional "etag" Json.toText?
  let lastModified ← fields.optional "last_modified" Json.toTimestamp?
  let requestId ← fields.optional "request_id" Json.toText?
  let blockCount ← fields.read "block_count" (Json.toNatural? UInt32.size) none
  return { etag, lastModified, requestId, blockCount := UInt32.ofNat blockCount }

end CommitReceipt

instance : Json.Codec BlobHeaders := ⟨BlobHeaders.toJson, BlobHeaders.ofJson?⟩
instance : Json.Codec LeaseCondition := ⟨LeaseCondition.toJson, LeaseCondition.ofJson?⟩
instance : Json.Codec AccessConditions := ⟨AccessConditions.toJson, AccessConditions.ofJson?⟩
instance : Json.Codec StageReceipt := ⟨StageReceipt.toJson, StageReceipt.ofJson?⟩
instance : Json.Codec CommitReceipt := ⟨CommitReceipt.toJson, CommitReceipt.ofJson?⟩

end BlobTransfer
