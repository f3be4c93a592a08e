import BlobTransfer.Adapter.Basic
import BlobTransfer.Description.Basic

/-!
Uploads, readers and adapters in one line.
-/

namespace BlobTransfer

open Description

def BlobHeaders.describe (headers : BlobHeaders) : String :=
  record "BlobHttpHeaders" [
    ("content_type", quoted headers.contentType),
    ("content_encoding", quoted headers.contentEncoding),
    ("content_language", quoted headers.contentLanguage),
    ("content_disposition", quoted headers.contentDisposition),
    ("cache_control", quoted headers.cacheControl),
    ("content_md5", optional
      (fun bytes => "[" ++ ", ".intercalate (bytes.map fun byte => number byte.toNat) ++ "]")
      headers.contentMd5)] false

def AccessConditions.describe (conditions : AccessConditions) : String :=
  record "BlobAccessConditions" [
    ("if_match", quoted conditions.ifMatch),
    ("if_none_match", quoted conditions.ifNoneMatch),
    ("if_modified_since", optional Timestamp.text conditions.ifModifiedSince),
    ("if_unmodified_since", optional Timestamp.text conditions.ifUnmodifiedSince),
    ("lease", record "LeaseAccessConditions" [
      ("lease_id", quoted conditions.lease.leaseId)] false)] false

def Metadata.describe (metadata : Metadata) : String :=
  braced (metadata.entries.map fun entry =>
    Quoted.quote entry.1 ++ ": " ++ Quoted.quote entry.2)

def UploadOptions.describe (options : UploadOptions) : String :=
  record "UploadOptions" [
    ("block_size", number options.blockSize),
    ("max_concurrency", number options.maxConcurrency),
    ("size_hint", optional number options.sizeHint),
    ("metadata", options.metadata.describe),
    ("http_headers", options.headers.describe),
    ("access_conditions", options.conditions.describe),
    ("progress", flag options.reportsProgress)] false

def UploadOptions.describeUploader (options : UploadOptions) : String :=
  record "UploadCoordinator" [("options", options.describe)] true

def ReaderOptions.describe (options : ReaderOptions) : String :=
  record "RetryReaderOptions" [
    ("max_retry_requests", number options.retries),
    ("on_failed_read", flag options.notifies)] false

def Span.describe (span : Span) : String :=
  record "HttpGetterInfo" [
    ("offset", number span.offset),
    ("count", optional number span.count),
    ("etag", quoted span.etag)] false

def RangeReader.describe (reader : RangeReader) (notifies : Bool) : String :=
  record "RetryReader" [
    ("info", reader.span.describe),
    ("has_response", flag reader.body.isSome),
    ("options", { retries := reader.retries, notifies : ReaderOptions }.describe)] true

def RangeReader.describeHandle (reader : RangeReader) : String :=
  if reader.canForce then record "ForceRetryHandle" [("forced", flag reader.forced)] false
  else "None"

def LiveResponse.describe (response : LiveResponse) : String :=
  record "LiveResponse" [
    ("etag", quoted response.etag), ("cancellable", flag response.abortable)] true

def TransferAdapter.describe {Service : Type} (adapter : TransferAdapter Service) : String :=
  record "TransferAdapter" [
    ("upload_options", adapter.uploadOptions.describe),
    ("reader_options", adapter.readerOptions.describe)] true

end BlobTransfer
