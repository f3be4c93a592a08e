import BlobTransfer.Codec.Blob
import BlobTransfer.Proofs.Codec.Options

/-!
Blob properties and receipts written as JSON and read back, and with them all that configures a
transfer.
-/

namespace BlobTransfer

theorem Json.toBytes?_ofBytes (bytes : Bytes) : Json.toBytes? (.ofBytes bytes) = some bytes := by
  apply Json.toList?_array
  intro byte
  rw [Json.toNatural?_natural byte.toNat_lt]
  simp

namespace Json

variable {members : List (Option String × Json)} {fields : Fields} {name : String}

theorem optional_text (content : Option String)
    (found : ∀ json, fields.lookup name = some json ↔ (some name, json) ∈ members)
    (member : (some name, ofOption .string content) ∈ members) :
    fields.optional name toText? = some content := by
  rw [Fields.optional, read_of_member found member]
  exact toOption?_ofOption toText?_string (by simp) content

theorem optional_bytes (content : Option Bytes)
    (found : ∀ json, fields.lookup name = some json ↔ (some name, json) ∈ members)
    (member : (some name, ofOption ofBytes content) ∈ members) :
    fields.optional name toBytes? = some content := by
  rw [Fields.optional, read_of_member found member]
  exact toOption?_ofOption toBytes?_ofBytes (by simp [ofBytes]) content

end Json

theorem BlobHeaders.ofJson?_toJson (headers : BlobHeaders) :
    ofJson? headers.toJson = some headers := by
  obtain ⟨fields, read, found⟩ := (Json.isRecord_record fieldNames [
    ("content_type", .ofOption .string headers.contentType),
    ("content_encoding", .ofOption .string headers.contentEncoding),
    ("content_language", .ofOption .string headers.contentLanguage),
    ("content_disposition", .ofOption .string headers.contentDisposition),
    ("cache_control", .ofOption .string headers.cacheControl),
    ("content_md5", .ofOption .ofBytes headers.contentMd5)] (by simp)).exists_fields
  have known : headers.toJson.fields? fieldNames true = some fields := read
  have type := Json.optional_text headers.contentType (found "content_type" (by decide)) (by simp)
  have encoding := Json.optional_text headers.contentEncoding
    (found "content_encoding" (by decide)) (by simp)
  have language := Json.optional_text headers.contentLanguage
    (found "content_language" (by decide)) (by simp)
  have disposition := Json.optional_text headers.contentDisposition
    (found "content_disposition" (by decide)) (by simp)
  have control := Json.optional_text headers.cacheControl (found "cache_control" (by decide))
    (by simp)
  have digest := Json.optional_bytes headers.contentMd5 (found "content_md5" (by decide)) (by simp)
  simp only [ofJson?, known, type, encoding, language, disposition, control, digest,
    Option.bind_eq_bind, Option.bind_some]
  rfl

theorem LeaseCondition.ofJson?_toJson (lease : LeaseCondition) :
    ofJson? lease.toJson = some lease := by
  obtain ⟨fields, read, found⟩ := (Json.isRecord_record fieldNames [
    ("lease_id", .ofOption .string lease.leaseId)] (by simp)).exists_fields
  have known : lease.toJson.fields? fieldNames true = some fields := read
  have identifier := Json.optional_text lease.leaseId (found "lease_id" (by decide)) (by simp)
  simp only [ofJson?, known, identifier, Option.bind_eq_bind, Option.bind_some]
  rfl

theorem StageReceipt.ofJson?_toJson (receipt : StageReceipt) :
    ofJson? receipt.toJson = some receipt := by
  obtain ⟨fields, read, found⟩ := (Json.isRecord_record fieldNames [
    ("request_id", .ofOption .string receipt.requestId),
    ("content_md5", .ofOption .ofBytes receipt.contentMd5)] (by simp)).exists_fields
  have known : receipt.toJson.fields? fieldNames true = some fields := read
  have identifier := Json.optional_text receipt.requestId (found "request_id" (by decide))
    (by simp)
  have digest := Json.optional_bytes receipt.contentMd5 (found "content_md5" (by decide)) (by simp)
  simp only [ofJson?, known, identifier, digest, Option.bind_eq_bind, Option.bind_some]
  rfl

namespace PipelineOptions

/-- What is written is read back, and an object that tells some of the options, at any level and
whatever else it holds, stands for the defaults with just those in their place. A slow threshold
of null is none; one that is left out is the default. -/
theorem options_survive_writing :
    ((∀ options : RetryOptions, RetryOptions.ofJson? options.toJson = some options) ∧
      (∀ options : RequestLogOptions,
        RequestLogOptions.ofJson? options.toJson = some options) ∧
      (∀ options : TelemetryOptions, TelemetryOptions.ofJson? options.toJson = some options) ∧
      (∀ options : PipelineOptions, ofJson? options.toJson = some options) ∧
      (∀ headers : BlobHeaders, BlobHeaders.ofJson? headers.toJson = some headers) ∧
      (∀ lease : LeaseCondition, LeaseCondition.ofJson? lease.toJson = some lease) ∧
      ∀ receipt : StageReceipt, StageReceipt.ofJson? receipt.toJson = some receipt) ∧
    (∀ (given : RetryOptions.Given) members, given.IsToldBy members →
      RetryOptions.ofJson? (.object members) = some given.options) ∧
    (∀ (given : RequestLogOptions.Given) members, given.IsToldBy members →
      RequestLogOptions.ofJson? (.object members) = some given.options ∧
      ((some "slow_threshold", Json.null) ∈ members → given.options.slowThreshold = none) ∧
      ((∀ json, (some "slow_threshold", json) ∉ members) →
        given.options.slowThreshold = some (.ofSeconds 3))) ∧
    (∀ (given : TelemetryOptions.Given) members, given.IsToldBy members →
      TelemetryOptions.ofJson? (.object members) = some given.options) ∧
    ∀ (given : Given) members, given.IsToldBy members →
      ofJson? (.object members) = some given.options := by
  refine ⟨⟨RetryOptions.ofJson?_toJson, RequestLogOptions.ofJson?_toJson,
      TelemetryOptions.ofJson?_toJson, ofJson?_toJson, BlobHeaders.ofJson?_toJson,
      LeaseCondition.ofJson?_toJson, StageReceipt.ofJson?_toJson⟩,
    fun _ _ => RetryOptions.ofJson?_of_told, ?_, fun _ _ => TelemetryOptions.ofJson?_of_told,
    fun _ _ => ofJson?_of_told⟩
  intro given members told
  refine ⟨RequestLogOptions.ofJson?_of_told told, ?_, ?_⟩
  · intro null
    have threshold := told.slowThreshold
    rw [RequestLogOptions.Given.options]
    generalize given.slowThreshold = slow at threshold ⊢
    cases threshold with
    | absent missing => exact absurd null (missing .null)
    | present _ member meant =>
        obtain rfl := told.record.unique (by decide) null member
        exact (Option.some.inj meant).symm
  · intro absent
    have threshold := told.slowThreshold
    rw [RequestLogOptions.Given.options]
    generalize given.slowThreshold = slow at threshold ⊢
    cases threshold with
    | absent missing => rfl
    | present _ member meant => exact absurd member (absent _)

def sparseRetry : List (Option String × Json) :=
  [(some "max_tries", .integer 2), (some "comment", .brokenString),
    (some "policy", .object [(some "fixed", .null)]), (some "comment", .null)]

def unhurriedLog : List (Option String × Json) := [(some "slow_threshold", .null)]

def sparseMembers : List (Option String × Json) :=
  [(some "comment", .fraction), (some "request_log", .object unhurriedLog),
    (some "retry", .object sparseRetry), (some "unique_request_id", .bool false),
    (some "telemetry", .object [])]

theorem sparseRetry_told :
    ({ policy := some .fixed, maxTries := some 2 } : RetryOptions.Given).IsToldBy sparseRetry := by
  constructor
  · constructor
    · decide
    · simp [sparseRetry, RetryOptions.fieldNames]
  · exact .present (.object [(some "fixed", .null)]) (by simp [sparseRetry]) rfl
  · exact .present (.integer 2) (by simp [sparseRetry]) rfl
  all_goals exact .absent (by simp [sparseRetry])

theorem unhurriedLog_told :
    ({ slowThreshold := some none } : RequestLogOptions.Given).IsToldBy unhurriedLog := by
  constructor
  · constructor
    · decide
    · simp [unhurriedLog, RequestLogOptions.fieldNames]
  · exact .absent (by simp [unhurriedLog])
  · exact .present .null (by simp [unhurriedLog]) rfl
  all_goals exact .absent (by simp [unhurriedLog])

theorem silence_told : ({} : TelemetryOptions.Given).IsToldBy [] := by
  constructor
  · constructor <;> simp
  · exact .absent (by simp)

theorem sparse_members_keep_defaults :
    RetryOptions.ofJson? (.object sparseRetry) = some { policy := .fixed, maxTries := 2 } ∧
    RequestLogOptions.ofJson? (.object unhurriedLog) = some { slowThreshold := none } ∧
    TelemetryOptions.ofJson? (.object []) = some {} ∧
    ofJson? (.object sparseMembers) = some {
      retry := { policy := .fixed, maxTries := 2 }
      requestLog := { slowThreshold := none }
      uniqueRequestId := false } := by
  obtain ⟨_, retry, log, telemetry, pipeline⟩ := options_survive_writing
  refine ⟨retry _ _ sparseRetry_told, (log _ _ unhurriedLog_told).1,
    telemetry _ _ silence_told, ?_⟩
  apply pipeline {
    retry := some { policy := some .fixed, maxTries := some 2 }
    requestLog := some { slowThreshold := some none }
    telemetry := some {}
    uniqueRequestId := some false }
  constructor
  · constructor
    · decide
    · simp [sparseMembers, fieldNames]
  · exact .present _ (by simp [sparseMembers]) ⟨_, rfl, sparseRetry_told⟩
  · exact .present _ (by simp [sparseMembers]) ⟨_, rfl, unhurriedLog_told⟩
  · exact .present _ (by simp [sparseMembers]) ⟨_, rfl, silence_told⟩
  · exact .present (.bool false) (by simp [sparseMembers]) rfl

end PipelineOptions

end BlobTransfer
