import BlobTransfer.Codec.Options
import BlobTransfer.Proofs.Json.Record

/-!
Options of which an object tells some, in any order and among other members: the rest keep their
defaults. Options are written as objects that tell all of them.
-/

namespace BlobTransfer

theorem Json.toText?_string (text : String) : Json.toText? (.string text) = some text := rfl

namespace Duration

theorem seconds_lt (duration : Duration) : duration.seconds < UInt64.size := by
  have inRange := duration.inRange
  simp only [largestNanos, nanosPerSecond, UInt64.size] at inRange
  simp only [seconds, nanosPerSecond, UInt64.size]
  omega

theorem subsecNanos_lt (duration : Duration) : duration.subsecNanos < UInt32.size := by
  simp only [subsecNanos, nanosPerSecond, UInt32.size]
  omega

theorem ofParts?_parts (duration : Duration) :
    ofParts? duration.seconds duration.subsecNanos = some duration := by
  have whole : duration.seconds * nanosPerSecond + duration.subsecNanos = duration.nanos :=
    Nat.div_add_mod' _ _
  rw [ofParts?, whole, ofNanos?, dif_pos duration.inRange]

theorem ofJson?_toJson (duration : Duration) : ofJson? duration.toJson = some duration := by
  obtain ⟨fields, read, found⟩ := (Json.isRecord_record fieldNames [
    ("secs", .natural duration.seconds), ("nanos", .natural duration.subsecNanos)]
    (by simp)).exists_fields
  have known : duration.toJson.fields? fieldNames true = some fields := read
  have only : duration.toJson.hasOnly fieldNames = true := by
    simp [toJson, Json.record, Json.hasOnly, fieldNames]
  have seconds : fields.read "secs" (Json.toNatural? UInt64.size) none =
      some duration.seconds := by
    rw [Json.read_of_member (found "secs" (by decide)) (by simp; rfl)]
    exact Json.toNatural?_natural duration.seconds_lt
  have nanos : fields.read "nanos" (Json.toNatural? UInt32.size) none =
      some duration.subsecNanos := by
    rw [Json.read_of_member (found "nanos" (by decide)) (by simp; rfl)]
    exact Json.toNatural?_natural duration.subsecNanos_lt
  rw [ofJson?, only, if_neg (by decide), known, Option.bind_eq_bind, Option.bind_some, seconds,
    Option.bind_eq_bind, Option.bind_some, nanos, Option.bind_some, ofParts?_parts]

theorem toJson_ne_null (duration : Duration) : duration.toJson ≠ .null := by
  simp [toJson, Json.record]

end Duration

theorem RetryPolicyKind.ofJson?_toJson (policy : RetryPolicyKind) :
    ofJson? policy.toJson = some policy := by
  cases policy <;> rfl

theorem LogLevel.ofJson?_toJson (level : LogLevel) : ofJson? level.toJson = some level := by
  cases level <;> rfl

/-! What an object tells of each kind of options. -/

namespace RetryOptions

structure Given where
  policy : Option RetryPolicyKind := none
  maxTries : Option UInt32 := none
  tryTimeout : Option Duration := none
  retryDelay : Option Duration := none
  maxRetryDelay : Option Duration := none
  secondaryHost : Option (Option String) := none

def Given.options (given : Given) : RetryOptions :=
  let standard : RetryOptions := {}
  { policy := given.policy.getD standard.policy
    maxTries := given.maxTries.getD standard.maxTries
    tryTimeout := given.tryTimeout.getD standard.tryTimeout
    retryDelay := given.retryDelay.getD standard.retryDelay
    maxRetryDelay := given.maxRetryDelay.getD standard.maxRetryDelay
    secondaryHost := given.secondaryHost.getD standard.secondaryHost }

structure Given.IsToldBy (given : Given) (members : List (Option String × Json)) : Prop where
  record : Json.IsRecord fieldNames members
  policy : Json.Gives members "policy" (RetryPolicyKind.ofJson? · = some ·) given.policy
  maxTries : Json.Gives members "max_tries"
    (fun json tries => json.toNatural? UInt32.size = some tries.toNat) given.maxTries
  tryTimeout : Json.Gives members "try_timeout" (Duration.ofJson? · = some ·) given.tryTimeout
  retryDelay : Json.Gives members "retry_delay" (Duration.ofJson? · = some ·) given.retryDelay
  maxRetryDelay : Json.Gives members "max_retry_delay" (Duration.ofJson? · = some ·)
    given.maxRetryDelay
  secondaryHost : Json.Gives members "retry_reads_from_secondary_host"
    (Json.toOption? Json.toText? · = some ·) given.secondaryHost

theorem ofJson?_of_told {given : Given} {members : List (Option String × Json)}
    (told : given.IsToldBy members) : ofJson? (.object members) = some given.options := by
  obtain ⟨fields, read, found⟩ := told.record.exists_fields
  have known : (Json.object members).fields? fieldNames false = some fields := read
  have policy := Json.read_of_gives _ .exponential (found "policy" (by decide))
    told.policy
  have tries := Json.read_of_gives (Json.toNatural? UInt32.size) 0
    (found "max_tries" (by decide)) (told.maxTries.map _ fun _ _ reads => reads)
  have timeout := Json.read_of_gives _ .zero (found "try_timeout" (by decide))
    told.tryTimeout
  have delay := Json.read_of_gives _ .zero (found "retry_delay" (by decide))
    told.retryDelay
  have ceiling := Json.read_of_gives _ .zero (found "max_retry_delay" (by decide))
    told.maxRetryDelay
  have host := Json.read_of_gives _ none
    (found "retry_reads_from_secondary_host" (by decide)) told.secondaryHost
  have count : UInt32.ofNat ((given.maxTries.map UInt32.toNat).getD 0) =
      given.maxTries.getD 0 := by
    cases given.maxTries <;> simp
  simp only [ofJson?, known, policy, tries, timeout, delay, ceiling, host, Option.bind_eq_bind,
    Option.bind_some, count]
  rfl

def given (options : RetryOptions) : Given where
  policy := some options.policy
  maxTries := some options.maxTries
  tryTimeout := some options.tryTimeout
  retryDelay := some options.retryDelay
  maxRetryDelay := some options.maxRetryDelay
  secondaryHost := some options.secondaryHost

theorem told (options : RetryOptions) :
    ∃ members, options.toJson = .object members ∧ options.given.IsToldBy members := by
  refine ⟨_, rfl, ?_⟩
  constructor
  · apply Json.isRecord_record
    simp
  · exact .present _ (by simp) options.policy.ofJson?_toJson
  · exact .present _ (by simp) (Json.toNatural?_natural options.maxTries.toNat_lt)
  · exact .present _ (by simp) options.tryTimeout.ofJson?_toJson
  · exact .present _ (by simp) options.retryDelay.ofJson?_toJson
  · exact .present _ (by simp) options.maxRetryDelay.ofJson?_toJson
  · exact .present _ (by simp) (Json.toOption?_ofOption Json.toText?_string (by simp) _)

theorem ofJson?_toJson (options : RetryOptions) : ofJson? options.toJson = some options := by
  obtain ⟨members, written, told⟩ := options.told
  rw [written]
  exact ofJson?_of_told told

end RetryOptions

namespace RequestLogOptions

structure Given where
  minLevel : Option LogLevel := none
  slowThreshold : Option (Option Duration) := none
  expectedStatuses : Option (List UInt16) := none
  forceLog : Option Bool := none

def Given.options (given : Given) : RequestLogOptions :=
  let standard : RequestLogOptions := {}
  { minLevel := given.minLevel.getD standard.minLevel
    slowThreshold := given.slowThreshold.getD standard.slowThreshold
    expectedStatuses := given.expectedStatuses.getD standard.expectedStatuses
    forceLog := given.forceLog.getD standard.forceLog }

def statuses? : Json → Option (List UInt16) :=
  Json.toList? fun item => (item.toNatural? UInt16.size).map UInt16.ofNat

structure Given.IsToldBy (given : Given) (members : List (Option String × Json)) : Prop where
  record : Json.IsRecord fieldNames members
  minLevel : Json.Gives members "min_level" (LogLevel.ofJson? · = some ·) given.minLevel
  slowThreshold : Json.Gives members "slow_threshold"
    (Json.toOption? Duration.ofJson? · = some ·) given.slowThreshold
  expectedStatuses : Json.Gives members "expected_statuses" (statuses? · = some ·)
    given.expectedStatuses
  forceLog : Json.Gives members "force_log" (Json.toBool? · = some ·) given.forceLog

theorem ofJson?_of_told {given : Given} {members : List (Option String × Json)}
    (told : given.IsToldBy members) : ofJson? (.object members) = some given.options := by
  obtain ⟨fields, read, found⟩ := told.record.exists_fields
  have known : (Json.object members).fields? fieldNames false = some fields := read
  have level := Json.read_of_gives _ ({} : RequestLogOptions).minLevel
    (found "min_level" (by decide)) told.minLevel
  have threshold := Json.read_of_gives _ ({} : RequestLogOptions).slowThreshold
    (found "slow_threshold" (by decide)) told.slowThreshold
  have statuses := Json.read_of_gives _ ({} : RequestLogOptions).expectedStatuses
    (found "expected_statuses" (by decide)) told.expectedStatuses
  have force := Json.read_of_gives _ ({} : RequestLogOptions).forceLog
    (found "force_log" (by decide)) told.forceLog
  unfold statuses? at statuses
  simp only [ofJson?, known, level, threshold, statuses, force, Option.bind_eq_bind,
    Option.bind_some]
  rfl

def given (options : RequestLogOptions) : Given where
  minLevel := some options.minLevel
  slowThreshold := some options.slowThreshold
  expectedStatuses := some options.expectedStatuses
  forceLog := some options.forceLog

theorem statuses?_array (statuses : List UInt16) :
    statuses? (.array (statuses.map (.natural ·.toNat))) = some statuses := by
  apply Json.toList?_array
  intro status
  rw [Json.toNatural?_natural status.toNat_lt]
  simp

theorem told (options : RequestLogOptions) :
    ∃ members, options.toJson = .object members ∧ options.given.IsToldBy members := by
  refine ⟨_, rfl, ?_⟩
  constructor
  · apply Json.isRecord_record
    simp
  · exact .present _ (by simp) options.minLevel.ofJson?_toJson
  · exact .present _ (by simp)
      (Json.toOption?_ofOption Duration.ofJson?_toJson Duration.toJson_ne_null _)
  · exact .present _ (by simp) (statuses?_array options.expectedStatuses)
  · exact .present (.bool options.forceLog) (by simp) rfl

theorem ofJson?_toJson (options : RequestLogOptions) : ofJson? options.toJson = some options := by
  obtain ⟨members, written, told⟩ := options.told
  rw [written]
  exact ofJson?_of_told told

end RequestLogOptions

namespace TelemetryOptions

structure Given where
  value : Option String := none

def Given.options (given : Given) : TelemetryOptions :=
  let standard : TelemetryOptions := {}
  { value := given.value.getD standard.value }

structure Given.IsToldBy (given : Given) (members : List (Option String × Json)) : Prop where
  record : Json.IsRecord fieldNames members
  value : Json.Gives members "value" (Json.toText? · = some ·) given.value

theorem ofJson?_of_told {given : Given} {members : List (Option String × Json)}
    (told : given.IsToldBy members) : ofJson? (.object members) = some given.options := by
  obtain ⟨fields, read, found⟩ := told.record.exists_fields
  have known : (Json.object members).fields? fieldNames false = some fields := read
  have value := Json.read_of_gives _ "" (found "value" (by decide)) told.value
  simp only [ofJson?, known, value, Option.bind_eq_bind, Option.bind_some]
  rfl

def given (options : TelemetryOptions) : Given where
  value := some options.value

theorem told (options : TelemetryOptions) :
    ∃ members, options.toJson = .object members ∧ options.given.IsToldBy members := by
  refine ⟨_, rfl, ?_⟩
  constructor
  · apply Json.isRecord_record
    simp
  · exact .present _ (by simp) (Json.toText?_string _)

theorem ofJson?_toJson (options : TelemetryOptions) : ofJson? options.toJson = some options := by
  obtain ⟨members, written, told⟩ := options.told
  rw [written]
  exact ofJson?_of_told told

end TelemetryOptions

namespace PipelineOptions

structure Given where
  retry : Option RetryOptions.Given := none
  requestLog : Option RequestLogOptions.Given := none
  telemetry : Option TelemetryOptions.Given := none
  uniqueRequestId : Option Bool := none

def Given.options (given : Given) : PipelineOptions :=
  let standard : PipelineOptions := {}
  { retry := (given.retry.map (·.options)).getD standard.retry
    requestLog := (given.requestLog.map (·.options)).getD standard.requestLog
    telemetry := (given.telemetry.map (·.options)).getD standard.telemetry
    uniqueRequestId := given.uniqueRequestId.getD standard.uniqueRequestId }

/-- Each kind of options is told by an object inside that may leave out some of them in turn. -/
structure Given.IsToldBy (given : Given) (members : List (Option String × Json)) : Prop where
  record : Json.IsRecord fieldNames members
  retry : Json.Gives members "retry"
    (fun json inner => ∃ members, json = .object members ∧ inner.IsToldBy members) given.retry
  requestLog : Json.Gives members "request_log"
    (fun json inner => ∃ members, json = .object members ∧ inner.IsToldBy members)
    given.requestLog
  telemetry : Json.Gives members "telemetry"
    (fun json inner => ∃ members, json = .object members ∧ inner.IsToldBy members)
    given.telemetry
  uniqueRequestId : Json.Gives members "unique_request_id" (Json.toBool? · = some ·)
    given.uniqueRequestId

theorem ofJson?_of_told {given : Given} {members : List (Option String × Json)}
    (told : given.IsToldBy members) : ofJson? (.object members) = some given.options := by
  obtain ⟨fields, read, found⟩ := told.record.exists_fields
  have known : (Json.object members).fields? fieldNames false = some fields := read
  have retry := Json.read_of_gives RetryOptions.ofJson? {}
    (found "retry" (by decide)) (told.retry.map RetryOptions.Given.options (by
      rintro json inner ⟨members, rfl, told⟩
      exact RetryOptions.ofJson?_of_told told))
  have log := Json.read_of_gives RequestLogOptions.ofJson? {}
    (found "request_log" (by decide))
    (told.requestLog.map RequestLogOptions.Given.options (by
      rintro json inner ⟨members, rfl, told⟩
      exact RequestLogOptions.ofJson?_of_told told))
  have telemetry := Json.read_of_gives TelemetryOptions.ofJson? {}
    (found "telemetry" (by decide))
    (told.telemetry.map TelemetryOptions.Given.options (by
      rintro json inner ⟨members, rfl, told⟩
      exact TelemetryOptions.ofJson?_of_told told))
  have identifier := Json.read_of_gives _ true (found "unique_request_id" (by decide))
    told.uniqueRequestId
  simp only [ofJson?, known, retry, log, telemetry, identifier, Option.bind_eq_bind,
    Option.bind_some]
  rfl

def given (options : PipelineOptions) : Given where
  retry := some options.retry.given
  requestLog := some options.requestLog.given
  telemetry := some options.telemetry.given
  uniqueRequestId := some options.uniqueRequestId

theorem told (options : PipelineOptions) :
    ∃ members, options.toJson = .object members ∧ options.given.IsToldBy members := by
  refine ⟨_, rfl, ?_⟩
  constructor
  · apply Json.isRecord_record
    simp
  · exact .present _ (by simp) options.retry.told
  · exact .present _ (by simp) options.requestLog.told
  · exact .present _ (by simp) options.telemetry.told
  · exact .present (.bool options.uniqueRequestId) (by simp) rfl

theorem ofJson?_toJson (options : PipelineOptions) : ofJson? options.toJson = some options := by
  obtain ⟨members, written, told⟩ := options.told
  rw [written]
  exact ofJson?_of_told told

end PipelineOptions

end BlobTransfer
