import BlobTransfer.Pipeline.Basic
import BlobTransfer.Proofs.Http.Header
import BlobTransfer.Proofs.Retry.Law
import BlobTransfer.Proofs.Retry.Requests

/-!
Operations of the standard pipeline. The caller's request is stamped once, and all tries are sent
under the same headers.
-/

namespace BlobTransfer

variable {Service : Type}

structure Headers.Stamped (headers original : Headers) (userAgent : HeaderValue)
    (identifier : Option HeaderValue) : Prop where
  userAgent : headers.values .userAgent = [userAgent]
  requestId : headers.values .clientRequestId =
    if original.values .clientRequestId = [] then identifier.toList
    else original.values .clientRequestId
  others : headers.entries.filter (fun entry =>
      entry.1 ≠ .userAgent && entry.1 ≠ .clientRequestId) =
    original.entries.filter (fun entry => entry.1 ≠ .userAgent && entry.1 ≠ .clientRequestId)

namespace Headers

variable {original : Headers} {userAgent : HeaderValue}

theorem filter_stamped {name : HeaderName} (own : name = .userAgent ∨ name = .clientRequestId)
    (headers : Headers) (value : HeaderValue) :
    (headers.insert name value).entries.filter (fun entry =>
      entry.1 ≠ .userAgent && entry.1 ≠ .clientRequestId) = headers.entries.filter (fun entry =>
        entry.1 ≠ .userAgent && entry.1 ≠ .clientRequestId) := by
  apply @filter_insert name (fun name => name ≠ .userAgent && name ≠ .clientRequestId)
  rcases own with rfl | rfl <;> simp

theorem requestId_of_signed : (original.insert .userAgent userAgent).values .clientRequestId =
    original.values .clientRequestId := values_insert_of_ne (by decide) _ _

theorem stamped_of_signed {identifier : Option HeaderValue}
    (served : original.values .clientRequestId ≠ [] ∨ identifier = none) :
    (original.insert .userAgent userAgent).Stamped original userAgent identifier where
  userAgent := values_insert _ _ _
  requestId := by
    rw [requestId_of_signed]
    split
    · rename_i unnamed
      rcases served with named | rfl
      · exact absurd unnamed named
      · exact unnamed
    · rfl
  others := filter_stamped (.inl rfl) _ _

theorem stamped_of_named (unnamed : original.values .clientRequestId = [])
    (identifier : HeaderValue) :
    ((original.insert .userAgent userAgent).insert .clientRequestId identifier).Stamped original
      userAgent (some identifier) where
  userAgent := by
    rw [values_insert_of_ne (by decide)]
    exact values_insert _ _ _
  requestId := by
    rw [values_insert, if_pos unnamed]
    rfl
  others := by rw [filter_stamped (.inr rfl), filter_stamped (.inl rfl)]

end Headers

def Chance.identifier (chance : Chance) (count : Nat) : HeaderValue :=
  ⟨(Uuid.random (chance.entropy count)).text, Uuid.text_isHeaderValue _⟩

theorem PipelineBuilder.standard_eq {platform : Platform} {options : PipelineOptions}
    {parts : PipelineBuilder} (standard : PipelineBuilder.standard platform options = .ok parts) :
    ∃ userAgent retry, platform.userAgent options.telemetry = .ok userAgent ∧
      options.retry.validated = .ok retry ∧
      parts = {
        userAgent := some userAgent, addsRequestId := options.uniqueRequestId
        retry := some retry, requestLog := some options.requestLog } := by
  simp only [PipelineBuilder.standard, withRetry, bind_eq_ok, pure_eq_ok] at standard
  obtain ⟨userAgent, agent, _, ⟨retry, valid, rfl⟩, same⟩ := standard
  refine ⟨userAgent, retry, agent, valid, ?_⟩
  rw [← same]
  cases options.uniqueRequestId <;> rfl

namespace Pipeline

variable {pipeline : Pipeline Service} {userAgent : HeaderValue}

theorem stamped_of_parts (agent : pipeline.parts.userAgent = some userAgent)
    (progress : Progress Service) (request : Request) : ∃ headers ids,
      pipeline.withRequestId progress (pipeline.withUserAgent request) =
        ({ request with headers }, { progress with ids }) ∧
      headers.Stamped request.headers userAgent
        (if pipeline.parts.addsRequestId then some (pipeline.chance.identifier progress.ids)
          else none) := by
  let signed := request.headers.insert .userAgent userAgent
  have given : pipeline.withUserAgent request = { request with headers := signed } := by
    rw [withUserAgent, agent]
  have absent : signed.get? .clientRequestId = none ↔
      request.headers.values .clientRequestId = [] := by
    rw [Headers.get?_eq_none, Headers.requestId_of_signed]
  rw [given]
  by_cases adds : (pipeline.parts.addsRequestId && (signed.get? .clientRequestId).isNone) = true
  · obtain ⟨added, unnamed⟩ := Bool.and_eq_true_iff.mp adds
    have text : HeaderValue.ofText? (Uuid.random (pipeline.chance.entropy progress.ids)).text =
        some (pipeline.chance.identifier progress.ids) := by
      rw [HeaderValue.ofText?, dif_pos (Uuid.text_isHeaderValue _)]
      rfl
    refine ⟨signed.insert .clientRequestId (pipeline.chance.identifier progress.ids),
      progress.ids + 1, ?_, ?_⟩
    · simp only [withRequestId, adds, if_true, text]
    · rw [if_pos added]
      exact Headers.stamped_of_named (absent.mp (Option.isNone_iff_eq_none.mp unnamed)) _
  · refine ⟨signed, progress.ids, by rw [withRequestId, if_neg adds], ?_⟩
    apply Headers.stamped_of_signed
    by_cases unnamed : request.headers.values .clientRequestId = []
    · rw [absent.mpr unnamed, Option.isNone_none, Bool.and_true] at adds
      exact .inr (if_neg adds)
    · exact .inl unnamed

/-- Whatever becomes of the tries of an operation, each of them asks for what the caller asked
for: on the other host in its turn, with its own timeout, the payload from its start again, and
under the same headers as all the others. -/
theorem tries_repeat_the_request {platform : Platform} {options : PipelineOptions}
    {parts : PipelineBuilder} (standard : PipelineBuilder.standard platform options = .ok parts)
    (transport : Transport Service) (chance : Chance) (progress : Progress Service)
    (caller : Scope) (request : Request) :
    ∃ userAgent retry headers started rounds,
      platform.userAgent options.telemetry = .ok userAgent ∧
      options.retry.validated = .ok retry ∧
      headers.Stamped request.headers userAgent
        (if options.uniqueRequestId then some (chance.identifier progress.ids) else none) ∧
      RetryPolicy.Runs ⟨retry, chance.jitter⟩ (Pipeline.lastMile ⟨parts, transport, chance⟩)
        caller { request with headers } started rounds
        (Pipeline.send ⟨parts, transport, chance⟩ progress caller request) ∧
      (∀ result final,
        Pipeline.send ⟨parts, transport, chance⟩ progress caller request = .ok (result, final) →
          final.calls = progress.calls ++ rounds.flatMap fun round =>
            if round.begun.isOver round.scope then [] else [⟨round.request, round.scope⟩]) ∧
      ∀ earlier round later, rounds = earlier ++ round :: later →
        round.Repeats request headers retry caller earlier := by
  obtain ⟨userAgent, retry, agent, valid, rfl⟩ := PipelineBuilder.standard_eq standard
  let pipeline : Pipeline Service := {
    parts := {
      userAgent := some userAgent, addsRequestId := options.uniqueRequestId
      retry := some retry, requestLog := some options.requestLog }
    transport, chance }
  obtain ⟨headers, ids, named, stamped⟩ := @stamped_of_parts _ pipeline userAgent rfl
    { progress with log := {} } request
  let started : Progress Service := { progress with log := {}, ids }
  have sent : pipeline.send progress caller request = RetryPolicy.send ⟨retry, chance.jitter⟩
      pipeline.lastMile started caller { request with headers } := by
    rw [Pipeline.send, named]
  obtain ⟨rounds, runs⟩ := RetryPolicy.send_runs ⟨retry, chance.jitter⟩ pipeline.lastMile started
    caller { request with headers }
  rw [← sent] at runs
  refine ⟨userAgent, retry, headers, started, rounds, agent, valid, stamped, runs, ?_, ?_⟩
  · intro result final returned
    change pipeline.send progress caller request = .ok (result, final) at returned
    rw [returned] at runs
    exact runs.calls
  · intro earlier round later parts
    obtain ⟨reached, made, _⟩ := runs.split parts
    exact made.repeats reached

def copiedOptions : PipelineOptions where
  retry := {
    policy := .fixed, maxTries := 4, retryDelay := .ofSeconds 1, maxRetryDelay := .ofSeconds 1
    secondaryHost := some "copy.example" }

def halfReadPage : Request where
  url := { RetryPolicy.mainPage.url with query := some "timeout=5&comp=list" }
  payload := { data := [1, 2, 3, 4], position := 2 }

def briefScope : Scope := { lineage := [0], deadline := some 10500000000 }

theorem failing_hosts_are_asked_alike :
    ∃ (pipeline : Pipeline Nat) (headers : Headers) (retry : RetryOptions)
      (rounds : List (Round Nat)) (result : Except TransferError Response)
      (final : Progress Nat),
    PipelineBuilder.standard ⟨"linux", "x86_64"⟩ copiedOptions = .ok pipeline.parts ∧
    pipeline.send RetryPolicy.freshStart briefScope halfReadPage = .ok (result, final) ∧
    (final.calls = rounds.flatMap fun round =>
      if round.begun.isOver round.scope then [] else [⟨round.request, round.scope⟩]) ∧
    (∀ earlier round later, rounds = earlier ++ round :: later →
      round.Repeats halfReadPage headers retry briefScope earlier) ∧
    (final.calls.map fun call => (call.request.url.authority.map (·.host), call.request.url.query,
        call.request.payload.position)) = [
      (some (.name "main.example"), some "comp=list&timeout=10", 2),
      (some (.name "copy.example"), some "comp=list&timeout=9", 0),
      (some (.name "main.example"), some "comp=list&timeout=8", 0)] := by
  let parts : PipelineBuilder := {
    userAgent := HeaderValue.ofText? "dog-transfer/0.1.0 (linux; x86_64)"
    addsRequestId := true
    retry := some { copiedOptions.retry with tryTimeout := .ofSeconds 30 }
    requestLog := some {} }
  let transport := (RetryPolicy.scripted RetryPolicy.brokenThenMissing).transport
  let chance : Chance := ⟨fun _ => 1, fun _ _ => 0⟩
  have standard : PipelineBuilder.standard ⟨"linux", "x86_64"⟩ copiedOptions = .ok parts := rfl
  have asked : ((Pipeline.send ⟨parts, transport, chance⟩ RetryPolicy.freshStart briefScope
      halfReadPage).toOption.map fun sent => sent.2.calls.map fun call =>
        (call.request.url.authority.map (·.host), call.request.url.query,
          call.request.payload.position)) = some [
      (some (.name "main.example"), some "comp=list&timeout=10", 2),
      (some (.name "copy.example"), some "comp=list&timeout=9", 0),
      (some (.name "main.example"), some "comp=list&timeout=8", 0)] := by
    decide +kernel
  clear_value parts transport chance
  obtain ⟨userAgent, retry, headers, started, rounds, _, _, _, _, calls, repeats⟩ :=
    tries_repeat_the_request standard transport chance RetryPolicy.freshStart briefScope
      halfReadPage
  cases sent : Pipeline.send ⟨parts, transport, chance⟩ RetryPolicy.freshStart briefScope
      halfReadPage with
  | error halt =>
      rw [sent] at asked
      contradiction
  | ok returned =>
      rcases returned with ⟨result, final⟩
      rw [sent] at asked
      exact ⟨⟨parts, transport, chance⟩, headers, retry, rounds, result, final, standard, sent,
        calls result final sent, repeats, Option.some.inj asked⟩

end Pipeline

end BlobTransfer
