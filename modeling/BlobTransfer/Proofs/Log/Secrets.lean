import BlobTransfer.Pipeline.Dispatch
import BlobTransfer.Proofs.Retry.Requests
import BlobTransfer.Proofs.Url.Redaction

/-!
The request log keeps secrets: of two runs of tries that differ in signatures and authorizations
alone, and that get the same answers, it tells the same. What is sent on is not changed by it.
-/

namespace BlobTransfer

def Headers.SameButAuthorization (left right : HeaderName × HeaderValue) : Prop :=
  left.1 = right.1 ∧ (left.1 = .authorization ∨ left.2 = right.2)

structure Request.SameButSecrets (left right : Request) : Prop where
  method : left.method = right.method
  url : left.url.SameButSignatures right.url
  headers : List.Forall₂ Headers.SameButAuthorization left.headers.entries right.headers.entries
  payload : left.payload = right.payload
  timeout : left.timeout = right.timeout

structure Dispatch.SameButSecrets (left right : Dispatch) : Prop where
  begun : left.begun = right.begun
  caller : left.caller = right.caller
  own : left.own = right.own
  request : left.request.SameButSecrets right.request

namespace LogEntry

variable {left right : Request}

theorem hideAuthorization_of_same {entry other : HeaderName × HeaderValue}
    (same : Headers.SameButAuthorization entry other) :
    hideAuthorization entry = hideAuthorization other := by
  obtain ⟨name, value⟩ := same
  unfold hideAuthorization
  rw [← name]
  split
  · rfl
  · rename_i plain
    rw [value.resolve_left plain]

theorem headersText_of_same {headers others : Headers}
    (same : List.Forall₂ Headers.SameButAuthorization headers.entries others.entries) :
    headersText hideAuthorization headers = headersText hideAuthorization others := by
  have texts : headers.entries.map (fun entry => entry.1.text ++ ": " ++ hideAuthorization entry) =
      others.entries.map fun entry => entry.1.text ++ ": " ++ hideAuthorization entry := by
    apply map_eq_of_forall₂ same
    intro entry other alike
    rw [alike.1, hideAuthorization_of_same alike]
  have empty : headers.entries.isEmpty = others.entries.isEmpty := by
    rw [← List.isEmpty_map, texts, List.isEmpty_map]
  rw [headersText, headersText, texts, empty]

theorem requestText_of_same (same : left.SameButSecrets right) :
    requestText left = requestText right := by
  rw [requestText, requestText, same.method, same.url.redact, headersText_of_same same.headers]

theorem outgoing_of_same (same : left.SameButSecrets right) (tryNumber : Nat) :
    outgoing tryNumber left = outgoing tryNumber right := by
  rw [outgoing, outgoing, requestText_of_same same]

theorem message_of_same (same : left.SameButSecrets right) (options : RequestLogOptions)
    (tryNumber : Nat) (outcome : Except TransferError Response) (elapsed total : Duration) :
    options.message tryNumber left outcome elapsed total =
      options.message tryNumber right outcome elapsed total := by
  unfold RequestLogOptions.message
  rw [requestText_of_same same]

theorem completed?_of_same (same : left.SameButSecrets right) (options : RequestLogOptions)
    (tryNumber : Nat) (outcome : Except TransferError Response) (elapsed total : Duration) :
    options.completed? tryNumber left outcome elapsed total =
      options.completed? tryNumber right outcome elapsed total := by
  unfold RequestLogOptions.completed?
  rw [message_of_same same]

end LogEntry

variable {Service Other : Type}

structure Progress.Parallel (progress : Progress Service) (other : Progress Other) : Prop where
  timeline : progress.timeline = other.timeline
  log : progress.log = other.log
  records : progress.records = other.records

structure Attempt.Parallel (layers others : List Layer) (attempt other : Attempt) : Prop where
  request : attempt.request.SameButSecrets other.request
  startedAt : attempt.startedAt = other.startedAt
  reply : attempt.reply.inbound layers = other.reply.inbound others

inductive Agree : Except Halt (Except TransferError Response × Progress Service) →
    Except Halt (Except TransferError Response × Progress Other) → Prop
  | returned {outcome progress other} (parallel : Progress.Parallel progress other) :
      Agree (.ok (outcome, progress)) (.ok (outcome, other))
  | halted {halt} : Agree (.error halt) (.error halt)

theorem Agree.settle {progress : Progress Service} {other : Progress Other} {sent sent'}
    (agree : Agree sent sent') (started : progress.Parallel other) :
    (progress.settle sent).1 = (other.settle sent').1 ∧
      (progress.settle sent).2.Parallel (other.settle sent').2 := by
  cases agree with
  | returned parallel => exact ⟨rfl, parallel⟩
  | halted => exact ⟨rfl, started⟩

namespace LastMile

variable {left : LastMile Service} {right : LastMile Other} {progress : Progress Service}
  {other : Progress Other}

theorem start_parallel (options : left.requestLog = right.requestLog)
    (parallel : progress.Parallel other) {request request' : Request}
    (same : request.SameButSecrets request') (scope : Scope)
    (answered : (left.answer progress.service request).1.inbound left.layers =
      (right.answer other.service request').1.inbound right.layers) :
    Attempt.Parallel left.layers right.layers (left.start progress scope request).1
        (right.start other scope request').1 ∧
      (left.start progress scope request).2.Parallel (right.start other scope request').2 := by
  rw [start_spec, start_spec]
  refine ⟨⟨same, congrArg Timeline.now parallel.timeline, answered⟩, parallel.timeline, ?_, ?_⟩
  · simp only [counted, options, parallel.log, parallel.timeline]
  · simp only [opening?, options, parallel.log, parallel.records, LogEntry.outgoing_of_same same]

theorem finish_parallel (options : left.requestLog = right.requestLog)
    (parallel : progress.Parallel other) {attempt attempt' : Attempt}
    (same : Attempt.Parallel left.layers right.layers attempt attempt') (caller scope : Scope) :
    (left.finish progress caller scope attempt).1 =
        (right.finish other caller scope attempt').1 ∧
      (left.finish progress caller scope attempt).2.Parallel
        (right.finish other caller scope attempt').2 := by
  have outcome := congrArg TransportReply.outcome same.reply
  have cancelsTry := congrArg TransportReply.cancelsTry same.reply
  have cancelsCaller := congrArg TransportReply.cancelsCaller same.reply
  simp only [TransportReply.inbound] at outcome cancelsTry cancelsCaller
  have ended : attempt.reply.ended caller scope = attempt'.reply.ended caller scope := by
    simp only [TransportReply.ended, cancelsTry, cancelsCaller]
  have closing : left.closing? progress attempt = right.closing? other attempt' := by
    simp only [closing?, options, outcome, parallel.log, same.startedAt, Progress.elapsedSince,
      parallel.timeline, LogEntry.completed?_of_same same.request]
  rw [finish_spec, finish_spec]
  refine ⟨outcome, ?_, parallel.log, ?_⟩
  · simp only [parallel.timeline, ended]
  · simp only [parallel.records, closing]

theorem finish_agree (options : left.requestLog = right.requestLog)
    (parallel : progress.Parallel other) {attempt attempt' : Attempt}
    (same : Attempt.Parallel left.layers right.layers attempt attempt') (caller scope : Scope)
    (timeline : Timeline) :
    Agree (.ok (left.finish { progress with timeline } caller scope attempt))
      (.ok (right.finish { other with timeline } caller scope attempt')) := by
  have later : Progress.Parallel { progress with timeline } { other with timeline } :=
    ⟨rfl, parallel.log, parallel.records⟩
  have finished := finish_parallel options later same caller scope
  generalize left.finish { progress with timeline } caller scope attempt = ended at finished
  generalize right.finish { other with timeline } caller scope attempt' = ended' at finished
  obtain ⟨outcome, after⟩ := ended
  obtain ⟨outcome', after'⟩ := ended'
  obtain ⟨rfl, parallel⟩ := finished
  exact .returned parallel

theorem send_agree (options : left.requestLog = right.requestLog)
    (parallel : progress.Parallel other) {request request' : Request}
    (same : request.SameButSecrets request') (caller : Scope)
    (answered : (left.answer progress.service request).1.inbound left.layers =
      (right.answer other.service request').1.inbound right.layers) :
    Agree (left.send progress caller request) (right.send other caller request') := by
  obtain ⟨alike, started⟩ := start_parallel options parallel same caller answered
  unfold send
  generalize left.start progress caller request = begun at alike started
  generalize right.start other caller request' = begun' at alike started
  have delay : begun.1.reply.delay = begun'.1.reply.delay := congrArg (·.delay) alike.reply
  dsimp only
  rw [← delay, ← started.timeline]
  cases begun.1.reply.delay with
  | none => exact .halted
  | some delay => exact finish_agree options started alike caller caller _

theorem sendWithin_agree (options : left.requestLog = right.requestLog)
    (parallel : progress.Parallel other) {request request' : Request}
    (same : request.SameButSecrets request') (caller scope : Scope)
    (answered : progress.timeline.end? scope = none →
      (left.answer progress.service request).1.inbound left.layers =
        (right.answer other.service request').1.inbound right.layers) :
    Agree (left.sendWithin progress caller scope request)
      (right.sendWithin other caller scope request') := by
  unfold sendWithin
  rw [← parallel.timeline]
  cases ended : progress.timeline.end? scope with
  | some reason => exact .returned parallel
  | none =>
      obtain ⟨alike, started⟩ := start_parallel options parallel same scope (answered ended)
      generalize left.start progress scope request = begun at alike started
      generalize right.start other scope request' = begun' at alike started
      have delay : begun.1.reply.delay = begun'.1.reply.delay := congrArg (·.delay) alike.reply
      dsimp only
      rw [← delay, ← started.timeline]
      split
      · exact .halted
      · exact .returned ⟨rfl, started.log, started.records⟩
      · exact finish_agree options started alike caller scope _

theorem dispatch_parallel (options : left.requestLog = right.requestLog)
    (parallel : progress.Parallel other) {dispatch dispatch' : Dispatch}
    (same : dispatch.SameButSecrets dispatch')
    (answered : dispatch.isSent = true →
      (left.answer progress.service dispatch.request).1.inbound left.layers =
        (right.answer other.service dispatch'.request).1.inbound right.layers) :
    (left.dispatch progress dispatch).1 = (right.dispatch other dispatch').1 ∧
      (left.dispatch progress dispatch).2.Parallel (right.dispatch other dispatch').2 := by
  obtain ⟨begun, caller, own, request⟩ := dispatch
  obtain ⟨_, _, _, request'⟩ := dispatch'
  obtain ⟨rfl, rfl, rfl, same⟩ := same
  have beginning : Progress.Parallel { progress with timeline := begun }
      { other with timeline := begun } := ⟨rfl, parallel.log, parallel.records⟩
  cases own with
  | none =>
      have agree := send_agree options beginning same caller (answered rfl)
      exact agree.settle (start_parallel options beginning same caller (answered rfl)).2
  | some scope =>
      cases ended : begun.end? scope with
      | some reason =>
          simp only [LastMile.dispatch, sendWithin, ended, Progress.settle, true_and]
          exact beginning
      | none =>
          have replied := answered (by simp [Dispatch.isSent, ended])
          have agree := sendWithin_agree options beginning same caller scope fun _ => replied
          exact agree.settle (start_parallel options beginning same scope replied).2

/-! What is sent on, in one run. -/

theorem start_sends (progress : Progress Service) (scope : Scope) (request : Request) :
    left.Sends scope request progress (left.start progress scope request).2 := by
  rw [start_spec]
  exact ⟨rfl, rfl, Progress.events_of_requests rfl, rfl⟩

theorem Sends.finish {scope : Scope} {request : Request} {started : Progress Service}
    (sends : left.Sends scope request progress started) (timeline : Timeline)
    (caller inner : Scope) (attempt : Attempt) :
    left.Sends scope request progress
      (left.finish { started with timeline } caller inner attempt).2 := by
  obtain ⟨entries, finished⟩ := left.finish_ends { started with timeline } caller inner attempt
  rw [finished]
  have silent : Progress.events { started with
      records := started.records ++ entries.map LogRecord.request } = started.events :=
    Progress.events_of_requests rfl
  exact ⟨sends.calls, sends.service, silent.trans sends.events, sends.draws⟩

theorem dispatch_sends (progress : Progress Service) {dispatch : Dispatch}
    (sent : dispatch.isSent = true) :
    left.Sends dispatch.scope dispatch.request { progress with timeline := dispatch.begun }
      (left.dispatch progress dispatch).2 := by
  obtain ⟨begun, caller, own, request⟩ := dispatch
  have sends := @start_sends _ left { progress with timeline := begun }
  unfold LastMile.dispatch
  cases own with
  | none =>
      have began := sends caller request
      simp only [send, Dispatch.scope, Option.getD_none]
      split
      · exact began
      · exact began.finish _ caller caller _
  | some scope =>
      have live : begun.end? scope = none := by
        simpa [Dispatch.isSent] using sent
      have began := sends scope request
      simp only [sendWithin, live, Dispatch.scope, Option.getD_some]
      split
      · exact began
      · exact ⟨began.calls, began.service, began.events, began.draws⟩
      · exact began.finish _ caller scope _

theorem dispatch_of_unsent (progress : Progress Service) {dispatch : Dispatch}
    (unsent : dispatch.isSent = false) : ∃ error, left.dispatch progress dispatch =
      (some (.error error), { progress with timeline := dispatch.begun }) := by
  obtain ⟨begun, caller, own, request⟩ := dispatch
  cases own with
  | none => simp [Dispatch.isSent] at unsent
  | some scope =>
      obtain ⟨reason, ended⟩ : ∃ reason, begun.end? scope = some reason := by
        simpa [Dispatch.isSent, ← Option.isSome_iff_ne_none, Option.isSome_iff_exists] using unsent
      exact ⟨reason.error, by simp only [LastMile.dispatch, sendWithin, ended, Progress.settle]⟩

theorem dispatchAll_parallel (options : left.requestLog = right.requestLog)
    {dispatches dispatches' : List Dispatch}
    (same : List.Forall₂ Dispatch.SameButSecrets dispatches dispatches')
    (parallel : progress.Parallel other)
    (answered : left.answers progress.service dispatches =
      right.answers other.service dispatches') :
    (left.dispatchAll progress dispatches).1 = (right.dispatchAll other dispatches').1 ∧
      (left.dispatchAll progress dispatches).2.Parallel
        (right.dispatchAll other dispatches').2 := by
  induction same generalizing progress other with
  | nil => exact ⟨rfl, parallel⟩
  | @cons dispatch dispatch' later later' first _ ih =>
      have sent : dispatch.isSent = dispatch'.isSent := by
        rw [Dispatch.isSent, Dispatch.isSent, first.own, first.begun]
      have replies : (dispatch.isSent = true →
            (left.answer progress.service dispatch.request).1.inbound left.layers =
              (right.answer other.service dispatch'.request).1.inbound right.layers) ∧
          left.answers (left.dispatch progress dispatch).2.service later =
            right.answers (right.dispatch other dispatch').2.service later' := by
        rw [answers, answers, ← sent] at answered
        cases isSent : dispatch.isSent with
        | true =>
            rw [isSent, if_pos rfl, if_pos rfl] at answered
            obtain ⟨now, further⟩ := List.cons.inj answered
            rw [(dispatch_sends progress isSent).service,
              (dispatch_sends other (sent.symm.trans isSent)).service]
            exact ⟨fun _ => now, further⟩
        | false =>
            rw [isSent, if_neg (by decide), if_neg (by decide)] at answered
            obtain ⟨_, unsent⟩ := @dispatch_of_unsent _ left progress _ isSent
            obtain ⟨_, unsent'⟩ := @dispatch_of_unsent _ right other _ (sent.symm.trans isSent)
            rw [unsent, unsent']
            exact ⟨by simp, answered⟩
      obtain ⟨outcome, next⟩ := dispatch_parallel options parallel first replies.1
      obtain ⟨outcomes, last⟩ := ih next replies.2
      exact ⟨by simp only [dispatchAll, outcome, outcomes], last⟩

theorem dispatchAll_calls (lastMile : LastMile Service) (progress : Progress Service)
    (dispatches : List Dispatch) :
    (lastMile.dispatchAll progress dispatches).2.calls =
      progress.calls ++ (dispatches.filter (·.isSent)).map (·.call lastMile.layers) := by
  induction dispatches generalizing progress with
  | nil => exact (List.append_nil _).symm
  | cons dispatch later ih =>
      have further := ih (lastMile.dispatch progress dispatch).2
      rw [dispatchAll, further]
      cases isSent : dispatch.isSent with
      | true =>
          rw [(dispatch_sends progress isSent).calls, List.filter_cons_of_pos isSent,
            List.map_cons, List.append_assoc]
          rfl
      | false =>
          obtain ⟨_, unsent⟩ := @dispatch_of_unsent _ lastMile progress _ isSent
          rw [unsent, List.filter_cons_of_neg (by simp [isSent])]

/-- The log tells the same of two runs of tries that differ in the values of signatures and
authorizations alone, if the same comes back at the same times: entry for entry the same level,
message, and all else. In both runs just the requests are sent on that were given. -/
theorem log_keeps_secrets (options : left.requestLog = right.requestLog)
    {dispatches dispatches' : List Dispatch}
    (same : List.Forall₂ Dispatch.SameButSecrets dispatches dispatches')
    (parallel : progress.Parallel other)
    (answered : left.answers progress.service dispatches =
      right.answers other.service dispatches') :
    let run := left.dispatchAll progress dispatches
    let run' := right.dispatchAll other dispatches'
    run.2.records = run'.2.records ∧ run.2.log = run'.2.log ∧ run.1 = run'.1 ∧
      run.2.timeline = run'.2.timeline ∧
      run.2.calls = progress.calls ++
        (dispatches.filter (·.isSent)).map (·.call left.layers) ∧
      run'.2.calls = other.calls ++
        (dispatches'.filter (·.isSent)).map (·.call right.layers) := by
  obtain ⟨outcomes, final⟩ := dispatchAll_parallel options same parallel answered
  exact ⟨final.records, final.log, outcomes, final.timeline, dispatchAll_calls left _ _,
    dispatchAll_calls right _ _⟩

def slowThenBroken : LastMile Nat where
  transport count _ := match count with
    | 0 => ({ outcome := .ok { status := ⟨200⟩ }, delay := some 4000 }, 1)
    | _ => ({ outcome := .error (.network ⟨.temporary, "connection reset"⟩) }, count)
  requestLog := some {}

def signedRequest (query : String) (key : HeaderValue) : Request where
  url := {
    scheme := "https", authority := some { host := .name "main.example" }
    path := .segments ["page"], query := some query, fragment := none }
  headers := ⟨[(.authorization, key)]⟩
  payload := .ofBytes [1, 2, 3]

def triesOf (request : Request) : List Dispatch := [
  { begun := { scopes := { fresh := 2 } }, caller := { lineage := [0] }
    own := some { lineage := [1, 0], deadline := some 9000000000 }, request },
  { begun := { now := 9000, scopes := { fresh := 2 } }, caller := { lineage := [0] }, request }]

def firstSigned : Request :=
  signedRequest "%73iG=first&part=1&SIG=again" ⟨"key one", by decide⟩

def otherSigned : Request := signedRequest "%73iG=other&part=1&SIG" ⟨"key two", by decide⟩

theorem firstSigned_same : firstSigned.SameButSecrets otherSigned where
  method := rfl
  url := by
    apply Url.sameButSignatures_of_parts firstSigned.url
    have first : Form.split '&' "%73iG=first&part=1&SIG=again".toList =
        ["%73iG=first".toList, "part=1".toList, "SIG=again".toList] := by decide +kernel
    have other : Form.split '&' "%73iG=other&part=1&SIG".toList =
        ["%73iG=other".toList, "part=1".toList, "SIG".toList] := by decide +kernel
    rw [first, other]
    exact .cons (.inr (by decide +kernel))
      (.cons (.inl rfl) (.cons (.inr (by decide +kernel)) .nil))
  headers := .cons ⟨rfl, .inl rfl⟩ .nil
  payload := rfl
  timeout := rfl

def atStart : Progress Nat := { timeline := {}, service := 0 }

theorem signed_tries_keep_secrets :
    ∃ run run', slowThenBroken.dispatchAll atStart (triesOf firstSigned) = run ∧
      slowThenBroken.dispatchAll atStart (triesOf otherSigned) = run' ∧
      run.2.records = run'.2.records ∧ run.2.records.length = 4 ∧
      run.2.calls.map (·.request) = [firstSigned, firstSigned] ∧
      run'.2.calls.map (·.request) = [otherSigned, otherSigned] := by
  have same : List.Forall₂ Dispatch.SameButSecrets (triesOf firstSigned) (triesOf otherSigned) :=
    .cons ⟨rfl, rfl, rfl, firstSigned_same⟩ (.cons ⟨rfl, rfl, rfl, firstSigned_same⟩ .nil)
  have parallel : atStart.Parallel atStart := ⟨rfl, rfl, rfl⟩
  obtain ⟨records, _, _, _, calls, calls'⟩ :=
    @log_keeps_secrets _ _ slowThenBroken slowThenBroken _ _ rfl _ _ same parallel rfl
  refine ⟨_, _, rfl, rfl, records, by decide +kernel, ?_, ?_⟩
  · rw [calls]
    rfl
  · rw [calls']
    rfl

end LastMile

end BlobTransfer
