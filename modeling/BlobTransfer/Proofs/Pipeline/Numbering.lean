import BlobTransfer.Proofs.Fallible
import BlobTransfer.Proofs.Pipeline.Counting
import BlobTransfer.Proofs.Retry.Law

/-!
The numbers of tries. The retries and the request log count the tries of a request each for itself,
whatever other requests do meanwhile, and differ by the tries that were over before they came to the
log. As long as scopes are looked at as soon as they are made, that can only be the last one.
-/

namespace BlobTransfer

open LogRecord

variable {Service : Type}

/-- No try follows one that was not begun, since the caller's scope is over, or the try was
cancelled. -/
def Timeline.Forgoes (timeline : Timeline) (caller scope : Scope)
    (outcome : Except TransferError Response) : Prop :=
  timeline.isOver caller = true ∨
    timeline.scopes.isCanceled scope = true ∧ outcome = .error .canceled

/-- What becomes of a try that did not come to the log, if that was looked at promptly. -/
def SendPhase.Punctual (timeline : Timeline) (caller : Scope) (records : List LogRecord)
    (skipped : List Nat) : SendPhase → Prop
  | .idle _ _ | .resting _ _ | .trying _ _ _ => skipped = []
  | .ready _ scope _ =>
      skipped = [] ∧ ∀ limit, scope.deadline = some limit → limit ≤ timeline.instant →
        timeline.isOver caller = true
  | .judging turn scope outcome =>
      skipped = [] ∨
        skipped = [turn.state.tryNumber] ∧ timeline.Forgoes caller scope outcome
  | .returned _ =>
      skipped = [] ∨ ∃ earlier event, records = earlier ++ [.tried event] ∧
        event.willRetry = false ∧ skipped = [event.tryNumber]

namespace RetryPolicy

variable {policy : RetryPolicy} {lastMile : LastMile Service} {caller scope : Scope}
  {request : Request} {turn : Turn} {phase next : SendPhase} {progress later : Progress Service}
  {timeline : Timeline} {outcome : Except TransferError Response} {skipped : List Nat}

theorem isRetryable_of_forgoes (target : RetryTarget)
    (forgoes : timeline.Forgoes caller scope outcome) :
    (RetryDecision.ofOutcome (timeline.end? caller) (timeline.end? scope) target
      outcome).isRetryable = false := by
  rcases forgoes with spent | ⟨canceled, rfl⟩
  · simp only [Timeline.isOver] at spent
    simp [RetryDecision.ofOutcome, spent, RetryDecision.isRetryable]
  · rw [Timeline.end?_eq_canceled.mpr canceled]
    cases timeline.end? caller <;>
      simp [RetryDecision.ofOutcome, isNotFound, TransferError.isRetryableNetwork,
        RetryDecision.isRetryable]

theorem forgoes_of_ended {reason : ScopeEnd} (ended : timeline.end? scope = some reason)
    (tight : ∀ limit, scope.deadline = some limit → limit ≤ timeline.instant →
      timeline.isOver caller = true) :
    timeline.Forgoes caller scope (.error reason.error) := by
  cases reason with
  | canceled => exact .inr ⟨Timeline.end?_eq_canceled.mp ended, rfl⟩
  | deadlineExceeded =>
      obtain ⟨_, limit, deadline, expired⟩ := Timeline.end?_eq_deadlineExceeded.mp ended
      exact .inl (tight limit deadline expired)

/-- The scope of a try has time left when it is made, if the caller's has. -/
theorem tight_of_childFor (positive : 0 < policy.options.tryTimeout.nanos)
    (nested : timeline.childFor caller (policy.timeout timeline caller) = (scope, later.timeline)) :
    ∀ limit, scope.deadline = some limit → limit ≤ later.timeline.instant →
      later.timeline.isOver caller = true := by
  intro limit deadline expired
  have made := Timeline.madeFor_of_childFor nested
  have instant : later.timeline.instant = timeline.instant := by
    rw [Timeline.instant, Timeline.instant, made.now]
  rw [made.deadline, Option.some.injEq, nanos_timeout] at deadline
  rw [instant] at expired
  cases ends : caller.deadline with
  | none =>
      rw [ends] at deadline
      dsimp only at deadline
      omega
  | some last =>
      rw [ends] at deadline
      dsimp only at deadline
      apply Timeline.isOver_later made.precedes
      rw [Timeline.isOver_iff]
      intro going
      have live := (Timeline.end?_eq_none.mp going).2 last ends
      omega

theorem judge_punctual {event : RetryEvent}
    (concludes : turn.Concludes caller scope outcome progress event next later)
    (punctual : (SendPhase.judging turn scope outcome).Punctual progress.timeline caller
      progress.records skipped) :
    next.Punctual later.timeline caller later.records skipped := by
  obtain ⟨timeline, rfl⟩ := concludes.noted
  rcases concludes.follows with ⟨_, retryable, rfl⟩ | ⟨final, result, rfl⟩
  · refine punctual.resolve_right fun ⟨_, forgoes⟩ => ?_
    rw [concludes.decision, isRetryable_of_forgoes _ forgoes] at retryable
    contradiction
  · refine punctual.imp_right fun ⟨same, _⟩ => ⟨progress.records, event, rfl, final, ?_⟩
    rw [same, concludes.number]

theorem punctual_of_quiet {records : List LogRecord} (none : phase.skipped next = [])
    (punctual : next.Punctual timeline caller records skipped) :
    next.Punctual timeline caller records (skipped ++ phase.skipped next) := by
  rw [none, List.append_nil]
  exact punctual

theorem Step.punctual (positive : 0 < policy.options.tryTimeout.nanos)
    (step : policy.Step lastMile caller request phase progress next later)
    (punctual : phase.Punctual progress.timeline caller progress.records skipped) :
    next.Punctual later.timeline caller later.records (skipped ++ phase.skipped next) := by
  cases step with
  | exhaust | decline | interrupt | refuse | abandon | answer =>
      exact punctual_of_quiet rfl (.inl punctual)
  | rest => exact punctual_of_quiet rfl punctual
  | begin _ _ _ nested =>
      exact punctual_of_quiet rfl ⟨punctual, tight_of_childFor positive nested⟩
  | skip ended =>
      obtain ⟨none, tight⟩ := punctual
      rw [none]
      exact .inr ⟨rfl, forgoes_of_ended ended tight⟩
  | enter => exact punctual_of_quiet rfl punctual.1
  | judge conclusion =>
      obtain ⟨_, concludes⟩ := Turn.concludes conclusion
      exact punctual_of_quiet rfl (judge_punctual concludes punctual)

end RetryPolicy

theorem Timeline.Forgoes.stays {timeline later : Timeline} {caller scope : Scope}
    {outcome : Except TransferError Response} (forgoes : timeline.Forgoes caller scope outcome)
    (precedes : timeline.Precedes later) : later.Forgoes caller scope outcome := by
  rcases forgoes with spent | ⟨canceled, failed⟩
  · exact .inl (isOver_later precedes spent)
  · exact .inr ⟨isCanceled_later precedes canceled, failed⟩

/-- What others do changes nothing, as long as no time passes between making a scope and looking
at it. -/
theorem SendPhase.Punctual.stays {timeline later : Timeline} {caller : Scope}
    {records : List LogRecord} {skipped : List Nat} {phase : SendPhase}
    (punctual : phase.Punctual timeline caller records skipped)
    (precedes : timeline.Precedes later)
    (still : later.now = timeline.now ∨ phase.isReady = false) :
    phase.Punctual later caller records skipped := by
  cases phase with
  | idle | resting | trying | returned => exact punctual
  | judging => exact punctual.imp_right fun here => ⟨here.1, here.2.stays precedes⟩
  | ready =>
      refine ⟨punctual.1, fun limit deadline expired => ?_⟩
      have same : later.now = timeline.now := still.resolve_right nofun
      rw [Timeline.instant, same] at expired
      exact Timeline.isOver_later precedes (punctual.2 limit deadline expired)

namespace SendPhase.Punctual

variable {timeline : Timeline} {caller : Scope} {trace : SendTrace}
  {entered : List (Nat × Nat)} {skipped : List Nat} {phase : SendPhase} {most number : Nat}

theorem eq_of_mem (punctual : phase.Punctual timeline caller trace.records skipped)
    (ordered : Ordered entered trace.records)
    (stands : phase.Stands most trace entered skipped) (listed : number ∈ skipped) :
    number = entered.length + skipped.length := by
  cases phase with
  | idle | resting | trying => simp [show skipped = [] from punctual] at listed
  | ready => simp [punctual.1] at listed
  | judging =>
      rcases punctual with none | ⟨same, _⟩
      · simp [none] at listed
      · rw [same, List.mem_singleton] at listed
        obtain ⟨⟨next, _⟩, begun, _⟩ := stands
        omega
  | returned =>
      rcases punctual with none | ⟨earlier, event, records, _, same⟩
      · simp [none] at listed
      · rw [same, List.mem_singleton] at listed
        have next : event.tryNumber = ended earlier + 1 := ordered earlier _ [] records
        have count : ended trace.records = ended earlier + 1 := by rw [records, ended_tried]
        have begun := stands.1
        omega

theorem returned_of_mem (punctual : phase.Punctual timeline caller trace.records skipped)
    (stands : phase.Stands most trace entered skipped) (listed : number ∈ skipped)
    (told : number ≤ ended trace.records) :
    ∃ earlier event, trace.records = earlier ++ [.tried event] ∧ event.willRetry = false ∧
      number = event.tryNumber ∧ ∃ result, phase = .returned result := by
  cases phase with
  | idle | resting | trying => simp [show skipped = [] from punctual] at listed
  | ready => simp [punctual.1] at listed
  | judging =>
      rcases punctual with none | ⟨same, _⟩
      · simp [none] at listed
      · rw [same, List.mem_singleton] at listed
        have next := stands.1.number
        omega
  | returned result =>
      rcases punctual with none | ⟨earlier, event, records, final, same⟩
      · simp [none] at listed
      · rw [same, List.mem_singleton] at listed
        exact ⟨earlier, event, records, final, listed, result, rfl⟩

end SendPhase.Punctual

namespace Sending

variable {options : RequestLogOptions} {timeline later : Timeline} {sending : Sending}
  {most : Nat}

def Punctual (timeline : Timeline) (sending : Sending) : Prop :=
  sending.phase.Punctual timeline sending.caller sending.trace.records sending.skipped

/-- The log and the retries number the tries of a request each from one on. No more of them come to
the log or are skipped than may be made at all, and each that is told of is among them. -/
structure Numbered (options : RequestLogOptions) (most : Nat) (sending : Sending) : Prop where
  tallied : sending.trace.Tallied options sending.entered sending.skipped
  events : (sending.trace.records.filterMap (·.event?)).map (·.tryNumber) =
    List.range' 1 (ended sending.trace.records)
  within : sending.entered.length + sending.skipped.length ≤ most
  told : ∀ event, .tried event ∈ sending.trace.records →
    event.tryNumber ∈ sending.entered.map Prod.snd ∨ event.tryNumber ∈ sending.skipped

theorem Counts.numbered (counts : sending.Counts options most) :
    sending.Numbered options most := by
  obtain ⟨tallied, stands⟩ := counts
  obtain ⟨begun, within⟩ := stands.bounds
  refine ⟨tallied, tallied.ordered.events, within, fun event member => ?_⟩
  have bound := tallied.ordered.event_le member
  obtain ⟨before, after, parts⟩ := List.append_of_mem member
  have number : event.tryNumber = ended before + 1 := tallied.ordered before _ after parts
  exact tallied.mem_of_bounds (by omega) (Nat.le_trans bound begun)

/-- The log and the retries give the same number to a try, and to what is told of it. Only the last
event may lack a try in the log. -/
structure InStep (sending : Sending) : Prop where
  alike : ∀ pair ∈ sending.entered, pair.1 = pair.2
  numbered : ∀ before record after, sending.trace.records = before ++ record :: after →
    record.tryNumber = ended before + 1
  matched : ∀ before event after, sending.trace.records = before ++ .tried event :: after →
    event.tryNumber ∈ sending.entered.map Prod.snd ∨
      after = [] ∧ event.willRetry = false ∧ ∃ result, sending.phase = .returned result

theorem Counts.inStep (counts : sending.Counts options most)
    (punctual : sending.Punctual timeline) : sending.InStep := by
  have told := counts.numbered.told
  obtain ⟨tallied, stands⟩ := counts
  have alike := tallied.alike fun number listed =>
    punctual.eq_of_mem tallied.ordered stands listed
  refine ⟨alike, fun before record after parts => ?_, fun before event after parts => ?_⟩
  · have concerns := tallied.ordered before record after parts
    cases record with
    | tried event => exact concerns
    | request entry => exact alike _ concerns
  · have member : .tried event ∈ sending.trace.records := by simp [parts]
    refine (told event member).imp_right fun listed => ?_
    obtain ⟨earlier, other, records, final, same, returned⟩ :=
      punctual.returned_of_mem stands listed (tallied.ordered.event_le member)
    obtain ⟨rfl, rfl⟩ := tallied.ordered.last parts records same
    exact ⟨rfl, final, returned⟩

end Sending

theorem Traffic.Path.punctual {pipeline : Pipeline Service} {policy : RetryPolicy} {prompt : Prop}
    {traffic later : Traffic Service} (looks : prompt)
    (positive : 0 < policy.options.tryTimeout.nanos)
    (path : Path pipeline policy prompt traffic later) (empty : traffic.sendings = []) :
    ∀ sending ∈ later.sendings, sending.Punctual later.timeline := by
  refine path.invariant Sending.Punctual (fun _ _ _ => rfl)
    (fun _ sending _ _ moves punctual => ?_) (fun _ _ sending precedes still punctual => ?_) empty
  · exact moves.punctual positive punctual
  · exact SendPhase.Punctual.stays punctual precedes (still looks)

namespace PipelineBuilder

theorem validated_of_calls {calls : List BuilderCall} {builder parts : PipelineBuilder}
    {retry : RetryOptions} (built : calls.foldlM perform builder = .ok parts)
    (checked : ∀ options, builder.retry = some options →
      ∃ given : RetryOptions, given.validated = .ok options)
    (retries : parts.retry = some retry) :
    ∃ given : RetryOptions, given.validated = .ok retry := by
  induction calls generalizing builder with
  | nil =>
      obtain rfl := Except.ok.inj built
      exact checked retry retries
  | cons call later ih =>
      obtain ⟨next, performed, built⟩ := foldlM_cons_eq_ok.mp built
      cases call with
      | userAgent | requestId | requestLog | layer =>
          obtain rfl := Except.ok.inj performed
          exact ih built checked
      | retry options =>
          obtain ⟨validated, valid, same⟩ := bind_eq_ok.mp performed
          obtain rfl := Except.ok.inj same
          refine ih built fun other same => ⟨options, ?_⟩
          rw [valid, Option.some.inj same]

end PipelineBuilder

namespace Pipeline

/-- However a pipeline with retries and a request log is put together, and whatever is sent through
it side by side: in each request the retries number the tries from one on, and the log numbers those
that come to it from one on, behind by the tries that did not. If scopes are looked at promptly the
numbers are the same, and only the last event may lack a try in the log. What one request does that
is sent while the others wait are steps like these. -/
theorem log_lags_by_skipped_tries {calls : List BuilderCall} {pipeline : Pipeline Service}
    {retry : RetryOptions} {options : RequestLogOptions}
    (built : PipelineBuilder.ofCalls calls = .ok pipeline.parts)
    (retries : pipeline.parts.retry = some retry)
    (logs : pipeline.parts.requestLog = some options) (prompt : Prop) :
    (∀ start traffic : Traffic Service, start.sendings = [] →
      Traffic.Path pipeline (pipeline.retryPolicy retry) prompt start traffic →
        ∀ sending ∈ traffic.sendings,
          sending.Numbered options retry.maxTries.toNat ∧ (prompt → sending.InStep)) ∧
    ∀ (traffic : Traffic Service) (caller : Scope) (request : Request)
        (result : Except TransferError Response) (final : Progress Service),
      (prompt → ∀ sending ∈ traffic.sendings, sending.phase.isReady = false) →
      pipeline.send (traffic.progress {}) caller request = .ok (result, final) →
      ∃ sending : Sending, sending.caller = caller ∧ sending.phase = .returned result ∧
        sending.trace = final.trace ∧
        Traffic.Path pipeline (pipeline.retryPolicy retry) prompt traffic
          (final.traffic (traffic.sendings ++ [sending])) := by
  obtain ⟨given, valid⟩ := PipelineBuilder.validated_of_calls built nofun retries
  have positive := (RetryOptions.positive_of_validated valid).2
  refine ⟨fun start traffic empty path sending member => ?_, fun _ _ _ _ _ => path_of_send retries⟩
  have counts := path.counts logs empty sending member
  exact ⟨counts.numbered, fun looks => counts.inStep (path.punctual looks positive empty _ member)⟩

def recovering : Transport Nat := fun count _ =>
  ({ outcome :=
      if count = 0 then .error (.network ⟨.temporary, "connection reset"⟩)
      else .ok { status := ⟨200⟩ } }, count + 1)

def patient : RetryOptions where
  policy := .fixed
  maxTries := 2
  retryDelay := .ofSeconds 1
  maxRetryDelay := .ofSeconds 1

def nobodySends : Traffic Nat where
  timeline := RetryPolicy.freshStart.timeline
  service := 0

def numbersTwice (pipeline : Pipeline Nat) : Option (List Nat × List Nat) := do
  let (_, middle) ← (pipeline.send (nobodySends.progress {}) RetryPolicy.soleScope
    RetryPolicy.mainPage).toOption
  let (_, final) ← (pipeline.send ((middle.traffic []).progress {}) RetryPolicy.soleScope
    RetryPolicy.mainPage).toOption
  return (middle.records.map (·.tryNumber), final.records.map (·.tryNumber))

theorem second_send_counts_from_one :
    ∃ first second : Sending, first.Numbered {} 2 ∧ first.InStep ∧ second.Numbered {} 2 ∧
      second.InStep ∧ first.trace.records.map (·.tryNumber) = [1, 1, 1, 2, 2, 2] ∧
      second.trace.records.map (·.tryNumber) = [1, 1, 1] := by
  obtain ⟨pipeline, built, retries, logs, told⟩ : ∃ pipeline : Pipeline Nat,
      PipelineBuilder.ofCalls [.requestLog {}, .retry patient] = .ok pipeline.parts ∧
      pipeline.parts.retry = some { patient with tryTimeout := .ofSeconds 30 } ∧
      pipeline.parts.requestLog = some {} ∧
      numbersTwice pipeline = some ([1, 1, 1, 2, 2, 2], [1, 1, 1]) := by
    let retry : RetryOptions := { patient with tryTimeout := .ofSeconds 30 }
    refine ⟨⟨{ retry := some retry, requestLog := some {} }, recovering,
      ⟨fun _ => 1, fun _ _ => 0⟩⟩, rfl, rfl, rfl, ?_⟩
    decide +kernel
  obtain ⟨numbered, onTheWay⟩ := log_lags_by_skipped_tries built retries logs True
  unfold numbersTwice at told
  cases sent : pipeline.send (nobodySends.progress {}) RetryPolicy.soleScope
      RetryPolicy.mainPage with
  | error halt => simp [sent, Except.toOption] at told
  | ok returned =>
      obtain ⟨result, middle⟩ := returned
      obtain ⟨first, _, phase, trace, path⟩ :=
        onTheWay nobodySends _ _ _ _ (by simp [nobodySends]) sent
      cases sent' : pipeline.send ((middle.traffic []).progress {}) RetryPolicy.soleScope
          RetryPolicy.mainPage with
      | error halt => simp [sent, sent', Except.toOption] at told
      | ok returned =>
          obtain ⟨result', final⟩ := returned
          have waiting : ∀ sending ∈ [first], sending.phase.isReady = false := by
            simp [phase, SendPhase.isReady]
          obtain ⟨second, _, _, trace', path'⟩ :=
            onTheWay (middle.traffic [first]) _ _ _ _ (fun _ => waiting) sent'
          have both := numbered nobodySends _ rfl (path.trans path')
          obtain ⟨numbered, inStep⟩ := both first (by simp [Progress.traffic])
          obtain ⟨numbered', inStep'⟩ := both second (by simp [Progress.traffic])
          simp only [sent, sent', Except.toOption, Option.bind_eq_bind, Option.bind_some,
            Option.pure_def, Option.some.injEq, Prod.mk.injEq] at told
          refine ⟨first, second, numbered, inStep trivial, numbered', inStep' trivial, ?_, ?_⟩
          · rw [trace]
            exact told.1
          · rw [trace']
            exact told.2

def prompted : Transport Nat := fun count _ => ({ outcome := .ok { status := ⟨200⟩ } }, count + 1)

def hasty : RetryOptions := { patient with tryTimeout := .saturating 1 }

/-- What is told: of which try, and at its end whether another one follows. -/
def account (records : List LogRecord) : List (Nat × Option Bool) :=
  records.map fun record => (record.tryNumber, record.event?.map (·.willRetry))

def hastyPipeline : Pipeline Nat :=
  ⟨{ retry := some hasty, requestLog := some {} }, prompted, ⟨fun _ => 1, fun _ _ => 0⟩⟩

/-- A try whose time is over when its scope is looked at is followed by another one. -/
theorem exists_leads_of_hasty : ∃ (state : RetryState) (left : Progress Nat),
    Traffic.Leads hastyPipeline (hastyPipeline.retryPolicy hasty) False [] RetryPolicy.soleScope
      RetryPolicy.mainPage
      (.idle ((hastyPipeline.retryPolicy hasty).firstState RetryPolicy.mainPage) 2)
      (nobodySends.progress {}) (.idle state 1) left ∧
    ((hastyPipeline.retryPolicy hasty).tryFrom hastyPipeline.lastMile RetryPolicy.soleScope
      RetryPolicy.mainPage state 1 left).toOption.map
        (fun sent => (account sent.2.records, sent.2.calls.length)) =
      some ([(1, some true), (1, none), (1, none), (2, some false)], 1) := by
  let policy := hastyPipeline.retryPolicy hasty
  let start := nobodySends.progress {}
  let turn : Turn := ⟨policy.firstState RetryPolicy.mainPage, 1, .zero⟩
  let wake := start.timeline.wake .zero
  let rested := { start with draws := 1 }
  let timeout := policy.timeout rested.timeline RetryPolicy.soleScope
  let made := rested.timeline.childFor RetryPolicy.soleScope timeout
  let begun := { rested with timeline := made.2 }
  let missed := { begun with timeline := made.2.advanceTo 1 }
  let judged := turn.conclude RetryPolicy.soleScope made.1 (.error .deadlineExceeded) missed
  obtain ⟨prepared, ready⟩ : ∃ prepared,
      RetryPolicy.prepare turn.state RetryPolicy.mainPage timeout = .ok prepared := by
    rcases RetryPolicy.prepare_cases turn.state RetryPolicy.mainPage timeout with
      ⟨url, _, ready⟩ | ⟨host, _, configured, _⟩
    · exact ⟨_, ready⟩
    · contradiction
  have drawn : policy.delay turn.state (policy.jitter start.draws) = some .zero := by
    decide +kernel
  have woken : wake ≤ rested.timeline.now := by decide +kernel
  have short : rested.timeline.spans timeout = true := by decide +kernel
  have late : missed.timeline.end? made.1 = some .deadlineExceeded := by decide +kernel
  refine ⟨turn.state.next .tryTimeout, judged.2, ?_, by decide +kernel⟩
  have rests : policy.Step hastyPipeline.lastMile RetryPolicy.soleScope RetryPolicy.mainPage
      (.idle turn.state 2) start (.resting turn wake) rested := .rest drawn rfl
  have judges : policy.Step hastyPipeline.lastMile RetryPolicy.soleScope RetryPolicy.mainPage
      (.judging turn made.1 (.error .deadlineExceeded)) missed
      (.idle (turn.state.next .tryTimeout) 1) judged.2 := .judge rfl
  have passes : begun.timeline.Precedes missed.timeline := (made.2.passes_advanceTo 1).toPrecedes
  refine (Traffic.leads_of_step rests).trans
    ((Traffic.leads_of_step (.begin woken ready short rfl)).trans ?_)
  exact (Traffic.leads_of_wait False.elim passes).trans
    ((Traffic.leads_of_step (.skip late)).trans (Traffic.leads_of_step judges))

def speechless : Transport Nat := fun count _ =>
  ({ outcome := .error .canceled, delay := none }, count + 1)

/-- The log tells nothing of a try that is over before it comes there, and gives its number to the
next one. Nor does a log of warnings and errors tell of tries that time out under way. -/
theorem hasty_tries_slip_past_the_log :
    (PipelineBuilder.ofCalls [.requestLog {}, .retry hasty] = .ok hastyPipeline.parts ∧
      ∃ traffic : Traffic Nat, ∃ sending ∈ traffic.sendings,
        Traffic.Path hastyPipeline (hastyPipeline.retryPolicy hasty) False nobodySends traffic ∧
        account sending.trace.records =
          [(1, some true), (1, none), (1, none), (2, some false)] ∧
        sending.trace.calls.length = 1) ∧
    ∃ pipeline : Pipeline Nat,
      PipelineBuilder.ofCalls [.retry { patient with maxTries := 3, tryTimeout := .ofMillis 10 },
        .requestLog { minLevel := .warning }] = .ok pipeline.parts ∧
      (pipeline.send (nobodySends.progress {}) RetryPolicy.soleScope
        RetryPolicy.mainPage).toOption.map (fun sent => account sent.2.records) =
          some [(1, some true), (2, some true), (3, some false)] := by
  constructor
  · refine ⟨rfl, ?_⟩
    obtain ⟨state, left, first, told⟩ := exists_leads_of_hasty
    cases sent : (hastyPipeline.retryPolicy hasty).tryFrom hastyPipeline.lastMile
        RetryPolicy.soleScope RetryPolicy.mainPage state 1 left with
    | error halt => simp [sent, Except.toOption] at told
    | ok returned =>
        obtain ⟨result, final⟩ := returned
        obtain ⟨sending, _, _, trace, path⟩ := path_of_leads rfl
          (first.trans (Traffic.leads_of_tryFrom False.elim 1 sent))
        rw [sent] at told
        simp only [Except.toOption, Option.map_some, Option.some.injEq, Prod.mk.injEq] at told
        refine ⟨_, sending, List.mem_singleton_self _, path, ?_⟩
        rw [trace]
        exact told
  · let retry : RetryOptions := { patient with maxTries := 3, tryTimeout := .ofMillis 10 }
    refine ⟨⟨{ retry := some retry, requestLog := some { minLevel := .warning } }, speechless,
      ⟨fun _ => 1, fun _ _ => 0⟩⟩, rfl, ?_⟩
    decide +kernel

end Pipeline

end BlobTransfer
