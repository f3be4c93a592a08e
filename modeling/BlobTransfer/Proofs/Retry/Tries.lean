import BlobTransfer.Proofs.Retry.Attempt

/-!
Tries of one request, in the order in which they are made. How the next one goes depends on what
became of those before it, and on them alone.
-/

namespace BlobTransfer

def Request.asTry (request : Request) (url : Url) (tryNumber : Nat) (timeout : Duration) :
    Request :=
  { request with
    url := url.setParameter "timeout" (toString timeout.seconds)
    payload := if tryNumber = 1 then request.payload else request.payload.rewind
    timeout := some timeout }

structure Try where
  startedAt : Nat
  call : TransportCall
  reply : TransportReply
  outcome : Except TransferError Response
  event : RetryEvent

namespace Try

def foundNothing (tried : Try) : Bool := tried.event.target = .secondary && isNotFound tried.outcome

def IsRetryable (tried : Try) (timeout : Duration) : Prop :=
  tried.foundNothing = true ∨ ∃ error, tried.outcome = .error error ∧
    (error = .deadlineExceeded ∨ tried.reply.scopeEnd? timeout = some .deadlineExceeded ∨
      error.isRetryableNetwork = true)

/-- What the caller gets if no other try follows. A response keeps the scope of its try. -/
def result (tried : Try) : Except TransferError Response :=
  tried.outcome.map (·.retain tried.call.scope)

/-- The timeline once the try is done with. Its scope goes on with a response handed on, and a
response that is not is dropped. -/
def settle (tried : Try) (timeline : Timeline) : Timeline :=
  if tried.event.willRetry then
    (match tried.outcome with
      | .ok response => response.drop timeline
      | .error _ => timeline).cancel tried.call.scope
  else
    match tried.outcome with
    | .ok _ => timeline
    | .error _ => timeline.cancel tried.call.scope

def primaryTries (tries : List Try) : Nat := tries.countP (·.event.target = .primary)

def endedAt (tried : Try) (timeout : Duration) : Nat :=
  tried.startedAt + tried.reply.waited timeout

variable {timeline : Timeline} {caller : Scope}

theorem settle_lasting {tried : Try} (lasting : timeline.Lasting caller)
    (own : timeline.Apart caller tried.call.scope)
    (kept : ∀ response, tried.outcome = .ok response →
      ∀ scope ∈ response.retained, timeline.Apart caller scope) :
    (tried.settle timeline).Lasting caller := by
  unfold Try.settle
  cases outcome : tried.outcome with
  | error error =>
      have canceled := lasting.cancel own
      split <;> exact canceled
  | ok response =>
      split
      · have dropped := lasting.cancelAll (kept response outcome)
        exact dropped.cancel (own.later (Nat.le_of_eq (Timeline.fresh_cancelAll _ _).symm))
      · exact lasting

theorem settle_now (tried : Try) : (tried.settle timeline).now = timeline.now := by
  unfold Try.settle
  cases tried.outcome <;> split <;> rfl

theorem settle_origin (tried : Try) : (tried.settle timeline).origin = timeline.origin := by
  unfold Try.settle
  cases tried.outcome <;> split <;> rfl

theorem settle_fresh (tried : Try) :
    (tried.settle timeline).scopes.fresh = timeline.scopes.fresh := by
  unfold Try.settle
  cases tried.outcome with
  | error error => split <;> rfl
  | ok response =>
      split
      · exact Timeline.fresh_cancelAll _ _
      · rfl

end Try

namespace RetryDecision

variable {tryEnd : Option ScopeEnd} {target : RetryTarget}
  {outcome : Except TransferError Response}

theorem isRetryable_ofOutcome :
    (ofOutcome none tryEnd target outcome).isRetryable = true ↔
      (target = .secondary && isNotFound outcome) = true ∨
      ∃ error, outcome = .error error ∧ (error = .deadlineExceeded ∨
        tryEnd = some .deadlineExceeded ∨ error.isRetryableNetwork = true) := by
  unfold ofOutcome
  cases lacking : target = .secondary && isNotFound outcome with
  | true => simp [isRetryable]
  | false =>
      cases outcome with
      | ok response => simp [isRetryable]
      | error error =>
          by_cases late : error = .deadlineExceeded ∨ tryEnd = some .deadlineExceeded
          · simp [late, isRetryable, ← or_assoc]
          · by_cases network : error.isRetryableNetwork = true
            · simp [late, network, isRetryable]
            · simp [late, network, isRetryable]

theorem ofOutcome_eq_secondaryNotFound :
    ofOutcome none tryEnd target outcome = .secondaryNotFound ↔
      (target = .secondary && isNotFound outcome) = true := by
  unfold ofOutcome
  cases lacking : target = .secondary && isNotFound outcome with
  | true => simp
  | false =>
      cases outcome with
      | ok response => simp
      | error error =>
          simp only [Option.isSome_none, Bool.false_eq_true, if_false, iff_false]
          split
          · simp
          · split <;> simp

end RetryDecision

theorem RetryState.target_eq_secondary (state : RetryState) :
    state.target = .secondary ↔ state.secondary.isSome = true ∧ state.tryNumber % 2 = 0 := by
  unfold target
  split <;> simp_all

namespace RetryPolicy

variable {Service : Type} (policy : RetryPolicy) (lastMile : LastMile Service) (caller : Scope)
  (request : Request) (start : Progress Service)

def stateAfter (tries : List Try) : RetryState where
  tryNumber := tries.length + 1
  primaryTries := Try.primaryTries tries
  secondary :=
    if tries.any Try.foundNothing then none
    else if request.isRead then policy.options.secondaryHost else none

def TurnsTo (tries : List Try) (target : RetryTarget) : Prop :=
  target = .secondary ↔
    request.isRead = true ∧ policy.options.secondaryHost.isSome = true ∧
      (tries.length + 1) % 2 = 0 ∧ ∀ past ∈ tries, past.foundNothing = false

theorem isSome_secondary (tries : List Try) :
    (policy.stateAfter request tries).secondary.isSome = true ↔
      request.isRead = true ∧ policy.options.secondaryHost.isSome = true ∧
        ∀ past ∈ tries, past.foundNothing = false := by
  cases found : tries.any Try.foundNothing with
  | true =>
      obtain ⟨past, member, lacking⟩ := List.any_eq_true.mp found
      have refuted : ¬ ∀ past ∈ tries, past.foundNothing = false :=
        fun all => by simp [all past member] at lacking
      simp [stateAfter, found, refuted]
  | false =>
      have spared : ∀ past ∈ tries, past.foundNothing = false := by
        simpa using found
      simp only [stateAfter, found, Bool.false_eq_true, if_false, and_iff_left spared]
      cases request.isRead <;> simp

theorem configured_of_secondary {policy : RetryPolicy} {request : Request} {tries : List Try}
    {host : String} (secondary : (policy.stateAfter request tries).secondary = some host) :
    request.isRead = true ∧ policy.options.secondaryHost = some host := by
  simp only [stateAfter] at secondary
  split at secondary
  · contradiction
  · split at secondary
    next read => exact ⟨read, secondary⟩
    next => contradiction

theorem turnsTo_target (tries : List Try) :
    policy.TurnsTo request tries (policy.stateAfter request tries).target := by
  rw [TurnsTo, RetryState.target_eq_secondary, isSome_secondary]
  exact ⟨fun ⟨⟨read, host, spared⟩, even⟩ => ⟨read, host, even, spared⟩,
    fun ⟨read, host, even, spared⟩ => ⟨⟨read, host, spared⟩, even⟩⟩

def endOf (tries : List Try) : Nat :=
  (tries.getLast?.map (·.endedAt policy.options.tryTimeout)).getD start.timeline.now

def serviceAfter (tries : List Try) : Service :=
  tries.foldl (fun service tried => (lastMile.transport service tried.call.request).2)
    start.service

/-- How a try goes that comes after others. -/
structure Follows (earlier : List Try) (tried : Try) : Prop where
  numbered : tried.event.tryNumber = earlier.length + 1
  target : policy.TurnsTo request earlier tried.event.target
  primaryTries : tried.event.primaryTries = Try.primaryTries (earlier ++ [tried])
  delay : policy.options.delayFor tried.event.target (Try.primaryTries earlier + 1)
    (policy.jitter (start.draws + earlier.length)) = some tried.event.delay
  started : tried.startedAt =
    (start.timeline.showing (policy.endOf start earlier)).wake tried.event.delay
  sent : ∃ url, (tried.event.target = .primary ∧ url = request.url ∨
      tried.event.target = .secondary ∧ ∃ host, policy.options.secondaryHost = some host ∧
        request.url.setHost host = .ok url) ∧
    tried.call.request = Layer.outbound lastMile.layers
      (request.asTry url tried.event.tryNumber policy.options.tryTimeout)
  limited : tried.call.scope.deadline =
    some (tried.startedAt * nanosPerMilli + policy.options.tryTimeout.nanos)
  answered : tried.reply =
    (lastMile.transport (serviceAfter lastMile start earlier) tried.call.request).1
  outcome : tried.outcome = lastMile.outcomeOf policy.options.tryTimeout tried.reply
  decision : tried.event.decision = RetryDecision.ofOutcome none
    (tried.reply.scopeEnd? policy.options.tryTimeout) tried.event.target tried.outcome

/-- Where an operation stands once some tries of it are over. -/
structure After (tries : List Try) (progress : Progress Service) : Prop where
  calls : progress.calls = start.calls ++ tries.map (·.call)
  events : progress.events = start.events ++ tries.map (·.event)
  draws : progress.draws = start.draws + tries.length
  service : progress.service = serviceAfter lastMile start tries
  origin : progress.timeline.origin = start.timeline.origin
  clock : progress.timeline.now = policy.endOf start tries
  lasting : progress.timeline.Lasting caller
  grown : start.timeline.scopes.fresh ≤ progress.timeline.scopes.fresh

variable {policy lastMile caller request start}

theorem Follows.isRetryable {earlier : List Try} {tried : Try}
    (follows : policy.Follows lastMile request start earlier tried) :
    tried.event.decision.isRetryable = true ↔ tried.IsRetryable policy.options.tryTimeout := by
  rw [follows.decision]
  exact RetryDecision.isRetryable_ofOutcome

theorem stateAfter_snoc (policy : RetryPolicy) (request : Request) (tries : List Try)
    {tried : Try} (target : tried.event.target = (policy.stateAfter request tries).target)
    (lacking : tried.event.decision = .secondaryNotFound ↔ tried.foundNothing = true) :
    (policy.stateAfter request tries).next tried.event.decision =
      policy.stateAfter request (tries ++ [tried]) := by
  have number : ((policy.stateAfter request tries).next tried.event.decision).tryNumber =
      (policy.stateAfter request (tries ++ [tried])).tryNumber := by
    simp [RetryState.next, stateAfter]
  have primary : ((policy.stateAfter request tries).next tried.event.decision).primaryTries =
      Try.primaryTries (tries ++ [tried]) := by
    simp only [RetryState.next, ← target, Try.primaryTries, List.countP_append]
    by_cases aimed : tried.event.target = .primary <;>
      simp [aimed, stateAfter, Try.primaryTries]
  have secondary : ((policy.stateAfter request tries).next tried.event.decision).secondary =
      (policy.stateAfter request (tries ++ [tried])).secondary := by
    simp only [RetryState.next, stateAfter, lacking, List.any_append, List.any_cons,
      List.any_nil, Bool.or_false]
    cases tried.foundNothing <;> simp
  change RetryState.mk _ _ _ = RetryState.mk _ _ _
  rw [RetryState.mk.injEq]
  exact ⟨number, primary, secondary⟩

end RetryPolicy

end BlobTransfer
