import BlobTransfer.Proofs.Retry.Tries

/-!
One round of the retry loop in a scope that never ends: a wait, a try in a scope of its own, and
the decision whether another round follows.
-/

namespace BlobTransfer

variable {Service : Type}

/-- Nothing that the transport answers ends the caller's scope or one that is yet to be made. -/
structure LastMile.Spares (lastMile : LastMile Service) (timeline : Timeline) (caller : Scope) :
    Prop where
  gentle : ∀ service request, (lastMile.transport service request).1.cancelsCaller = false
  apart : ∀ service request response,
    (lastMile.transport service request).1.outcome.map (Layer.inbound lastMile.layers) =
        .ok response →
      ∀ scope ∈ response.retained, timeline.Apart caller scope

namespace RetryPolicy

/-- The URL accepts the secondary host, if that may be asked. -/
def Hosted (policy : RetryPolicy) (request : Request) : Prop :=
  request.isRead = true → ∀ host, policy.options.secondaryHost = some host →
    ∃ url, request.url.setHost host = .ok url

theorem prepare_cases (state : RetryState) (request : Request) (timeout : Duration) :
    (∃ url, (state.target = .primary ∧ url = request.url ∨
        state.target = .secondary ∧ ∃ host, state.secondary = some host ∧
          request.url.setHost host = .ok url) ∧
      prepare state request timeout = .ok (request.asTry url state.tryNumber timeout)) ∨
    ∃ host failure, state.secondary = some host ∧ request.url.setHost host = .error failure ∧
      prepare state request timeout = .error (.invalid (.secondaryHost host failure)) := by
  cases target : state.target with
  | primary => exact .inl ⟨request.url, .inl ⟨rfl, rfl⟩, by simp only [prepare, target]; rfl⟩
  | secondary =>
      obtain ⟨host, configured⟩ :=
        Option.isSome_iff_exists.mp (state.target_eq_secondary.mp target).1
      cases accepted : request.url.setHost host with
      | error failure =>
          refine .inr ⟨host, failure, configured, accepted, ?_⟩
          simp only [prepare, target, configured, accepted]
          rfl
      | ok url =>
          refine .inl ⟨url, .inr ⟨rfl, host, configured, accepted⟩, ?_⟩
          simp only [prepare, target, configured, accepted]
          rfl

theorem prepare_eq (state : RetryState) (request : Request) (timeout : Duration)
    (hosted : ∀ host, state.secondary = some host → ∃ url, request.url.setHost host = .ok url) :
    ∃ url, (state.target = .primary ∧ url = request.url ∨
        state.target = .secondary ∧ ∃ host, state.secondary = some host ∧
          request.url.setHost host = .ok url) ∧
      prepare state request timeout = .ok (request.asTry url state.tryNumber timeout) := by
  rcases prepare_cases state request timeout with
    prepared | ⟨host, failure, configured, refused, _⟩
  · exact prepared
  · obtain ⟨url, accepted⟩ := hosted host configured
    rw [refused] at accepted
    contradiction

variable {policy : RetryPolicy} {lastMile : LastMile Service} {caller : Scope}
  {request : Request} {start progress : Progress Service} {tries : List Try} {left : Nat}

theorem timeout_eq {timeline : Timeline} (endless : timeline.Endless caller) (now : Timeline) :
    policy.timeout now caller = policy.options.tryTimeout := by
  have unlimited := (Timeline.endless_iff.mp endless).1
  simp only [timeout, Scope.remaining, unlimited, Option.map_none]

variable (policy) in
def tryWith (state : RetryState) (left : Nat) (delay : Duration) (startedAt : Nat)
    (call : TransportCall) (reply : TransportReply) (outcome : Except TransferError Response) :
    Try :=
  let decision := RetryDecision.ofOutcome none (reply.scopeEnd? policy.options.tryTimeout)
    state.target outcome
  { startedAt, call, reply, outcome
    event := {
      tryNumber := state.tryNumber, target := state.target
      primaryTries := (state.next decision).primaryTries, delay, decision
      willRetry := decision.isRetryable && decide (left ≠ 0) } }

theorem tryWith_next (delay : Duration) (startedAt : Nat) (call : TransportCall)
    (reply : TransportReply) (outcome : Except TransferError Response) :
    let tried := policy.tryWith (policy.stateAfter request tries) left delay startedAt call reply
      outcome
    (policy.stateAfter request tries).next tried.event.decision =
      policy.stateAfter request (tries ++ [tried]) :=
  stateAfter_snoc policy request tries rfl RetryDecision.ofOutcome_eq_secondaryNotFound

variable {begun timeline : Timeline} {answered : Progress Service} {scope : Scope}
  {prepared : Request} {reply : TransportReply} {delay : Duration}

theorem Follows.of_answered (left : Nat) {url : Url} {startedAt : Nat}
    (after : policy.After lastMile caller start tries progress)
    (drawn : policy.delay (policy.stateAfter request tries) (policy.jitter progress.draws) =
      some delay)
    (started : startedAt = progress.timeline.wake delay)
    (addressed : (policy.stateAfter request tries).target = .primary ∧ url = request.url ∨
      (policy.stateAfter request tries).target = .secondary ∧
        ∃ host, (policy.stateAfter request tries).secondary = some host ∧
          request.url.setHost host = .ok url)
    (limited : scope.deadline =
      some (startedAt * nanosPerMilli + policy.options.tryTimeout.nanos))
    (served : lastMile.answer progress.service (request.asTry url
        (policy.stateAfter request tries).tryNumber policy.options.tryTimeout) =
      (reply, answered.service)) :
    policy.Follows lastMile request start tries
      (policy.tryWith (policy.stateAfter request tries) left delay startedAt
        ⟨Layer.outbound lastMile.layers (request.asTry url
          (policy.stateAfter request tries).tryNumber policy.options.tryTimeout), scope⟩
        reply (lastMile.outcomeOf policy.options.tryTimeout reply)) where
  numbered := rfl
  target := policy.turnsTo_target request tries
  primaryTries := congrArg RetryState.primaryTries (tryWith_next ..)
  delay := by
    rw [← after.draws]
    exact drawn
  started := by
    rw [← after.clock, Timeline.wake_showing after.origin]
    exact started
  sent := by
    refine ⟨url, addressed.imp_right ?_, rfl⟩
    rintro ⟨target, host, configured, accepted⟩
    exact ⟨target, host, (configured_of_secondary configured).2, accepted⟩
  limited := limited
  answered := by
    rw [← after.service]
    exact (congrArg Prod.fst served).symm
  outcome := rfl
  decision := rfl

theorem After.snoc {tried : Try} (after : policy.After lastMile caller start tries progress)
    (facts : lastMile.Answered caller scope prepared policy.options.tryTimeout reply
      { progress with draws := progress.draws + 1, timeline := begun } answered)
    (call : tried.call = ⟨Layer.outbound lastMile.layers prepared, scope⟩)
    (replied : tried.reply = reply) (started : tried.startedAt = begun.now)
    (origin : begun.origin = progress.timeline.origin)
    (earlier : progress.timeline.scopes.fresh ≤ begun.scopes.fresh)
    (lasting : (tried.settle answered.timeline).Lasting caller) :
    policy.After lastMile caller start (tries ++ [tried])
      { answered.note (.tried tried.event) with timeline := tried.settle answered.timeline } where
  calls := by
    change answered.calls = _
    rw [facts.calls, after.calls, List.map_append, List.append_assoc, List.map_singleton, call]
  events := by
    refine (answered.events_note_tried tried.event).trans ?_
    rw [facts.events, List.map_append, ← List.append_assoc, ← after.events]
    rfl
  draws := by
    refine facts.draws.trans ?_
    rw [after.draws, List.length_append, ← Nat.add_assoc]
    rfl
  service := by
    have served : (lastMile.answer progress.service prepared).2 = answered.service :=
      congrArg Prod.snd facts.served
    change answered.service = _
    rw [← served, after.service, serviceAfter, serviceAfter, List.foldl_append]
    simp only [List.foldl_cons, List.foldl_nil, call, LastMile.answer]
  origin := by
    refine tried.settle_origin.trans ?_
    rw [facts.origin]
    exact origin.trans after.origin
  clock := by
    refine tried.settle_now.trans ?_
    rw [facts.clock]
    simp [endOf, Try.endedAt, started, replied]
  lasting := lasting
  grown := by
    rw [Try.settle_fresh, facts.grown]
    exact Nat.le_trans after.grown earlier

variable (policy lastMile caller request start) in
/-- There is no telling how long the next try is to be put off, or when it has to be over. -/
def Overflows (tries : List Try) : Prop :=
  ∃ target, policy.TurnsTo request tries target ∧
    ∀ delay, policy.options.delayFor target (Try.primaryTries tries + 1)
        (policy.jitter (start.draws + tries.length)) = some delay →
      (start.timeline.showing ((start.timeline.showing (policy.endOf start tries)).wake
        delay)).spans policy.options.tryTimeout = false

theorem tryFrom_round (left : Nat) {state : RetryState} (lasting : progress.timeline.Lasting caller)
    (positive : 0 < policy.options.tryTimeout.nanos)
    (short : (progress.timeline.advanceTo (progress.timeline.wake delay)).spans
      policy.options.tryTimeout = true)
    (spares : lastMile.Spares start.timeline caller)
    (drawn : policy.delay state (policy.jitter progress.draws) = some delay)
    (ready : prepare state request policy.options.tryTimeout = .ok prepared) :
    ∃ begun scope reply answered,
      begun.now = progress.timeline.wake delay ∧ begun.origin = progress.timeline.origin ∧
      begun.scopes.fresh = progress.timeline.scopes.fresh + 1 ∧
      begun.Within caller scope (begun.instant + policy.options.tryTimeout.nanos) ∧
      lastMile.Answered caller scope prepared policy.options.tryTimeout reply
        { progress with draws := progress.draws + 1, timeline := begun } answered ∧
      let tried := policy.tryWith state left delay begun.now
        ⟨Layer.outbound lastMile.layers prepared, scope⟩ reply
        (lastMile.outcomeOf policy.options.tryTimeout reply)
      let later := { answered.note (.tried tried.event) with
        timeline := tried.settle answered.timeline }
      policy.tryFrom lastMile caller request state (left + 1) progress =
        if tried.event.willRetry then
          policy.tryFrom lastMile caller request (state.next tried.event.decision) left later
        else .ok (tried.result, later) := by
  rcases made : (progress.timeline.advanceTo (progress.timeline.wake delay)).childFor caller
    policy.options.tryTimeout with ⟨scope, begun⟩
  obtain ⟨clock, origin, fresh, nested⟩ := (lasting.advanceTo _).begins made
  rw [Timeline.fresh_advanceTo] at fresh
  obtain ⟨reply, answered, sent, facts⟩ := LastMile.sendWithin_answers
    { progress with draws := progress.draws + 1, timeline := begun } prepared nested positive
    (spares.gentle _ _)
  refine ⟨begun, scope, reply, answered,
    clock.trans (progress.timeline.advanceTo_wake_now delay), origin, fresh, nested, facts, ?_⟩
  rw [tryFrom, drawn]
  simp only [bind, Except.bind, lasting.endless.sleep_eq, timeout_eq lasting.endless]
  rw [ready]
  simp only [short, Bool.not_true, Bool.false_eq_true, if_false, made, sent]
  generalize lastMile.outcomeOf policy.options.tryTimeout reply = outcome
  have judged : judge caller state left delay scope outcome answered =
      (policy.tryWith state left delay begun.now
        ⟨Layer.outbound lastMile.layers prepared, scope⟩ reply outcome).event := by
    simp only [judge, facts.ended, facts.lasting.endless.end?_eq]
    rfl
  rw [judged]
  split
  · rename_i again
    simp only [Try.settle, again, if_true]
    rfl
  · rename_i told
    simp only [Try.settle, told, Bool.false_eq_true, if_false]
    cases outcome <;> rfl

theorem tryFrom_step (left : Nat)
    (after : policy.After lastMile caller start tries progress)
    (positive : 0 < policy.options.tryTimeout.nanos)
    (hosted : policy.Hosted request) (spares : lastMile.Spares start.timeline caller) :
    (policy.tryFrom lastMile caller request (policy.stateAfter request tries) (left + 1)
          progress = .error .overflow ∧ policy.Overflows request start tries) ∨
      ∃ tried later, policy.Follows lastMile request start tries tried ∧
        policy.After lastMile caller start (tries ++ [tried]) later ∧
        tried.event.willRetry = (tried.event.decision.isRetryable && decide (left ≠ 0)) ∧
        policy.tryFrom lastMile caller request (policy.stateAfter request tries) (left + 1)
          progress =
            if tried.event.willRetry then
              policy.tryFrom lastMile caller request
                (policy.stateAfter request (tries ++ [tried])) left later
            else .ok (tried.result, later) := by
  obtain ⟨url, addressed, ready⟩ := prepare_eq (policy.stateAfter request tries) request
    policy.options.tryTimeout fun host secondary =>
      have ⟨read, configured⟩ := configured_of_secondary secondary
      hosted read host configured
  cases drawn : policy.delay (policy.stateAfter request tries) (policy.jitter progress.draws) with
  | none =>
      refine .inl ⟨by rw [tryFrom, drawn]; rfl, _, policy.turnsTo_target request tries, ?_⟩
      intro delay told
      have same := drawn
      rw [after.draws] at same
      exact absurd (told.symm.trans same) (Option.some_ne_none delay)
  | some delay =>
      cases short : (progress.timeline.advanceTo (progress.timeline.wake delay)).spans
          policy.options.tryTimeout with
      | false =>
        refine .inl ⟨?_, _, policy.turnsTo_target request tries, ?_⟩
        · rw [tryFrom, drawn]
          simp only [bind, Except.bind, after.lasting.endless.sleep_eq,
            timeout_eq after.lasting.endless]
          rw [ready]
          simp only [short, Bool.not_false, if_true]
        · intro other told
          have same := drawn
          rw [after.draws] at same
          obtain rfl := Option.some.inj (told.symm.trans same)
          have origin : (progress.timeline.advanceTo (progress.timeline.wake other)).origin =
              start.timeline.origin := after.origin
          rw [← after.clock, Timeline.wake_showing after.origin, ← short,
            ← Timeline.spans_showing origin, Timeline.advanceTo_wake_now]
      | true =>
        obtain ⟨begun, scope, reply, answered, clock, origin, fresh, nested, facts, round⟩ :=
          tryFrom_round left after.lasting positive short spares drawn ready
        have apart : answered.timeline.Apart caller scope :=
          nested.apart.later (Nat.le_of_eq facts.grown.symm)
        have grown : start.timeline.scopes.fresh ≤ answered.timeline.scopes.fresh := by
          have earlier := after.grown
          have same := facts.grown
          simp only at same
          omega
        have kept : ∀ response, lastMile.outcomeOf policy.options.tryTimeout reply = .ok response →
            ∀ scope ∈ response.retained, answered.timeline.Apart caller scope := by
          intro response came other member
          have replied := LastMile.map_of_outcomeOf came
          have same : (lastMile.answer progress.service _).1 = reply :=
            congrArg Prod.fst facts.served
          rw [← same] at replied
          exact (spares.apart _ _ response replied other member).later grown
        have follows := Follows.of_answered left after drawn clock addressed nested.deadline
          facts.served
        refine .inr ⟨_, _, follows, after.snoc facts rfl rfl rfl origin (by omega) ?_, rfl,
          round.trans ?_⟩
        · exact Try.settle_lasting facts.lasting apart kept
        · rw [tryWith_next]

end RetryPolicy

end BlobTransfer
