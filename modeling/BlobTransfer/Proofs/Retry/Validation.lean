import BlobTransfer.Proofs.Retry.Deadline

/-!
Options that were validated: the two delays go together, whatever was not set has its default, and
a request that is sent with them is tried at once.
-/

namespace BlobTransfer

namespace RetryOptions

/-- Options that tell all that the retries go by. -/
structure IsComplete (options : RetryOptions) : Prop where
  maxTries : 1 ≤ options.maxTries.toNat
  tryTimeout : Duration.zero < options.tryTimeout
  retryDelay : Duration.zero < options.retryDelay
  ordered : options.retryDelay ≤ options.maxRetryDelay
  secondaryHost : options.secondaryHost ≠ some ""

structure Keeps (options given : RetryOptions) : Prop where
  policy : options.policy = given.policy
  maxTries : given.maxTries ≠ 0 → options.maxTries = given.maxTries
  tryTimeout : given.tryTimeout ≠ .zero → options.tryTimeout = given.tryTimeout
  retryDelay : given.retryDelay ≠ .zero → options.retryDelay = given.retryDelay
  maxRetryDelay : given.maxRetryDelay ≠ .zero → options.maxRetryDelay = given.maxRetryDelay
  secondaryHost : given.secondaryHost ≠ some "" → options.secondaryHost = given.secondaryHost

end RetryOptions

theorem Duration.isZero_iff {duration : Duration} : duration.isZero = true ↔ duration = .zero := by
  obtain ⟨nanos, inRange⟩ := duration
  simp [isZero, zero]

theorem Duration.zero_lt_iff {duration : Duration} :
    Duration.zero < duration ↔ duration ≠ .zero := by
  obtain ⟨nanos, inRange⟩ := duration
  change 0 < nanos ↔ _
  rw [Nat.pos_iff_ne_zero]
  simp [zero]

namespace RetryOptions

variable {given options : RetryOptions}

/-- The delays contradict each other: the first is longer than its ceiling, or one is set alone. -/
def HasConflict (given : RetryOptions) : Prop :=
  given.maxRetryDelay < given.retryDelay ∨ ¬(given.retryDelay = .zero ↔ given.maxRetryDelay = .zero)

theorem validated_eq_ok : given.validated = .ok options ↔ ¬given.HasConflict ∧ options = {
    given with
    secondaryHost := given.secondaryHost.filter (· ≠ "")
    maxTries := if given.maxTries = 0 then defaultMaxTries else given.maxTries
    tryTimeout := if given.tryTimeout = .zero then defaultTryTimeout else given.tryTimeout
    retryDelay :=
      if given.retryDelay = .zero then defaultRetryDelay given.policy else given.retryDelay
    maxRetryDelay :=
      if given.retryDelay = .zero then defaultMaxRetryDelay else given.maxRetryDelay } := by
  have mixed : given.retryDelay.isZero ≠ given.maxRetryDelay.isZero ↔
      ¬(given.retryDelay = .zero ↔ given.maxRetryDelay = .zero) := by
    rw [← Duration.isZero_iff, ← Duration.isZero_iff, ← Bool.eq_iff_iff]
  unfold validated HasConflict
  simp only [mixed, Duration.isZero_iff]
  split
  · rename_i long
    simp [long]
  · rename_i ordered
    split
    · rename_i apart
      simp [apart]
    · rename_i together
      simp only [ordered, together, or_self, not_false_eq_true, true_and, Except.ok.injEq]
      exact eq_comm

theorem validated_eq_error :
    (∃ error, given.validated = .error error) ↔ given.HasConflict := by
  cases valid : given.validated with
  | error error =>
      simp only [Except.error.injEq, exists_eq', true_iff]
      apply Classical.byContradiction
      intro fine
      rw [validated_eq_ok.mpr ⟨fine, rfl⟩] at valid
      contradiction
  | ok options => simp [(validated_eq_ok.mp valid).1]

theorem defaultRetryDelay_complete (policy : RetryPolicyKind) :
    Duration.zero < defaultRetryDelay policy ∧ defaultRetryDelay policy ≤ defaultMaxRetryDelay := by
  cases policy <;> decide

theorem complete_of_validated (valid : given.validated = .ok options) : options.IsComplete := by
  obtain ⟨fine, rfl⟩ := validated_eq_ok.mp valid
  obtain ⟨many, timed⟩ := positive_of_validated valid
  obtain ⟨ordered, together⟩ := not_or.mp fine
  obtain ⟨positive, least⟩ := defaultRetryDelay_complete given.policy
  constructor
  · exact many
  · exact timed
  · by_cases unset : given.retryDelay = .zero
    · simpa [unset] using positive
    · simpa [unset] using Duration.zero_lt_iff.mpr unset
  · by_cases unset : given.retryDelay = .zero
    · simpa [unset] using least
    · simp only [unset, if_false]
      exact Nat.le_of_not_lt ordered
  · intro empty
    have named := (Option.filter_eq_some_iff.mp empty).2
    simp at named

theorem filter_of_named {host : Option String} (named : host ≠ some "") :
    host.filter (· ≠ "") = host := by
  cases host with
  | none => rfl
  | some name => simpa [Option.filter_some] using named

theorem keeps_of_validated (valid : given.validated = .ok options) : options.Keeps given := by
  obtain ⟨fine, rfl⟩ := validated_eq_ok.mp valid
  have together := Classical.not_not.mp (not_or.mp fine).2
  constructor
  · rfl
  · intro set
    exact if_neg set
  · intro set
    exact if_neg set
  · intro set
    exact if_neg set
  · intro set
    exact if_neg fun unset => set (together.mp unset)
  · intro set
    exact filter_of_named set

theorem validated_of_complete (complete : options.IsComplete) :
    options.validated = .ok options := by
  have counted : options.maxTries ≠ 0 := by
    intro none
    have many := complete.maxTries
    simp [none] at many
  have timed := Duration.zero_lt_iff.mp complete.tryTimeout
  have delayed := Duration.zero_lt_iff.mp complete.retryDelay
  have bounded : options.maxRetryDelay ≠ .zero :=
    Duration.zero_lt_iff.mp (Nat.lt_of_lt_of_le complete.retryDelay complete.ordered)
  apply validated_eq_ok.mpr
  constructor
  · rintro (long | mixed)
    · exact Nat.not_lt.mpr complete.ordered long
    · exact mixed (iff_of_false delayed bounded)
  · simp only [if_neg counted, if_neg timed, if_neg delayed,
      filter_of_named complete.secondaryHost]

end RetryOptions

namespace Timeline

variable {timeline later : Timeline} {scope caller : Scope} {timeout : Duration}

theorem advanceTo_now (ahead : ∀ entry ∈ timeline.planned, timeline.now ≤ entry.1) :
    timeline.advanceTo timeline.now = timeline := by
  have nothing : timeline.planned.filter (fun entry => decide (entry.1 < timeline.now)) = [] := by
    apply List.filter_eq_nil_iff.mpr
    intro entry member due
    exact Nat.not_lt.mpr (ahead entry member) (of_decide_eq_true due)
  have all : timeline.planned.filter (fun entry => !decide (entry.1 < timeline.now)) =
      timeline.planned := by
    apply List.filter_eq_self.mpr
    intro entry member
    simpa using ahead entry member
  simp only [advanceTo, carryOut, nothing, all, List.map_nil, Nat.max_self]
  rfl

theorem sleep_zero (ahead : ∀ entry ∈ timeline.planned, timeline.now ≤ entry.1) :
    timeline.sleep scope .zero = some (match timeline.end? scope with
      | some reason => .ended reason
      | none => .finished, timeline) := by
  have told : timeline.spans .zero = true := by simp [spans, Duration.hasEnd, Duration.zero]
  have ready : timeline.wake .zero = timeline.now := by
    rw [wake_of_spans told]
    rfl
  have still := advanceTo_now ahead
  simp only [sleep, ready, run]
  cases going : timeline.end? scope with
  | some reason => rfl
  | none =>
      cases ends : timeline.endAhead? scope with
      | none => simp only [still]
      | some ending =>
          rcases ending with ⟨reason, last⟩
          have passed : timeline.now ≤ last.now :=
            (endsAhead_of_endAhead? ends).passes.toPrecedes.now
          simp only [passed, if_true, still]

theorem MadeFor.live (made : timeline.MadeFor caller timeout scope later)
    (sound : timeline.Sound) (going : timeline.end? caller = none) (positive : 0 < timeout.nanos) :
    later.end? scope = none := by
  obtain ⟨uncanceled, unexpired⟩ := end?_eq_none.mp going
  apply end?_eq_none.mpr
  constructor
  · rw [← Bool.not_eq_true, isCanceled_iff]
    rintro ⟨mark, own, canceled⟩
    have before := made.doomed (.inl canceled)
    rw [made.lineage] at own
    rcases List.mem_cons.mp own with rfl | inherited
    · exact Nat.lt_irrefl _ (sound.doomed _ before)
    · have kept : mark ∈ timeline.scopes.canceled := by
        rw [made.made] at canceled
        exact canceled
      rw [isCanceled_iff.mpr ⟨mark, inherited, kept⟩] at uncanceled
      contradiction
  · intro limit deadline
    rw [made.deadline, Option.some.injEq] at deadline
    rw [instant, made.now, ← instant]
    cases ending : caller.deadline with
    | none =>
        simp only [ending] at deadline
        omega
    | some last =>
        have ahead := unexpired last ending
        simp only [ending] at deadline
        omega

end Timeline

namespace RetryPolicy

variable {Service : Type} {policy : RetryPolicy} {lastMile : LastMile Service} {caller : Scope}
  {request : Request} {start : Progress Service}

theorem timeout_positive (timed : Duration.zero < policy.options.tryTimeout)
    (going : start.timeline.end? caller = none) :
    0 < (policy.timeout start.timeline caller).nanos := by
  have timed : 0 < policy.options.tryTimeout.nanos := timed
  rw [nanos_timeout]
  cases deadline : caller.deadline with
  | none => exact timed
  | some limit =>
      have ahead := (Timeline.end?_eq_none.mp going).2 limit deadline
      simp only
      omega

theorem prepare_firstState (timeout : Duration) :
    ∃ prepared, prepare (policy.firstState request) request timeout = .ok prepared := by
  cases ready : prepare (policy.firstState request) request timeout with
  | ok prepared => exact ⟨prepared, rfl⟩
  | error error =>
      have target : (policy.firstState request).target = .primary := by
        simp [RetryState.target, firstState]
      simp only [prepare, target, bind, Except.bind, pure, Except.pure] at ready
      contradiction

structure Opens (policy : RetryPolicy) (lastMile : LastMile Service) (caller : Scope)
    (request : Request) (start : Progress Service) (first : Round Service) : Prop where
  state : first.state = policy.firstState request
  before : first.before = start
  delay : first.delay = .zero
  made : first.MadeBy caller policy lastMile request
  asked : first.calls lastMile = [⟨Layer.outbound lastMile.layers first.request, first.scope⟩]

theorem exists_opens (many : 0 < policy.options.maxTries.toNat)
    (timed : Duration.zero < policy.options.tryTimeout) (sound : start.timeline.Sound)
    (going : start.timeline.end? caller = none)
    (short : start.timeline.spans (policy.timeout start.timeline caller) = true) :
    ∃ first later, policy.Opens lastMile caller request start first ∧
      policy.Runs lastMile caller request start (first :: later)
        (policy.send lastMile start caller request) := by
  obtain ⟨left, counted⟩ : ∃ left, policy.options.maxTries.toNat = left + 1 :=
    ⟨_, (Nat.succ_pred_eq_of_pos many).symm⟩
  have drawn := @delay_firstState policy request (policy.jitter start.draws)
  have waited := @Timeline.sleep_zero start.timeline caller sound.ahead
  rw [going] at waited
  obtain ⟨prepared, ready⟩ :=
    @prepare_firstState policy request (policy.timeout start.timeline caller)
  obtain ⟨first, made, state, rfl, before⟩ :=
    @exists_made _ policy lastMile caller request _ left _ _ _ _ drawn waited ready short
  have reached : policy.Reaches lastMile caller request start [] first.state (first.left + 1)
      first.before := by
    rw [state, before, ← counted]
    exact .start
  have delay : first.delay = .zero := by
    have same := made.drawn
    rw [state, delay_firstState] at same
    exact (Option.some.inj same).symm
  have rested : first.rested = start.timeline := by
    have same := made.waited
    rw [delay, before, waited] at same
    exact (Prod.mk.inj (Option.some.inj same)).2.symm
  have begun : first.begun.end? first.scope = none := by
    have madeFor := made.madeFor
    rw [rested] at madeFor
    exact madeFor.live sound going (timeout_positive timed going)
  have asked : first.calls lastMile =
      [⟨Layer.outbound lastMile.layers first.request, first.scope⟩] := by
    simp [Round.calls, Timeline.isOver, begun]
  have next : ∃ later, policy.Runs lastMile caller request start (first :: later)
      (policy.tryFrom lastMile caller request first.state (first.left + 1) first.before) := by
    rw [tryFrom_of_made made]
    cases again : first.willRetry caller with
    | true => exact tryFrom_runs _ (.again reached made again)
    | false => exact ⟨[], .returned reached made again⟩
  obtain ⟨later, runs⟩ := next
  rw [state, before, ← counted] at runs
  exact ⟨first, later, ⟨state, before, delay, made, asked⟩, runs⟩

theorem Runs.result_ne_tries {rounds : List (Round Service)}
    {result : Except TransferError Response} {final : Progress Service}
    (many : 0 < policy.options.maxTries.toNat)
    (unsaid : ∀ service sent,
      (lastMile.answer service sent).1.outcome ≠ .error (.invalid .tries))
    (runs : policy.Runs lastMile caller request start rounds (.ok (result, final))) :
    result ≠ .error (.invalid .tries) := by
  cases runs with
  | exhausted reached => exact absurd (reached.left_pos many) (Nat.lt_irrefl 0)
  | @interrupted _ _ _ _ _ reason _ _ _ =>
      intro same
      cases reason <;> cases same
  | refused _ _ refusal =>
      obtain ⟨host, failure, _, _, rfl⟩ := refusal_of_prepare refusal
      intro same
      cases same
  | @returned earlier last reached made told =>
      intro same
      unfold Round.result at same
      cases came : last.outcome with
      | ok response =>
          rw [came] at same
          cases same
      | error error =>
          rw [came] at same
          obtain rfl : error = .invalid .tries := Except.error.inj same
          rcases made.tries.answers_or_over with answers | ⟨reason, failed, _⟩
          · have replied := answers.outcome
            rw [came] at replied
            cases said : (lastMile.answer last.started.service last.request).1.outcome with
            | ok response =>
                rw [said] at replied
                cases replied
            | error error =>
                rw [said] at replied
                obtain rfl : TransferError.invalid .tries = error := Except.error.inj replied
                exact unsaid _ _ said
          · rw [came] at failed
            cases reason <;> cases failed

theorem send_of_over {reason : ScopeEnd} (many : 0 < policy.options.maxTries.toNat)
    (sound : start.timeline.Sound) (spent : start.timeline.end? caller = some reason) :
    policy.send lastMile start caller request =
      .ok (.error reason.error, { start with draws := start.draws + 1 }) := by
  obtain ⟨left, counted⟩ : ∃ left, policy.options.maxTries.toNat = left + 1 :=
    ⟨_, (Nat.succ_pred_eq_of_pos many).symm⟩
  have drawn := @delay_firstState policy request (policy.jitter start.draws)
  have waited := @Timeline.sleep_zero start.timeline caller sound.ahead
  rw [spent] at waited
  unfold firstState at drawn
  simp only [send, counted, tryFrom, drawn, bind, Except.bind, waited]
  rfl

theorem send_of_overlong (many : 0 < policy.options.maxTries.toNat)
    (sound : start.timeline.Sound) (going : start.timeline.end? caller = none)
    (long : start.timeline.spans (policy.timeout start.timeline caller) = false) :
    policy.send lastMile start caller request = .error .overflow := by
  obtain ⟨left, counted⟩ : ∃ left, policy.options.maxTries.toNat = left + 1 :=
    ⟨_, (Nat.succ_pred_eq_of_pos many).symm⟩
  have drawn := @delay_firstState policy request (policy.jitter start.draws)
  have waited := @Timeline.sleep_zero start.timeline caller sound.ahead
  rw [going] at waited
  obtain ⟨prepared, ready⟩ :=
    @prepare_firstState policy request (policy.timeout start.timeline caller)
  unfold firstState at drawn ready
  simp only [send, counted, tryFrom, drawn, bind, Except.bind, waited, ready, long,
    Bool.not_false, if_true]

/-- Options are refused only if their delays contradict each other. Those that pass are complete
and keep what was set, and an operation that goes by them never runs out of tries: its first try
is made at once, if the caller's scope is not over and the deadline of the try can be told. -/
theorem validated_options_allow_a_try (given : RetryOptions) :
    ((∃ error, given.validated = .error error) ↔ given.HasConflict) ∧
    ∀ options, given.validated = .ok options →
      options.IsComplete ∧ options.Keeps given ∧ options.validated = .ok options ∧
      ∀ (Service : Type) (policy : RetryPolicy) (lastMile : LastMile Service) (caller : Scope)
        (request : Request) (start : Progress Service),
        policy.options = options → start.timeline.Sound →
        (∀ earlier state progress,
          ¬policy.Reaches lastMile caller request start earlier state 0 progress) ∧
        ((∀ service sent,
            (lastMile.answer service sent).1.outcome ≠ .error (.invalid .tries)) →
          ∀ final, policy.send lastMile start caller request ≠
            .ok (.error (.invalid .tries), final)) ∧
        (∀ reason, start.timeline.end? caller = some reason →
          policy.send lastMile start caller request =
            .ok (.error reason.error, { start with draws := start.draws + 1 })) ∧
        (start.timeline.end? caller = none →
          start.timeline.spans (policy.timeout start.timeline caller) = false →
            policy.send lastMile start caller request = .error .overflow) ∧
        (start.timeline.end? caller = none →
          start.timeline.spans (policy.timeout start.timeline caller) = true →
            ∃ first later, policy.Opens lastMile caller request start first ∧
              policy.Runs lastMile caller request start (first :: later)
                (policy.send lastMile start caller request) ∧
              ∀ result final, policy.send lastMile start caller request = .ok (result, final) →
                start.calls ++ first.calls lastMile <+: final.calls) := by
  refine ⟨RetryOptions.validated_eq_error, ?_⟩
  intro options valid
  have complete := RetryOptions.complete_of_validated valid
  refine ⟨complete, RetryOptions.keeps_of_validated valid,
    RetryOptions.validated_of_complete complete, ?_⟩
  rintro Service policy lastMile caller request start rfl sound
  have many : 0 < policy.options.maxTries.toNat := complete.maxTries
  refine ⟨?_, ?_, ?_, ?_, ?_⟩
  · intro earlier state progress reached
    exact Nat.lt_irrefl 0 (reached.left_pos many)
  · intro unsaid final sent
    obtain ⟨rounds, runs⟩ := send_runs policy lastMile start caller request
    rw [sent] at runs
    exact runs.result_ne_tries many unsaid rfl
  · intro reason spent
    exact send_of_over many sound spent
  · intro going long
    exact send_of_overlong many sound going long
  · intro going short
    obtain ⟨first, later, opens, runs⟩ :=
      @exists_opens _ policy lastMile caller request start many complete.tryTimeout sound going
        short
    refine ⟨first, later, opens, runs, ?_⟩
    intro result final sent
    rw [sent] at runs
    rw [runs.calls, List.flatMap_cons, ← List.append_assoc]
    exact List.prefix_append _ _

theorem defaults_make_a_try :
    ∃ options : RetryOptions,
      ({ secondaryHost := some "copy.example" } : RetryOptions).validated = .ok options ∧
      options.IsComplete ∧ options.secondaryHost = some "copy.example" ∧
      ∃ first later,
        RetryPolicy.Opens ⟨options, fun _ => 1⟩ (scripted brokenThenMissing) soleScope mainPage
          freshStart first ∧
        RetryPolicy.Runs ⟨options, fun _ => 1⟩ (scripted brokenThenMissing) soleScope mainPage
          freshStart (first :: later)
          (RetryPolicy.send ⟨options, fun _ => 1⟩ (scripted brokenThenMissing) freshStart
            soleScope mainPage) := by
  obtain ⟨_, allowed⟩ := validated_options_allow_a_try { secondaryHost := some "copy.example" }
  obtain ⟨options, valid, timed⟩ : ∃ options : RetryOptions,
      ({ secondaryHost := some "copy.example" } : RetryOptions).validated = .ok options ∧
        options.tryTimeout = RetryOptions.defaultTryTimeout := ⟨_, rfl, rfl⟩
  obtain ⟨complete, kept, _, operations⟩ := allowed options valid
  obtain ⟨_, _, _, _, tries⟩ := operations Nat ⟨options, fun _ => 1⟩
    (scripted brokenThenMissing) soleScope mainPage freshStart rfl freshStart_sound
  have short : freshStart.timeline.spans
      (RetryPolicy.timeout ⟨options, fun _ => 1⟩ freshStart.timeline soleScope) = true := by
    change freshStart.timeline.spans options.tryTimeout = true
    rw [timed]
    decide
  obtain ⟨first, later, opens, runs, _⟩ := tries (by decide) short
  exact ⟨options, valid, complete, kept.secondaryHost (by decide), first, later, opens, runs⟩

def secondLater : Progress Nat :=
  { freshStart with timeline := { freshStart.timeline with origin := nanosPerSecond } }

theorem send_of_endless_timeout {timeout : Duration} {start : Progress Nat}
    (positive : timeout ≠ .zero) (sound : start.timeline.Sound)
    (going : start.timeline.end? soleScope = none) (long : start.timeline.spans timeout = false) :
    ∃ policy : RetryPolicy,
      ({ tryTimeout := timeout } : RetryOptions).validated = .ok policy.options ∧
      ∀ lastMile : LastMile Nat,
        policy.send lastMile start soleScope mainPage = .error .overflow := by
  have free : ¬({ tryTimeout := timeout } : RetryOptions).HasConflict := by
    rintro (long | mixed)
    · exact Nat.lt_irrefl 0 long
    · exact mixed Iff.rfl
  obtain ⟨options, valid, timed⟩ : ∃ options : RetryOptions,
      ({ tryTimeout := timeout } : RetryOptions).validated = .ok options ∧
        options.tryTimeout = timeout :=
    ⟨_, RetryOptions.validated_eq_ok.mpr ⟨free, rfl⟩, if_neg positive⟩
  let policy : RetryPolicy := ⟨options, fun _ => 1⟩
  have many : 0 < policy.options.maxTries.toNat :=
    (RetryOptions.complete_of_validated valid).maxTries
  refine ⟨policy, valid, fun lastMile => ?_⟩
  apply send_of_overlong many sound going
  change start.timeline.spans options.tryTimeout = false
  rw [timed]
  exact long

/-- The longest timeout there is passes validation, and so does one of as many seconds as a clock
can tell, but the transport is not even asked once: at the start of the clock in the one case, and
once it has been going for a second in the other. -/
theorem longest_timeout_prevents_every_try :
    (freshStart.timeline.end? soleScope = none ∧ ∃ policy : RetryPolicy,
      ({ tryTimeout := .largest } : RetryOptions).validated = .ok policy.options ∧
      ∀ lastMile : LastMile Nat,
        policy.send lastMile freshStart soleScope mainPage = .error .overflow) ∧
    secondLater.timeline.end? soleScope = none ∧ ∃ policy : RetryPolicy,
      ({ tryTimeout := .ofSeconds 9223372036854775807 } : RetryOptions).validated =
        .ok policy.options ∧
      ∀ lastMile : LastMile Nat,
        policy.send lastMile secondLater soleScope mainPage = .error .overflow := by
  have live : freshStart.timeline.end? soleScope = none := by decide
  exact ⟨⟨live, send_of_endless_timeout (by decide) freshStart_sound live (by decide)⟩,
    live, send_of_endless_timeout (by decide) ⟨freshStart_sound.ahead, freshStart_sound.doomed⟩
      live (by decide)⟩

end RetryPolicy

end BlobTransfer
