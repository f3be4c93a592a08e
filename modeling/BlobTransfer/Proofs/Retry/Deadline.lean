import BlobTransfer.Proofs.Retry.Release
import BlobTransfer.Proofs.Retry.Requests

/-!
Retries keep to the time of their caller. No wait and no try goes on once the scope of the caller
is over, and what an operation returns then is what that scope ended with.
-/

namespace BlobTransfer

variable {Service : Type}

namespace Round

variable {round : Round Service} {caller : Scope} {policy : RetryPolicy}
  {lastMile : LastMile Service} {request : Request}

def HoldsKnown (round : Round Service) : Prop :=
  ∀ response, round.outcome = .ok response → ∀ scope ∈ response.retained,
    ∀ mark, scope.lineage.head? = some mark → mark < round.answered.timeline.scopes.fresh

/-- A round keeps to the deadline of its caller, a try to that of its scope, and the transport is
not asked once the scope of the caller is over. -/
structure KeepsTime (round : Round Service) (caller : Scope) (tryTimeout : Duration) : Prop where
  asked : round.begun.isOver round.scope = false → round.begun.isOver caller = false
  limited : round.scope.deadline = some (match caller.deadline with
    | some limit => min limit (round.begun.instant + tryTimeout.nanos)
    | none => round.begun.instant + tryTimeout.nanos)
  rested : ∀ limit, caller.deadline = some limit → round.begun.now ≤ millisAtOrAfter limit
  answered : ∀ limit, round.scope.deadline = some limit →
    round.answered.timeline.now ≤ millisAtOrAfter limit

namespace MadeBy

variable (made : round.MadeBy caller policy lastMile request)

include made

theorem live : round.before.timeline.end? caller = none := made.waits.live

theorem limited : round.scope.deadline = some (match caller.deadline with
    | some limit => min limit (round.begun.instant + policy.options.tryTimeout.nanos)
    | none => round.begun.instant + policy.options.tryTimeout.nanos) := by
  rw [made.madeFor.deadline, RetryPolicy.nanos_timeout, made.begun_instant]
  cases caller.deadline with
  | none => rfl
  | some limit =>
      simp only
      exact congrArg some (by omega)

theorem asked (going : round.begun.isOver round.scope = false) :
    round.begun.isOver caller = false := by
  cases spent : round.begun.isOver caller with
  | false => rfl
  | true =>
      rw [made.madeFor.isOver spent] at going
      contradiction

theorem begun_le {limit : Nat} (deadline : caller.deadline = some limit) :
    round.begun.now ≤ millisAtOrAfter limit := by
  have before := Timeline.lt_millisAtOrAfter
    ((Timeline.end?_eq_none.mp made.live).2 limit deadline)
  rw [made.madeFor.now]
  exact made.waits.now_le (.inr (.inl ⟨limit, deadline, Nat.le_refl _⟩)) (Nat.le_of_lt before)

theorem answered_le {limit : Nat} (deadline : round.scope.deadline = some limit) :
    round.answered.timeline.now ≤ millisAtOrAfter limit := by
  apply made.tries.now_le (.inr (.inl ⟨limit, deadline, Nat.le_refl _⟩))
  change round.begun.now ≤ _
  have limited := made.limited
  rw [deadline, Option.some.injEq] at limited
  subst limited
  have timely : round.begun.now ≤
      millisAtOrAfter (round.begun.instant + policy.options.tryTimeout.nanos) :=
    Timeline.le_millis_of_instant (Nat.le_add_right _ _)
  cases ending : caller.deadline with
  | none => exact timely
  | some last =>
      rcases Nat.le_total last (round.begun.instant + policy.options.tryTimeout.nanos) with
        sooner | later
      · simp only [Nat.min_eq_left sooner]
        exact made.begun_le ending
      · simp only [Nat.min_eq_right later]
        exact timely

theorem keepsTime : round.KeepsTime caller policy.options.tryTimeout where
  asked := made.asked
  limited := made.limited
  rested := fun _ => made.begun_le
  answered := fun _ => made.answered_le

/-! Whether a try that was given up was cancelled. -/

theorem own_uncanceled (sound : round.before.timeline.Sound)
    (unanswered : ¬round.IsAnswered lastMile) :
    round.rested.scopes.fresh ∉ round.answered.timeline.scopes.canceled := by
  intro canceled
  rcases made.tries.doomed (.inl canceled) with begun | ⟨answers, _⟩
  · have rested := sound.passes made.waits.passes
    exact Nat.lt_irrefl _ (rested.doomed _ (made.madeFor.doomed begun))
  · exact unanswered answers

theorem isCanceled_scope (sound : round.before.timeline.Sound)
    (unanswered : ¬round.IsAnswered lastMile) :
    round.answered.timeline.scopes.isCanceled round.scope = true ↔
      round.answered.timeline.scopes.isCanceled caller = true := by
  simp only [isCanceled_iff, made.lineage, List.mem_cons]
  constructor
  · rintro ⟨mark, rfl | inherited, canceled⟩
    · exact absurd canceled (made.own_uncanceled sound unanswered)
    · exact ⟨mark, inherited, canceled⟩
  · rintro ⟨mark, inherited, canceled⟩
    exact ⟨mark, .inr inherited, canceled⟩

theorem isCanceled_settled {error : TransferError} (knows : round.before.timeline.Knows caller)
    (failed : round.outcome = .error error) :
    (round.settled caller).timeline.scopes.isCanceled caller = true ↔
      round.answered.timeline.scopes.isCanceled caller = true := by
  have settled : (round.settled caller).timeline = round.answered.timeline.cancel round.scope := by
    simp only [Round.settled, Round.isDone, Round.dropped, failed, if_true, Timeline.cancelAll,
      Scopes.cancelAll, List.foldl_nil]
  rw [settled]
  constructor
  · intro canceled
    obtain ⟨mark, inherited, member⟩ := isCanceled_iff.mp canceled
    rcases Timeline.canceled_cancel member with own | before
    · rw [made.lineage, List.head?_cons, Option.some.injEq] at own
      exact absurd (own ▸ inherited) (made.own_not_inherited knows)
    · exact isCanceled_iff.mpr ⟨mark, inherited, before⟩
  · exact Timeline.isCanceled_later (Timeline.precedes_cancel _ round.scope)

theorem reason_eq {tryEnd reason : ScopeEnd} (sound : round.before.timeline.Sound)
    (knows : round.before.timeline.Knows caller) (unanswered : ¬ round.IsAnswered lastMile)
    (failed : round.outcome = .error tryEnd.error)
    (ended : round.answered.timeline.end? round.scope = some tryEnd)
    (spent : (round.settled caller).timeline.end? caller = some reason) : tryEnd = reason := by
  have alike : tryEnd = .canceled ↔ reason = .canceled := calc
    tryEnd = .canceled ↔ round.answered.timeline.end? round.scope = some .canceled := by
      rw [ended, Option.some.injEq]
    _ ↔ round.answered.timeline.scopes.isCanceled round.scope = true := Timeline.end?_eq_canceled
    _ ↔ round.answered.timeline.scopes.isCanceled caller = true :=
      made.isCanceled_scope sound unanswered
    _ ↔ (round.settled caller).timeline.scopes.isCanceled caller = true :=
      (made.isCanceled_settled knows failed).symm
    _ ↔ (round.settled caller).timeline.end? caller = some .canceled :=
      Timeline.end?_eq_canceled.symm
    _ ↔ reason = .canceled := by rw [spent, Option.some.injEq]
  cases tryEnd with
  | canceled => exact (alike.mp rfl).symm
  | deadlineExceeded =>
      cases reason with
      | canceled => exact alike.mpr rfl
      | deadlineExceeded => rfl

omit made in
theorem now_settled : (round.settled caller).timeline.now = round.answered.timeline.now := by
  unfold settled
  cases round.isDone caller <;> rfl

theorem now_le {time : Nat} (endsBy : round.before.timeline.EndsBy caller time)
    (started : round.before.timeline.now ≤ time) : round.answered.timeline.now ≤ time := by
  have rests := made.waits.passes.toPrecedes
  have begins := made.madeFor.precedes
  have within := made.waits.now_le endsBy started
  apply made.tries.now_le (made.madeFor.endsBy (endsBy.stays (rests.trans begins)))
  change round.begun.now ≤ time
  rw [made.madeFor.now]
  exact within

theorem knows_scope (knows : round.before.timeline.Knows caller) :
    round.begun.Knows round.scope := by
  intro mark member
  rw [made.lineage] at member
  rcases List.mem_cons.mp member with rfl | inherited
  · rw [made.madeFor.made]
    exact Nat.lt_succ_self _
  · have rests := made.waits.passes.toPrecedes
    exact knows.stays (rests.trans made.madeFor.precedes) mark inherited

theorem sound_answered (sound : round.before.timeline.Sound)
    (knows : round.before.timeline.Knows caller) : round.answered.timeline.Sound := by
  have rests := made.waits.passes
  exact made.tries.sound (made.madeFor.sound (sound.passes rests))
    (knows.stays (rests.toPrecedes.trans made.madeFor.precedes)) (made.knows_scope knows)

theorem sound (sound : round.before.timeline.Sound) (knows : round.before.timeline.Knows caller)
    (known : round.HoldsKnown) : (round.settled caller).timeline.Sound := by
  have dropped : (round.answered.timeline.cancelAll (round.dropped caller)).Sound := by
    apply (made.sound_answered sound knows).cancelAll
    intro scope member mark own
    obtain ⟨response, came, retained⟩ := mem_dropped member
    exact known response came scope retained mark own
  unfold settled
  cases done : round.isDone caller with
  | false => exact dropped
  | true =>
      apply dropped.cancel
      intro mark own
      have given := made.knows_scope knows mark (List.mem_of_mem_head? own)
      have later := (made.precedes_answered.trans
        (round.answered.timeline.precedes_cancelAll (round.dropped caller))).fresh
      omega

end MadeBy

end Round

theorem Duration.scale_zero (factor : Rat) : Duration.scale factor .zero = some .zero := by
  have nothing : Duration.secondsRounded .zero = some 0 := by decide +kernel
  have product : Binary64.round (factor * 0) = some 0 := by
    rw [Rat.mul_zero]
    rfl
  have zero : Duration.ofSecondsRounded? 0 = some .zero := by decide +kernel
  simp only [Duration.scale, nothing, bind, Option.bind, product, zero]

namespace RetryPolicy

variable {policy : RetryPolicy} {lastMile : LastMile Service} {caller : Scope}
  {request : Request} {start : Progress Service}

theorem delay_firstState (factor : Rat) :
    policy.delay (policy.firstState request) factor = some .zero := by
  have target : (policy.firstState request).target = .primary := by
    simp [RetryState.target, firstState]
  have base : policy.options.baseDelay 1 = .zero := by
    unfold RetryOptions.baseDelay
    cases policy.options.policy with
    | exponential => simp [RetryOptions.exponentialFactor, Duration.times, Duration.saturating,
        Duration.zero]
    | fixed => rfl
  have least (ceiling : Duration) : min Duration.zero ceiling = .zero := if_pos (Nat.zero_le _)
  simp only [delay, target, RetryOptions.delayFor, RetryOptions.delay]
  change (Duration.scale factor (min (policy.options.baseDelay 1) _)).map _ = _
  rw [base, least, Duration.scale_zero, Option.map_some, least]

/-- No response holds a guard of a scope that is still to be made. -/
def Unforged (policy : RetryPolicy) (lastMile : LastMile Service) (caller : Scope)
    (request : Request) (start : Progress Service) : Prop :=
  ∀ (earlier : List (Round Service)) (round : Round Service),
    policy.Reaches lastMile caller request start earlier round.state (round.left + 1)
      round.before →
    round.MadeBy caller policy lastMile request → round.HoldsKnown

theorem unforged_of_bare (bare : ∀ service request response,
    (lastMile.answer service request).1.outcome.map (Layer.inbound lastMile.layers) =
      .ok response → response.retained = []) :
    policy.Unforged lastMile caller request start := by
  intro earlier round _ made response came scope member
  rcases made.tries.answers_or_over with answers | ⟨reason, failed, _⟩
  · have outcome := answers.outcome
    rw [came] at outcome
    rw [bare _ _ response outcome.symm] at member
    exact absurd member List.not_mem_nil
  · rw [came] at failed
    contradiction

/-- The ways in which an operation may have no result: the next delay or timeout is too long.
The scope of the caller is not over then. -/
inductive Overruns (policy : RetryPolicy) (lastMile : LastMile Service) (caller : Scope)
    (request : Request) (start : Progress Service) : Prop
  | delay {earlier : List (Round Service)} {last : Round Service}
      (reached : policy.Reaches lastMile caller request start earlier last.state (last.left + 1)
        last.before)
      (made : last.MadeBy caller policy lastMile request)
      (live : last.answered.timeline.end? caller = none)
      (long : policy.delay (last.state.next (last.decision caller))
        (policy.jitter (last.settled caller).draws) = none)
  | timeout {earlier : List (Round Service)} {state : RetryState} {left : Nat}
      {progress : Progress Service} {delay : Duration} {rested : Timeline}
      (reached : policy.Reaches lastMile caller request start earlier state (left + 1) progress)
      (waited : progress.timeline.sleep caller delay = some (.finished, rested))
      (live : rested.end? caller = none)
      (long : rested.spans (policy.timeout rested caller) = false)

/-- An outcome that is there at a time: the reply to the last try, or, when the wait for a try
ends just as the deadline of the caller is reached, that the other host is refused. -/
inductive ReadyAt (policy : RetryPolicy) (lastMile : LastMile Service) (caller : Scope)
    (request : Request) (rounds : List (Round Service)) (time : Nat) :
    Except TransferError Response → Prop
  | reply {earlier : List (Round Service)} {last : Round Service}
      (parts : rounds = earlier ++ [last]) (answered : last.IsAnswered lastMile)
      (instant : last.answered.timeline.now = time) :
      ReadyAt policy lastMile caller request rounds time last.result
  | refusal {limit : Nat} {host : String} {failure : UrlFailure}
      (deadline : caller.deadline = some limit) (instant : millisAtOrAfter limit = time)
      (configured : policy.options.secondaryHost = some host)
      (refused : request.url.setHost host = .error failure) :
      ReadyAt policy lastMile caller request rounds time
        (.error (.invalid (.secondaryHost host failure)))

theorem live_of_retried {round : Round Service} (retried : round.willRetry caller = true) :
    round.answered.timeline.end? caller = none := by
  rw [Round.willRetry_eq] at retried
  have retryable := (Bool.and_eq_true_iff.mp retried).1
  cases ended : round.answered.timeline.end? caller with
  | none => rfl
  | some reason =>
      have judged : round.decision caller = .scopeOver := by
        simp only [Round.decision_eq, ended, RetryDecision.ofOutcome, Option.isSome_some, if_true]
      rw [judged] at retryable
      contradiction

namespace Reaches

variable {earlier : List (Round Service)} {state : RetryState} {left : Nat}
  {progress : Progress Service}

theorem left_pos (many : 0 < policy.options.maxTries.toNat)
    (reached : policy.Reaches lastMile caller request start earlier state left progress) :
    0 < left := by
  cases reached with
  | start => exact many
  | again _ _ retried =>
      have more := (Bool.and_eq_true_iff.mp retried).2
      exact Nat.pos_of_ne_zero (by simpa using more)

theorem sound (sound : start.timeline.Sound) (knows : start.timeline.Knows caller)
    (unforged : policy.Unforged lastMile caller request start)
    (reached : policy.Reaches lastMile caller request start earlier state left progress) :
    progress.timeline.Sound := by
  induction reached with
  | start => exact sound
  | again reached made _ ih =>
      exact made.sound ih (reached.knows knows) (unforged _ _ reached made)

theorem now_le {time : Nat} (endsBy : start.timeline.EndsBy caller time)
    (started : start.timeline.now ≤ time)
    (reached : policy.Reaches lastMile caller request start earlier state left progress) :
    progress.timeline.now ≤ time := by
  induction reached with
  | start => exact started
  | again reached made _ ih =>
      rw [Round.MadeBy.now_settled]
      exact made.now_le (endsBy.stays reached.precedes) ih

theorem settled_last {round : Round Service}
    (reached : policy.Reaches lastMile caller request start (earlier ++ [round]) state left
      progress) : progress = round.settled caller := by
  generalize rounds : earlier ++ [round] = made at reached
  cases reached with
  | start => simp at rounds
  | again _ _ _ =>
      obtain ⟨_, same⟩ := List.append_inj' rounds rfl
      obtain rfl := List.singleton_inj.mp same
      rfl

end Reaches

namespace Runs

variable {rounds : List (Round Service)}
  {value : Except Halt (Except TransferError Response × Progress Service)}

theorem last_of_over {earlier later : List (Round Service)} {round : Round Service}
    (runs : policy.Runs lastMile caller request start rounds value)
    (parts : rounds = earlier ++ round :: later)
    (spent : (round.settled caller).timeline.isOver caller = true) : later = [] := by
  cases later with
  | nil => rfl
  | cons next others =>
      rw [List.append_cons] at parts
      obtain ⟨reached, made, _⟩ := runs.split parts
      have live := made.live
      rw [reached.settled_last] at live
      rw [Timeline.isOver_iff, live] at spent
      contradiction

theorem overruns {halt : Halt} (sound : start.timeline.Sound)
    (knows : start.timeline.Knows caller)
    (unforged : policy.Unforged lastMile caller request start)
    (runs : policy.Runs lastMile caller request start rounds (.error halt)) :
    halt = .overflow ∧ policy.Overruns lastMile caller request start := by
  cases runs with
  | @undrawn earlier state left progress reached drawn =>
      refine ⟨rfl, ?_⟩
      generalize counted : left + 1 = remaining at reached
      cases reached with
      | start =>
          rw [delay_firstState] at drawn
          contradiction
      | again reached made retried => exact .delay reached made (live_of_retried retried) drawn
  | @overlong earlier state left progress delay rested reached waited long =>
      refine ⟨rfl, .timeout reached waited ?_ long⟩
      have waits := Timeline.waits_of_run waited
      apply Timeline.end?_eq_none.mpr
      refine ⟨waits.uncanceled (reached.sound sound knows unforged).ahead, ?_⟩
      intro limit deadline
      simp only [Timeline.spans, Duration.hasEnd, nanos_timeout, deadline,
        decide_eq_false_iff_not] at long
      omega

theorem now_le {result : Except TransferError Response} {final : Progress Service} {time : Nat}
    (endsBy : start.timeline.EndsBy caller time) (started : start.timeline.now ≤ time)
    (runs : policy.Runs lastMile caller request start rounds (.ok (result, final))) :
    final.timeline.now ≤ time := by
  cases runs with
  | exhausted reached => exact reached.now_le endsBy started
  | interrupted reached waited =>
      exact (Timeline.waits_of_run waited).now_le (endsBy.stays reached.precedes)
        (reached.now_le endsBy started)
  | refused reached waited =>
      exact (Timeline.waits_of_run waited).now_le (endsBy.stays reached.precedes)
        (reached.now_le endsBy started)
  | returned reached made told =>
      rw [Round.MadeBy.now_settled]
      exact made.now_le (endsBy.stays reached.precedes) (reached.now_le endsBy started)

theorem now_of_over {result : Except TransferError Response} {final : Progress Service}
    {earlier : List (Round Service)} {round : Round Service}
    (runs : policy.Runs lastMile caller request start rounds (.ok (result, final)))
    (parts : rounds = earlier ++ [round])
    (spent : (round.settled caller).timeline.isOver caller = true) :
    final.timeline.now = round.answered.timeline.now := by
  rw [← @Round.MadeBy.now_settled _ round caller]
  cases runs with
  | exhausted reached =>
      rw [parts] at reached
      rw [reached.settled_last]
  | interrupted reached waited =>
      rw [parts] at reached
      rw [reached.settled_last] at waited
      have waits := Timeline.waits_of_run waited
      cases waits with
      | unbegun => rfl
      | ended going =>
          rw [Timeline.isOver_iff, going] at spent
          contradiction
  | refused reached waited =>
      rw [parts] at reached
      rw [reached.settled_last] at waited
      rw [Timeline.isOver_iff, (Timeline.waits_of_run waited).live] at spent
      contradiction
  | returned reached made told =>
      obtain ⟨_, same⟩ := List.append_inj' parts rfl
      obtain rfl := List.singleton_inj.mp same
      rfl

/-- What an operation returns if the scope of the caller is over then: why that is over, or an
outcome that was there at that instant. -/
theorem result_of_over {result : Except TransferError Response} {final : Progress Service}
    {reason : ScopeEnd} (many : 0 < policy.options.maxTries.toNat)
    (sound : start.timeline.Sound) (knows : start.timeline.Knows caller)
    (unforged : policy.Unforged lastMile caller request start)
    (runs : policy.Runs lastMile caller request start rounds (.ok (result, final)))
    (spent : final.timeline.end? caller = some reason) :
    result = .error reason.error ∨
      policy.ReadyAt lastMile caller request rounds final.timeline.now result := by
  cases runs with
  | exhausted reached => exact absurd (reached.left_pos many) (Nat.lt_irrefl 0)
  | interrupted reached waited =>
      have ended := (Timeline.waits_of_run waited).end?_eq
      change _ = some reason at spent
      rw [ended, Option.some.injEq] at spent
      exact .inl (by rw [spent])
  | @refused earlier state left progress delay rested error reached waited refusal =>
      have waits := Timeline.waits_of_run waited
      obtain ⟨host, failure, configured, refused, rfl⟩ := refusal_of_prepare refusal
      have uncanceled := waits.uncanceled (reached.sound sound knows unforged).ahead
      cases reason with
      | canceled =>
          rw [Timeline.end?_eq_canceled.mp spent] at uncanceled
          contradiction
      | deadlineExceeded =>
          obtain ⟨_, limit, deadline, expired⟩ := Timeline.end?_eq_deadlineExceeded.mp spent
          have ahead := Timeline.lt_millisAtOrAfter
            ((Timeline.end?_eq_none.mp waits.live).2 limit deadline)
          have reachedIt : rested.now ≤ millisAtOrAfter limit :=
            waits.now_le (.inr (.inl ⟨limit, deadline, Nat.le_refl _⟩)) (Nat.le_of_lt ahead)
          have passed : millisAtOrAfter limit ≤ rested.now := by
            simp only [Timeline.instant, nanosPerMilli] at expired
            simp only [millisAtOrAfter, nanosPerMilli]
            omega
          exact .inr (.refusal deadline (Nat.le_antisymm passed reachedIt)
            (reached.configured configured) refused)
  | @returned earlier last reached made told =>
      by_cases answered : last.IsAnswered lastMile
      · exact .inr (.reply rfl answered Round.MadeBy.now_settled.symm)
      · rcases made.tries.answers_or_over with answers | ⟨tryEnd, failed, ended⟩
        · exact absurd answers answered
        · left
          have same := made.reason_eq (reached.sound sound knows unforged) (reached.knows knows)
            answered failed ended spent
          simp only [Round.result, failed, Except.map, same]

end Runs

/-- Waits and tries end with the scope of the caller, however that ends. Once it is over the
transport is not asked any more, and what the operation returns is there at that instant. -/
theorem no_try_outlasts_the_caller {given : RetryOptions}
    (valid : given.validated = .ok policy.options) (sound : start.timeline.Sound)
    (knows : start.timeline.Knows caller)
    (unforged : policy.Unforged lastMile caller request start) :
    ∃ rounds, policy.Runs lastMile caller request start rounds
        (policy.send lastMile start caller request) ∧
      (∀ earlier round later, rounds = earlier ++ round :: later →
        round.KeepsTime caller policy.options.tryTimeout ∧
        ((round.settled caller).timeline.isOver caller = true → later = [])) ∧
      (∀ time, start.timeline.now ≤ time → start.timeline.EndsBy caller time →
        ∀ round ∈ rounds, round.answered.timeline.now ≤ time) ∧
      (∀ halt, policy.send lastMile start caller request = .error halt →
        halt = .overflow ∧ policy.Overruns lastMile caller request start) ∧
      ∀ result final, policy.send lastMile start caller request = .ok (result, final) →
        final.calls = start.calls ++ rounds.flatMap (·.calls lastMile) ∧
        (∀ time, start.timeline.now ≤ time → start.timeline.EndsBy caller time →
          final.timeline.now ≤ time) ∧
        (∀ earlier last, rounds = earlier ++ [last] →
          (last.settled caller).timeline.isOver caller = true →
            final.timeline.now = last.answered.timeline.now) ∧
        ∀ reason, final.timeline.end? caller = some reason →
          result = .error reason.error ∨
            policy.ReadyAt lastMile caller request rounds final.timeline.now result := by
  obtain ⟨rounds, runs⟩ := send_runs policy lastMile start caller request
  refine ⟨rounds, runs, ?_, ?_, ?_, ?_⟩
  · intro earlier round later parts
    exact ⟨(runs.split parts).2.1.keepsTime, runs.last_of_over parts⟩
  · intro time started endsBy round member
    obtain ⟨earlier, later, parts⟩ := List.append_of_mem member
    obtain ⟨reached, made, _⟩ := runs.split parts
    exact made.now_le (endsBy.stays reached.precedes) (reached.now_le endsBy started)
  · intro halt halted
    rw [halted] at runs
    exact runs.overruns sound knows unforged
  · intro result final returned
    rw [returned] at runs
    have many := (RetryOptions.positive_of_validated valid).1
    exact ⟨runs.calls, fun time started endsBy => runs.now_le endsBy started,
      fun earlier last parts spent => runs.now_of_over parts spent,
      fun reason spent => runs.result_of_over many sound knows unforged spent⟩

def hastyScope : Scope := { lineage := [0], deadline := some 1500000000 }

theorem deadline_ends_the_second_wait :
    ∃ (policy : RetryPolicy) (rounds : List (Round Nat)) (final : Progress Nat),
    policy.send (scripted brokenThenMissing) freshStart hastyScope mainPage =
      .ok (.error .deadlineExceeded, final) ∧
    final.calls = rounds.flatMap (·.calls (scripted brokenThenMissing)) ∧
    (∀ earlier round later, rounds = earlier ++ round :: later →
      round.KeepsTime hastyScope policy.options.tryTimeout ∧
      ((round.settled hastyScope).timeline.isOver hastyScope = true → later = [])) ∧
    final.calls.length = 2 ∧ final.timeline.now = 1500 := by
  let given : RetryOptions := {
    policy := .fixed, maxTries := 4, retryDelay := .ofSeconds 1, maxRetryDelay := .ofSeconds 1
    secondaryHost := some "copy.example" }
  obtain ⟨policy, chosen, valid⟩ : ∃ policy : RetryPolicy,
      policy = ⟨{ given with tryTimeout := .ofSeconds 30 }, fun _ => 1⟩ ∧
        given.validated = .ok policy.options := ⟨_, rfl, rfl⟩
  have ended : (policy.send (scripted brokenThenMissing) freshStart hastyScope
      mainPage).toOption.map (fun sent => (sent.1.casesOn some fun _ => none,
        sent.2.calls.length, sent.2.timeline.now)) =
      some (some TransferError.deadlineExceeded, 2, 1500) := by
    rw [chosen]
    decide +kernel
  have unforged : policy.Unforged (scripted brokenThenMissing) hastyScope mainPage freshStart := by
    apply unforged_of_bare
    rintro (_ | _ | count) request response ⟨⟩ <;> rfl
  have knows : freshStart.timeline.Knows hastyScope := freshStart_lasting.ancestry
  obtain ⟨rounds, _, kept, _, _, returns⟩ :=
    no_try_outlasts_the_caller valid freshStart_sound knows unforged
  cases sent : policy.send (scripted brokenThenMissing) freshStart hastyScope mainPage with
  | error halt =>
      rw [sent] at ended
      contradiction
  | ok returned =>
      rcases returned with ⟨result, final⟩
      have calls := (returns result final sent).1
      rw [sent] at ended
      obtain ⟨failed, counted⟩ := Prod.mk.inj (Option.some.inj ended)
      obtain ⟨count, clock⟩ := Prod.mk.inj counted
      cases result with
      | ok response => contradiction
      | error error =>
          obtain rfl := Option.some.inj failed
          exact ⟨policy, rounds, final, sent, calls, kept, count, clock⟩

end RetryPolicy

end BlobTransfer
