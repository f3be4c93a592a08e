import BlobTransfer.Proofs.Reader.Inversion
import BlobTransfer.Proofs.Scope.Reasons

/-!
Why a read is given up: for the reason for which its scope is over. Only what the service answers in
time is passed on as it comes, even if it tells of the end of some other scope.
-/

namespace BlobTransfer

namespace ReadSession

variable {Service : Type} {session next : ReadSession Service} {getter : Getter Service}
  {scope : Scope} {size : Nat} {told : ScopeEnd}

/-- What the read came to is what the service answered to a request, while the scope lasted. -/
def Relays (getter : Getter Service) (scope : Scope) (error : TransferError)
    (next : ReadSession Service) : Prop :=
  ∃ asked : ReadSession Service, asked.timeline.end? scope = none ∧
    (getter asked.service asked.reader.span).1.outcome = .error error ∧
    asked.request getter scope = some (.error error, next)

def Explained (getter : Getter Service) (scope : Scope) (error : TransferError)
    (next : ReadSession Service) : Prop :=
  (∃ told : ScopeEnd, error = told.error ∧ next.timeline.Tells scope told) ∨
    Relays getter scope error next

theorem tells_of_await {body : LiveBody}
    (awaited : session.await scope body size = some (.ended told, next)) :
    next.timeline.Tells scope told := by
  simp only [await] at awaited
  split at awaited
  · rename_i raced
    obtain ⟨same, rfl⟩ := Prod.mk.inj (Option.some.inj awaited)
    obtain rfl := BodyRead.ended.inj same
    exact Timeline.tells_of_race raced
  · rename_i going
    have given_up : ∀ {reason later}, session.timeline.endAhead? scope = some (reason, later) →
        session.giveUp body reason later = (.ended told, next) →
        next.timeline.Tells scope told := by
      intro reason later ahead given
      obtain ⟨same, rfl⟩ := Prod.mk.inj given
      obtain rfl := BodyRead.ended.inj same
      have waits : session.timeline.Waits scope none (.ended reason) later :=
        .ended (Timeline.race_eq_none.mp going) (Timeline.endsAhead_of_endAhead? ahead)
      exact Timeline.tells_of_end? waits.end?_eq
    split at awaited
    · rename_i ahead
      split at awaited
      · exact given_up ahead (Option.some.inj awaited)
      · simp [take] at awaited
    · simp [take] at awaited
    · rename_i ahead
      exact given_up ahead (Option.some.inj awaited)
    · simp at awaited

theorem explained_of_readHeld {error : TransferError}
    (tried : session.readHeld scope size = some (.done (.error error), next)) :
    Explained getter scope error next := by
  obtain ⟨-, same, -⟩ | ⟨body, given, waited, -, awaited, outcome⟩ := readHeld_inversion tried
  · simp at same
  · obtain ⟨reason, rfl, same, rfl⟩ | ⟨_, _, _, same, -⟩ | ⟨_, _, _, same, -⟩ := outcome
    · have cause : error = reason.error := by simpa using same
      exact .inl ⟨reason, cause, tells_of_await awaited⟩
    · simp at same
    · simp at same

theorem explained_of_request {error : TransferError}
    (requested : session.request getter scope = some (.error error, next)) :
    Explained getter scope error next := by
  obtain ⟨reason, ended, same, rfl⟩ | ⟨live, waited, timeline, ran, outcome⟩ :=
    request_inversion requested
  · have cause : error = reason.error := by simpa using same
    exact .inl ⟨reason, cause, Timeline.tells_of_end? ended⟩
  · obtain ⟨reason, rfl, same, rfl⟩ | ⟨rfl, ⟨refusal, answered, same, -⟩ | ⟨_, _, same, -⟩⟩ :=
      outcome
    · have cause : error = reason.error := by simpa using same
      exact .inl ⟨reason, cause, Timeline.tells_of_end? (Timeline.waits_of_run ran).end?_eq⟩
    · have cause : error = refusal := by simpa using same
      exact .inr ⟨session, live, cause ▸ answered, requested⟩
    · simp at same

theorem explained_of_tryRead {error : TransferError}
    (tried : session.tryRead getter scope size = some (.done (.error error), next)) :
    Explained getter scope error next := by
  obtain ⟨-, same, -⟩ | ⟨-, ⟨-, held⟩ | ⟨-, ⟨refusal, refused, same⟩ | ⟨asked, -, held⟩⟩⟩ :=
    tryRead_inversion tried
  · simp at same
  · exact explained_of_readHeld held
  · have cause : error = refusal := by simpa using same
    exact explained_of_request (cause ▸ refused)
  · exact explained_of_readHeld held

theorem explained_of_readFrom {left failures : Nat} {error : TransferError}
    (context : ∀ failure, error ≠ .io failure)
    (finished : readFrom getter scope size left failures session = some (.error error, next)) :
    Explained getter scope error next := by
  induction left using Nat.strongRecOn generalizing failures session with
  | ind left ih =>
      obtain ⟨outcome, tried, attempt, ⟨rfl, rfl⟩ | ⟨failure, -, last | ⟨fewer, rfl, -, again⟩⟩⟩ :=
        readFrom_inversion finished
      · exact explained_of_tryRead attempt
      · have cause : error = .io failure := by simpa using last.2.1
        exact absurd cause (context failure)
      · exact ih fewer (Nat.lt_succ_self fewer) again

theorem explained_of_read
    (finished : session.read getter scope size = some (.error told.error, next)) :
    Explained getter scope told.error next := by
  unfold read at finished
  split at finished
  · simp at finished
  · refine explained_of_readFrom (fun failure => ?_) finished
    cases told <;> simp [ScopeEnd.error]

theorem read_of_unheld {reason : ScopeEnd} (ended : session.timeline.end? scope = some reason)
    (asking : size ≠ 0) (wanted : session.reader.isExhausted = false)
    (unheld : session.reader.body = none) :
    session.read getter scope size = some (.error reason.error, session) := by
  rw [read_of_pos (Nat.pos_of_ne_zero asking)]
  apply readFrom_of_done
  simp [tryRead, wanted, unheld, request, ended]

theorem read_of_held {body : LiveBody} (raced : session.timeline.race scope = some told)
    (asking : size ≠ 0) (wanted : session.reader.isExhausted = false)
    (held : session.reader.body = some body) :
    session.read getter scope size = some (.error told.error, session) := by
  rw [read_of_pos (Nat.pos_of_ne_zero asking)]
  apply readFrom_of_done
  simp [tryRead, wanted, held, readHeld, await, raced]

theorem read_of_ended {reason : ScopeEnd} (ended : session.timeline.end? scope = some reason)
    (asking : size ≠ 0) (wanted : session.reader.isExhausted = false) :
    ∃ told, session.read getter scope size = some (.error told.error, session) ∧
      (session.reader.body = none → told = reason) ∧
      (session.reader.body ≠ none → session.timeline.Sees scope reason told) := by
  cases held : session.reader.body with
  | none =>
      refine ⟨reason, ?_, fun _ => rfl, fun same => absurd rfl same⟩
      exact read_of_unheld ended asking wanted held
  | some body =>
      obtain ⟨told, raced, sees⟩ := Timeline.exists_race ended
      exact ⟨told, read_of_held raced asking wanted held, nofun, fun _ => sees⟩

end ReadSession

/-- Whoever tells why a scope is over tells the same, and a cancellation counts before the deadline.
But of a scope that is over for both reasons, a wait for its end and a read of a body that is held
tell what they see first, be it the deadline. In a scope that is over, no work is begun, and no
reader asks or takes anything. Waits that began before end with the scope, unless the work is ready
by then, be it at that very instant. A read may also pass on what the service itself answered in
time. -/
theorem ends_are_told_alike (timeline : Timeline) (scope : Scope) :
    (∀ reason, timeline.end? scope = some reason →
      (reason = .canceled ↔ timeline.scopes.isCanceled scope = true) ∧
      (∃ told, timeline.awaitEnd scope = some (told, timeline) ∧
        timeline.Sees scope reason told) ∧
      (∀ readyAt, timeline.run scope readyAt = some (.ended reason, timeline)) ∧
      (∀ duration, timeline.sleep scope duration = some (.ended reason, timeline)) ∧
      (∀ (State Result : Type) (work : Work State Result) (state : State) events,
        timeline.drive work scope state events = (some (.error reason), state, timeline)) ∧
      ∀ (Service : Type) (session : ReadSession Service) (getter : Getter Service) size,
        session.timeline = timeline → size ≠ 0 → session.reader.isExhausted = false →
        ∃ told, session.read getter scope size = some (.error told.error, session) ∧
          (session.reader.body = none → told = reason) ∧
          (session.reader.body ≠ none → timeline.Sees scope reason told)) ∧
    (∀ told later, timeline.awaitEnd scope = some (told, later) → later.Tells scope told) ∧
    (∀ readyAt reason later, timeline.run scope readyAt = some (.ended reason, later) →
      later.end? scope = some reason ∧
      (timeline.end? scope = none → timeline.run scope (some later.now) =
        some (.finished, timeline.advanceTo later.now))) ∧
    (∀ duration reason later, timeline.sleep scope duration = some (.ended reason, later) →
      later.end? scope = some reason) ∧
    (∀ readyAt waited later, timeline.run scope readyAt = some (waited, later) →
      ∀ times : List Nat, (∀ time ∈ times, timeline.now ≤ time ∧ time < later.now) →
        (timeline.drive (Work.readyAt readyAt) scope ()
          (times.map (fun time _ => timeline.advanceThrough time) ++ [fun _ => later])).1 =
          some waited.outcome) ∧
    (∀ (State Result : Type) (work : Work State Result) state events asked later,
      (∀ told, timeline.drive work scope state events = (some (.error told), asked, later) →
        later.Tells scope told) ∧
      ∀ event result finished, timeline.drive work scope state events = (none, asked, later) →
        work asked (event later) = (some result, finished) →
        timeline.drive work scope state (events ++ [event]) = (some (.ok result), finished)) ∧
    ∀ (Service : Type) (session next : ReadSession Service) (getter : Getter Service) size told,
      session.timeline = timeline →
      session.read getter scope size = some (.error (ScopeEnd.error told), next) →
      next.timeline.Tells scope told ∨ ReadSession.Relays getter scope told.error next := by
  refine ⟨fun reason ended => ⟨?_, ?_, ?_, ?_, ?_, ?_⟩, fun _ _ => Timeline.tells_of_awaitEnd,
    fun readyAt reason later ran => ⟨?_, fun going => ?_⟩, ?_, ?_, ?_, ?_⟩
  · rw [← Timeline.end?_eq_canceled, ended, Option.some.injEq]
  · obtain ⟨told, raced, sees⟩ := Timeline.exists_race ended
    exact ⟨told, by simp only [Timeline.awaitEnd, raced], sees⟩
  · intro readyAt
    simp only [Timeline.run, ended]
  · intro duration
    simp only [Timeline.sleep, Timeline.run, ended]
  · intro State Result work state events
    exact Timeline.drive_of_ended ended work state events
  · rintro Service session getter size rfl asking wanted
    exact ReadSession.read_of_ended ended asking wanted
  · exact (Timeline.waits_of_run ran).end?_eq
  · obtain ⟨_, _, contrary, -⟩ | ⟨_, -, ahead, -⟩ := Timeline.run_cases going ran
    · simp at contrary
    · simp only [Timeline.run, going, ahead, Nat.le_refl, if_true]
  · intro duration reason later slept
    exact (Timeline.waits_of_run slept).end?_eq
  · intro readyAt waited later ran times between
    exact Timeline.outcome_of_run ran between
  · intro State Result work state events asked later
    refine ⟨fun told driven => Timeline.tells_of_drive driven, ?_⟩
    intro event result finished silent ready
    rw [Timeline.drive_snoc event silent, Timeline.attend, ready]
  · rintro Service session next getter size told rfl finished
    obtain ⟨reason, same, tells⟩ | relayed := ReadSession.explained_of_read finished
    · have alike : told = reason := by
        cases told <;> cases reason <;> simp [ScopeEnd.error] at same ⊢
      exact .inl (alike ▸ tells)
    · exact .inr relayed

theorem expired_scope_tells_one_reason :
    let scope : Scope := { lineage := [0], deadline := some (10 * nanosPerMilli) }
    let timeline : Timeline := {}
    let expired : Timeline := { now := 10 }
    let getter : Getter Unit := fun service _ => ({ outcome := .error .canceled }, service)
    let session : ReadSession Unit := .start expired () none { count := some 4 } 0
    (expired.end? scope = some .deadlineExceeded ∧
      expired.run scope (some 10) = some (.ended .deadlineExceeded, expired) ∧
      session.read getter scope 4 = some (.error .deadlineExceeded, session)) ∧
    timeline.run scope none = some (.ended .deadlineExceeded, timeline.advanceTo 10) ∧
      (timeline.advanceTo 10).end? scope = some .deadlineExceeded ∧
      timeline.run scope (some 10) = some (.finished, timeline.advanceTo 10) := by
  intro scope timeline expired getter session
  have late : expired.end? scope = some .deadlineExceeded := by decide +kernel
  obtain ⟨atEnd, -⟩ := ends_are_told_alike expired scope
  obtain ⟨-, -, runs, -, -, reads⟩ := atEnd .deadlineExceeded late
  obtain ⟨told, read, unheld, -⟩ := reads Unit session getter 4 rfl (by decide) rfl
  obtain rfl : told = .deadlineExceeded := unheld rfl
  have going : timeline.end? scope = none := by decide +kernel
  have given_up : timeline.run scope none =
      some (.ended .deadlineExceeded, timeline.advanceTo 10) := by decide +kernel
  obtain ⟨-, -, waits, -⟩ := ends_are_told_alike timeline scope
  obtain ⟨ended, timely⟩ := waits none .deadlineExceeded (timeline.advanceTo 10) given_up
  exact ⟨⟨late, runs (some 10), read⟩, given_up, ended, timely going⟩

/-- Of a scope that is cancelled and past its deadline, a wait for its end and a read of a body that
is held see the deadline first, while all others tell of the cancellation. And a read passes it on
if the service answers, at the very end of the scope, that some other one was cancelled. -/
theorem ends_are_told_differently :
    let scope : Scope := { lineage := [0], deadline := some (10 * nanosPerMilli) }
    let getter : Getter Unit := fun service _ =>
      ({ outcome := .error .canceled, delay := some 10 }, service)
    let twice : Timeline :=
      { now := 10, scopes := { fresh := 1, canceled := [0] }, firstSeen := .deadlineExceeded }
    let holding : ReadSession Unit := .start twice () (some { body := {} }) { count := some 4 } 0
    let session : ReadSession Unit := .start {} () none { count := some 4 } 0
    (twice.end? scope = some .canceled ∧
      twice.run scope none = some (.ended .canceled, twice) ∧
      twice.awaitEnd scope = some (.deadlineExceeded, twice) ∧
      holding.read getter scope 4 = some (.error .deadlineExceeded, holding)) ∧
    ∃ next, session.read getter scope 4 = some (.error .canceled, next) ∧
      next.timeline.now = 10 ∧ next.timeline.end? scope = some .deadlineExceeded ∧
      next.timeline.awaitEnd scope = some (.deadlineExceeded, next.timeline) ∧
      next.timeline.run scope none = some (.ended .deadlineExceeded, next.timeline) ∧
      next.read getter scope 4 = some (.error .deadlineExceeded, next) := by
  intro scope getter twice holding session
  let next : ReadSession Unit :=
    { session with
      timeline := session.timeline.advanceTo 10
      requests := [session.reader.span]
      history := [.asked session.reader.span] }
  have answered : session.request getter scope = some (.error .canceled, next) := by
    have live : session.timeline.end? scope = none := by decide +kernel
    have timely : session.timeline.run scope (some 10) = some (.finished, next.timeline) := by
      decide +kernel
    rw [ReadSession.request, live]
    change (session.timeline.run scope (some 10)).bind _ = _
    rw [timely]
    rfl
  have passed_on : session.read getter scope 4 = some (.error .canceled, next) := by
    apply ReadSession.readFrom_of_done
    rw [ReadSession.tryRead, answered]
    rfl
  have expired : next.timeline.end? scope = some .deadlineExceeded := by decide +kernel
  have raced : holding.timeline.race scope = some .deadlineExceeded := by decide +kernel
  exact ⟨⟨by decide +kernel, by decide +kernel, by decide +kernel,
      ReadSession.read_of_held raced (by decide) rfl rfl⟩,
    next, passed_on, rfl, expired, by decide +kernel, by decide +kernel,
    ReadSession.read_of_unheld expired (by decide) rfl rfl⟩

end BlobTransfer
