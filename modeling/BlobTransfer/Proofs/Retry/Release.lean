import BlobTransfer.Proofs.Retry.Course
import BlobTransfer.Proofs.Retry.Law

/-!
When the scopes of tries end. A try that is done with takes its scope along; that of a try whose
response is handed on lasts as long as the response, and the scope of the caller is let alone.
-/

namespace BlobTransfer

variable {Service : Type}

structure Response.Guards (response : Response) (scope : Scope) : Prop where
  dropped : ∀ timeline, (response.drop timeline).scopes.isCanceled scope = true
  taken : ∀ timeline, (response.intoBody.drop timeline).scopes.isCanceled scope = true
  checked : ∀ timeline checked later, response.checked timeline = (checked, later) →
    (∃ error, checked = .error error ∧ later.scopes.isCanceled scope = true) ∨
      checked = .ok response ∧ later = timeline
  drained : ∀ timeline items later, response.intoBody.drain timeline = some (items, later) →
    later.scopes.isCanceled scope = true
  collected : ∀ timeline bytes later, response.intoBody.collect timeline = some (bytes, later) →
    later.scopes.isCanceled scope = true

theorem Timeline.isCanceled_cancelAll {timeline : Timeline} {scope : Scope} {ended : List Scope}
    (member : scope ∈ ended) (named : scope.lineage ≠ []) :
    (timeline.cancelAll ended).scopes.isCanceled scope = true := by
  obtain ⟨mark, others, lineage⟩ := List.exists_cons_of_ne_nil named
  apply isCanceled_iff.mpr
  refine ⟨mark, by simp [lineage], mem_canceled_cancelAll.mpr (.inr ⟨scope, member, ?_⟩)⟩
  rw [lineage, List.head?_cons]

theorem Response.guards_of_retained {response : Response} {scope : Scope}
    (retained : scope ∈ response.retained) (named : scope.lineage ≠ []) :
    response.Guards scope where
  dropped := fun _ => Timeline.isCanceled_cancelAll retained named
  taken := fun _ => Timeline.isCanceled_cancelAll retained named
  checked := by
    intro timeline checked later parts
    unfold Response.checked at parts
    split at parts
    · obtain ⟨rfl, rfl⟩ := Prod.mk.inj parts
      exact .inl ⟨_, rfl, Timeline.isCanceled_cancelAll retained named⟩
    · obtain ⟨rfl, rfl⟩ := Prod.mk.inj parts
      exact .inr ⟨rfl, rfl⟩
  drained := by
    intro timeline items later drained
    obtain ⟨_, _, parts⟩ := Option.map_eq_some_iff.mp drained
    rw [← (Prod.mk.inj parts).2]
    exact Timeline.isCanceled_cancelAll retained named
  collected := by
    intro timeline bytes later collected
    obtain ⟨_, _, parts⟩ := Option.map_eq_some_iff.mp collected
    rw [← (Prod.mk.inj parts).2]
    exact Timeline.isCanceled_cancelAll retained named

namespace Round

/-- The ways in which a round cancels a mark: it is done with its try, or the transport does so,
itself or by a guard in a response that is dropped. -/
inductive Cancels (round : Round Service) (lastMile : LastMile Service) (caller : Scope)
    (mark : Nat) : Prop
  | done (own : round.scope.lineage.head? = some mark) (isDone : round.isDone caller = true)
  | byTry (own : round.scope.lineage.head? = some mark) (answered : round.IsAnswered lastMile)
      (asked : (round.reply lastMile).cancelsTry = true)
  | byCaller (own : caller.lineage.head? = some mark) (answered : round.IsAnswered lastMile)
      (asked : (round.reply lastMile).cancelsCaller = true)
  | byGuard (guarded : ∃ scope ∈ round.dropped caller, scope.lineage.head? = some mark)

variable {round : Round Service} {caller : Scope} {policy : RetryPolicy}
  {lastMile : LastMile Service} {request : Request} {mark : Nat}

theorem isDone_of_retried (retried : round.willRetry caller = true) :
    round.isDone caller = true := by
  unfold isDone
  split
  · exact retried
  · rfl

namespace MadeBy

variable (made : round.MadeBy caller policy lastMile request)

include made

theorem lineage : round.scope.lineage = round.rested.scopes.fresh :: caller.lineage :=
  made.madeFor.lineage

theorem own_not_inherited (knows : round.before.timeline.Knows caller) :
    round.rested.scopes.fresh ∉ caller.lineage := by
  intro inherited
  have older := knows _ inherited
  have later := made.waits.passes.fresh
  omega

theorem fresh_lt : round.rested.scopes.fresh < (round.settled caller).timeline.scopes.fresh := by
  have begun : round.begun.scopes.fresh = round.rested.scopes.fresh + 1 := by
    rw [made.madeFor.made]
  have answered := made.precedes_answered.fresh
  have settled := (@precedes_settled _ round caller).fresh
  omega

theorem canceled (done : round.isDone caller = true) :
    (round.settled caller).timeline.scopes.isCanceled round.scope = true := by
  apply isCanceled_iff.mpr
  refine ⟨round.rested.scopes.fresh, by simp [made.lineage], ?_⟩
  simp only [settled, done, if_true]
  apply canceled_of_cancel
  rw [made.lineage, List.head?_cons]

theorem doomed (doomed : (round.settled caller).timeline.Doomed mark) :
    round.before.timeline.Doomed mark ∨ round.Cancels lastMile caller mark := by
  have dropped : (round.answered.timeline.cancelAll (round.dropped caller)).Doomed mark ∨
      round.Cancels lastMile caller mark := by
    cases done : round.isDone caller with
    | true =>
        simp only [settled, done, if_true] at doomed
        rcases Timeline.doomed_cancel doomed with own | before
        · exact .inr (.done own done)
        · exact .inl before
    | false =>
        simp only [settled, done, Bool.false_eq_true, if_false] at doomed
        exact .inl doomed
  have begun : round.begun.Doomed mark → round.before.timeline.Doomed mark :=
    fun doomed => made.waits.passes.doomed (made.madeFor.doomed doomed)
  rcases dropped with answered | cancels
  · rcases Timeline.doomed_cancelAll answered with guarded | answered
    · exact .inr (.byGuard guarded)
    · rcases made.tries.doomed answered with before | ⟨answers, ⟨asked, own⟩ | ⟨asked, own⟩⟩
      · exact .inl (begun before)
      · exact .inr (.byTry own answers asked)
      · exact .inr (.byCaller own answers asked)
  · exact .inr cancels

end MadeBy

end Round

namespace RetryPolicy

variable {policy : RetryPolicy} {lastMile : LastMile Service} {caller : Scope}
  {request : Request} {start : Progress Service}

namespace Reaches

variable {earlier : List (Round Service)} {state : RetryState} {left mark : Nat}
  {progress : Progress Service}

theorem knows (given : start.timeline.Knows caller)
    (reached : policy.Reaches lastMile caller request start earlier state left progress) :
    progress.timeline.Knows caller := given.stays reached.precedes

theorem canceled
    (reached : policy.Reaches lastMile caller request start earlier state left progress) :
    ∀ past ∈ earlier, progress.timeline.scopes.isCanceled past.scope = true := by
  induction reached with
  | start => exact fun past member => absurd member List.not_mem_nil
  | again _ made retried ih =>
      intro past member
      rcases List.mem_append.mp member with before | last
      · exact Timeline.isCanceled_later made.precedes (ih past before)
      · obtain rfl := List.mem_singleton.mp last
        exact made.canceled (Round.isDone_of_retried retried)

theorem doomed
    (reached : policy.Reaches lastMile caller request start earlier state left progress)
    (doomed : progress.timeline.Doomed mark) :
    start.timeline.Doomed mark ∨ ∃ past ∈ earlier, past.Cancels lastMile caller mark := by
  induction reached with
  | start => exact .inl doomed
  | @again earlier round _ made _ ih =>
      rcases made.doomed doomed with before | cancels
      · rcases ih before with first | ⟨past, member, cancels⟩
        · exact .inl first
        · exact .inr ⟨past, List.mem_append_left _ member, cancels⟩
      · exact .inr ⟨round, by simp, cancels⟩

theorem older
    (reached : policy.Reaches lastMile caller request start earlier state left progress) :
    ∀ past ∈ earlier, ∀ mark, past.scope.lineage.head? = some mark →
      mark < progress.timeline.scopes.fresh := by
  induction reached with
  | start => exact fun past member => absurd member List.not_mem_nil
  | again _ made _ ih =>
      intro past member mark own
      rcases List.mem_append.mp member with before | last
      · exact Nat.lt_of_lt_of_le (ih past before mark own) made.precedes.fresh
      · obtain rfl := List.mem_singleton.mp last
        rw [made.lineage, List.head?_cons, Option.some.injEq] at own
        exact own ▸ made.fresh_lt

end Reaches

namespace Runs

variable {rounds : List (Round Service)} {final : Progress Service} {mark : Nat}

theorem canceled_of_error {error : TransferError}
    (runs : policy.Runs lastMile caller request start rounds (.ok (.error error, final))) :
    ∀ round ∈ rounds, final.timeline.scopes.isCanceled round.scope = true := by
  intro round member
  rcases runs.cases_of_ok with
    ⟨_, _, _, _, reached, passes, _, _⟩ | ⟨earlier, last, rfl, reached, made, _, failed, rfl⟩
  · exact Timeline.isCanceled_later passes.toPrecedes (reached.canceled round member)
  · rcases List.mem_append.mp member with before | same
    · exact Timeline.isCanceled_later made.precedes (reached.canceled round before)
    · obtain rfl := List.mem_singleton.mp same
      apply made.canceled
      unfold Round.isDone
      split
      · rename_i response came
        simp only [Round.result, came, Except.map] at failed
        contradiction
      · rfl

theorem doomed {result : Except TransferError Response}
    (runs : policy.Runs lastMile caller request start rounds (.ok (result, final)))
    (doomed : final.timeline.Doomed mark) :
    start.timeline.Doomed mark ∨ ∃ round ∈ rounds, round.Cancels lastMile caller mark := by
  rcases runs.cases_of_ok with
    ⟨_, _, _, _, reached, passes, _, _⟩ | ⟨earlier, last, rfl, reached, made, _, _, rfl⟩
  · exact reached.doomed (passes.doomed doomed)
  · rcases made.doomed doomed with before | cancels
    · rcases reached.doomed before with first | ⟨past, member, cancels⟩
      · exact .inl first
      · exact .inr ⟨past, List.mem_append_left _ member, cancels⟩
    · exact .inr ⟨last, by simp, cancels⟩

theorem last_of_ok {response : Response}
    (runs : policy.Runs lastMile caller request start rounds (.ok (.ok response, final))) :
    ∃ earlier last, rounds = earlier ++ [last] ∧
      policy.Reaches lastMile caller request start earlier last.state (last.left + 1) last.before ∧
      last.MadeBy caller policy lastMile request ∧ last.isDone caller = false ∧
      last.dropped caller = [] ∧ last.scope ∈ response.retained ∧ final = last.settled caller := by
  rcases runs.cases_of_ok with
    ⟨_, _, _, _, _, _, _, failed⟩ | ⟨earlier, last, parts, reached, made, told, succeeded, settled⟩
  · contradiction
  · cases outcome : last.outcome with
    | error error =>
        simp only [Round.result, outcome, Except.map] at succeeded
        contradiction
    | ok given =>
        simp only [Round.result, outcome, Except.map, Except.ok.injEq] at succeeded
        refine ⟨earlier, last, parts, reached, made, ?_, ?_, ?_, settled⟩
        · simp only [Round.isDone, outcome, told]
        · simp only [Round.dropped, outcome, told, Bool.false_eq_true, if_false]
        · rw [succeeded]
          exact List.mem_append_right _ (List.mem_singleton.mpr rfl)

theorem own_mark {round : Round Service} {earlier later : List (Round Service)}
    {value : Except Halt (Except TransferError Response × Progress Service)}
    (runs : policy.Runs lastMile caller request start rounds value)
    (parts : rounds = earlier ++ round :: later) :
    round.scope.lineage.head? = some round.rested.scopes.fresh ∧
      start.timeline.scopes.fresh ≤ round.rested.scopes.fresh := by
  obtain ⟨reached, made, _⟩ := runs.split parts
  refine ⟨by rw [made.lineage, List.head?_cons], ?_⟩
  exact Nat.le_trans reached.precedes.fresh made.waits.passes.fresh

theorem caller_canceled {result : Except TransferError Response}
    (runs : policy.Runs lastMile caller request start rounds (.ok (result, final)))
    (older : mark < start.timeline.scopes.fresh)
    (canceled : mark ∈ final.timeline.scopes.canceled) :
    start.timeline.Doomed mark ∨ ∃ round ∈ rounds,
      (round.IsAnswered lastMile ∧ (round.reply lastMile).cancelsCaller = true) ∨
      ∃ guarded ∈ round.dropped caller, guarded.lineage.head? = some mark := by
  rcases runs.doomed (.inl canceled) with before | ⟨round, present, cancels⟩
  · exact .inl before
  · obtain ⟨earlier, later, parts⟩ := List.append_of_mem present
    obtain ⟨own, newer⟩ := runs.own_mark parts
    refine .inr ⟨round, present, ?_⟩
    cases cancels with
    | done same =>
        rw [own, Option.some.injEq] at same
        omega
    | byTry same =>
        rw [own, Option.some.injEq] at same
        omega
    | byCaller _ answered asked => exact .inl ⟨answered, asked⟩
    | byGuard guarded => exact .inr guarded

theorem last_canceled {response : Response} {earlier : List (Round Service)}
    {last : Round Service} (sound : start.timeline.Sound) (knows : start.timeline.Knows caller)
    (runs : policy.Runs lastMile caller request start rounds (.ok (.ok response, final)))
    (parts : rounds = earlier ++ [last]) (kept : last.isDone caller = false)
    (undropped : last.dropped caller = [])
    (canceled : last.rested.scopes.fresh ∈ final.timeline.scopes.canceled) :
    (last.reply lastMile).cancelsTry = true ∨ ∃ round ∈ earlier,
      ∃ guarded ∈ round.dropped caller, guarded.lineage.head? = last.scope.lineage.head? := by
  obtain ⟨own, newer⟩ := runs.own_mark parts
  obtain ⟨reached, made, _⟩ := runs.split parts
  have foreign : caller.lineage.head? ≠ some last.rested.scopes.fresh := by
    intro same
    exact made.own_not_inherited (reached.knows knows) (List.mem_of_mem_head? same)
  rcases runs.doomed (.inl canceled) with before | ⟨round, present, cancels⟩
  · have older := sound.doomed _ before
    omega
  · rw [parts] at present
    rcases List.mem_append.mp present with past | same
    · have distinct : round.scope.lineage.head? ≠ some last.rested.scopes.fresh := by
        intro same
        have older := reached.older round past _ same
        have later := made.waits.passes.fresh
        omega
      cases cancels with
      | done other => exact absurd other distinct
      | byTry other => exact absurd other distinct
      | byCaller other => exact absurd other foreign
      | byGuard guarded =>
          obtain ⟨scope, dropped, head⟩ := guarded
          exact .inr ⟨round, past, scope, dropped, head.trans own.symm⟩
    · obtain rfl := List.mem_singleton.mp same
      cases cancels with
      | done _ isDone =>
          rw [kept] at isDone
          contradiction
      | byTry _ _ asked => exact .inl asked
      | byCaller other => exact absurd other foreign
      | byGuard guarded =>
          obtain ⟨scope, dropped, _⟩ := guarded
          rw [undropped] at dropped
          exact absurd dropped List.not_mem_nil

end Runs

/-- Every try that is done with has taken its scope along when an operation returns. If it
returns a response, the scope of the last try goes on for as long as that is kept, unless the
transport or the caller ends it. The scope of the caller itself is left to others. -/
theorem try_scopes_end_with_their_tries {result : Except TransferError Response}
    {final : Progress Service} (sound : start.timeline.Sound) (knows : start.timeline.Knows caller)
    (returned : policy.send lastMile start caller request = .ok (result, final)) :
    ∃ rounds, policy.Runs lastMile caller request start rounds (.ok (result, final)) ∧
      final.calls = start.calls ++ rounds.flatMap (·.calls lastMile) ∧
      (∀ error, result = .error error →
        ∀ round ∈ rounds, final.timeline.scopes.isCanceled round.scope = true) ∧
      (∀ response, result = .ok response → ∃ earlier last, rounds = earlier ++ [last] ∧
        (∀ round ∈ earlier, final.timeline.scopes.isCanceled round.scope = true) ∧
        response.Guards last.scope ∧
        (final.timeline.scopes.isCanceled last.scope = true →
          final.timeline.scopes.isCanceled caller = true ∨
          (last.reply lastMile).cancelsTry = true ∨ ∃ round ∈ earlier,
            ∃ guarded ∈ round.dropped caller,
              guarded.lineage.head? = last.scope.lineage.head?)) ∧
      ∀ mark ∈ caller.lineage, mark ∈ final.timeline.scopes.canceled →
        start.timeline.Doomed mark ∨ ∃ round ∈ rounds,
          (round.IsAnswered lastMile ∧ (round.reply lastMile).cancelsCaller = true) ∨
          ∃ guarded ∈ round.dropped caller, guarded.lineage.head? = some mark := by
  obtain ⟨rounds, runs⟩ := send_runs policy lastMile start caller request
  rw [returned] at runs
  refine ⟨rounds, runs, runs.calls, ?_, ?_, ?_⟩
  · rintro error rfl
    exact runs.canceled_of_error
  · rintro response rfl
    obtain ⟨earlier, last, parts, reached, made, kept, undropped, retained, settled⟩ :=
      runs.last_of_ok
    have named : last.scope.lineage ≠ [] := by simp [made.lineage]
    refine ⟨earlier, last, parts, ?_, Response.guards_of_retained retained named, ?_⟩
    · intro round member
      rw [settled]
      exact Timeline.isCanceled_later made.precedes (reached.canceled round member)
    · intro canceled
      obtain ⟨mark, listed, member⟩ := isCanceled_iff.mp canceled
      rw [made.lineage] at listed
      rcases List.mem_cons.mp listed with rfl | inherited
      · exact .inr (runs.last_canceled sound knows parts kept undropped member)
      · exact .inl (isCanceled_iff.mpr ⟨mark, inherited, member⟩)
  · intro mark inherited member
    exact runs.caller_canceled (knows mark inherited) member

theorem freshStart_sound : freshStart.timeline.Sound where
  ahead := fun _ member => absurd member List.not_mem_nil
  doomed := by
    rintro mark (canceled | ⟨entry, planned, _⟩)
    · exact absurd canceled List.not_mem_nil
    · exact absurd planned List.not_mem_nil

theorem response_keeps_the_last_scope :
    ∃ (policy : RetryPolicy) (rounds : List (Round Nat)) (response : Response)
      (final : Progress Nat),
    policy.send (scripted brokenThenMissing) freshStart soleScope mainPage =
      .ok (.ok response, final) ∧
    (∃ earlier last, rounds = earlier ++ [last] ∧
      (∀ round ∈ earlier, final.timeline.scopes.isCanceled round.scope = true) ∧
      response.Guards last.scope) ∧
    final.timeline.scopes.canceled = [2, 1] ∧
    response.retained.map (·.lineage) = [[3, 0]] := by
  let policy : RetryPolicy := ⟨{
    policy := .fixed, maxTries := 4, tryTimeout := .ofSeconds 30, retryDelay := .ofSeconds 1
    maxRetryDelay := .ofSeconds 1, secondaryHost := some "copy.example" }, fun _ => 1⟩
  have ended : (policy.send (scripted brokenThenMissing) freshStart soleScope
      mainPage).toOption.bind (fun sent => sent.1.toOption.map fun response =>
        (sent.2.timeline.scopes.canceled, response.retained.map (·.lineage))) =
      some ([2, 1], [[3, 0]]) := by
    decide +kernel
  clear_value policy
  cases sent : policy.send (scripted brokenThenMissing) freshStart soleScope mainPage with
  | error halt =>
      rw [sent] at ended
      contradiction
  | ok returned =>
      rcases returned with ⟨error | response, final⟩
      · rw [sent] at ended
        contradiction
      · rw [sent] at ended
        obtain ⟨canceled, retained⟩ := Prod.mk.inj (Option.some.inj ended)
        have knows : freshStart.timeline.Knows soleScope := freshStart_lasting.ancestry
        obtain ⟨rounds, _, _, _, succeeded, _⟩ :=
          try_scopes_end_with_their_tries freshStart_sound knows sent
        obtain ⟨earlier, last, parts, spent, guards, _⟩ := succeeded response rfl
        exact ⟨policy, rounds, response, final, sent, ⟨earlier, last, parts, spent, guards⟩,
          canceled, retained⟩

end RetryPolicy

end BlobTransfer
