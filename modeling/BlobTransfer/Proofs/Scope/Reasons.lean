import BlobTransfer.Proofs.Scope.Waiting
import BlobTransfer.Scope.Work

/-!
Why a scope is over, as told by all who wait in it or for its end. They tell the same, but for a
scope that is over for both reasons the race for its end may be won by either. A wait on the clock
comes to what looks at its work come to.
-/

namespace BlobTransfer

namespace Timeline

variable {timeline later : Timeline} {scope : Scope} {reason told : ScopeEnd}

/-- The scope has been cancelled, and its deadline has passed as well. -/
def EndsTwice (timeline : Timeline) (scope : Scope) : Prop :=
  timeline.scopes.isCanceled scope = true ∧ scope.hasExpired timeline.instant = true

/-- The scope is over, and what is told is the reason for it, if there are not two of them. -/
def Tells (timeline : Timeline) (scope : Scope) (told : ScopeEnd) : Prop :=
  ∃ reason, timeline.end? scope = some reason ∧ (¬timeline.EndsTwice scope → told = reason)

/-- What is told of a scope that is over by those who wait for its end: the reason, or what is seen
first of two. -/
structure Sees (timeline : Timeline) (scope : Scope) (reason told : ScopeEnd) : Prop where
  twice : timeline.EndsTwice scope → told = timeline.firstSeen
  once : ¬timeline.EndsTwice scope → told = reason

theorem tells_of_end? (ended : timeline.end? scope = some told) : timeline.Tells scope told :=
  ⟨told, ended, fun _ => rfl⟩

theorem race_eq_end? (once : ¬timeline.EndsTwice scope) :
    timeline.race scope = timeline.end? scope := by
  unfold EndsTwice at once
  unfold race end? Scopes.end?
  cases canceled : timeline.scopes.isCanceled scope with
  | false => cases timeline.firstSeen <;> simp
  | true =>
      have unexpired : scope.hasExpired timeline.instant = false := by simpa [canceled] using once
      cases timeline.firstSeen <;> simp [unexpired]

theorem race_of_endsTwice (twice : timeline.EndsTwice scope) :
    timeline.race scope = some timeline.firstSeen := by
  obtain ⟨canceled, expired⟩ := twice
  unfold race
  rw [canceled, expired]
  cases timeline.firstSeen <;> rfl

theorem exists_race (ended : timeline.end? scope = some reason) :
    ∃ told, timeline.race scope = some told ∧ timeline.Sees scope reason told := by
  by_cases twice : timeline.EndsTwice scope
  · exact ⟨timeline.firstSeen, race_of_endsTwice twice, fun _ => rfl, fun once => absurd twice once⟩
  · exact ⟨reason, (race_eq_end? twice).trans ended, fun same => absurd same twice, fun _ => rfl⟩

theorem tells_of_race (raced : timeline.race scope = some told) : timeline.Tells scope told := by
  cases ended : timeline.end? scope with
  | none =>
      rw [race_eq_none.mpr ended] at raced
      contradiction
  | some reason =>
      obtain ⟨other, same, sees⟩ := exists_race ended
      obtain rfl : other = told := Option.some.inj (same.symm.trans raced)
      exact ⟨reason, ended, sees.once⟩

/-! Scopes that end while someone waits. -/

theorem EndsAhead.once (going : timeline.end? scope = none)
    (ends : timeline.EndsAhead scope reason later) : ¬later.EndsTwice scope := by
  rintro ⟨canceled, expired⟩
  have waits : timeline.Waits scope none (.ended reason) later := .ended going ends
  cases ends with
  | @canceled time found sooner =>
      obtain ⟨limit, deadline, reached⟩ : ∃ limit, scope.deadline = some limit ∧
          limit ≤ (timeline.advanceThrough time).instant := by
        simpa [Scope.hasExpired, Option.any_eq_true] using expired
      have before := sooner limit deadline
      have ahead := lt_millisAtOrAfter ((end?_eq_none.mp going).2 limit deadline)
      have passed : millisAtOrAfter limit ≤ max timeline.now time := by
        simp only [advanceThrough, instant, millisAtOrAfter, nanosPerMilli] at reached ⊢
        omega
      omega
  | expired deadline sooner =>
      have uncanceled := (end?_eq_deadlineExceeded.mp waits.end?_eq).1
      rw [canceled] at uncanceled
      contradiction

theorem live_before {time : Nat} (going : timeline.end? scope = none)
    (started : timeline.now ≤ time)
    (soon : ∀ reason later, timeline.endAhead? scope = some (reason, later) → time < later.now) :
    (timeline.advanceThrough time).end? scope = none := by
  cases ahead : timeline.endAhead? scope with
  | none =>
      have endless : timeline.Endless scope := by
        simp only [Endless, awaitEnd, race_eq_none.mpr going, ahead]
      exact (endless.advanceThrough time).end?_eq
  | some ending =>
      obtain ⟨reason, later⟩ := ending
      have sooner := soon reason later ahead
      obtain ⟨uncanceled, unexpired⟩ := end?_eq_none.mp going
      have ends := endsAhead_of_endAhead? ahead
      apply end?_eq_none.mpr
      constructor
      · rw [← Bool.not_eq_true, isCanceled_iff]
        rintro ⟨mark, own, member⟩
        rcases mem_canceled_advanceThrough.mp member with old | ⟨entry, planned, due, head⟩
        · rw [isCanceled_iff.mpr ⟨mark, own, old⟩] at uncanceled
          contradiction
        · have endsBy : timeline.EndsBy scope time :=
            .inr (.inr ⟨entry, planned, due, mark, own, head⟩)
          have reached := ends.now_le going endsBy started
          omega
      · intro limit deadline
        apply Nat.lt_of_not_le
        intro passed
        have endsBy : timeline.EndsBy scope time := by
          refine .inr (.inl ⟨limit, deadline, ?_⟩)
          simp only [advanceThrough, instant, millisAtOrAfter, nanosPerMilli] at passed ⊢
          omega
        have reached := ends.now_le going endsBy started
        omega

/-! Looks at work. -/

section Looks

variable {State Result : Type} {work : Work State Result} {state asked : State}
  {events : List (Timeline → Timeline)}

theorem tells_of_attend
    (attended : timeline.attend work scope state = (some (.error told), asked, later)) :
    later.Tells scope told := by
  unfold attend at attended
  split at attended
  · simp at attended
  · obtain ⟨raced, rfl, rfl⟩ : _ ∧ _ = asked ∧ _ = later := by simpa using attended
    exact tells_of_race raced

theorem tells_of_attendAll
    (attended : timeline.attendAll work scope state events = (some (.error told), asked, later)) :
    later.Tells scope told := by
  induction events generalizing timeline state with
  | nil => exact tells_of_attend attended
  | cons event others ih =>
      rw [attendAll] at attended
      split at attended
      · rename_i first
        exact tells_of_attend (first.trans attended)
      · exact ih attended

theorem drive_of_ended (ended : timeline.end? scope = some reason) (work : Work State Result)
    (state : State) (events : List (Timeline → Timeline)) :
    timeline.drive work scope state events = (some (.error reason), state, timeline) := by
  simp only [drive, ended]

theorem tells_of_drive
    (driven : timeline.drive work scope state events = (some (.error told), asked, later)) :
    later.Tells scope told := by
  unfold drive at driven
  split at driven
  · rename_i reason ended
    obtain ⟨rfl, _, rfl⟩ : reason = told ∧ state = asked ∧ timeline = later := by
      simpa using driven
    exact tells_of_end? ended
  · exact tells_of_attendAll driven

theorem attendAll_snoc (event : Timeline → Timeline)
    (silent : timeline.attendAll work scope state events = (none, asked, later)) :
    timeline.attendAll work scope state (events ++ [event]) =
      (event later).attend work scope asked := by
  induction events generalizing timeline state with
  | nil =>
      have first : timeline.attend work scope state = (none, asked, later) := silent
      rw [List.nil_append, attendAll, first]
      rfl
  | cons next others ih =>
      rw [attendAll] at silent
      rw [List.cons_append, attendAll]
      split at silent
      · simp at silent
      · exact ih silent

theorem drive_snoc (event : Timeline → Timeline)
    (silent : timeline.drive work scope state events = (none, asked, later)) :
    timeline.drive work scope state (events ++ [event]) =
      (event later).attend work scope asked := by
  unfold drive at silent ⊢
  split at silent
  · simp at silent
  · exact attendAll_snoc event silent

theorem attendAll_of_told {result : Except ScopeEnd Result}
    (told : timeline.attend work scope state = (some result, asked, later)) :
    timeline.attendAll work scope state events = (some result, asked, later) := by
  cases events with
  | nil => exact told
  | cons event others => rw [attendAll, told]

theorem attendAll_of_silent {moments : List Timeline} (last : Timeline)
    (silent : ∀ moment ∈ timeline :: moments,
      moment.attend work scope state = (none, state, moment)) :
    timeline.attendAll work scope state (moments.map (fun moment _ => moment) ++ [fun _ => last]) =
      last.attend work scope state := by
  induction moments generalizing timeline with
  | nil =>
      have first := silent timeline List.mem_cons_self
      rw [List.map_nil, List.nil_append, attendAll, first]
      rfl
  | cons next others ih =>
      have first := silent timeline List.mem_cons_self
      rw [List.map_cons, List.cons_append, attendAll, first]
      exact ih fun moment member => silent moment (List.mem_cons_of_mem _ member)

end Looks

theorem attend_readyAt (timeline : Timeline) (scope : Scope) (readyAt : Option Nat) :
    timeline.attend (Work.readyAt readyAt) scope () =
      (if readyAt.any (· ≤ timeline.now) then some (.ok ()) else (timeline.race scope).map .error,
        (), timeline) := by
  unfold attend Work.readyAt
  cases readyAt.any (· ≤ timeline.now) <;> rfl

theorem unready_before {readyAt : Option Nat} {time last : Nat} (sooner : time ≤ last)
    (unready : readyAt.any (· ≤ last) = false) : readyAt.any (· ≤ time) = false := by
  cases readyAt with
  | none => rfl
  | some ready =>
      rw [Option.any_some, decide_eq_false_iff_not] at unready ⊢
      omega

theorem run_cases {readyAt : Option Nat} {waited : Waited} (going : timeline.end? scope = none)
    (ran : timeline.run scope readyAt = some (waited, later)) :
    (∃ ready, readyAt = some ready ∧ waited = .finished ∧ later = timeline.advanceTo ready ∧
      ∀ reason last, timeline.endAhead? scope = some (reason, last) → ready ≤ last.now) ∨
    ∃ reason, waited = .ended reason ∧ timeline.endAhead? scope = some (reason, later) ∧
      readyAt.any (· ≤ later.now) = false := by
  cases waits_of_run ran with
  | unbegun ended => simp [going] at ended
  | @finished ready _ due timely => exact .inl ⟨ready, due, rfl, rfl, timely⟩
  | @ended reason _ ends =>
      refine .inr ⟨reason, rfl, ?_⟩
      simp only [run, going] at ran
      cases ahead : timeline.endAhead? scope with
      | none => cases readyAt <;> simp [ahead] at ran
      | some ending =>
          cases readyAt with
          | none =>
              simp only [ahead] at ran
              obtain ⟨same, rfl⟩ := Prod.mk.inj (Option.some.inj ran)
              rw [← Waited.ended.inj same]
              exact ⟨rfl, rfl⟩
          | some ready =>
              simp only [ahead] at ran
              split at ran
              · simp at ran
              · rename_i late
                obtain ⟨same, rfl⟩ := Prod.mk.inj (Option.some.inj ran)
                rw [← Waited.ended.inj same]
                exact ⟨rfl, by simpa using late⟩

theorem silent_before {readyAt : Option Nat} {waited : Waited} {time : Nat}
    (going : timeline.end? scope = none)
    (ran : timeline.run scope readyAt = some (waited, later)) (started : timeline.now ≤ time)
    (soon : time < later.now) :
    readyAt.any (· ≤ time) = false ∧ (timeline.advanceThrough time).end? scope = none := by
  obtain ⟨ready, due, -, rfl, timely⟩ | ⟨reason, -, ahead, late⟩ := run_cases going ran
  · have waiting : time < ready := by
      simp only [advanceTo] at soon
      omega
    refine ⟨?_, live_before going started fun reason last ahead => ?_⟩
    · rw [due, Option.any_some, decide_eq_false_iff_not]
      omega
    · exact Nat.lt_of_lt_of_le waiting (timely reason last ahead)
  · refine ⟨unready_before (Nat.le_of_lt soon) late, live_before going started ?_⟩
    intro other last same
    obtain ⟨_, rfl⟩ := Prod.mk.inj (Option.some.inj (ahead.symm.trans same))
    exact soon

theorem attend_of_run {readyAt : Option Nat} {waited : Waited} (going : timeline.end? scope = none)
    (ran : timeline.run scope readyAt = some (waited, later)) :
    (later.attend (Work.readyAt readyAt) scope ()).1 = some waited.outcome := by
  rw [attend_readyAt]
  obtain ⟨ready, due, rfl, rfl, -⟩ | ⟨reason, rfl, ahead, late⟩ := run_cases going ran
  · have reached : ready ≤ (timeline.advanceTo ready).now := Nat.le_max_right _ _
    rw [due, Option.any_some, decide_eq_true reached]
    rfl
  · have ends := endsAhead_of_endAhead? ahead
    have waits : timeline.Waits scope readyAt (.ended reason) later := .ended going ends
    rw [late, race_eq_end? (ends.once going), waits.end?_eq]
    rfl

/-- To wait on the clock for work is to look at it now, at any times before the wait is over, and
then. -/
theorem outcome_of_run {readyAt : Option Nat} {waited : Waited}
    (ran : timeline.run scope readyAt = some (waited, later)) {times : List Nat}
    (between : ∀ time ∈ times, timeline.now ≤ time ∧ time < later.now) :
    (timeline.drive (Work.readyAt readyAt) scope ()
      (times.map (fun time _ => timeline.advanceThrough time) ++ [fun _ => later])).1 =
      some waited.outcome := by
  cases going : timeline.end? scope with
  | some reason =>
      simp only [run, going, Option.some.injEq, Prod.mk.injEq] at ran
      rw [drive_of_ended going, ← ran.1]
      rfl
  | none =>
      have last := attend_of_run going ran
      simp only [drive, going]
      cases ready : readyAt.any (· ≤ timeline.now) with
      | true =>
          have first := timeline.attend_readyAt scope readyAt
          rw [ready, if_pos rfl] at first
          rw [attendAll_of_told first, ← last, attend_readyAt]
          have lasting : readyAt.any (· ≤ later.now) = true := by
            rw [← Bool.not_eq_false]
            intro unready
            rw [unready_before (waits_of_run ran).passes.now unready] at ready
            contradiction
          rw [lasting, if_pos rfl]
      | false =>
          have moments : times.map (fun time (_ : Timeline) => timeline.advanceThrough time) =
              (times.map timeline.advanceThrough).map fun moment _ => moment := by
            rw [List.map_map]
            rfl
          rw [moments, attendAll_of_silent later, last]
          have silent : ∀ moment : Timeline, readyAt.any (· ≤ moment.now) = false →
              moment.end? scope = none →
              moment.attend (Work.readyAt readyAt) scope () = (none, (), moment) := by
            intro moment unready live
            rw [attend_readyAt, unready, race_eq_none.mpr live]
            rfl
          intro moment member
          rcases List.mem_cons.mp member with rfl | passed
          · exact silent moment ready going
          · obtain ⟨time, listed, rfl⟩ := List.mem_map.mp passed
            obtain ⟨started, soon⟩ := between time listed
            obtain ⟨unready, live⟩ := silent_before going ran started soon
            refine silent _ ?_ live
            have reached : (timeline.advanceThrough time).now = time := Nat.max_eq_right started
            rw [reached]
            exact unready

/-! The end of a scope, awaited. -/

theorem tells_of_awaitEnd (awaited : timeline.awaitEnd scope = some (told, later)) :
    later.Tells scope told := by
  unfold awaitEnd at awaited
  split at awaited
  · rename_i reason raced
    obtain ⟨rfl, rfl⟩ := Prod.mk.inj (Option.some.inj awaited)
    exact tells_of_race raced
  · rename_i going
    have waits : timeline.Waits scope none (.ended told) later :=
      .ended (race_eq_none.mp going) (endsAhead_of_endAhead? awaited)
    exact tells_of_end? waits.end?_eq

end Timeline

end BlobTransfer
