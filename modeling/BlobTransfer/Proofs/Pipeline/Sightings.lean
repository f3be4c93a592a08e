import BlobTransfer.Pipeline.Chain
import BlobTransfer.Proofs.Pipeline.Activity

/-!
The way of a request through policies that hand it on at most once each, and back. Retries send it
on its way once for every try.
-/

namespace BlobTransfer

variable {Service : Type}

/-- There and back: what a policy hands on it sees the outcome of, which is what the next policy
gave, or what the transport answered. -/
inductive Journey (answers : Except TransferError Response → Prop) :
    List String → List Sighting → Except TransferError Response → Prop
  | arrived {outcome} (answer : answers outcome) : Journey answers [] [] outcome
  | kept {name names outcome} : Journey answers (name :: names) [.kept name outcome] outcome
  | passed {name names sightings seen outcome} (behind : Journey answers names sightings seen) :
      Journey answers (name :: names)
        (.sent name :: (sightings ++ [.seen name seen, .gave name outcome])) outcome

def Journey.Begun (names : List String) (sightings : List Sighting) : Prop :=
  ∃ whole outcome, Journey (fun _ => True) names whole outcome ∧ sightings <+: whole

inductive TryJourney (answers : Except TransferError Response → Prop) (names : List String)
    (sightings : List Sighting) : Except TransferError Response → Prop
  | back {outcome} (journey : Journey answers names sightings outcome) :
      TryJourney answers names sightings outcome
  | givenUp {reason : ScopeEnd} (begun : Journey.Begun names sightings) :
      TryJourney answers names sightings (.error reason.error)

/-- The result of an operation is the outcome of its last try, whose scope a response retains. -/
def HandsBack (outcome result : Except TransferError Response) : Prop :=
  ∃ scope, result = outcome.map (·.retain scope)

inductive Journeys (answers : Except TransferError Response → Prop) (names : List String) :
    Option (Except TransferError Response) → Nat → List Sighting → Prop
  | failed {error number} : Journeys answers names (some (.error error)) number []
  | stuck {number sightings} (begun : Journey.Begun names sightings) :
      Journeys answers names none number sightings
  | last {number sightings outcome result event}
      (journey : TryJourney answers names sightings outcome) (numbered : event.tryNumber = number)
      (final : event.willRetry = false) (handed : HandsBack outcome result) :
      Journeys answers names (some result) number (sightings ++ [.tried event outcome])
  | next {number sightings outcome result event later}
      (journey : TryJourney answers names sightings outcome) (numbered : event.tryNumber = number)
      (again : event.willRetry = true)
      (others : Journeys answers names result (number + 1) later) :
      Journeys answers names result number (sightings ++ .tried event outcome :: later)

namespace Sighting

def sender? : Sighting → Option String
  | .sent policy => some policy
  | _ => none

def viewer? : Sighting → Option String
  | .seen policy _ => some policy
  | _ => none

def isKept : Sighting → Bool
  | .kept _ _ => true
  | _ => false

end Sighting

namespace Journey

variable {answers : Except TransferError Response → Prop} {names : List String}
  {sightings : List Sighting} {outcome : Except TransferError Response}

theorem mono {others : Except TransferError Response → Prop}
    (weaker : ∀ outcome, answers outcome → others outcome)
    (journey : Journey answers names sightings outcome) :
    Journey others names sightings outcome := by
  induction journey with
  | arrived answer => exact .arrived (weaker _ answer)
  | kept => exact .kept
  | passed _ ih => exact .passed ih

theorem begun (journey : Journey answers names sightings outcome) : Begun names sightings :=
  ⟨sightings, outcome, journey.mono fun _ _ => trivial, List.prefix_rfl⟩

theorem viewers (journey : Journey answers names sightings outcome) :
    sightings.filterMap (·.viewer?) = (sightings.filterMap (·.sender?)).reverse := by
  induction journey with
  | arrived => rfl
  | kept => rfl
  | @passed name names sightings seen outcome _ ih =>
      have back : [Sighting.seen name seen, .gave name outcome].filterMap (·.sender?) = [] := rfl
      change (sightings ++ _).filterMap (·.viewer?) =
        (name :: (sightings ++ _).filterMap (·.sender?)).reverse
      rw [List.filterMap_append, List.filterMap_append, ih, back, List.append_nil,
        List.reverse_cons]
      rfl

theorem senders (journey : Journey answers names sightings outcome)
    (none_kept : sightings.all (!·.isKept) = true) : sightings.filterMap (·.sender?) = names := by
  induction journey with
  | arrived => rfl
  | kept => contradiction
  | @passed name names sightings seen outcome _ ih =>
      simp only [List.all_cons, List.all_append, Bool.and_eq_true] at none_kept
      have back : [Sighting.seen name seen, .gave name outcome].filterMap (·.sender?) = [] := rfl
      change name :: (sightings ++ _).filterMap (·.sender?) = _
      rw [List.filterMap_append, ih none_kept.2.1, back, List.append_nil]

theorem begun_nil (names : List String) : Begun names [] := by
  cases names with
  | nil => exact ⟨[], .error .canceled, .arrived trivial, List.nil_prefix⟩
  | cons name names => exact ⟨_, .error .canceled, .kept, List.nil_prefix⟩

theorem Begun.sent {name : String} (begun : Begun names sightings) :
    Begun (name :: names) (.sent name :: sightings) := by
  obtain ⟨whole, outcome, journey, part⟩ := begun
  exact ⟨_, outcome, .passed journey,
    (List.prefix_cons_inj _).mpr (part.trans (List.prefix_append _ _))⟩

theorem begun_seen {name : String} (journey : Journey answers names sightings outcome) :
    Begun (name :: names) (.sent name :: (sightings ++ [.seen name outcome])) := by
  refine ⟨_, outcome, .passed (journey.mono fun _ _ => trivial), ?_⟩
  apply (List.prefix_cons_inj _).mpr
  apply (List.prefix_append_right_inj _).mpr
  exact (List.prefix_cons_inj _).mpr List.nil_prefix

end Journey

variable {answers : Except TransferError Response → Prop} {names : List String}

def Policy.Always (policy : Policy Service)
    (returned : List Sighting → Except TransferError Response → Prop)
    (stopped : List Sighting → Prop) : Prop :=
  ∀ scope request start, (policy scope request start).Ends returned stopped

abbrev Policy.Leads (policy : Policy Service) (answers : Except TransferError Response → Prop)
    (names : List String) : Prop := policy.Always (Journey answers names) (Journey.Begun names)

def Activity.Answers
    (transport : Scope → Request → Progress Service →
      Activity Service Empty (Except TransferError Response))
    (outcome : Except TransferError Response) : Prop :=
  ∃ scope request start final, (transport scope request start).run = .ok (outcome, final)

theorem leads_transport
    (transport : Scope → Request → Progress Service →
      Activity Service Empty (Except TransferError Response)) :
    Policy.Leads (fun scope request start => (transport scope request start).unmarked)
      (Activity.Answers transport) [] := by
  intro scope request start
  apply Activity.ends_unmarked
  · intro outcome final ended
    exact .arrived ⟨scope, request, start, final, ended⟩
  · exact Journey.begun_nil []

theorem leads_link {next : Policy Service} {name : String}
    (handle : Scope → Request → Progress Service → Activity Service Empty (Handling Service))
    (leads : next.Leads answers names) :
    (Link.policy name handle next).Leads answers (name :: names) := by
  intro scope request start
  have handled := Activity.ends_of_marks
    (@Activity.marks_unmarked _ Sighting _ (handle scope request start))
  apply Activity.ends_bind handled
  · rintro _ rfl
    exact Journey.begun_nil _
  · rintro _ handling progress rfl
    cases handling with
    | keep outcome => exact Activity.ends_mark (Activity.ends_done .kept)
    | pass scope request finish giveUp =>
        have behind := Activity.ends_of_course (Activity.course_releasing giveUp _)
          (leads scope request progress)
        apply Activity.ends_mark
        apply Activity.ends_bind behind
        · intro sightings begun
          exact begun.sent
        · intro sightings seen progress journey
          apply Activity.ends_mark
          have finished := Activity.ends_of_marks
            (@Activity.marks_unmarked _ Sighting _ (finish seen progress))
          apply Activity.ends_bind finished
          · rintro _ rfl
            exact journey.begun_seen
          · rintro _ outcome final rfl
            exact Activity.ends_mark (Activity.ends_done (.passed journey))

theorem assemble_cons (factory : PolicyFactory Service) (factories : List (PolicyFactory Service))
    (transport : Policy Service) (progress : Progress Service) :
    assemble (factory :: factories) transport progress =
      factory (assemble factories transport progress).1
        (assemble factories transport progress).2 := by
  simp only [assemble, List.reverse_cons, List.foldl_append, List.foldl_cons, List.foldl_nil]

theorem leads_assemble (links : List (Link Service)) {transport : Policy Service}
    (leads : transport.Leads answers []) (progress : Progress Service) :
    (assemble (links.map (·.factory)) transport progress).1.Leads answers (links.map (·.name)) := by
  induction links with
  | nil => exact leads
  | cons link links ih =>
      rw [List.map_cons, assemble_cons]
      exact leads_link _ ih

theorem leads_requestLog {next : Policy Service} (options : RequestLogOptions)
    (leads : next.Leads answers names) : (options.policy next).Leads answers names := by
  intro scope request start
  apply Activity.ends_bind (leads _ _ _)
  · intro sightings begun
    exact begun
  · intro sightings outcome progress journey
    apply Activity.ends_done
    rw [List.append_nil]
    exact journey

theorem ends_within {next : Policy Service} (leads : next.Leads answers names)
    (scope : Scope) (request : Request) (start : Progress Service) :
    (Activity.within scope (next scope request) start).Ends (TryJourney answers names)
      (Journey.Begun names) := by
  have whole := leads scope request start
  rcases Activity.within_cases scope (next scope request) start with
    same | ⟨reason, final, ended, part⟩
  · apply Activity.ends_of_course same
    exact whole.mono (fun _ _ => .back) fun _ begun => begun
  · have begun : Journey.Begun names (next scope request start).marks := by
      cases ran : (next scope request start).run with
      | error reason => exact whole.stopped ran
      | ok ending => exact (whole.returned ran).begun
    obtain ⟨all, outcome, journey, within⟩ := begun
    constructor
    · intro other last same
      rw [ended] at same
      obtain ⟨rfl, rfl⟩ := Prod.mk.inj (Except.ok.inj same)
      exact .givenUp ⟨all, outcome, journey, part.trans within⟩
    · intro halt halted
      rw [ended] at halted
      contradiction

theorem handsBack_handBack (scope : Scope) (outcome : Except TransferError Response)
    (progress : Progress Service) :
    HandsBack outcome (RetryPolicy.handBack scope outcome progress).1 := by
  cases outcome <;> exact ⟨scope, rfl⟩

theorem ends_attempts {next : Policy Service} (policy : RetryPolicy)
    (observer : RetryPolicy.Observer Service) (caller : Scope) (request : Request)
    (leads : next.Leads answers names) (left : Nat) (state : RetryState)
    (progress : Progress Service) :
    (policy.attempts observer next caller request state left progress).Ends
      (fun sightings result => Journeys answers names (some result) state.tryNumber sightings)
      (fun sightings => Journeys answers names none state.tryNumber sightings) := by
  have stuck {number : Nat} : Journeys answers names none number [] :=
    .stuck (Journey.begun_nil names)
  induction left generalizing state progress with
  | zero => exact Activity.ends_done .failed
  | succ left ih =>
      unfold RetryPolicy.attempts
      cases policy.delay state (policy.jitter progress.draws) with
      | none => exact Activity.ends_halted stuck
      | some delay =>
          have slept := Activity.ends_of_marks
            (@Activity.marks_sleep _ Sighting caller delay
              { progress with draws := progress.draws + 1 })
          apply Activity.ends_bind slept
          · rintro _ rfl
            exact stuck
          · rintro _ (error | _) rested rfl
            · exact Activity.ends_done .failed
            · simp only
              cases RetryPolicy.prepare state request (policy.timeout rested.timeline caller) with
              | error error => exact Activity.ends_done .failed
              | ok prepared =>
                  simp only
                  split
                  · exact Activity.ends_halted stuck
                  · apply Activity.ends_bind (ends_within leads _ _ _)
                    · intro sightings begun
                      exact .stuck begun
                    · intro sightings outcome answered journey
                      let scope := (rested.timeline.childFor caller
                        (policy.timeout rested.timeline caller)).1
                      let event := RetryPolicy.judge caller state left delay scope outcome answered
                      apply Activity.ends_mark
                      by_cases again : event.willRetry = true
                      · rw [if_pos again]
                        apply (ih _ _).mono
                        · intro later result others
                          exact .next journey rfl again others
                        · intro later others
                          exact .next journey rfl again others
                      · rw [if_neg again]
                        apply Activity.ends_done
                        exact .last journey rfl (Bool.eq_false_iff.mpr again)
                          (handsBack_handBack scope outcome _)

end BlobTransfer
