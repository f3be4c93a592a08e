import BlobTransfer.Proofs.Reader.Tracking
import Mathlib.Logic.Relation

/-!
Reading step by step. Whatever a read does to a session is a run of a few kinds of steps; what each
of them preserves, with a request that is refused at the end, holds after every read.
-/

namespace BlobTransfer

theorem Timeline.run_now {timeline later : Timeline} {scope : Scope} {waited : Waited}
    (live : timeline.end? scope = none)
    (ran : timeline.run scope (some timeline.now) = some (waited, later)) :
    waited = .finished := by
  have onward : ∀ reason ahead, timeline.endAhead? scope = some (reason, ahead) →
      timeline.now ≤ ahead.now := by
    intro reason ahead found
    simp only [endAhead?] at found
    split at found
    · split at found <;>
        (simp only [Option.some.injEq, Prod.mk.injEq] at found
         obtain ⟨_, rfl⟩ := found
         exact Nat.le_max_left _ _)
    · simp only [Option.some.injEq, Prod.mk.injEq] at found
      obtain ⟨_, rfl⟩ := found
      exact Nat.le_max_left _ _
    · simp only [Option.some.injEq, Prod.mk.injEq] at found
      obtain ⟨_, rfl⟩ := found
      exact Nat.le_max_left _ _
    · simp at found
  simp only [run, live] at ran
  cases ahead : timeline.endAhead? scope with
  | none =>
      simp only [ahead, Option.some.injEq, Prod.mk.injEq] at ran
      exact ran.1.symm
  | some found =>
      have reached := onward found.1 found.2 ahead
      simp only [ahead, reached, if_true, Option.some.injEq, Prod.mk.injEq] at ran
      exact ran.1.symm

namespace ReadSession

variable {Service : Type} {getter : Getter Service} {session middle next : ReadSession Service}

inductive Step (getter : Getter Service) (session : ReadSession Service) :
    ReadSession Service → Prop
  | wait {later} (same : Undisturbed session later) (kept : later.service = session.service) :
      Step getter session later
  | answer {response asked}
      (unheld : session.reader.body = none) (unexhausted : session.reader.isExhausted = false)
      (answered : (getter session.service session.reader.span).1.outcome = .ok response)
      (same : Undisturbed (session.ask (getter session.service session.reader.span).2) asked)
      (kept : asked.service = (getter session.service session.reader.span).2) :
      Step getter session (asked.install response)
  | deliver {body bytes rest waited} (held : session.reader.body = some body)
      (same : Undisturbed session waited) (kept : waited.service = session.service)
      (front : body.readable = bytes ++ rest.readable)
      (fits : ∀ count, session.reader.span.count = some count → bytes.length ≤ count) :
      Step getter session (waited.deliver bytes rest)
  | close : Step getter session session.close

abbrev Steps (getter : Getter Service) : ReadSession Service → ReadSession Service → Prop :=
  Relation.ReflTransGen (Step getter)

structure Refused (getter : Getter Service) (session : ReadSession Service) (error : TransferError)
    (next : ReadSession Service) : Prop where
  unheld : session.reader.body = none
  unexhausted : session.reader.isExhausted = false
  same : Undisturbed (session.ask (getter session.service session.reader.span).2) next
  kept : next.service = (getter session.service session.reader.span).2
  cause : (getter session.service session.reader.span).1.outcome = .error error ∨
    (getter session.service session.reader.span).1.delay ≠ some 0

/-- Steps up to a request that is refused, if there is one; then nothing more happens. -/
inductive Passage (getter : Getter Service) (session : ReadSession Service) :
    Option TransferError → ReadSession Service → Prop
  | plain {later} (steps : Steps getter session later) : Passage getter session none later
  | refused {asking error later} (steps : Steps getter session asking)
      (refused : Refused getter asking error later) : Passage getter session (some error) later

theorem Passage.after {refusal : Option TransferError} (steps : Steps getter session middle)
    (passage : Passage getter middle refusal next) : Passage getter session refusal next := by
  cases passage with
  | plain later => exact .plain (steps.trans later)
  | refused later refused => exact .refused (steps.trans later) refused

theorem Passage.preserve (Invariant : ReadSession Service → Prop)
    {refusal : Option TransferError} (passage : Passage getter session refusal next)
    (initial : Invariant session)
    (step : ∀ {session next}, Invariant session → Step getter session next → Invariant next)
    (refuse : ∀ {session error next}, Invariant session → Refused getter session error next →
      Invariant next) : Invariant next := by
  have along : ∀ {last}, Steps getter session last → Invariant last := by
    intro last steps
    induction steps with
    | refl => exact initial
    | tail _ moved ih => exact step ih moved
  cases passage with
  | plain steps => exact along steps
  | refused steps refused => exact refuse (along steps) refused

theorem request_cases {scope : Scope} {result : Except TransferError Unit}
    (requested : session.request getter scope = some (result, next)) :
    (∃ reason, session.timeline.end? scope = some reason ∧ result = .error reason.error ∧
      next = session) ∨
    session.timeline.end? scope = none ∧
    ∃ asked, Undisturbed (session.ask (getter session.service session.reader.span).2) asked ∧
      asked.service = (getter session.service session.reader.span).2 ∧
      ((∃ error, result = .error error ∧ next = asked ∧
          ((getter session.service session.reader.span).1.outcome = .error error ∨
            (getter session.service session.reader.span).1.delay ≠ some 0)) ∨
        ∃ response, result = .ok () ∧ next = asked.install response ∧
          (getter session.service session.reader.span).1.outcome = .ok response) := by
  have same := session.askedUntil_undisturbed getter
  obtain ⟨reason, ended, rfl, rfl⟩ | ⟨live, waited, timeline, ran, settled⟩ :=
    request_inversion requested
  · exact .inl ⟨reason, ended, rfl, rfl⟩
  · refine .inr ⟨live, ?_⟩
    obtain ⟨reason, rfl, rfl, rfl⟩ | ⟨rfl, ⟨error, refused, rfl, rfl⟩ |
      ⟨response, answered, rfl, rfl⟩⟩ := settled
    · refine ⟨_, same _ _, rfl, .inl ⟨_, rfl, rfl, .inr ?_⟩⟩
      intro immediate
      rw [immediate, Option.map_some, Nat.add_zero] at ran
      exact absurd (Timeline.run_now live ran) (by simp)
    · exact ⟨_, same _ _, rfl, .inl ⟨_, rfl, rfl, .inl refused⟩⟩
    · exact ⟨_, same _ _, rfl, .inr ⟨_, rfl, rfl, answered⟩⟩

theorem request_passage {scope : Scope} {result : Except TransferError Unit}
    (unheld : session.reader.body = none) (unexhausted : session.reader.isExhausted = false)
    (requested : session.request getter scope = some (result, next)) :
    ∃ refusal, Passage getter session refusal next ∧
      (∀ error, refusal = some error → result = .error error) ∧
      (result = .ok () → Step getter session next) := by
  obtain ⟨reason, _, rfl, rfl⟩ | ⟨_, asked, same, kept, ⟨error, rfl, rfl, cause⟩ |
    ⟨response, rfl, rfl, answered⟩⟩ := request_cases requested
  · exact ⟨none, .plain .refl, by simp, by simp⟩
  · exact ⟨error, .refused .refl ⟨unheld, unexhausted, same, kept, cause⟩, by simp, by simp⟩
  · have step : Step getter session _ := .answer unheld unexhausted answered same kept
    exact ⟨none, .plain (.single step), by simp, fun _ => step⟩

theorem await_service {scope : Scope} {body : LiveBody} {size : Nat} {outcome : BodyRead}
    (awaited : session.await scope body size = some (outcome, next)) :
    next.service = session.service := by
  obtain ⟨_, _, rfl⟩ | ⟨_, _, _, rfl⟩ | ⟨_, _, _, _, _, rfl⟩ := await_inversion awaited <;> rfl

theorem readHeld_steps {scope : Scope} {size : Nat} {outcome : ReadTry}
    (tried : session.readHeld scope size = some (outcome, next)) : Steps getter session next := by
  obtain ⟨_, _, rfl⟩ | ⟨body, given, waited, held, awaited, settled⟩ := readHeld_inversion tried
  · exact .refl
  · obtain ⟨same, taken⟩ := await_undisturbed held awaited
    have kept := await_service awaited
    obtain ⟨_, _, _, rfl⟩ | ⟨_, _, _, _, rfl⟩ | ⟨bytes, rest, rfl, _, rfl⟩ := settled
    · exact .single (.wait same kept)
    · exact .single (.wait same kept)
    · obtain ⟨front, fits⟩ := taken bytes rest rfl
      refine .single (.deliver held same kept front ?_)
      intro count counted
      simp only [RangeReader.limit, counted] at fits
      omega

theorem tryRead_passage {scope : Scope} {size : Nat} {outcome : ReadTry}
    (tried : session.tryRead getter scope size = some (outcome, next)) :
    ∃ refusal, Passage getter session refusal next ∧
      ∀ error, refusal = some error → outcome = .done (.error error) := by
  obtain ⟨_, rfl, rfl⟩ | ⟨unexhausted, ⟨_, tried⟩ | ⟨unheld, ⟨error, requested, rfl⟩ |
    ⟨asked, requested, tried⟩⟩⟩ := tryRead_inversion tried
  · exact ⟨none, .plain .refl, by simp⟩
  · exact ⟨none, .plain (readHeld_steps tried), by simp⟩
  · obtain ⟨refusal, passage, refused, _⟩ := request_passage unheld unexhausted requested
    exact ⟨refusal, passage, fun error same => by simpa using refused error same⟩
  · obtain ⟨_, _, _, answered⟩ := request_passage unheld unexhausted requested
    exact ⟨none, .plain (.head (answered rfl) (readHeld_steps tried)), by simp⟩

theorem fail_steps (session : ReadSession Service) (failures left : Nat) (error : IoError) :
    Steps getter session (session.fail failures left error) :=
  .tail (.single .close) (.wait ⟨rfl, rfl, fun _ holds => holds, rfl, rfl⟩ rfl)

theorem Passage.steps_of_failed {refusal : Option TransferError} {error : IoError}
    (passage : Passage getter session refusal next)
    (refused : ∀ refused, refusal = some refused →
      ReadTry.failed error = .done (.error refused)) : Steps getter session next := by
  cases passage with
  | plain steps => exact steps
  | refused steps reason => simp at refused

theorem readFrom_passage {scope : Scope} {size left failures : Nat}
    {result : Except TransferError Bytes}
    (finished : readFrom getter scope size left failures session = some (result, next)) :
    ∃ refusal, Passage getter session refusal next ∧
      ∀ error, refusal = some error → result = .error error := by
  induction left using Nat.strongRecOn generalizing session failures with
  | ind left ih =>
      obtain ⟨outcome, tried, attempt, ⟨rfl, rfl⟩ | ⟨error, rfl, settled⟩⟩ :=
        readFrom_inversion finished
      · obtain ⟨refusal, passage, refused⟩ := tryRead_passage attempt
        exact ⟨refusal, passage, fun error same => by simpa using refused error same⟩
      · obtain ⟨refusal, passage, refused⟩ := tryRead_passage attempt
        have closed : Steps getter session (tried.fail failures left error) :=
          (passage.steps_of_failed refused).trans (fail_steps tried failures left error)
        obtain ⟨_, rfl, rfl⟩ | ⟨fewer, rfl, _, onward⟩ := settled
        · exact ⟨none, .plain closed, by simp⟩
        · obtain ⟨refusal', passage', refused'⟩ := ih fewer (Nat.lt_succ_self fewer) onward
          exact ⟨refusal', passage'.after closed, refused'⟩

theorem read_passage {scope : Scope} {size : Nat} {result : Except TransferError Bytes}
    (finished : session.read getter scope size = some (result, next)) :
    ∃ refusal, Passage getter session refusal next ∧
      ∀ error, refusal = some error → result = .error error := by
  unfold read at finished
  split at finished
  · simp only [Option.some.injEq, Prod.mk.injEq] at finished
    obtain ⟨_, rfl⟩ := finished
    exact ⟨none, .plain .refl, by simp⟩
  · exact readFrom_passage finished

end ReadSession

end BlobTransfer
