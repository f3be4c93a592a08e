import BlobTransfer.Proofs.Reader.Calm
import BlobTransfer.Proofs.Reader.Interplay
import BlobTransfer.Proofs.Reader.Tracking
import BlobTransfer.Proofs.Scope.Waiting

/-!
A session as moves of its reader. Retries that are planned for the time to come are calls like any
others: a body that is going to be aborted is read as if the call had come just before.
-/

namespace BlobTransfer

namespace AbortableBody

theorem abort_of_aborted {body : AbortableBody} (aborted : body.aborted = true) :
    body.abort = body := by
  obtain ⟨inner, _⟩ := body
  obtain rfl := aborted
  rfl

theorem next_planned {body rest : AbortableBody} {skipped : Bytes → Bool} {now time : Nat}
    {abortAt : Option Nat} {item : Option BodyItem}
    (answered : body.next skipped now abortAt = some (item, rest, time)) :
    (rest.aborted = false ∧ body.next skipped now none = some (item, rest, time) ∧
      ∀ abort, abortAt = some abort → time ≤ max now abort) ∨
    (rest.aborted = true ∧ body.abort.next skipped now none = some (item, rest, now) ∧
      (body.aborted = true ∨ ∃ abort, abortAt = some abort ∧ time = max now abort)) := by
  obtain ⟨inner, aborted⟩ := body
  cases inner with
  | none =>
      simp only [next, Option.some.injEq, Prod.mk.injEq] at answered
      obtain ⟨rfl, rfl, rfl⟩ := answered
      cases aborted with
      | false => exact .inl ⟨rfl, rfl, fun abort _ => Nat.le_max_left _ _⟩
      | true => exact .inr ⟨rfl, rfl, .inl rfl⟩
  | some inner =>
      cases aborted with
      | true =>
          simp only [next, if_true, Option.some.injEq, Prod.mk.injEq] at answered
          obtain ⟨rfl, rfl, rfl⟩ := answered
          exact .inr ⟨rfl, rfl, .inl rfl⟩
      | false =>
          simp only [next, Bool.false_eq_true, if_false] at answered
          cases come : inner.next skipped now with
          | none =>
              cases abortAt with
              | none => simp [come] at answered
              | some abort =>
                  simp only [come, Option.some.injEq, Prod.mk.injEq] at answered
                  obtain ⟨rfl, rfl, rfl⟩ := answered
                  exact .inr ⟨rfl, rfl, .inr ⟨abort, rfl, rfl⟩⟩
          | some found =>
              obtain ⟨item', rest', time'⟩ := found
              cases abortAt with
              | none =>
                  simp only [come, Option.some.injEq, Prod.mk.injEq] at answered
                  obtain ⟨rfl, rfl, rfl⟩ := answered
                  exact .inl ⟨rfl, by simp [next, come], by simp⟩
              | some abort =>
                  simp only [come] at answered
                  split at answered
                  · simp only [Option.some.injEq, Prod.mk.injEq] at answered
                    obtain ⟨rfl, rfl, rfl⟩ := answered
                    exact .inr ⟨rfl, rfl, .inr ⟨abort, rfl, rfl⟩⟩
                  · rename_i sooner
                    simp only [Option.some.injEq, Prod.mk.injEq] at answered
                    obtain ⟨rfl, rfl, rfl⟩ := answered
                    refine .inl ⟨rfl, by simp [next, come], ?_⟩
                    rintro _ ⟨rfl⟩
                    omega

end AbortableBody

namespace LiveBody

theorem abort_of_aborted {body : LiveBody} (aborted : body.source.aborted = true) :
    body.abort = body := by
  rw [abort, AbortableBody.abort_of_aborted aborted]

theorem fetch_planned {body : LiveBody} {source : AbortableBody} {now time : Nat}
    {abortAt : Option Nat} {result : Except IoError Bytes}
    (answered : body.fetch now abortAt = some (result, source, time)) :
    (source.aborted = false ∧ body.fetch now none = some (result, source, time) ∧
      ∀ abort, abortAt = some abort → time ≤ max now abort) ∨
    (source.aborted = true ∧ body.abort.fetch now none = some (result, source, now) ∧
      (body.source.aborted = true ∨ ∃ abort, abortAt = some abort ∧ time = max now abort)) := by
  unfold fetch at answered
  split at answered
  · rename_i empty
    obtain ⟨⟨item, left, time'⟩, found, same⟩ := Option.map_eq_some_iff.mp answered
    obtain ⟨rfl, rfl, rfl⟩ : item.getD (.ok []) = result ∧ left = source ∧ time' = time := by
      simpa using same
    obtain ⟨alive, next, sooner⟩ | ⟨aborted, next, cause⟩ := AbortableBody.next_planned found
    · exact .inl ⟨alive, by simp [fetch, empty, next], sooner⟩
    · exact .inr ⟨aborted, by simp [fetch, abort, empty, next], cause⟩
  · rename_i filled
    simp only [Option.some.injEq, Prod.mk.injEq] at answered
    obtain ⟨rfl, rfl, rfl⟩ := answered
    cases aborted : body.source.aborted with
    | false => exact .inl ⟨rfl, by simp [fetch, filled], fun abort _ => Nat.le_max_left _ _⟩
    | true =>
        refine .inr ⟨rfl, ?_, .inl rfl⟩
        rw [abort_of_aborted aborted]
        simp [fetch, filled]

theorem read_planned {body rest : LiveBody} {limit now time : Nat} {abortAt : Option Nat}
    {result : Except IoError Bytes}
    (answered : body.read limit now abortAt = some (result, rest, time)) :
    (rest.source.aborted = false ∧ body.read limit now none = some (result, rest, time) ∧
      ∀ abort, abortAt = some abort → time ≤ max now abort) ∨
    (rest.source.aborted = true ∧ body.abort.read limit now none = some (result, rest, now) ∧
      (body.source.aborted = true ∨ ∃ abort, abortAt = some abort ∧ time = max now abort)) := by
  rw [read_eq_fetch] at answered ⊢
  rw [read_eq_fetch]
  obtain ⟨⟨fetched, source, time'⟩, found, same⟩ := Option.map_eq_some_iff.mp answered
  have portioned : ∀ moment, portion limit (fetched, source, moment) = (result, rest, moment) := by
    intro moment
    cases fetched <;>
      (simp only [portion, Prod.mk.injEq] at same ⊢
       exact ⟨same.1, same.2.1, trivial⟩)
  have kept : rest.source = source ∧ time' = time := by
    cases fetched <;>
      (simp only [portion, Prod.mk.injEq] at same
       obtain ⟨_, rfl, rfl⟩ := same
       exact ⟨rfl, rfl⟩)
  obtain ⟨rfl, rfl⟩ := kept
  obtain ⟨alive, fetch, sooner⟩ | ⟨aborted, fetch, cause⟩ := fetch_planned found
  · exact .inl ⟨alive, Option.map_eq_some_iff.mpr ⟨_, fetch, same⟩, sooner⟩
  · exact .inr ⟨aborted, Option.map_eq_some_iff.mpr ⟨_, fetch, portioned now⟩, cause⟩

end LiveBody

namespace ReaderState

theorem Path.trans {state middle last : ReaderState} {moves later : List ReaderMove}
    (first : Path state moves middle) (rest : Path middle later last) :
    Path state (moves ++ later) last := by
  induction first with
  | stay => exact rest
  | step move _ ih => exact .step move (ih rest)

theorem Path.one {state next : ReaderState} {move : ReaderMove} (step : Step state move next) :
    Path state [move] next := .step step .stay

end ReaderState

namespace ReadSession

variable {Service : Type} {session middle next : ReadSession Service} {getter : Getter Service}
  {scope : Scope} {size failures : Nat}

def Timely (session : ReadSession Service) : Prop :=
  ∀ time ∈ session.forces, session.timeline.now ≤ time

structure Moved (session : ReadSession Service) (phase : ReadPhase) (bytes : Bytes)
    (next : ReadSession Service) (phase' : ReadPhase) : Prop where
  timely : next.Timely
  moves : ∃ moves, ReaderState.Path ⟨session.reader, phase⟩ moves ⟨next.reader, phase'⟩ ∧
    ReaderMove.handedOut moves = bytes ∧
    next.requests = session.requests ++ moves.filterMap ReaderMove.span? ∧
    next.failures = session.failures ++ moves.filterMap ReaderMove.report?

variable {phase phase' phase'' : ReadPhase} {bytes others : Bytes}

theorem Moved.stay (timely : next.Timely) (reader : next.reader = session.reader)
    (requests : next.requests = session.requests) (failures : next.failures = session.failures) :
    Moved session phase [] next phase :=
  ⟨timely, [], by rw [reader]; exact .stay, rfl, by simp [requests], by simp [failures]⟩

theorem Moved.trans (first : Moved session phase bytes middle phase')
    (second : Moved middle phase' others next phase'') :
    Moved session phase (bytes ++ others) next phase'' := by
  obtain ⟨_, moves, path, rfl, requests, failures⟩ := first
  obtain ⟨timely, later, path', rfl, requests', failures'⟩ := second
  refine ⟨timely, moves ++ later, path.trans path', by simp [ReaderMove.handedOut], ?_, ?_⟩
  · rw [requests', requests, List.filterMap_append, List.append_assoc]
  · rw [failures', failures, List.filterMap_append, List.append_assoc]

theorem Moved.one {move : ReaderMove} (timely : next.Timely)
    (step : ReaderState.Step ⟨session.reader, phase⟩ move ⟨next.reader, phase'⟩)
    (given : move.bytes = bytes) (requests : next.requests = session.requests ++ move.span?.toList)
    (failures : next.failures = session.failures ++ move.report?.toList) :
    Moved session phase bytes next phase' := by
  refine ⟨timely, [move], .one step, by simp [ReaderMove.handedOut, given], ?_, ?_⟩
  · cases asked : move.span? <;> simp [requests, asked]
  · cases reported : move.report? <;> simp [failures, reported]

theorem Moved.quiet {move : ReaderMove} (timely : next.Timely)
    (step : ReaderState.Step ⟨session.reader, phase⟩ move ⟨next.reader, phase'⟩)
    (requests : next.requests = session.requests) (failures : next.failures = session.failures)
    (nothing : move.bytes = []) (unasked : move.span? = none) (unreported : move.report? = none) :
    Moved session phase [] next phase' :=
  .one timely step nothing (by simp [requests, unasked]) (by simp [failures, unreported])

theorem moveTo_timely (session : ReadSession Service) (timeline : Timeline) (through : Bool) :
    (session.moveTo timeline through).Timely := by
  intro time member
  have undue := (List.mem_filter.mp member).2
  simp only [isDue, Bool.not_eq_true', Bool.or_eq_false_iff, decide_eq_false_iff_not] at undue
  exact Nat.le_of_not_lt undue.1

theorem moveTo_moved (session : ReadSession Service) (timeline : Timeline) (through : Bool)
    (phase : ReadPhase) : Moved session phase [] (session.moveTo timeline through) phase := by
  have timely := session.moveTo_timely timeline through
  cases due : session.forces.any (isDue timeline through) with
  | false => exact .stay timely (by simp [moveTo, due]) rfl rfl
  | true =>
      have forced : (session.moveTo timeline through).reader = session.reader.force := by
        simp [moveTo, due]
      have call : ReaderState.Step ⟨session.reader, phase⟩ .forced
          ⟨(session.moveTo timeline through).reader, phase⟩ := by
        rw [forced]
        exact .force
      exact .quiet timely call rfl rfl rfl rfl rfl

theorem nextForce?_eq_some {time : Nat} (planned : session.nextForce? = some time) :
    session.reader.canForce = true ∧ time ∈ session.forces := by
  unfold nextForce? at planned
  split at planned
  · rename_i abortable
    obtain contrary | ⟨entry, member, rfl⟩ := Timeline.earliest_cases planned
    · simp at contrary
    · exact ⟨abortable, member⟩
  · simp at planned

theorem nextForce?_le {time : Nat} (abortable : session.reader.canForce = true)
    (member : time ∈ session.forces) :
    ∃ first, session.nextForce? = some first ∧ first ≤ time := by
  simp only [nextForce?, abortable, if_true]
  exact Timeline.earliest_le (.inr ⟨time, member, Nat.le_refl _⟩)

theorem isDue_advanceTo (timeline : Timeline) (time moment : Nat) :
    isDue (timeline.advanceTo time) false moment = true ↔ moment < max timeline.now time := by
  simp only [isDue, Bool.false_and, Bool.or_false, decide_eq_true_eq]
  exact Iff.rfl

theorem isDue_advanceThrough (timeline : Timeline) (time moment : Nat) :
    isDue (timeline.advanceThrough time) true moment = true ↔
      moment ≤ max timeline.now time := by
  simp only [isDue, Bool.true_and, Bool.or_eq_true, decide_eq_true_eq, ← Nat.le_iff_lt_or_eq]
  exact Iff.rfl

theorem moveTo_body {body : LiveBody} (held : session.reader.body = some body)
    (timeline : Timeline) (through : Bool) :
    (session.moveTo timeline through).reader.body = some body.abort ∧
      session.reader.canForce = true ∧ (∃ time ∈ session.forces, isDue timeline through time) ∨
    (session.moveTo timeline through).reader.body = some body ∧
      (session.reader.canForce = true → ∀ time ∈ session.forces,
        isDue timeline through time = false) := by
  cases due : session.forces.any (isDue timeline through) with
  | false =>
      refine .inr ⟨by simpa [moveTo, due] using held, fun _ time member => ?_⟩
      simpa using List.any_eq_false.mp due time member
  | true =>
      cases abortable : session.reader.canForce with
      | false =>
          refine .inr ⟨?_, by simp⟩
          simpa [moveTo, due, RangeReader.force, abortable] using held
      | true =>
          refine .inl ⟨?_, rfl, List.any_eq_true.mp due⟩
          simp only [moveTo, due, if_true, session.reader.force_of_held held abortable]

theorem held_of_take {body rest : LiveBody} {limit time : Nat} {result : Except IoError Bytes}
    (timely : session.Timely) (held : session.reader.body = some body)
    (answered : body.read limit session.timeline.now session.nextForce? =
      some (result, rest, time)) :
    ∃ body' time', (session.take result rest time).2.reader.body = some body' ∧
      body'.read limit session.timeline.now none = some (result, rest, time') := by
  obtain ⟨alive, given, sooner⟩ | ⟨aborted, given, cause⟩ := LiveBody.read_planned answered
  · refine ⟨body, time, ?_, given⟩
    obtain ⟨_, abortable, moment, member, due⟩ | ⟨kept, _⟩ :=
      moveTo_body held (session.timeline.advanceTo time) false
    · obtain ⟨first, planned, least⟩ := nextForce?_le abortable member
      have early := timely moment member
      have late := sooner first planned
      rw [isDue_advanceTo] at due
      omega
    · simpa [take, alive] using kept
  · refine ⟨body.abort, session.timeline.now, ?_, given⟩
    obtain ⟨called, _⟩ | ⟨kept, undue⟩ :=
      moveTo_body held (session.timeline.advanceThrough time) true
    · simpa [take, aborted] using called
    · have already : body.source.aborted = true := by
        obtain already | ⟨abort, planned, rfl⟩ := cause
        · exact already
        · obtain ⟨abortable, member⟩ := nextForce?_eq_some planned
          have due := (isDue_advanceThrough session.timeline (max session.timeline.now abort)
            abort).mpr (by omega)
          exact absurd due (Bool.eq_false_iff.mp (undue abortable abort member))
      rw [LiveBody.abort_of_aborted already]
      simpa [take, aborted] using kept

theorem isExhausted_moveTo (session : ReadSession Service) (timeline : Timeline)
    (through : Bool) :
    (session.moveTo timeline through).reader.isExhausted = session.reader.isExhausted := by
  have same := moveTo_undisturbed session timeline through
  simp only [RangeReader.isExhausted, same.span, same.bounded]

theorem request_moved (size failures : Nat) {result : Except TransferError Unit}
    (timely : session.Timely) (unexhausted : session.reader.isExhausted = false)
    (unheld : session.reader.body = none)
    (requested : session.request getter scope = some (result, next)) :
    match result with
    | .ok () => Moved session (.reading size failures) [] next (.reading size failures) ∧
        next.reader.isExhausted = false ∧ next.reader.body.isSome = true
    | .error _ => Moved session (.reading size failures) [] next .resting := by
  have asked : Moved session (.reading size failures) []
      (session.ask (getter session.service session.reader.span).2) (.asking size failures) :=
    .one timely (.ask unexhausted unheld) rfl rfl (List.append_nil _).symm
  have moved := fun timeline through =>
    asked.trans (moveTo_moved _ timeline through (.asking size failures))
  have refuse := fun reader error => @ReaderState.Step.refuse reader size failures error
  obtain ⟨_, _, rfl, rfl⟩ | ⟨_, _, timeline, _, ⟨_, _, rfl, rfl⟩ | ⟨_, ⟨error, _, rfl, rfl⟩ |
    ⟨response, _, rfl, rfl⟩⟩⟩ := request_inversion requested
  · exact .quiet timely .leave rfl rfl rfl rfl rfl
  · exact (moved _ _).trans (.quiet (moved _ _).timely .withdraw rfl rfl rfl rfl rfl)
  · exact (moved _ _).trans (.quiet (moved _ _).timely (refuse _ error) rfl rfl rfl rfl rfl)
  · exact ⟨(moved _ _).trans (.quiet (moved timeline false).timely .answer rfl rfl rfl rfl rfl),
      (isExhausted_moveTo _ _ _).trans unexhausted, rfl⟩

/-- What a try to read is in moves: it ends the read, or it has come to a failure. -/
def Tried (session : ReadSession Service) (size failures : Nat) (next : ReadSession Service) :
    ReadTry → Prop
  | .done result =>
      Moved session (.reading size failures) (result.toOption.getD []) next .resting
  | .failed error =>
      Moved session (.reading size failures) [] next.close (.judging size failures error)

theorem giveUp_moved (size failures : Nat) {body : LiveBody} (timely : session.Timely)
    (held : session.reader.body = some body) (reason : ScopeEnd) (later : Timeline) :
    Moved session (.reading size failures) [] (session.giveUp body reason later).2 .resting := by
  let waiting : ReadSession Service := { session with reader := { session.reader with
    body := some (body.waitUntil session.timeline.now later.now) } }
  have waited : Moved session (.reading size failures) [] waiting (.reading size failures) :=
    .quiet timely (.wait held) rfl rfl rfl rfl rfl
  have moved := waited.trans (moveTo_moved waiting later (reason = ScopeEnd.canceled) _)
  exact moved.trans (.quiet moved.timely .leave rfl rfl rfl rfl rfl)

theorem await_moved (failures : Nat) {body : LiveBody} {outcome : BodyRead}
    (timely : session.Timely) (held : session.reader.body = some body)
    (awaited : session.await scope body size = some (outcome, next)) :
    match outcome with
    | .ended _ => Moved session (.reading size failures) [] next .resting
    | .read result rest => Moved session (.reading size failures) [] next (.reading size failures) ∧
        next.reader.span = session.reader.span ∧ next.reader.bounded = session.reader.bounded ∧
        ∃ body' now time, next.reader.body = some body' ∧
          body'.read (session.reader.limit size) now none = some (result, rest, time) := by
  obtain ⟨reason, rfl, rfl⟩ | ⟨reason, later, rfl, rfl⟩ |
    ⟨result, rest, time, rfl, answered, rfl⟩ := await_inversion awaited
  · exact .quiet timely .leave rfl rfl rfl rfl rfl
  · exact giveUp_moved size failures timely held reason later
  · let later := session.timeline.reach rest.source.aborted time
    have kept := moveTo_undisturbed session later rest.source.aborted
    obtain ⟨body', time', held', given⟩ := held_of_take timely held answered
    exact ⟨moveTo_moved session later rest.source.aborted _, kept.span, kept.bounded, body', _,
      time', held', given⟩

theorem readHeld_tried (failures : Nat) {outcome : ReadTry} (timely : session.Timely)
    (unexhausted : session.reader.isExhausted = false) (present : session.reader.body.isSome = true)
    (tried : session.readHeld scope size = some (outcome, next)) :
    Tried session size failures next outcome := by
  obtain ⟨unheld, _⟩ | ⟨body, given, waited, held, awaited, settled⟩ := readHeld_inversion tried
  · simp [unheld] at present
  · have moved := await_moved failures timely held awaited
    obtain ⟨reason, rfl, rfl, rfl⟩ | settled := settled
    · exact moved
    · have ready : ∀ {result rest}, given = .read result rest →
          Moved session (.reading size failures) [] waited (.reading size failures) ∧
            waited.reader.isExhausted = false ∧ ∃ body now time, waited.reader.body = some body ∧
              body.read (waited.reader.limit size) now none = some (result, rest, time) := by
        rintro result rest rfl
        obtain ⟨moved, span, bounded, body', now, time, held', given⟩ := moved
        refine ⟨moved, ?_, body', now, time, held', ?_⟩
        · simpa only [RangeReader.isExhausted, span, bounded] using unexhausted
        · simpa only [RangeReader.limit, span] using given
      obtain ⟨error, rest, same, rfl, rfl⟩ | ⟨bytes, rest, same, rfl, rfl⟩ := settled
      · obtain ⟨moved, unexhausted', body', now, time, held', given⟩ := ready same
        have closed : next.close.Timely := moved.timely
        exact moved.trans (.quiet closed (.fail unexhausted' held' given) rfl rfl rfl rfl rfl)
      · obtain ⟨moved, unexhausted', body', now, time, held', given⟩ := ready same
        have handed : (waited.deliver bytes rest).Timely := moved.timely
        exact moved.trans (.one handed (.take unexhausted' held' given) rfl
          (List.append_nil _).symm (List.append_nil _).symm)

theorem tryRead_tried (failures : Nat) {outcome : ReadTry} (timely : session.Timely)
    (tried : session.tryRead getter scope size = some (outcome, next)) :
    Tried session size failures next outcome := by
  obtain ⟨exhausted, rfl, rfl⟩ | ⟨unexhausted, ⟨held, tried⟩ | ⟨unheld, ⟨error, requested, rfl⟩ |
    ⟨asked, requested, tried⟩⟩⟩ := tryRead_inversion tried
  · exact .quiet timely (.exhaust exhausted) rfl rfl rfl rfl rfl
  · exact readHeld_tried failures timely unexhausted held tried
  · exact request_moved size failures timely unexhausted unheld requested
  · obtain ⟨moved, unexhausted', held⟩ :=
      request_moved size failures timely unexhausted unheld requested
    have tried' := readHeld_tried failures moved.timely unexhausted' held tried
    cases outcome with
    | done result => exact moved.trans tried'
    | failed error => exact moved.trans tried'

theorem Moved.retries (moved : Moved session phase bytes next phase') :
    next.reader.retries = session.reader.retries := by
  obtain ⟨_, moves, path, _⟩ := moved
  exact path.retries

theorem fail_moved {left : Nat} {error : IoError} {tried : ReadSession Service}
    (moved : Tried session size failures tried (.failed error))
    (budget : left + failures = session.reader.retries) :
    Moved session (.reading size failures) [] (tried.fail failures left error)
      (if tried.reader.mayRetry error && 0 < left then .reading size (failures + 1)
        else .resting) := by
  have retries : tried.reader.retries = session.reader.retries := moved.retries
  obtain rfl : left = tried.reader.retries - failures :=
    Nat.eq_sub_of_add_eq (budget.trans retries.symm)
  have judge := @ReaderState.Step.judge tried.close.reader size failures error _ rfl
  have planned : (tried.fail failures (tried.reader.retries - failures) error).Timely :=
    moved.timely
  exact moved.trans (.one planned judge rfl (List.append_nil _).symm rfl)

theorem readFrom_moved {left : Nat} {result : Except TransferError Bytes}
    (timely : session.Timely) (budget : left + failures = session.reader.retries)
    (finished : readFrom getter scope size left failures session = some (result, next)) :
    Moved session (.reading size failures) (result.toOption.getD []) next .resting := by
  induction left using Nat.strongRecOn generalizing session failures with
  | ind left ih =>
      obtain ⟨outcome, tried, attempt, ⟨rfl, rfl⟩ | ⟨error, rfl, settled⟩⟩ :=
        readFrom_inversion finished
      · exact tryRead_tried failures timely attempt
      · have judged := fail_moved (tryRead_tried failures timely attempt) budget
        obtain ⟨refused, rfl, rfl⟩ | ⟨fewer, rfl, again, onward⟩ := settled
        · rw [refused] at judged
          exact judged
        · simp only [again, Bool.true_and, Nat.zero_lt_succ, decide_true, if_true] at judged
          have retries := judged.retries
          exact judged.trans (ih fewer (Nat.lt_succ_self fewer) judged.timely (by omega) onward)

theorem read_moved {result : Except TransferError Bytes} (timely : session.Timely)
    (finished : session.read getter scope size = some (result, next)) :
    Moved session .resting (result.toOption.getD []) next .resting := by
  unfold read at finished
  split at finished
  · obtain ⟨rfl, rfl⟩ := Prod.mk.inj (Option.some.inj finished)
    exact .stay timely rfl rfl rfl
  · rename_i some_size
    have began : Moved session .resting [] session (.reading size 0) :=
      .quiet timely (.begin (Nat.pos_of_ne_zero some_size)) rfl rfl rfl rfl rfl
    exact began.trans (readFrom_moved timely (Nat.add_zero _) finished)

theorem use_moved {use : ReaderUse Service} (timely : session.Timely)
    (ahead : ∀ time, use = .forceAt time → session.timeline.now ≤ time)
    (used : session.use getter scope use = some (bytes, next)) :
    Moved session .resting bytes next .resting := by
  cases use with
  | read size abandonAt =>
      obtain ⟨timeline, within, result, now, read, rfl⟩ := read_of_use used
      have planned : Timely { session with timeline } := fun time member =>
        Nat.le_trans (Nat.le_of_eq now) (timely time member)
      have moved := read_moved planned read
      exact ⟨moved.timely, moved.moves⟩
  | close =>
      obtain ⟨rfl, rfl⟩ := Prod.mk.inj (Option.some.inj used)
      have closed : session.close.Timely := timely
      exact .quiet closed .close rfl rfl rfl rfl rfl
  | force =>
      obtain ⟨rfl, rfl⟩ := Prod.mk.inj (Option.some.inj used)
      have forced : Timely { session with reader := session.reader.force } := timely
      exact .quiet forced .force rfl rfl rfl rfl rfl
  | forceAt time =>
      obtain ⟨rfl, rfl⟩ := Prod.mk.inj (Option.some.inj used)
      refine .stay ?_ rfl rfl rfl
      intro planned member
      obtain before | now := List.mem_append.mp member
      · exact timely planned before
      · obtain rfl := List.mem_singleton.mp now
        exact ahead planned rfl
  | meanwhile timeline service =>
      obtain ⟨rfl, rfl⟩ := Prod.mk.inj (Option.some.inj used)
      have moved := moveTo_moved session timeline false .resting
      exact ⟨moved.timely, moved.moves⟩

def PlansAhead (session : ReadSession Service) (getter : Getter Service) (scope : Scope) :
    List (ReaderUse Service) → Prop
  | [] => True
  | next :: later =>
      (∀ time, next = .forceAt time → session.timeline.now ≤ time) ∧
        ∀ bytes middle, session.use getter scope next = some (bytes, middle) →
          middle.PlansAhead getter scope later

theorem uses_moved {uses : List (ReaderUse Service)} (timely : session.Timely)
    (ahead : session.PlansAhead getter scope uses)
    (used : session.uses getter scope uses = some (bytes, next)) :
    Moved session .resting bytes next .resting := by
  induction uses generalizing session bytes with
  | nil =>
      obtain ⟨rfl, rfl⟩ := Prod.mk.inj (Option.some.inj used)
      exact .stay timely rfl rfl rfl
  | cons use later ih =>
      obtain ⟨⟨first, middle⟩, began, continued⟩ := Option.bind_eq_some_iff.mp used
      obtain ⟨⟨others, last⟩, rest, given⟩ := Option.bind_eq_some_iff.mp continued
      obtain ⟨rfl, rfl⟩ := Prod.mk.inj (Option.some.inj given)
      have moved := use_moved timely ahead.1 began
      exact moved.trans (ih moved.timely (ahead.2 _ _ began) rest)

end ReadSession

namespace ReaderState

/-- A retry that is forced counts for the response that came last and for no other one. However
reads, answers and calls follow each other, and whatever a session uses its reader for is such a
sequence of moves: a failure is made up for, as long as some are left to be, if it is one of the
network or if a retry was forced since the response came and that can be aborted; a call that finds
nothing to abort changes nothing that comes after it; no request passes over a byte, and what was
buffered at a call is handed out before the response fails; and after the end nothing fails and
nothing more is asked for, unless the reader is closed. -/
theorem calls_count_for_their_response (initial : Option LiveResponse) (span : Span)
    (retries : Nat) :
    (∀ (Service : Type) (timeline : Timeline) (service : Service) (getter : Getter Service)
        (scope : Scope) (uses : List (ReaderUse Service)) (bytes : Bytes)
        (last : ReadSession Service),
      let session := ReadSession.start timeline service initial span retries
      session.PlansAhead getter scope uses →
      session.uses getter scope uses = some (bytes, last) →
      ∃ moves, Path (start initial span retries) moves ⟨last.reader, .resting⟩ ∧
        ReaderMove.handedOut moves = bytes ∧ moves.filterMap ReaderMove.span? = last.requests ∧
        moves.filterMap ReaderMove.report? = last.failures) ∧
    ∀ moves state, Path (start initial span retries) moves state →
      let history := (initial.map .answered).toList ++ moves
      (∀ report next, Step state (.judged report) next →
        (report.willRetry = true ↔ report.failureCount ≤ retries ∧
          (report.error.isNetwork = true ∨ ReaderMove.Forced history)) ∧
        ReaderMove.JustFailed history report.error ∧
        ∃ size failures, ReaderMove.Reading history size failures ∧
          report.failureCount = failures + 1 ∧
          next.phase = if report.willRetry then .reading size report.failureCount else .resting) ∧
      (state.isEngaged = false → ∀ later,
        (∃ last, Path state.force later last) ↔ ∃ last, Path state later last) ∧
      (∀ wanted next, Step state (.asked wanted) next →
        wanted.offset = span.offset + (ReaderMove.handedOut moves).length ∧
        wanted.count = span.count.map (· - (ReaderMove.handedOut moves).length)) ∧
      (∀ body later last, state.reader.body = some body → state.reader.canForce = true →
        Path state.force later last → .closed ∉ later → (∀ error, .failed error ∉ later) →
        (∀ source, .changed source ∉ later) →
        (∃ rest, last.reader.body = some rest ∧
          body.buffered = ReaderMove.handedOut later ++ rest.buffered) ∧
        ∀ error next, Step last (.failed error) next → error = AbortableBody.interruption ∧
          ReaderMove.handedOut later = body.buffered ∧
          next.reader.span = state.reader.span.advance body.buffered.length) ∧
      ∀ next later last, Step state (.returned []) next → Path next later last →
        .closed ∉ later → (∀ source, .changed source ∉ later) →
        ReaderMove.handedOut later = [] ∧ later.filterMap ReaderMove.span? = [] ∧
          ∀ error, .failed error ∉ later := by
  refine ⟨?_, ?_⟩
  · intro Service timeline service getter scope uses bytes last session ahead used
    have timely : session.Timely := by simp [session, ReadSession.start, ReadSession.Timely]
    obtain ⟨_, moves, path, given, requests, failures⟩ :=
      ReadSession.uses_moved timely ahead used
    exact ⟨moves, path, given, requests.symm, failures.symm⟩
  · intro moves state path history
    have sound := (sound_start initial span retries).path path
    have follows := (follows_start initial span retries).path (sound_start _ _ _) path
    have budget : state.reader.retries = retries := by
      rw [path.retries]
      cases initial <;> rfl
    refine ⟨?_, paths_of_force, ?_, ?_, ?_⟩
    · intro report next step
      rw [← budget]
      exact follows.judged step
    · intro wanted next step
      have initially : (start initial span retries).reader.span.offset = span.offset ∧
          (start initial span retries).reader.span.count = span.count := by
        cases initial <;> exact ⟨rfl, rfl⟩
      cases step
      exact ⟨initially.1 ▸ path.stands.1, initially.2 ▸ path.stands.2⟩
    · intro body later last held abortable onward unclosed unfailed unchanged
      have forced : state.force.Sound := sound.step .force
      have draining := (draining_of_force held abortable).path forced onward unclosed unfailed
        unchanged
      obtain ⟨rest, held', _, left⟩ := draining.holds
      refine ⟨⟨rest, held', left⟩, fun error next step => ?_⟩
      obtain ⟨interrupted, all⟩ := draining.failed step
      refine ⟨interrupted, all, ?_⟩
      have kept : next.reader.span = last.reader.span := by
        cases step
        rfl
      rw [kept, draining.stands, all]
    · intro next later last step onward unclosed unchanged
      exact (finished_of_returned sound step).path onward unclosed unchanged

theorem calls_count_for_one_answer :
    let response : LiveResponse :=
      { body := ⟨[.data [1, 2, 3], .data [4]], none⟩, abortable := true }
    let moves : List ReaderMove := [.began 2, .returned [1, 2], .forced, .began 2, .returned [3],
      .began 2, .failed AbortableBody.interruption]
    let report : FailedRead := ⟨1, AbortableBody.interruption, 3, none, true⟩
    ∃ state next, Path (start (some response) {} 1) moves state ∧
      Step state (.judged report) next ∧ report.failureCount ≤ 1 ∧
      (report.error.isNetwork = true ∨ ReaderMove.Forced (.answered response :: moves)) := by
  intro response moves report
  have path : Path (start (some response) {} 1) moves _ :=
    .step (.begin (by decide)) <| .step (@Step.take _ _ _ _ _ _ 0 _ rfl rfl rfl) <|
    .step .force <| .step (.begin (by decide)) <|
    .step (@Step.take _ _ _ _ _ _ 0 _ rfl rfl rfl) <| .step (.begin (by decide)) <|
    .step (@Step.fail _ _ _ _ _ _ 0 _ rfl rfl rfl) .stay
  have counts := ((calls_count_for_their_response (some response) {} 1).2 moves _ path).1
  exact ⟨_, _, path, .judge rfl, (counts report _ (.judge rfl)).1.mp rfl⟩

end ReaderState

end BlobTransfer
