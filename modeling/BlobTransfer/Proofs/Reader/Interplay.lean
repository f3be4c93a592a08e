import BlobTransfer.Proofs.Reader.Basic
import BlobTransfer.Proofs.Reader.Content
import BlobTransfer.Reader.Interplay

/-!
What calls that force a retry do to a reader, whenever they come: they count for the response that
came last and for no other one, what was buffered of it is still handed out, and an end that was
seen stays an end.
-/

namespace BlobTransfer

namespace AbortableBody

variable {body rest : AbortableBody} {skipped : Bytes → Bool} {now time : Nat}
  {abortAt : Option Nat}

theorem ended_of_next (answered : body.next skipped now abortAt = some (none, rest, time)) :
    rest.inner = none := by
  simp only [next] at answered
  split at answered
  · rename_i ended
    simp only [Option.some.injEq, Prod.mk.injEq] at answered
    exact answered.2.1 ▸ ended
  · split at answered
    · simp at answered
    · split at answered
      · split at answered
        · simp at answered
        · simp only [Option.some.injEq, Prod.mk.injEq] at answered
          obtain ⟨rfl, rfl, _⟩ := answered
          rfl
      · simp only [Option.some.injEq, Prod.mk.injEq] at answered
        obtain ⟨rfl, rfl, _⟩ := answered
        rfl
      · simp at answered
      · simp at answered

theorem next_of_aborted {item : Option BodyItem} (aborted : body.aborted = true)
    (answered : body.next skipped now abortAt = some (item, rest, time)) :
    item = none ∧ rest = body ∨ item = some (.error interruption) := by
  simp only [next, aborted, if_true] at answered
  split at answered
  · simp only [Option.some.injEq, Prod.mk.injEq] at answered
    exact .inl ⟨answered.1.symm, answered.2.1.symm⟩
  · simp only [Option.some.injEq, Prod.mk.injEq] at answered
    exact .inr answered.1.symm

end AbortableBody

namespace LiveBody

variable {body rest : LiveBody} {limit now time : Nat} {abortAt : Option Nat}

theorem front_of_aborted {result : Except IoError Bytes} (aborted : body.source.aborted = true)
    (answered : body.read limit now abortAt = some (result, rest, time)) :
    (∀ bytes, result = .ok bytes → rest.source = body.source ∧
      body.buffered = bytes ++ rest.buffered) ∧
    ∀ error, result = .error error → error = AbortableBody.interruption ∧ body.buffered = [] := by
  unfold read at answered
  split at answered
  · rename_i empty
    obtain ⟨⟨item, source, time'⟩, found, same⟩ := Option.map_eq_some_iff.mp answered
    rw [List.isEmpty_iff] at empty
    obtain ⟨rfl, rfl⟩ | rfl := AbortableBody.next_of_aborted aborted found
    · simp only [Prod.mk.injEq] at same
      obtain ⟨rfl, rfl, _⟩ := same
      simp [empty]
    · simp only [Prod.mk.injEq] at same
      obtain ⟨rfl, rfl, _⟩ := same
      simp [empty]
  · simp only [Option.some.injEq, Prod.mk.injEq] at answered
    obtain ⟨rfl, rfl, _⟩ := answered
    simp

def Ended (body : LiveBody) : Prop := body.source.inner = none ∧ body.buffered = []

theorem ended_of_read (positive : 0 < limit)
    (answered : body.read limit now abortAt = some (.ok [], rest, time)) : rest.Ended := by
  unfold read at answered
  split at answered
  · obtain ⟨⟨item, source, time'⟩, found, same⟩ := Option.map_eq_some_iff.mp answered
    have taken := AbortableBody.takes_of_next found
    cases item with
    | none =>
        simp only [Prod.mk.injEq] at same
        obtain ⟨_, rfl, _⟩ := same
        exact ⟨AbortableBody.ended_of_next found, rfl⟩
    | some result =>
        cases result with
        | error error => simp at same
        | ok bytes =>
            simp only [Prod.mk.injEq, Except.ok.injEq, List.take_eq_nil_iff] at same
            exact absurd same.1 (by simp [taken.2]; omega)
  · rename_i filled
    simp only [Option.some.injEq, Prod.mk.injEq, Except.ok.injEq, List.take_eq_nil_iff] at answered
    rw [List.isEmpty_iff] at filled
    exact absurd answered.1 (by simp [filled]; omega)

theorem Ended.read (ended : body.Ended) (limit now : Nat) (abortAt : Option Nat) :
    body.read limit now abortAt = some (.ok [], body, now) := by
  obtain ⟨source, buffered⟩ := body
  obtain ⟨finished, empty⟩ := ended
  dsimp only at finished empty
  subst empty
  simp [LiveBody.read, AbortableBody.next, finished]

theorem Ended.abort (ended : body.Ended) : body.abort.Ended := ended

theorem Ended.waitUntil (ended : body.Ended) (now limit : Nat) :
    (body.waitUntil now limit).Ended := by
  unfold LiveBody.waitUntil
  split
  · exact ⟨by simp [AbortableBody.waitUntil, ended.1], ended.2⟩
  · exact ended

theorem buffered_waitUntil (body : LiveBody) (now limit : Nat) :
    (body.waitUntil now limit).buffered = body.buffered ∧
      (body.waitUntil now limit).source.aborted = body.source.aborted := by
  unfold waitUntil
  split <;> exact ⟨rfl, rfl⟩

end LiveBody

namespace ReaderMove

section Since

variable {Load : Type} {mark : Load → ReaderMove} {history : List ReaderMove}
  {Holds : Load → List ReaderMove → Prop}

theorem since_mark (injective : Function.Injective mark) {load : Load} :
    Since mark (history ++ [mark load]) Holds ↔ Holds load [] := by
  constructor
  · rintro ⟨earlier, found, since, same, last, holds⟩
    obtain rfl | ⟨front, final, rfl⟩ := List.eq_nil_or_concat since
    · obtain ⟨_, marked⟩ := List.append_inj' same rfl
      rw [injective (List.singleton_inj.mp marked)]
      exact holds
    · rw [List.concat_eq_append, ← List.cons_append, ← List.append_assoc] at same
      obtain ⟨_, marked⟩ := List.append_inj' same rfl
      exact absurd (by simp [List.singleton_inj.mp marked]) (last load)
  · exact fun holds => ⟨history, load, [], rfl, by simp, holds⟩

theorem since_snoc {move : ReaderMove} (other : ∀ load, mark load ≠ move) :
    Since mark (history ++ [move]) Holds ↔
      Since mark history fun load since => Holds load (since ++ [move]) := by
  constructor
  · rintro ⟨earlier, load, since, same, last, holds⟩
    obtain rfl | ⟨front, final, rfl⟩ := List.eq_nil_or_concat since
    · obtain ⟨_, marked⟩ := List.append_inj' same rfl
      exact absurd (List.singleton_inj.mp marked).symm (other load)
    · rw [List.concat_eq_append] at same last holds
      rw [← List.cons_append, ← List.append_assoc] at same
      obtain ⟨rfl, marked⟩ := List.append_inj' same rfl
      obtain rfl := List.singleton_inj.mp marked
      exact ⟨earlier, load, front, rfl, fun load member => last load (by simp [member]), holds⟩
  · rintro ⟨earlier, load, since, rfl, last, holds⟩
    refine ⟨earlier, load, since ++ [move], by simp, fun load member => ?_, holds⟩
    obtain member | same := List.mem_append.mp member
    · exact last load member
    · exact other load (List.mem_singleton.mp same)

theorem Since.imp {Holds' : Load → List ReaderMove → Prop} (since : Since mark history Holds)
    (weaker : ∀ load since, Holds load since → Holds' load since) : Since mark history Holds' := by
  obtain ⟨earlier, load, since, same, last, holds⟩ := since
  exact ⟨earlier, load, since, same, last, weaker load since holds⟩

theorem not_since_nil : ¬ Since mark [] Holds := by
  rintro ⟨earlier, load, since, same, _⟩
  simp at same

end Since

variable {history : List ReaderMove} {move : ReaderMove}

theorem forced_answered (response : LiveResponse) : ¬ Forced (history ++ [.answered response]) := by
  intro forced
  have called := (since_mark (fun _ _ => ReaderMove.answered.inj)).mp forced
  simp at called

theorem forced_forced : Forced (history ++ [.forced]) ↔ Abortable history := by
  rw [Forced, since_snoc (by simp)]
  simp [Abortable]

theorem Forced.abortable (forced : Forced history) : Abortable history :=
  Since.imp forced fun _ _ called => called.1

theorem abortable_answered (response : LiveResponse) :
    Abortable (history ++ [.answered response]) ↔ response.abortable = true :=
  since_mark fun _ _ => ReaderMove.answered.inj

theorem abortable_other (answer : ∀ response, .answered response ≠ move) :
    Abortable (history ++ [move]) ↔ Abortable history :=
  since_snoc answer

theorem forced_other (answer : ∀ response, .answered response ≠ move) (call : move ≠ .forced) :
    Forced (history ++ [move]) ↔ Forced history := by
  rw [Forced, since_snoc answer]
  simp [Forced, call.symm]

theorem reading_began (size : Nat) : Reading (history ++ [.began size]) size 0 :=
  (since_mark fun _ _ => ReaderMove.began.inj).mpr ⟨rfl, rfl⟩

theorem Reading.other {size failures : Nat} (reading : Reading history size failures)
    (beginning : ∀ size, .began size ≠ move) (report : move.report? = none) :
    Reading (history ++ [move]) size failures := by
  rw [Reading, since_snoc beginning]
  simpa [Reading, List.filterMap_append, report] using reading

theorem Reading.judged {size failures : Nat} (reading : Reading history size failures)
    (report : FailedRead) : Reading (history ++ [.judged report]) size (failures + 1) := by
  rw [Reading, since_snoc (by simp)]
  simpa [Reading, List.filterMap_append, report?] using reading

theorem justFailed_failed (error : IoError) : JustFailed (history ++ [.failed error]) error :=
  (since_mark fun _ _ => ReaderMove.failed.inj).mpr ⟨rfl, by simp⟩

theorem JustFailed.forced {error : IoError} (failed : JustFailed history error) :
    JustFailed (history ++ [.forced]) error := by
  rw [JustFailed, since_snoc (by simp)]
  simpa [JustFailed, or_imp, forall_and] using failed

end ReaderMove

namespace ReaderState

variable {state next last : ReaderState} {move : ReaderMove} {history moves : List ReaderMove}

/-- What a reader keeps true of itself while it is read from. -/
structure Sound (state : ReaderState) : Prop where
  bounded : state.reader.bounded = state.reader.span.count.isSome
  phase : match state.phase with
    | .resting => True
    | .reading size _ => 0 < size
    | .asking size _ | .judging size _ _ => 0 < size ∧ state.reader.body = none

theorem sound_start (initial : Option LiveResponse) (span : Span) (retries : Nat) :
    (start initial span retries).Sound := by
  cases initial <;> exact ⟨rfl, trivial⟩

theorem Sound.step (sound : state.Sound) (step : Step state move next) : next.Sound := by
  obtain ⟨bounded, phase⟩ := sound
  cases step with
  | begin positive => exact ⟨bounded, positive⟩
  | ask unexhausted unheld => exact ⟨bounded, phase, unheld⟩
  | answer => exact ⟨bounded, phase.1⟩
  | refuse => exact ⟨bounded, trivial⟩
  | exhaust exhausted => exact ⟨bounded, trivial⟩
  | take unexhausted held given =>
      exact ⟨by simpa [RangeReader.advance, Span.advance] using bounded, trivial⟩
  | fail unexhausted held given => exact ⟨bounded, phase, rfl⟩
  | @judge reader size failures error report reported =>
      refine ⟨bounded, ?_⟩
      cases report.willRetry with
      | true => exact phase.1
      | false => trivial
  | leave => exact ⟨bounded, trivial⟩
  | withdraw => exact ⟨bounded, trivial⟩
  | wait held => exact ⟨bounded, phase⟩
  | @change reader phase' body source held =>
      refine ⟨bounded, ?_⟩
      cases phase' with
      | resting => trivial
      | reading size failures => exact phase
      | asking size failures => simp [held] at phase
      | judging size failures error => simp [held] at phase
  | close => exact ⟨bounded, trivial⟩
  | @force reader phase' =>
      have unheld : reader.body = none → reader.force.body = none := by
        intro unheld
        rw [reader.force_of_unheld unheld]
        exact unheld
      refine ⟨by simpa using bounded, ?_⟩
      cases phase' with
      | resting => trivial
      | reading size failures => exact phase
      | asking size failures => exact ⟨phase.1, unheld phase.2⟩
      | judging size failures error => exact ⟨phase.1, unheld phase.2⟩

theorem Sound.path (sound : state.Sound) (path : Path state moves last) : last.Sound := by
  induction path with
  | stay => exact sound
  | step first rest ih => exact ih (sound.step first)

theorem Step.retries (step : Step state move next) :
    next.reader.retries = state.reader.retries := by
  cases step <;> simp [RangeReader.install, RangeReader.advance, RangeReader.close]

theorem Path.retries (path : Path state moves last) :
    last.reader.retries = state.reader.retries := by
  induction path with
  | stay => rfl
  | step first rest ih => exact ih.trans first.retries

theorem Step.stands (step : Step state move next) :
    next.reader.span.offset = state.reader.span.offset + move.bytes.length ∧
      next.reader.span.count = state.reader.span.count.map (· - move.bytes.length) := by
  cases step <;>
    simp [ReaderMove.bytes, RangeReader.install, RangeReader.advance, RangeReader.close,
      Span.advance]

/-- A reader stands behind all that it has handed out. -/
theorem Path.stands (path : Path state moves last) :
    last.reader.span.offset = state.reader.span.offset + (ReaderMove.handedOut moves).length ∧
      last.reader.span.count =
        state.reader.span.count.map (· - (ReaderMove.handedOut moves).length) := by
  induction path with
  | stay => simp [ReaderMove.handedOut]
  | @step state move middle later last first rest ih =>
      obtain ⟨offset, count⟩ := first.stands
      have all : (ReaderMove.handedOut (move :: later)).length =
          move.bytes.length + (ReaderMove.handedOut later).length := by
        simp [ReaderMove.handedOut]
      refine ⟨by rw [ih.1, offset, all, Nat.add_assoc], ?_⟩
      rw [ih.2, count, all, Option.map_map]
      congr 1
      funext left
      exact Nat.sub_sub left _ _

theorem Path.offset_lt (path : Path state moves last)
    (fits : state.reader.span.offset + (ReaderMove.handedOut moves).length < UInt64.size) :
    last.reader.span.offset < UInt64.size := by
  rw [path.stands.1]
  exact fits

theorem Step.flags (step : Step state move next) :
    (∃ response, move = .answered response ∧ next.reader.canForce = response.abortable ∧
      next.reader.forced = false) ∨
    (move = .forced ∧ next.reader = state.reader.force) ∨
    ((∀ response, .answered response ≠ move) ∧ move ≠ .forced ∧
      next.reader.canForce = state.reader.canForce ∧
      next.reader.forced = state.reader.forced) := by
  cases step with
  | @answer reader size failures response => exact .inl ⟨response, rfl, rfl, rfl⟩
  | force => exact .inr (.inl ⟨rfl, rfl⟩)
  | _ => exact .inr (.inr ⟨nofun, nofun, rfl, rfl⟩)

/-- What the moves so far tell about a reader. -/
structure Follows (history : List ReaderMove) (state : ReaderState) : Prop where
  abortable : state.reader.canForce = true ↔ ReaderMove.Abortable history
  forced : state.reader.forced = true ↔ ReaderMove.Forced history
  phase : match state.phase with
    | .resting => True
    | .reading size failures | .asking size failures => ReaderMove.Reading history size failures
    | .judging size failures error =>
        ReaderMove.Reading history size failures ∧ ReaderMove.JustFailed history error

theorem follows_start (initial : Option LiveResponse) (span : Span) (retries : Nat) :
    Follows (initial.map .answered).toList (start initial span retries) := by
  cases initial with
  | none =>
      exact ⟨iff_of_false nofun ReaderMove.not_since_nil,
        iff_of_false nofun ReaderMove.not_since_nil, trivial⟩
  | some response =>
      refine ⟨?_, ?_, trivial⟩
      · exact (@ReaderMove.abortable_answered [] response).symm
      · exact iff_of_false Bool.false_ne_true (@ReaderMove.forced_answered [] response)

theorem Follows.step (follows : Follows history state) (sound : state.Sound)
    (step : Step state move next) : Follows (history ++ [move]) next := by
  have phase := follows.phase
  refine ⟨?_, ?_, ?_⟩
  · obtain ⟨response, rfl, abortable, _⟩ | ⟨rfl, same⟩ | ⟨answer, call, abortable, _⟩ := step.flags
    · rw [abortable, ReaderMove.abortable_answered]
    · rw [same, RangeReader.force_canForce, follows.abortable, ReaderMove.abortable_other (by simp)]
    · rw [abortable, follows.abortable, ReaderMove.abortable_other answer]
  · obtain ⟨response, rfl, _, forced⟩ | ⟨rfl, same⟩ | ⟨answer, call, _, forced⟩ := step.flags
    · exact iff_of_false (by simp [forced]) (ReaderMove.forced_answered response)
    · rw [same, RangeReader.force_forced, Bool.or_eq_true, ReaderMove.forced_forced,
        follows.abortable, follows.forced]
      exact or_iff_left_of_imp ReaderMove.Forced.abortable
    · rw [forced, follows.forced, ReaderMove.forced_other answer call]
  · cases step with
    | @begin reader size positive => exact ReaderMove.reading_began size
    | ask unexhausted unheld => exact phase.other nofun rfl
    | answer => exact phase.other nofun rfl
    | take unexhausted held given => trivial
    | @fail reader size failures body error rest now time unexhausted held given =>
        exact ⟨phase.other nofun rfl, ReaderMove.justFailed_failed error⟩
    | @judge reader size failures error report reported =>
        cases willRetry : report.willRetry with
        | true => exact phase.1.judged report
        | false => trivial
    | wait held => exact phase.other nofun rfl
    | @change reader phase' body source held =>
        have sits := sound.phase
        cases phase' with
        | resting => trivial
        | reading size failures => exact phase.other nofun rfl
        | asking size failures => simp [held] at sits
        | judging size failures error => simp [held] at sits
    | @force reader phase' =>
        cases phase' with
        | resting => trivial
        | reading size failures => exact phase.other nofun rfl
        | asking size failures => exact phase.other nofun rfl
        | judging size failures error => exact ⟨phase.1.other nofun rfl, phase.2.forced⟩
    | _ => trivial

theorem Follows.path (follows : Follows history state) (sound : state.Sound)
    (path : Path state moves last) : Follows (history ++ moves) last := by
  induction path generalizing history with
  | stay => simpa using follows
  | step first rest ih =>
      rw [List.append_cons]
      exact ih (follows.step sound first) (sound.step first)

theorem Follows.judged {report : FailedRead} (follows : Follows history state)
    (step : Step state (.judged report) next) :
    (report.willRetry = true ↔ report.failureCount ≤ state.reader.retries ∧
      (report.error.isNetwork = true ∨ ReaderMove.Forced history)) ∧
    ReaderMove.JustFailed history report.error ∧
    ∃ size failures, ReaderMove.Reading history size failures ∧
      report.failureCount = failures + 1 ∧
      next.phase = if report.willRetry then .reading size report.failureCount else .resting := by
  obtain ⟨_, forced, phase⟩ := follows
  cases step with
  | @judge reader size failures error report reported =>
      obtain rfl := reported
      refine ⟨?_, phase.2, size, failures, phase.1, rfl, rfl⟩
      simp only [RangeReader.report, RangeReader.mayRetry, Bool.and_eq_true, Bool.or_eq_true,
        decide_eq_true_eq, forced]
      rw [and_comm]
      refine and_congr_left fun _ => ?_
      omega

section Idle

def Idle (state : ReaderState) : Prop :=
  state.reader.body = none ∧ state.phase.isJudging = false

def flag (state : ReaderState) (forced : Bool) : ReaderState :=
  { state with reader := { state.reader with forced } }

/-- States that differ at most in a flag that nothing will look at. -/
def Alike (state other : ReaderState) : Prop :=
  state = other ∨ state.Idle ∧ ∃ forced, other = state.flag forced

theorem Alike.symm {other : ReaderState} (alike : state.Alike other) : other.Alike state := by
  obtain rfl | ⟨idle, forced, rfl⟩ := alike
  · exact .inl rfl
  · exact .inr ⟨idle, state.reader.forced, rfl⟩

theorem Idle.alike (idle : state.Idle) (forced : Bool) : state.Alike (state.flag forced) :=
  .inr ⟨idle, forced, rfl⟩

theorem Idle.step (idle : state.Idle) (forced : Bool) (step : Step state move next) :
    ∃ next', Step (state.flag forced) move next' ∧ next.Alike next' := by
  obtain ⟨unheld, unjudged⟩ := idle
  cases step with
  | begin positive => exact ⟨_, .begin positive, .inr ⟨⟨unheld, rfl⟩, forced, rfl⟩⟩
  | ask unexhausted _ => exact ⟨_, .ask unexhausted unheld, .inr ⟨⟨unheld, rfl⟩, forced, rfl⟩⟩
  | answer => exact ⟨_, .answer, .inl rfl⟩
  | refuse => exact ⟨_, .refuse, .inr ⟨⟨unheld, rfl⟩, forced, rfl⟩⟩
  | exhaust exhausted => exact ⟨_, .exhaust exhausted, .inr ⟨⟨unheld, rfl⟩, forced, rfl⟩⟩
  | take _ held => exact absurd (unheld.symm.trans held) nofun
  | fail _ held => exact absurd (unheld.symm.trans held) nofun
  | judge => exact absurd unjudged nofun
  | leave => exact ⟨_, .leave, .inr ⟨⟨unheld, rfl⟩, forced, rfl⟩⟩
  | withdraw => exact ⟨_, .withdraw, .inr ⟨⟨unheld, rfl⟩, forced, rfl⟩⟩
  | wait held => exact absurd (unheld.symm.trans held) nofun
  | change held => exact absurd (unheld.symm.trans held) nofun
  | close => exact ⟨_, .close, .inr ⟨⟨rfl, rfl⟩, forced, rfl⟩⟩
  | @force reader phase =>
      have flagged : ({ reader with forced } : RangeReader).body = none := unheld
      refine ⟨_, .force, .inr ⟨⟨?_, unjudged⟩, reader.canForce || forced, ?_⟩⟩
      · rw [reader.force_of_unheld unheld]
        exact unheld
      · simp only [flag, RangeReader.force_of_unheld _ flagged, reader.force_of_unheld unheld]

theorem Alike.step {other : ReaderState} (alike : state.Alike other)
    (step : Step state move next) : ∃ next', Step other move next' ∧ next.Alike next' := by
  obtain rfl | ⟨idle, forced, rfl⟩ := alike
  · exact ⟨next, step, .inl rfl⟩
  · exact idle.step forced step

theorem Alike.path {other : ReaderState} (alike : state.Alike other)
    (path : Path state moves last) : ∃ last', Path other moves last' := by
  induction path generalizing other with
  | stay => exact ⟨other, .stay⟩
  | step first rest ih =>
      obtain ⟨middle, first', alike'⟩ := alike.step first
      obtain ⟨last', rest'⟩ := ih alike'
      exact ⟨last', .step first' rest'⟩

theorem alike_force (unengaged : state.isEngaged = false) : state.Alike state.force := by
  cases abortable : state.reader.canForce with
  | false => exact .inl (by simp [force, RangeReader.force, abortable])
  | true =>
      simp only [isEngaged, abortable, Bool.true_and, Bool.or_eq_false_iff,
        Option.isSome_eq_false_iff, Option.isNone_iff_eq_none] at unengaged
      refine .inr ⟨unengaged, true, ?_⟩
      simp [force, flag, state.reader.force_of_unheld unengaged.1, abortable]

/-- A call that finds nothing to abort has no part in anything that comes after it. -/
theorem paths_of_force (unengaged : state.isEngaged = false) (moves : List ReaderMove) :
    (∃ last, Path state.force moves last) ↔ ∃ last, Path state moves last := by
  have alike := alike_force unengaged
  exact ⟨fun ⟨_, path⟩ => alike.symm.path path, fun ⟨_, path⟩ => alike.path path⟩

end Idle

section Draining

variable {span : Span} {buffered given : Bytes}

/-- A response was aborted when so much of it was buffered, and some of that was handed out since;
the rest is still there. -/
structure Draining (span : Span) (buffered given : Bytes) (state : ReaderState) : Prop where
  stands : state.reader.span = span.advance given.length
  holds : ∃ rest, state.reader.body = some rest ∧ rest.source.aborted = true ∧
    buffered = given ++ rest.buffered

theorem draining_of_force {body : LiveBody} (held : state.reader.body = some body)
    (abortable : state.reader.canForce = true) :
    Draining state.reader.span body.buffered [] state.force := by
  refine ⟨?_, body.abort, state.reader.force_of_held held abortable, rfl, rfl⟩
  simp [force, Span.advance]

theorem Draining.step (draining : Draining span buffered given state) (sound : state.Sound)
    (step : Step state move next) (unclosed : move ≠ .closed)
    (unfailed : ∀ error, move ≠ .failed error) (unchanged : ∀ source, move ≠ .changed source) :
    Draining span buffered (given ++ move.bytes) next := by
  obtain ⟨stands, rest, held, aborted, left⟩ := draining
  have phase := sound.phase
  have kept : ∀ {reader : RangeReader} {phase : ReadPhase} {body : LiveBody},
      reader.span = state.reader.span → reader.body = some body → body.source.aborted = true →
      body.buffered = rest.buffered → Draining span buffered (given ++ []) ⟨reader, phase⟩ := by
    intro reader phase body same held aborted front
    rw [List.append_nil]
    exact ⟨same.trans stands, body, held, aborted, by rw [front, left]⟩
  cases step with
  | begin positive => exact kept rfl held aborted rfl
  | ask unexhausted unheld => exact absurd (unheld.symm.trans held) nofun
  | answer => exact absurd (phase.2.symm.trans held) nofun
  | refuse => exact absurd (phase.2.symm.trans held) nofun
  | exhaust exhausted => exact kept rfl held aborted rfl
  | @take reader size failures body bytes rest' now time unexhausted held' answered =>
      obtain rfl := Option.some.inj (held.symm.trans held')
      obtain ⟨same, front⟩ := (LiveBody.front_of_aborted aborted answered).1 bytes rfl
      refine ⟨?_, rest', rfl, same ▸ aborted, ?_⟩
      · rw [List.length_append, ← Span.advance_advance, ← stands]
        rfl
      · rw [left, front, List.append_assoc]
        rfl
  | fail => exact absurd rfl (unfailed _)
  | judge => exact absurd (phase.2.symm.trans held) nofun
  | leave => exact kept rfl held aborted rfl
  | withdraw => exact kept rfl held aborted rfl
  | @wait reader size failures body now limit held' =>
      obtain rfl := Option.some.inj (held.symm.trans held')
      obtain ⟨front, same⟩ := rest.buffered_waitUntil now limit
      exact kept rfl rfl (same.trans aborted) front
  | change => exact absurd rfl (unchanged _)
  | close => exact absurd rfl unclosed
  | @force reader phase' =>
      cases abortable : reader.canForce with
      | false =>
          have same : reader.force = reader := by simp [RangeReader.force, abortable]
          rw [same]
          exact kept rfl held aborted rfl
      | true => exact kept reader.force_span (reader.force_of_held held abortable) rfl rfl

theorem Draining.path (draining : Draining span buffered given state) (sound : state.Sound)
    (path : Path state moves last) (unclosed : .closed ∉ moves)
    (unfailed : ∀ error, .failed error ∉ moves) (unchanged : ∀ source, .changed source ∉ moves) :
    Draining span buffered (given ++ ReaderMove.handedOut moves) last := by
  induction path generalizing given with
  | stay => simpa [ReaderMove.handedOut] using draining
  | step first rest ih =>
      simp only [List.mem_cons, not_or] at unclosed unfailed unchanged
      have after := draining.step sound first (unclosed.1 ·.symm) (fun error same =>
        (unfailed error).1 same.symm) (fun source same => (unchanged source).1 same.symm)
      rw [ReaderMove.handedOut, List.flatMap_cons, ← List.append_assoc]
      exact ih after (sound.step first) unclosed.2 (fun error => (unfailed error).2)
        fun source => (unchanged source).2

theorem Draining.failed {error : IoError} (draining : Draining span buffered given state)
    (step : Step state (.failed error) next) :
    error = AbortableBody.interruption ∧ given = buffered := by
  obtain ⟨_, rest, held, aborted, left⟩ := draining
  cases step with
  | fail unexhausted held' answered =>
      obtain rfl := Option.some.inj (held.symm.trans held')
      obtain ⟨interrupted, empty⟩ := (LiveBody.front_of_aborted aborted answered).2 error rfl
      exact ⟨interrupted, by rw [left, empty, List.append_nil]⟩

end Draining

section Finished

structure Finished (state : ReaderState) : Prop where
  ended : state.reader.isExhausted = true ∨
    ∃ body, state.reader.body = some body ∧ body.Ended
  between : match state.phase with
    | .resting | .reading _ _ => True
    | .asking _ _ | .judging _ _ _ => False

theorem finished_of_returned (sound : state.Sound) (step : Step state (.returned []) next) :
    next.Finished := by
  cases step with
  | exhaust exhausted => exact ⟨.inl exhausted, trivial⟩
  | @take reader size failures body bytes rest now time unexhausted held answered =>
      have limit := RangeReader.limit_pos sound.bounded unexhausted sound.phase
      exact ⟨.inr ⟨rest, rfl, LiveBody.ended_of_read limit answered⟩, trivial⟩

theorem Finished.unfailed {error : IoError} (finished : state.Finished)
    (step : Step state (.failed error) next) : False := by
  cases step with
  | fail unexhausted held answered =>
      obtain exhausted | ⟨body, held', seen⟩ := finished.ended
      · simp [exhausted] at unexhausted
      · obtain rfl := Option.some.inj (held.symm.trans held')
        simp [seen.read] at answered

theorem Finished.step (finished : state.Finished) (step : Step state move next)
    (unclosed : move ≠ .closed) (unchanged : ∀ source, move ≠ .changed source) :
    next.Finished ∧ move.bytes = [] ∧ move.span? = none := by
  have ended := finished.ended
  have between := finished.between
  cases step with
  | begin positive => exact ⟨⟨ended, trivial⟩, rfl, rfl⟩
  | ask unexhausted unheld =>
      obtain exhausted | ⟨body, held, _⟩ := ended
      · simp [exhausted] at unexhausted
      · exact absurd (unheld.symm.trans held) nofun
  | answer => exact between.elim
  | refuse => exact between.elim
  | exhaust exhausted => exact ⟨⟨ended, trivial⟩, rfl, rfl⟩
  | take unexhausted held answered =>
      obtain exhausted | ⟨body, held', seen⟩ := ended
      · simp [exhausted] at unexhausted
      · obtain rfl := Option.some.inj (held.symm.trans held')
        rw [seen.read, Option.some.injEq, Prod.mk.injEq, Prod.mk.injEq, Except.ok.injEq] at answered
        obtain ⟨rfl, rfl, _⟩ := answered
        exact ⟨⟨.inr ⟨_, rfl, seen⟩, trivial⟩, rfl, rfl⟩
  | fail unexhausted held answered =>
      exact (finished.unfailed (.fail unexhausted held answered)).elim
  | judge => exact between.elim
  | leave => exact ⟨⟨ended, trivial⟩, rfl, rfl⟩
  | withdraw => exact between.elim
  | @wait reader size failures body now limit held =>
      refine ⟨⟨?_, trivial⟩, rfl, rfl⟩
      obtain exhausted | ⟨body', held', seen⟩ := ended
      · exact .inl exhausted
      · obtain rfl := Option.some.inj (held.symm.trans held')
        exact .inr ⟨_, rfl, seen.waitUntil now limit⟩
  | change => exact absurd rfl (unchanged _)
  | close => exact absurd rfl unclosed
  | @force reader phase =>
      refine ⟨⟨?_, between⟩, rfl, rfl⟩
      obtain exhausted | ⟨body, held, seen⟩ := ended
      · exact .inl (by simpa [RangeReader.isExhausted] using exhausted)
      · refine .inr ?_
        cases abortable : reader.canForce with
        | false => exact ⟨body, by simpa [RangeReader.force, abortable] using held, seen⟩
        | true => exact ⟨body.abort, reader.force_of_held held abortable, seen.abort⟩

theorem Finished.path (finished : state.Finished) (path : Path state moves last)
    (unclosed : .closed ∉ moves) (unchanged : ∀ source, .changed source ∉ moves) :
    ReaderMove.handedOut moves = [] ∧ moves.filterMap ReaderMove.span? = [] ∧
      ∀ error, .failed error ∉ moves := by
  induction path with
  | stay => simp [ReaderMove.handedOut]
  | step first rest ih =>
      simp only [List.mem_cons, not_or] at unclosed unchanged
      obtain ⟨finished', nothing, unasked⟩ := finished.step first (unclosed.1 ·.symm)
        fun source same => (unchanged source).1 same.symm
      obtain ⟨nothing', unasked', unfailed'⟩ :=
        ih finished' unclosed.2 fun source => (unchanged source).2
      refine ⟨?_, ?_, fun error member => ?_⟩
      · rw [ReaderMove.handedOut, List.flatMap_cons, nothing]
        exact nothing'
      · rw [List.filterMap_cons_none unasked, unasked']
      · obtain rfl | member := List.mem_cons.mp member
        · exact finished.unfailed first
        · exact unfailed' error member

end Finished

end ReaderState

end BlobTransfer
