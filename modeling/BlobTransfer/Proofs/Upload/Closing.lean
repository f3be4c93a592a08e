import BlobTransfer.Proofs.Upload.Commit
import Mathlib.Algebra.Ring.Nat

/-!
How an upload comes to its result. Every step that is not the end of the scope brings it nearer,
and there is always a step to take: one of its own once the scope is over, and until then at the
latest when the source and the writer answer.
-/

namespace BlobTransfer

def UploadStep.isInternal : UploadStep → Bool
  | .send | .giveUp | .turn _ | .receive _ | .abandonStage _ | .join _ | .settle
  | .abandonCommit => true
  | _ => false

theorem UploadStep.quiet_of_internal {step : UploadStep} (internal : step.isInternal = true)
    (left : Bytes) : step.leave left = some left ∧ step.isSmooth = true := by
  cases step with
  | send | giveUp | turn | receive | abandonStage | join | settle | abandonCommit =>
      exact ⟨rfl, rfl⟩
  | _ => simp [UploadStep.isInternal] at internal

def Producer.rank : Producer → Nat
  | .reading filled => 8 * filled.length + 2
  | .sending _ => 9
  | .finished _ => 0

def Worker.rank : Worker → Nat
  | .waiting => 4
  | .receiving => 3
  | .staging _ => 7
  | .exited _ => 1
  | .joined => 0

def UploadPhase.rank : UploadPhase → Nat
  | .staging => 2
  | .committing => 1
  | .returned _ => 0

theorem sum_rank_set {workers : List Worker} {worker : Nat} {before : Worker}
    (found : workers[worker]? = some before) (after : Worker) :
    ((workers.set worker after).map Worker.rank).sum + before.rank =
      (workers.map Worker.rank).sum + after.rank := by
  induction workers generalizing worker with
  | nil => simp at found
  | cons first rest ih =>
      cases worker with
      | zero =>
          simp only [List.getElem?_cons_zero, Option.some.injEq] at found
          subst first
          simp only [List.set_cons_zero, List.map_cons, List.sum_cons]
          omega
      | succ worker =>
          have moved := ih (by simpa using found)
          simp only [List.set_cons_succ, List.map_cons, List.sum_cons]
          omega

namespace Upload

def rank (upload : Upload) (left : Bytes) : Nat :=
  9 * left.length + upload.producer.rank + 5 * upload.channel.toList.length +
    (upload.workers.map Worker.rank).sum + upload.phase.rank

theorem finishProducing_rank (upload : Upload) (outcome : Except TransferError Unit)
    (left : Bytes) :
    (upload.finishProducing outcome).rank left + upload.producer.rank = upload.rank left := by
  simp only [rank, finishProducing, Producer.rank]
  omega

theorem completeBlock_rank_le (upload : Upload) (payload left : Bytes) :
    (upload.completeBlock payload).rank left + upload.producer.rank ≤ upload.rank left + 9 := by
  unfold completeBlock
  split
  · rw [finishProducing_rank]
    omega
  · simp only [rank, Producer.rank]
    omega

theorem beginBlock_rank_le (upload : Upload) (left : Bytes) :
    upload.beginBlock.rank left + upload.producer.rank ≤ upload.rank left + 2 := by
  unfold beginBlock
  split
  · rw [finishProducing_rank]
    omega
  · simp only [rank, Producer.rank, List.length_nil]
    omega

theorem hand_rank {upload : Upload} (room : upload.channel = none) (payload left : Bytes) :
    (upload.hand payload).rank left = upload.rank left + 5 := by
  simp only [rank, hand, room, Option.toList_none, Option.toList_some, List.length_nil,
    List.length_singleton]
  omega

theorem setWorker_rank {upload : Upload} {worker : Nat} {before : Worker}
    (found : upload.workers[worker]? = some before) (after : Worker) (left : Bytes) :
    (upload.setWorker worker after).rank left + before.rank = upload.rank left + after.rank := by
  have moved := sum_rank_set found after
  simp only [rank, setWorker]
  omega

theorem length_of_leave {bytes left rest : Bytes}
    (taken : (UploadStep.read bytes).leave left = some rest) :
    left.length = bytes.length + rest.length := by
  simp only [UploadStep.leave, Option.ite_none_right_eq_some, Option.some.injEq] at taken
  obtain ⟨⟨others, rfl⟩, rfl⟩ := taken
  simp

theorem eq_of_leave {step : UploadStep} {left rest : Bytes} (taken : step.leave left = some rest)
    (unread : ∀ bytes, step ≠ .read bytes) : rest = left := by
  cases step with
  | read bytes => exact absurd rfl (unread bytes)
  | sourceEnd =>
      simp only [UploadStep.leave, Option.ite_none_right_eq_some, Option.some.injEq] at taken
      exact taken.2.symm
  | _ =>
      simp only [UploadStep.leave, Option.some.injEq] at taken
      exact taken.symm

/-- Every step but the end of the scope brings an upload nearer to its result. -/
theorem Transition.rank_lt {upload next : Upload} {step : UploadStep} {left rest : Bytes}
    (moved : Transition upload step next) (taken : step.leave left = some rest)
    (going : step.endsScope = false) : next.rank rest < upload.rank left := by
  cases moved with
  | @readPart filled bytes reading nonempty short =>
      have size := length_of_leave taken
      have positive : 0 < bytes.length := List.length_pos_iff.mpr nonempty
      simp only [rank, reading, Producer.rank, List.length_append]
      omega
  | @readBlock filled bytes reading nonempty full =>
      have size := length_of_leave taken
      have positive : 0 < bytes.length := List.length_pos_iff.mpr nonempty
      have completed := upload.completeBlock_rank_le (filled ++ bytes) rest
      simp only [reading, Producer.rank] at completed
      have before : upload.rank left = upload.rank rest + 9 * bytes.length := by
        simp only [rank, size]
        omega
      omega
  | noBlock reading =>
      obtain rfl := eq_of_leave taken (by simp)
      have finished := upload.recycle.finishProducing_rank (.ok ()) rest
      have same : upload.recycle.rank rest = upload.rank rest := rfl
      simp only [recycle, reading, Producer.rank] at finished same ⊢
      omega
  | @lastBlock filled reading nonempty =>
      obtain rfl := eq_of_leave taken (by simp)
      have positive : 0 < filled.length := List.length_pos_iff.mpr nonempty
      have completed := upload.completeBlock_rank_le filled rest
      simp only [reading, Producer.rank] at completed
      omega
  | @sourceFailure filled error reading =>
      obtain rfl := eq_of_leave taken (by simp)
      have finished := upload.finishProducing_rank (.error (.io error)) rest
      simp only [reading, Producer.rank] at finished
      omega
  | @sendShort payload sending room wanted attended short =>
      obtain rfl := eq_of_leave taken (by simp)
      have handed := hand_rank room payload rest
      have finished := (upload.hand payload).finishProducing_rank (.ok ()) rest
      have same : (upload.hand payload).producer = .sending payload := sending
      simp only [same, Producer.rank] at finished
      omega
  | @sendFull payload sending room wanted attended full =>
      obtain rfl := eq_of_leave taken (by simp)
      have handed := hand_rank room payload rest
      have begun := (upload.hand payload).beginBlock_rank_le rest
      have same : (upload.hand payload).producer = .sending payload := sending
      simp only [same, Producer.rank] at begun
      omega
  | stopReading producing | stopSending producing =>
      obtain rfl := eq_of_leave taken (by simp)
      have finished := upload.finishProducing_rank (.ok ()) rest
      simp only [producing, Producer.rank] at finished
      omega
  | turn waiting free =>
      obtain rfl := eq_of_leave taken (by simp)
      have moved := setWorker_rank waiting .receiving rest
      simp only [Worker.rank] at moved
      omega
  | @take worker block receiving queued live =>
      obtain rfl := eq_of_leave taken (by simp)
      have moved := sum_rank_set receiving (.staging block)
      simp only [Worker.rank] at moved
      simp only [rank, setWorker, queued, Option.toList_some, Option.toList_none, List.length_nil,
        List.length_singleton]
      omega
  | @drop worker block receiving queued lapsed =>
      obtain rfl := eq_of_leave taken (by simp)
      have moved := sum_rank_set receiving (.exited false)
      simp only [Worker.rank] at moved
      simp only [rank, setWorker, recycle, Option.toList_none, List.length_nil]
      omega
  | leave receiving drained finished =>
      obtain rfl := eq_of_leave taken (by simp)
      have moved := setWorker_rank receiving (.exited false) rest
      simp only [Worker.rank] at moved
      omega
  | @staged worker block staging =>
      obtain rfl := eq_of_leave taken (by simp)
      have moved := setWorker_rank staging .waiting rest
      simp only [Worker.rank] at moved
      change (upload.setWorker worker .waiting).rank rest < _
      omega
  | @reportPanicked worker block staging reports =>
      obtain rfl := eq_of_leave taken (by simp)
      have moved := setWorker_rank staging (.exited true) rest
      simp only [Worker.rank] at moved
      change (upload.setWorker worker (.exited true)).rank rest < _
      omega
  | panicked staging =>
      obtain rfl := eq_of_leave taken (by simp)
      have moved := setWorker_rank staging (.exited true) rest
      simp only [Worker.rank] at moved
      omega
  | @failedLate worker _ _ staging _ | @failed worker _ _ staging _
  | @abandonStage worker _ staging _ =>
      obtain rfl := eq_of_leave taken (by simp)
      have moved := setWorker_rank staging (.exited false) rest
      simp only [Worker.rank] at moved
      change (upload.setWorker worker (.exited false)).rank rest < _
      omega
  | @join worker exited | @joinPanicked worker exited =>
      obtain rfl := eq_of_leave taken (by simp)
      have moved := setWorker_rank exited .joined rest
      simp only [Worker.rank] at moved
      change (upload.setWorker worker .joined).rank rest < _
      omega
  | fail phase | commit phase | commitEnd phase | abandonCommit phase =>
      obtain rfl := eq_of_leave taken (by simp)
      simp [rank, phase, UploadPhase.rank]
  | cancel | expire => simp [UploadStep.endsScope] at going

/-- A step that an upload can take if the source and the writer answer; once the scope is over,
one that it can take by itself. -/
def Moves (upload : Upload) (left : Bytes) : Prop :=
  ∃ step rest, (upload.step step).isSome = true ∧ step.leave left = some rest ∧
    step.isSmooth = true ∧ (upload.isOver = true → step.isInternal = true)

def Proceeds (upload : Upload) : Prop :=
  ∃ step : UploadStep, step.isInternal = true ∧ (upload.step step).isSome = true

theorem Proceeds.moves {upload : Upload} (proceeds : upload.Proceeds) (left : Bytes) :
    upload.Moves left := by
  obtain ⟨step, internal, possible⟩ := proceeds
  obtain ⟨taken, smooth⟩ := UploadStep.quiet_of_internal internal left
  exact ⟨step, left, possible, taken, smooth, fun _ => internal⟩

theorem moves_of_staging {upload : Upload} {left : Bytes} {block : Block}
    (live : upload.isOver = false) (member : .staging block ∈ upload.workers) :
    upload.Moves left := by
  obtain ⟨worker, found⟩ := List.mem_iff_getElem?.mp member
  refine ⟨.stageEnd worker .staged, left, ?_, rfl, rfl, by simp [live]⟩
  simp only [Upload.step, stageEnd, found, Option.isSome_some]

theorem proceeds_of_receiving {upload : Upload}
    (fed : upload.channel.isSome = true ∨ ∃ outcome, upload.producer = .finished outcome)
    (member : .receiving ∈ upload.workers) : upload.Proceeds := by
  obtain ⟨worker, receiving⟩ := List.mem_iff_getElem?.mp member
  refine ⟨.receive worker, rfl, ?_⟩
  cases queued : upload.channel with
  | none =>
      obtain ⟨outcome, finished⟩ := fed.resolve_left (by simp [queued])
      simp only [Upload.step, receive, receiving, queued, finished, if_true, Option.isSome_some]
  | some block =>
      simp only [Upload.step, receive, receiving, queued, if_true]
      split <;> rfl

theorem proceeds_of_worker {upload : Upload} {state : Worker}
    (fed : upload.channel.isSome = true ∨ ∃ outcome, upload.producer = .finished outcome)
    (member : state ∈ upload.workers) (unjoined : state ≠ .joined) :
    upload.Proceeds ∨ (upload.isOver = false ∧ ∃ block, .staging block ∈ upload.workers) := by
  obtain ⟨worker, found⟩ := List.mem_iff_getElem?.mp member
  cases state with
  | waiting =>
      by_cases free : .receiving ∈ upload.workers
      · exact .inl (proceeds_of_receiving fed free)
      · refine .inl ⟨.turn worker, rfl, ?_⟩
        simp only [Upload.step, turn, found, free, not_false_eq_true, and_self, if_true,
          Option.isSome_some]
  | receiving => exact .inl (proceeds_of_receiving fed member)
  | staging block =>
      cases lapsed : upload.isOver with
      | true =>
          refine .inl ⟨.abandonStage worker, rfl, ?_⟩
          simp only [Upload.step, abandonStage, found, lapsed, if_true, Option.isSome_some]
      | false => exact .inr ⟨rfl, block, member⟩
  | exited panicked =>
      refine .inl ⟨.join worker, rfl, ?_⟩
      simp only [Upload.step, join, found, Option.isSome_some]
  | joined => exact absurd rfl unjoined

theorem proceeds_of_joined {upload : Upload} {outcome : Except TransferError Unit}
    (staging : upload.phase = .staging) (finished : upload.producer = .finished outcome)
    (joined : ∀ worker ∈ upload.workers, worker = .joined) : upload.Proceeds := by
  have all : upload.workers.all (· = .joined) = true := by simpa using joined
  refine ⟨.settle, rfl, ?_⟩
  simp only [Upload.step, settle, staging, finished, all, if_true]
  split <;> rfl

theorem proceeds_of_finished {upload : Upload} {outcome : Except TransferError Unit}
    (staging : upload.phase = .staging) (finished : upload.producer = .finished outcome) :
    upload.Proceeds ∨ (upload.isOver = false ∧ ∃ block, .staging block ∈ upload.workers) := by
  by_cases joined : ∀ worker ∈ upload.workers, worker = .joined
  · exact .inl (proceeds_of_joined staging finished joined)
  · obtain ⟨state, member, unjoined⟩ : ∃ state ∈ upload.workers, state ≠ .joined := by
      simpa using joined
    exact proceeds_of_worker (.inr ⟨outcome, finished⟩) member unjoined

theorem proceeds_of_stopping {upload : Upload} (lapsed : upload.isOver = true)
    (unfinished : ∀ outcome, upload.producer ≠ .finished outcome) : upload.Proceeds := by
  refine ⟨.giveUp, rfl, ?_⟩
  cases producing : upload.producer with
  | reading filled =>
      simp only [Upload.step, giveUp, producing, lapsed, if_true, Option.isSome_some]
  | sending payload =>
      simp only [Upload.step, giveUp, producing, lapsed, Bool.true_or, if_true,
        Option.isSome_some]
  | finished outcome => exact absurd producing (unfinished outcome)

theorem proceeds_of_sending {upload : Upload} {payload : Bytes} (live : upload.isOver = false)
    (sending : upload.producer = .sending payload) :
    upload.Proceeds ∨ (upload.isOver = false ∧ ∃ block, .staging block ∈ upload.workers) := by
  cases attended : upload.workers.all (·.isGone) with
  | true =>
      refine .inl ⟨.giveUp, rfl, ?_⟩
      simp only [Upload.step, giveUp, sending, attended, Bool.or_true, if_true,
        Option.isSome_some]
  | false =>
      obtain ⟨worker, member, here⟩ := List.all_eq_false.mp attended
      cases queued : upload.channel with
      | some block =>
          apply proceeds_of_worker (.inl (by simp [queued])) member
          rintro rfl
          exact here rfl
      | none =>
          have wanted : upload.canceled = false := by
            rw [isOver_eq, Bool.or_eq_false_iff] at live
            exact live.1
          refine .inl ⟨.send, rfl, ?_⟩
          simp only [Upload.step, send, sending, queued, wanted, attended, Bool.or_self,
            Bool.false_eq_true, if_false]
          split <;> rfl

theorem proceeds_of_over {upload : Upload} (lapsed : upload.isOver = true)
    (unreturned : ∀ result, upload.phase ≠ .returned result) : upload.Proceeds := by
  cases phase : upload.phase with
  | returned result => exact absurd phase (unreturned result)
  | committing =>
      obtain ⟨reason, ended⟩ := Option.isSome_iff_exists.mp lapsed
      refine ⟨.abandonCommit, rfl, ?_⟩
      simp only [Upload.step, abandonCommit, phase, ended, Option.isSome_some]
  | staging =>
      cases producing : upload.producer with
      | reading filled => exact proceeds_of_stopping lapsed (by simp [producing])
      | sending payload => exact proceeds_of_stopping lapsed (by simp [producing])
      | finished outcome =>
          apply (proceeds_of_finished phase producing).resolve_right
          rintro ⟨live, _⟩
          simp [live] at lapsed

theorem proceeds_of_panicked {upload : Upload} (panicked : .exited true ∈ upload.workers) :
    upload.Proceeds := by
  obtain ⟨worker, exited⟩ := List.mem_iff_getElem?.mp panicked
  refine ⟨.join worker, rfl, ?_⟩
  simp only [Upload.step, join, exited, Option.isSome_some]

theorem Whole.moves_of_reading {source left : Bytes} {upload : Upload} {filled : Bytes}
    (whole : upload.Whole source left) (live : upload.isOver = false)
    (reading : upload.producer = .reading filled) : upload.Moves left := by
  have produced := whole.produced
  simp only [Produced, reading] at produced
  cases left with
  | nil =>
      cases filled with
      | nil =>
          refine ⟨.sourceEnd, [], ?_, rfl, rfl, by simp [live]⟩
          simp only [Upload.step, sourceEnd, reading, Option.isSome_some]
      | cons first others =>
          refine ⟨.sourceEnd, [], ?_, rfl, rfl, by simp [live]⟩
          simp only [Upload.step, sourceEnd, reading, Option.isSome_some]
  | cons byte rest =>
      have fits : ¬upload.options.blockSize < (filled ++ [byte]).length := by
        simp only [List.length_append, List.length_singleton]
        omega
      have taken : (UploadStep.read [byte]).leave (byte :: rest) = some rest := by
        simp [UploadStep.leave]
      by_cases short : (filled ++ [byte]).length < upload.options.blockSize
      · refine ⟨.read [byte], rest, ?_, taken, rfl, by simp [live]⟩
        simp only [Upload.step, read, reading, fits, short, List.isEmpty_cons, decide_false,
          Bool.or_self, Bool.false_eq_true, if_false, if_true, Option.isSome_some]
      · refine ⟨.read [byte], rest, ?_, taken, rfl, by simp [live]⟩
        simp only [Upload.step, read, reading, fits, short, List.isEmpty_cons, decide_false,
          Bool.or_self, Bool.false_eq_true, if_false, Option.isSome_some]

theorem over_or_panicked {upload : Upload} (noticed : upload.Noticed)
    (broken : ¬upload.Intact) : upload.isOver = true ∨ .exited true ∈ upload.workers := by
  by_cases panicked : .exited true ∈ upload.workers
  · exact .inr panicked
  · cases lapsed : upload.isOver with
    | true => exact .inl rfl
    | false =>
        have unfailing : upload.firstError = none := by
          cases failed : upload.firstError with
          | none => rfl
          | some error =>
              have canceled := noticed (by simp [failed])
              simp [isOver_eq, canceled] at lapsed
        exact absurd ⟨lapsed, unfailing, panicked⟩ broken

theorem proceeds_of_broken {upload : Upload} (noticed : upload.Noticed)
    (broken : ¬upload.Intact) (unreturned : ∀ result, upload.phase ≠ .returned result) :
    upload.Proceeds := by
  rcases over_or_panicked noticed broken with lapsed | panicked
  · exact proceeds_of_over lapsed unreturned
  · exact proceeds_of_panicked panicked

theorem Lawful.moves_of_intact {source left : Bytes} {upload : Upload}
    (lawful : upload.Lawful source left) (intact : upload.Intact)
    (unreturned : ∀ result, upload.phase ≠ .returned result) : upload.Moves left := by
  have resolve : (upload.Proceeds ∨
      (upload.isOver = false ∧ ∃ block, .staging block ∈ upload.workers)) → upload.Moves left := by
    rintro (proceeds | ⟨live, block, member⟩)
    · exact proceeds.moves left
    · exact moves_of_staging live member
  cases phase : upload.phase with
  | returned result => exact absurd phase (unreturned result)
  | committing =>
      refine ⟨.commitEnd (.ok {}), left, ?_, rfl, rfl, by simp [intact.live]⟩
      simp only [Upload.step, commitEnd, phase, Option.isSome_some]
  | staging =>
      cases producing : upload.producer with
      | reading filled =>
          exact (lawful.whole phase intact).moves_of_reading intact.live producing
      | sending payload => exact resolve (proceeds_of_sending intact.live producing)
      | finished outcome => exact resolve (proceeds_of_finished phase producing)

/-- An upload that has not returned can go on; by itself, if something has gone wrong. -/
theorem Lawful.moves {source left : Bytes} {upload : Upload}
    (lawful : upload.Lawful source left)
    (unreturned : ∀ result, upload.phase ≠ .returned result) :
    ∃ step next rest, upload.step step = some next ∧ step.leave left = some rest ∧
      step.isSmooth = true ∧ (¬upload.Intact → step.isInternal = true) := by
  by_cases intact : upload.Intact
  · obtain ⟨step, rest, possible, taken, smooth, _⟩ := lawful.moves_of_intact intact unreturned
    obtain ⟨next, same⟩ := Option.isSome_iff_exists.mp possible
    exact ⟨step, next, rest, same, taken, smooth, fun broken => absurd intact broken⟩
  · have proceeds := proceeds_of_broken lawful.noticed intact unreturned
    obtain ⟨step, internal, possible⟩ := proceeds
    obtain ⟨next, same⟩ := Option.isSome_iff_exists.mp possible
    obtain ⟨taken, smooth⟩ := UploadStep.quiet_of_internal internal left
    exact ⟨step, next, left, same, taken, smooth, fun _ => internal⟩

/-- From every state an upload can come to its result; by itself, if something has gone wrong. -/
theorem Lawful.returns {source left : Bytes} {upload : Upload}
    (lawful : upload.Lawful source left) :
    ∃ closing final result rest, upload.steps closing = some final ∧
      UploadStep.draw left closing = some rest ∧ final.phase = .returned result ∧
      ∀ step ∈ closing, step.isSmooth = true ∧ (¬upload.Intact → step.isInternal = true) := by
  generalize ranked : upload.rank left = rank
  induction rank using Nat.strongRecOn generalizing upload left with
  | ind rank ih =>
      by_cases unreturned : ∀ result, upload.phase ≠ .returned result
      · obtain ⟨step, next, rest, possible, taken, smooth, internal⟩ := lawful.moves unreturned
        have moved := transition_of_step possible
        have lower := moved.rank_lt taken (UploadStep.going_of_smooth smooth)
        obtain ⟨closing, final, result, last, ran, drawn, returned, quiet⟩ :=
          ih (next.rank rest) (ranked ▸ lower) (lawful.preserve moved taken) rfl
        refine ⟨step :: closing, final, result, last, steps_cons.mpr ⟨next, possible, ran⟩, ?_,
          returned, ?_⟩
        · rw [UploadStep.draw, List.foldlM_cons, taken]
          exact drawn
        · intro later member
          rcases List.mem_cons.mp member with rfl | old
          · exact ⟨smooth, internal⟩
          · refine ⟨(quiet later old).1, ?_⟩
            intro broken
            exact (quiet later old).2 (fun intact => broken (intact.before moved))
      · obtain ⟨result, returned⟩ : ∃ result, upload.phase = .returned result := by
          simpa using unreturned
        exact ⟨[], upload, result, left, rfl, rfl, returned, by simp⟩

end Upload

end BlobTransfer
