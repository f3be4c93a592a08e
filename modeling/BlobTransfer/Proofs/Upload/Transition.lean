import BlobTransfer.Upload.Step

/-!
What each step of an upload does, once for all proofs: a step that is possible is one of a fixed
number of transitions, each with its conditions and its effect. What every transition preserves
holds after every schedule.
-/

namespace BlobTransfer

namespace Upload

/-- The effect of a step, by what was waiting for it. -/
inductive Transition (upload : Upload) : UploadStep → Upload → Prop
  | readPart {filled bytes}
      (reading : upload.producer = .reading filled) (nonempty : bytes ≠ [])
      (short : (filled ++ bytes).length < upload.options.blockSize) :
      Transition upload (.read bytes) { upload with producer := .reading (filled ++ bytes) }
  | readBlock {filled bytes}
      (reading : upload.producer = .reading filled) (nonempty : bytes ≠ [])
      (full : (filled ++ bytes).length = upload.options.blockSize) :
      Transition upload (.read bytes) (upload.completeBlock (filled ++ bytes))
  | noBlock (reading : upload.producer = .reading []) :
      Transition upload .sourceEnd (upload.recycle.finishProducing (.ok ()))
  | lastBlock {filled} (reading : upload.producer = .reading filled) (nonempty : filled ≠ []) :
      Transition upload .sourceEnd (upload.completeBlock filled)
  | sourceFailure {filled error} (reading : upload.producer = .reading filled) :
      Transition upload (.sourceFailure error) (upload.finishProducing (.error (.io error)))
  | sendShort {payload}
      (sending : upload.producer = .sending payload) (room : upload.channel = none)
      (wanted : upload.canceled = false) (attended : upload.workers.all (·.isGone) = false)
      (short : payload.length < upload.options.blockSize) :
      Transition upload .send ((upload.hand payload).finishProducing (.ok ()))
  | sendFull {payload}
      (sending : upload.producer = .sending payload) (room : upload.channel = none)
      (wanted : upload.canceled = false) (attended : upload.workers.all (·.isGone) = false)
      (full : upload.options.blockSize ≤ payload.length) :
      Transition upload .send (upload.hand payload).beginBlock
  | stopReading {filled}
      (reading : upload.producer = .reading filled) (lapsed : upload.isOver = true) :
      Transition upload .giveUp (upload.finishProducing (.ok ()))
  | stopSending {payload}
      (sending : upload.producer = .sending payload)
      (unwanted : upload.isOver = true ∨ upload.workers.all (·.isGone) = true) :
      Transition upload .giveUp (upload.finishProducing (.ok ()))
  | turn {worker}
      (waiting : upload.workers[worker]? = some .waiting) (free : .receiving ∉ upload.workers) :
      Transition upload (.turn worker) (upload.setWorker worker .receiving)
  | take {worker block}
      (receiving : upload.workers[worker]? = some .receiving)
      (queued : upload.channel = some block) (live : upload.isOver = false) :
      Transition upload (.receive worker)
        { ({ upload with channel := none }).setWorker worker (.staging block) with
          calls := block :: upload.calls }
  | drop {worker block}
      (receiving : upload.workers[worker]? = some .receiving)
      (queued : upload.channel = some block) (lapsed : upload.isOver = true) :
      Transition upload (.receive worker)
        (({ upload with channel := none }).recycle.setWorker worker (.exited false))
  | leave {worker outcome}
      (receiving : upload.workers[worker]? = some .receiving)
      (drained : upload.channel = none) (finished : upload.producer = .finished outcome) :
      Transition upload (.receive worker) (upload.setWorker worker (.exited false))
  | staged {worker block} (staging : upload.workers[worker]? = some (.staging block)) :
      Transition upload (.stageEnd worker .staged)
        ((upload.recycle.recordStaged block).setWorker worker .waiting)
  | failedLate {worker block error}
      (staging : upload.workers[worker]? = some (.staging block)) (lapsed : upload.isOver = true) :
      Transition upload (.stageEnd worker (.failed error))
        (upload.recycle.setWorker worker (.exited false))
  | failed {worker block error}
      (staging : upload.workers[worker]? = some (.staging block))
      (live : upload.isOver = false) :
      Transition upload (.stageEnd worker (.failed error))
        ((upload.recycle.setWorker worker (.exited false)).recordError error)
  | panicked {worker block} (staging : upload.workers[worker]? = some (.staging block)) :
      Transition upload (.stageEnd worker .panicked) (upload.setWorker worker (.exited true))
  | reportPanicked {worker block}
      (staging : upload.workers[worker]? = some (.staging block))
      (reports : upload.options.reportsProgress = true) :
      Transition upload (.stageEnd worker .reportPanicked)
        ((upload.recycle.recordStaged block).setWorker worker (.exited true))
  | abandonStage {worker block}
      (staging : upload.workers[worker]? = some (.staging block)) (lapsed : upload.isOver = true) :
      Transition upload (.abandonStage worker) (upload.recycle.setWorker worker (.exited false))
  | join {worker} (exited : upload.workers[worker]? = some (.exited false)) :
      Transition upload (.join worker) (upload.setWorker worker .joined)
  | joinPanicked {worker} (exited : upload.workers[worker]? = some (.exited true)) :
      Transition upload (.join worker)
        ((upload.setWorker worker .joined).recordError workerPanicked)
  | fail {outcome error}
      (staging : upload.phase = .staging) (finished : upload.producer = .finished outcome)
      (joined : ∀ worker ∈ upload.workers, worker = .joined)
      (failure : upload.failure? outcome = some error) :
      Transition upload .settle { upload with phase := .returned (.error error) }
  | commit {outcome}
      (staging : upload.phase = .staging) (finished : upload.producer = .finished outcome)
      (joined : ∀ worker ∈ upload.workers, worker = .joined)
      (success : upload.failure? outcome = none) :
      Transition upload .settle
        { upload with phase := .committing, commits := upload.blockIds :: upload.commits }
  | commitEnd {outcome} (committing : upload.phase = .committing) :
      Transition upload (.commitEnd outcome)
        { upload with
          phase := .returned (outcome.map fun receipt =>
            { receipt with blockCount := .ofNat upload.handed }) }
  | abandonCommit {reason}
      (committing : upload.phase = .committing) (lapsed : upload.end? = some reason) :
      Transition upload .abandonCommit { upload with phase := .returned (.error reason.error) }
  | cancel : Transition upload .cancel { upload with canceled := true }
  | expire : Transition upload .expire { upload with expired := true }

variable {upload next : Upload}

theorem transition_of_read {bytes : Bytes} (possible : upload.read bytes = some next) :
    Transition upload (.read bytes) next := by
  simp only [read] at possible
  split at possible
  · rename_i filled reading
    split at possible
    · simp at possible
    · rename_i acceptable
      simp only [Bool.or_eq_true, List.isEmpty_iff, decide_eq_true_eq, not_or, Nat.not_lt]
        at acceptable
      obtain ⟨nonempty, fits⟩ := acceptable
      split at possible
      · rename_i short
        simp only [Option.some.injEq] at possible
        subst next
        exact .readPart reading nonempty short
      · rename_i full
        simp only [Option.some.injEq] at possible
        subst next
        exact .readBlock reading nonempty (Nat.le_antisymm fits (Nat.not_lt.mp full))
  · simp at possible

theorem transition_of_sourceEnd (possible : upload.sourceEnd = some next) :
    Transition upload .sourceEnd next := by
  simp only [sourceEnd] at possible
  split at possible
  · rename_i reading
    simp only [Option.some.injEq] at possible
    subst next
    exact .noBlock reading
  · rename_i filled nonempty reading
    simp only [Option.some.injEq] at possible
    subst next
    exact .lastBlock reading (fun empty => nonempty empty)
  · simp at possible

theorem transition_of_send (possible : upload.send = some next) :
    Transition upload .send next := by
  simp only [send] at possible
  split at possible
  · rename_i payload sending room
    split at possible
    · simp at possible
    · rename_i acceptable
      simp only [Bool.or_eq_true, not_or, Bool.not_eq_true] at acceptable
      obtain ⟨wanted, attended⟩ := acceptable
      split at possible
      · rename_i short
        simp only [Option.some.injEq] at possible
        subst next
        exact .sendShort sending room wanted attended short
      · rename_i full
        simp only [Option.some.injEq] at possible
        subst next
        exact .sendFull sending room wanted attended (Nat.not_lt.mp full)
  · simp at possible

theorem transition_of_giveUp (possible : upload.giveUp = some next) :
    Transition upload .giveUp next := by
  simp only [giveUp] at possible
  split at possible
  · rename_i filled reading
    split at possible
    · rename_i lapsed
      simp only [Option.some.injEq] at possible
      subst next
      exact .stopReading reading lapsed
    · simp at possible
  · rename_i payload sending
    split at possible
    · rename_i unwanted
      simp only [Bool.or_eq_true] at unwanted
      simp only [Option.some.injEq] at possible
      subst next
      exact .stopSending sending unwanted
    · simp at possible
  · simp at possible

theorem transition_of_receive {worker : Nat} (possible : upload.receive worker = some next) :
    Transition upload (.receive worker) next := by
  simp only [receive] at possible
  split at possible
  · rename_i receiving
    split at possible
    · rename_i block queued
      split at possible
      · rename_i lapsed
        simp only [Option.some.injEq] at possible
        subst next
        exact .drop receiving queued lapsed
      · rename_i live
        simp only [Option.some.injEq] at possible
        subst next
        exact .take receiving queued (Bool.eq_false_iff.mpr live)
    · rename_i drained finished
      simp only [Option.some.injEq] at possible
      subst next
      exact .leave receiving drained finished
    · simp at possible
  · simp at possible

theorem transition_of_stageEnd {worker : Nat} {outcome : StageOutcome}
    (possible : upload.stageEnd worker outcome = some next) :
    Transition upload (.stageEnd worker outcome) next := by
  simp only [stageEnd] at possible
  split at possible
  · rename_i block staging
    cases outcome with
    | staged =>
        simp only [Option.some.injEq] at possible
        subst next
        exact .staged staging
    | failed error =>
        simp only [Option.some.injEq] at possible
        subst next
        split
        · rename_i lapsed
          exact .failedLate staging lapsed
        · rename_i live
          exact .failed staging (Bool.eq_false_iff.mpr live)
    | panicked =>
        simp only [Option.some.injEq] at possible
        subst next
        exact .panicked staging
    | reportPanicked =>
        simp only at possible
        split at possible
        · rename_i reports
          simp only [Option.some.injEq] at possible
          subst next
          exact .reportPanicked staging reports
        · simp at possible
  · simp at possible

theorem transition_of_join {worker : Nat} (possible : upload.join worker = some next) :
    Transition upload (.join worker) next := by
  simp only [join] at possible
  split at possible
  · rename_i panicked exited
    simp only [Option.some.injEq] at possible
    subst next
    cases panicked with
    | false => exact .join exited
    | true => exact .joinPanicked exited
  · simp at possible

theorem transition_of_settle (possible : upload.settle = some next) :
    Transition upload .settle next := by
  simp only [settle] at possible
  split at possible
  · rename_i outcome staging finished
    split at possible
    · rename_i joined
      simp only [List.all_eq_true, decide_eq_true_eq] at joined
      split at possible
      · rename_i error failure
        simp only [Option.some.injEq] at possible
        subst next
        exact .fail staging finished joined failure
      · rename_i success
        simp only [Option.some.injEq] at possible
        subst next
        exact .commit staging finished joined success
    · simp at possible
  · simp at possible

theorem transition_of_step {step : UploadStep} (possible : upload.step step = some next) :
    Transition upload step next := by
  cases step with
  | read bytes => exact transition_of_read possible
  | sourceEnd => exact transition_of_sourceEnd possible
  | sourceFailure error =>
      simp only [Upload.step, sourceFailure] at possible
      split at possible
      · rename_i filled reading
        simp only [Option.some.injEq] at possible
        subst next
        exact .sourceFailure reading
      · simp at possible
  | send => exact transition_of_send possible
  | giveUp => exact transition_of_giveUp possible
  | turn worker =>
      simp only [Upload.step, turn] at possible
      split at possible
      · rename_i free
        simp only [Option.some.injEq] at possible
        subst next
        exact .turn free.1 free.2
      · simp at possible
  | receive worker => exact transition_of_receive possible
  | stageEnd worker outcome => exact transition_of_stageEnd possible
  | abandonStage worker =>
      simp only [Upload.step, abandonStage] at possible
      split at possible
      · rename_i block staging
        split at possible
        · rename_i lapsed
          simp only [Option.some.injEq] at possible
          subst next
          exact .abandonStage staging lapsed
        · simp at possible
      · simp at possible
  | join worker => exact transition_of_join possible
  | settle => exact transition_of_settle possible
  | commitEnd outcome =>
      simp only [Upload.step, commitEnd] at possible
      split at possible
      · rename_i committing
        simp only [Option.some.injEq] at possible
        subst next
        exact .commitEnd committing
      · simp at possible
  | abandonCommit =>
      simp only [Upload.step, abandonCommit] at possible
      split at possible
      · rename_i reason committing lapsed
        simp only [Option.some.injEq] at possible
        subst next
        exact .abandonCommit committing lapsed
      · simp at possible
  | cancel =>
      simp only [Upload.step, Option.some.injEq] at possible
      subst next
      exact .cancel
  | expire =>
      simp only [Upload.step, Option.some.injEq] at possible
      subst next
      exact .expire

end Upload

end BlobTransfer
