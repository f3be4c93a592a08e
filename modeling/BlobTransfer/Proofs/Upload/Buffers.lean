import BlobTransfer.Proofs.Upload.Commit

/-!
How many buffers an upload keeps alive: at most one for each worker, one in the channel and one
with the producer. An upload of enough full blocks comes to that many.
-/

namespace BlobTransfer

def Producer.buffers : Producer → Nat
  | .reading _ | .sending _ => 1
  | .finished _ => 0

theorem countP_set_add {workers : List Worker} {worker : Nat} {before : Worker}
    (found : workers[worker]? = some before) (after : Worker) :
    (workers.set worker after).countP (·.isStaging) + before.isStaging.toNat =
      workers.countP (·.isStaging) + after.isStaging.toNat := by
  induction workers generalizing worker with
  | nil => simp at found
  | cons first rest ih =>
      cases worker with
      | zero =>
          simp only [List.getElem?_cons_zero, Option.some.injEq] at found
          subst first
          cases held : before.isStaging <;> cases taken : after.isStaging <;>
            simp [held, taken]
      | succ worker =>
          have moved := ih (by simpa using found)
          simp only [List.set_cons_succ, List.countP_cons]
          omega

namespace Upload

/-- Buffers with the producer, in the channel, with workers, and those waiting to be used again. -/
def buffers (upload : Upload) : Nat :=
  upload.producer.buffers + upload.channel.toList.length +
    upload.workers.countP (·.isStaging) + upload.idleBuffers

theorem finishProducing_buffers (upload : Upload) (outcome : Except TransferError Unit) :
    (upload.finishProducing outcome).buffers + upload.producer.buffers = upload.buffers := by
  simp only [buffers, finishProducing, Producer.buffers]
  omega

theorem completeBlock_buffers_le (upload : Upload) (payload : Bytes) :
    (upload.completeBlock payload).buffers + upload.producer.buffers ≤ upload.buffers + 1 := by
  unfold completeBlock
  split
  · rw [finishProducing_buffers]
    omega
  · simp only [buffers, Producer.buffers]
    omega

theorem hand_buffers {upload : Upload} (room : upload.channel = none) (payload : Bytes) :
    (upload.hand payload).buffers = upload.buffers + 1 := by
  simp only [buffers, hand, room, Option.toList_none, Option.toList_some, List.length_nil,
    List.length_singleton]
  omega

theorem beginBlock_buffers_le (upload : Upload) :
    upload.beginBlock.buffers + upload.producer.buffers ≤ upload.buffers + 1 ∧
    (upload.beginBlock.buffers + upload.producer.buffers ≤ upload.buffers ∨
      upload.beginBlock.buffers ≤ upload.workers.length + 2) := by
  have busy := List.countP_le_length (p := (·.isStaging)) (l := upload.workers)
  have queued : upload.channel.toList.length ≤ 1 := by
    cases upload.channel <;> simp
  unfold beginBlock
  split
  · rw [finishProducing_buffers]
    omega
  · simp only [buffers, Producer.buffers]
    omega

theorem setWorker_buffers {upload : Upload} {worker : Nat} {before : Worker}
    (found : upload.workers[worker]? = some before) (after : Worker) :
    (upload.setWorker worker after).buffers + before.isStaging.toNat =
      upload.buffers + after.isStaging.toNat := by
  have moved := countP_set_add found after
  simp only [buffers, setWorker]
  omega

theorem recycle_buffers (upload : Upload) : upload.recycle.buffers = upload.buffers + 1 := rfl

theorem Transition.workers_length {upload next : Upload} {step : UploadStep}
    (moved : Transition upload step next) : next.workers.length = upload.workers.length := by
  cases moved with
  | readBlock | lastBlock =>
      unfold completeBlock finishProducing
      split <;> rfl
  | sendFull =>
      unfold beginBlock finishProducing
      split <;> rfl
  | turn | take | drop | leave | staged | failedLate | failed | panicked | reportPanicked
  | abandonStage | join | joinPanicked => exact List.length_set
  | _ => rfl

/-- Only the producer takes a new buffer, and only when the others are all in use. -/
theorem Transition.buffers_le {upload next : Upload} {step : UploadStep}
    (moved : Transition upload step next) :
    next.buffers ≤ max upload.buffers (upload.workers.length + 2) := by
  cases moved with
  | readPart reading =>
      simp only [buffers, reading, Producer.buffers]
      omega
  | @readBlock filled bytes reading nonempty full =>
      have completed := upload.completeBlock_buffers_le (filled ++ bytes)
      simp only [reading, Producer.buffers] at completed
      omega
  | @lastBlock filled reading nonempty =>
      have completed := upload.completeBlock_buffers_le filled
      simp only [reading, Producer.buffers] at completed
      omega
  | noBlock reading =>
      have finished := upload.recycle.finishProducing_buffers (.ok ())
      have taken : upload.recycle.producer.buffers = 1 := by
        simp only [recycle, reading, Producer.buffers]
      have kept := upload.recycle_buffers
      omega
  | @sourceFailure filled error reading =>
      have finished := upload.finishProducing_buffers (.error (.io error))
      omega
  | stopReading | stopSending =>
      have finished := upload.finishProducing_buffers (.ok ())
      omega
  | @sendShort payload sending room =>
      have handed := hand_buffers room payload
      have finished := (upload.hand payload).finishProducing_buffers (.ok ())
      have same : (upload.hand payload).producer.buffers = 1 := by
        simp only [hand, sending, Producer.buffers]
      omega
  | @sendFull payload sending room =>
      have handed := hand_buffers room payload
      have same : (upload.hand payload).producer.buffers = 1 := by
        simp only [hand, sending, Producer.buffers]
      have begun : (upload.hand payload).beginBlock.buffers + 1 ≤ (upload.hand payload).buffers ∨
          (upload.hand payload).beginBlock.buffers ≤ upload.workers.length + 2 := by
        rw [← same]
        exact (upload.hand payload).beginBlock_buffers_le.2
      omega
  | @turn worker waiting free =>
      have moved := setWorker_buffers waiting .receiving
      simp only [Worker.isStaging, Bool.toNat_false] at moved
      omega
  | @take worker block receiving queued live =>
      have moved : (upload.workers.set worker (.staging block)).countP (·.isStaging) + 0 =
          upload.workers.countP (·.isStaging) + 1 := countP_set_add receiving (.staging block)
      simp only [buffers, setWorker, queued, Option.toList_some, Option.toList_none,
        List.length_nil, List.length_singleton]
      omega
  | @drop worker block receiving queued lapsed =>
      have moved : (upload.workers.set worker (.exited false)).countP (·.isStaging) + 0 =
          upload.workers.countP (·.isStaging) + 0 := countP_set_add receiving (.exited false)
      simp only [buffers, setWorker, recycle, queued, Option.toList_some, Option.toList_none,
        List.length_nil, List.length_singleton]
      omega
  | @leave worker outcome receiving drained finished =>
      have moved := setWorker_buffers receiving (.exited false)
      simp only [Worker.isStaging, Bool.toNat_false] at moved
      omega
  | @staged worker block staging =>
      have moved := @setWorker_buffers upload.recycle _ _ staging .waiting
      have kept := upload.recycle_buffers
      simp only [Worker.isStaging, Bool.toNat_false, Bool.toNat_true] at moved
      change (upload.recycle.setWorker worker .waiting).buffers ≤ _
      omega
  | @reportPanicked worker block staging reports =>
      have moved := @setWorker_buffers upload.recycle _ _ staging (.exited true)
      have kept := upload.recycle_buffers
      simp only [Worker.isStaging, Bool.toNat_false, Bool.toNat_true] at moved
      change (upload.recycle.setWorker worker (.exited true)).buffers ≤ _
      omega
  | @failedLate worker _ _ staging _ | @failed worker _ _ staging _
  | @abandonStage worker _ staging _ =>
      have moved := @setWorker_buffers upload.recycle _ _ staging (.exited false)
      have kept := upload.recycle_buffers
      simp only [Worker.isStaging, Bool.toNat_false, Bool.toNat_true] at moved
      change (upload.recycle.setWorker worker (.exited false)).buffers ≤ _
      omega
  | @panicked worker block staging =>
      have moved := setWorker_buffers staging (.exited true)
      simp only [Worker.isStaging, Bool.toNat_false, Bool.toNat_true] at moved
      omega
  | @join worker exited | @joinPanicked worker exited =>
      have moved := setWorker_buffers exited .joined
      simp only [Worker.isStaging, Bool.toNat_false] at moved
      change (upload.setWorker worker .joined).buffers ≤ _
      omega
  | fail | commit | commitEnd | abandonCommit | cancel | expire => exact Nat.le_max_left _ _

theorem start_workers_le (options : UploadOptions) (transfer : Uuid) (ended : Option ScopeEnd) :
    (start options transfer ended).workers.length ≤ options.maxConcurrency := by
  unfold start
  split
  · exact Nat.zero_le _
  · unfold beginBlock finishProducing
    split <;> simp

theorem start_buffers_le (options : UploadOptions) (transfer : Uuid) (ended : Option ScopeEnd) :
    (start options transfer ended).buffers ≤ 1 := by
  unfold start
  split
  · simp [buffers, Producer.buffers]
  · unfold beginBlock finishProducing
    split <;> simp [buffers, Producer.buffers, List.countP_replicate, Worker.isStaging]

theorem buffers_le_of_steps {options : UploadOptions} {transfer : Uuid} {ended : Option ScopeEnd}
    {schedule : List UploadStep} {upload : Upload}
    (ran : (start options transfer ended).steps schedule = some upload) :
    upload.buffers ≤ options.maxConcurrency + 2 := by
  have kept := steps_preserve_all
    (fun upload => upload.workers.length ≤ options.maxConcurrency ∧
      upload.buffers ≤ options.maxConcurrency + 2) ?_
    ⟨start_workers_le options transfer ended, ?_⟩ ran
  · exact kept.2
  · intro upload step next ⟨few, bounded⟩ moved
    have same := moved.workers_length
    have grown := moved.buffers_le
    omega
  · have first := start_buffers_le options transfer ended
    omega

structure Filling (options : UploadOptions) (busy : Nat) (upload : Upload) : Prop where
  same : upload.options = options
  reading : upload.producer = .reading []
  room : upload.channel = none
  fresh : upload.idleBuffers = 0
  live : upload.isOver = false
  unfailing : upload.firstError = none
  handed : upload.handed = busy
  manned : upload.workers.length = options.maxConcurrency
  staging : ∀ worker < busy, ∃ block, upload.workers[worker]? = some (.staging block)
  waiting : ∀ worker, busy ≤ worker → worker < options.maxConcurrency →
    upload.workers[worker]? = some .waiting

theorem filling_start {options : UploadOptions} (transfer : Uuid)
    (valid : options.validate = .ok ()) : Filling options 0 (start options transfer none) := by
  have begun : start options transfer none = {
      options, transfer, producer := .reading []
      workers := List.replicate options.maxConcurrency .waiting } := by
    simp [start, valid, beginBlock, isOver, end?]
  rw [begun]
  refine ⟨rfl, rfl, rfl, rfl, rfl, rfl, rfl, List.length_replicate, ?_, ?_⟩
  · intro worker below
    omega
  · intro worker _ below
    exact List.getElem?_replicate_of_lt below

theorem steps_take {upload : Upload} {worker : Nat} {block : Block}
    (waiting : upload.workers[worker]? = some .waiting) (free : .receiving ∉ upload.workers)
    (queued : upload.channel = some block) (live : upload.isOver = false) :
    upload.steps [.turn worker, .receive worker] = some { upload with
      channel := none, workers := upload.workers.set worker (.staging block)
      calls := block :: upload.calls } := by
  have bound := (List.getElem?_eq_some_iff.mp waiting).1
  have turned : upload.step (.turn worker) = some (upload.setWorker worker .receiving) := by
    simp only [Upload.step, turn]
    rw [if_pos ⟨waiting, free⟩]
  have receiving : (upload.setWorker worker .receiving).workers[worker]? = some .receiving :=
    List.getElem?_set_self bound
  have live' : (upload.setWorker worker .receiving).isOver = false := live
  have queued' : (upload.setWorker worker .receiving).channel = some block := queued
  refine steps_cons.mpr ⟨_, turned, steps_cons.mpr ⟨_, ?_, rfl⟩⟩
  simp only [Upload.step, receive]
  rw [if_pos receiving, queued']
  change (if (upload.setWorker worker .receiving).isOver = true then _ else _) = _
  rw [live', if_neg Bool.false_ne_true]
  simp only [setWorker, List.set_set]

theorem draw_block {left : Bytes} {size : Nat} (full : (left.take size).length = size)
    (others : List UploadStep)
    (unread : UploadStep.draw (left.drop size) others = some (left.drop size)) :
    UploadStep.draw left (.read (left.take size) :: others) = some (left.drop size) := by
  have taken : (UploadStep.read (left.take size)).leave left = some (left.drop size) := by
    simp only [UploadStep.leave, List.take_prefix, if_true, full]
  simpa only [UploadStep.draw, List.foldlM_cons, taken, Option.bind_eq_bind, Option.bind_some]
    using unread

namespace Filling

variable {options : UploadOptions} {busy : Nat} {upload : Upload} {payload : Bytes}

theorem attended (filling : upload.Filling options busy) (manned : 0 < options.maxConcurrency) :
    upload.workers.all (·.isGone) = false := by
  by_cases begun : 0 < busy
  · obtain ⟨block, staging⟩ := filling.staging 0 begun
    exact List.all_eq_false.mpr ⟨_, List.mem_of_getElem? staging, by simp [Worker.isGone]⟩
  · have waiting := filling.waiting 0 (by omega) manned
    exact List.all_eq_false.mpr ⟨_, List.mem_of_getElem? waiting, by simp [Worker.isGone]⟩

theorem hand (filling : upload.Filling options busy) (manned : 0 < options.maxConcurrency)
    (few : busy < mostBlocks) (sized : 0 < options.blockSize)
    (full : payload.length = options.blockSize) :
    upload.steps [.read payload, .send] = some { upload with
      producer := .reading [], channel := some ⟨busy, payload⟩, handed := busy + 1 } := by
  have filled : payload ≠ [] := List.length_pos_iff.mp (by omega)
  obtain ⟨wanted, pending⟩ : upload.canceled = false ∧ upload.expired = false := by
    simpa [isOver_eq] using filling.live
  have read : upload.step (.read payload) = some { upload with producer := .sending payload } := by
    have room : ¬busy = mostBlocks := by omega
    simp [Upload.step, Upload.read, filling.reading, filling.same, filled, full, completeBlock,
      filling.handed, room]
  have sent : ({ upload with producer := .sending payload } : Upload).step .send =
      some { upload with
        producer := .reading [], channel := some ⟨busy, payload⟩, handed := busy + 1 } := by
    simp [Upload.step, send, filling.room, filling.same, full, wanted, pending,
      filling.attended manned, Upload.hand, beginBlock, filling.unfailing, isOver_eq,
      filling.fresh, filling.handed]
  simp only [steps, List.foldlM_cons, List.foldlM_nil, read, sent, Option.bind_eq_bind,
    Option.bind_some, pure]

theorem round (filling : upload.Filling options busy) (idle : busy < options.maxConcurrency)
    (few : busy < mostBlocks) (sized : 0 < options.blockSize)
    (full : payload.length = options.blockSize) :
    ∃ next, upload.steps [.read payload, .send, .turn busy, .receive busy] = some next ∧
      next.Filling options (busy + 1) := by
  have waiting := filling.waiting busy (Nat.le_refl busy) idle
  have bound := (List.getElem?_eq_some_iff.mp waiting).1
  have free : .receiving ∉ upload.workers := by
    intro member
    obtain ⟨worker, found⟩ := List.mem_iff_getElem?.mp member
    by_cases below : worker < busy
    · obtain ⟨block, staging⟩ := filling.staging worker below
      simp [staging] at found
    · have within := (List.getElem?_eq_some_iff.mp found).1
      have other := filling.waiting worker (by omega) (filling.manned ▸ within)
      simp [other] at found
  have handed := filling.hand (by omega) few sized full
  have taken := @steps_take { upload with
    producer := .reading [], channel := some ⟨busy, payload⟩, handed := busy + 1 }
    _ _ waiting free rfl filling.live
  refine ⟨_, steps_append.mpr ⟨_, handed, taken⟩, ?_⟩
  refine ⟨filling.same, rfl, rfl, filling.fresh, filling.live, filling.unfailing, rfl, ?_, ?_, ?_⟩
  · simpa using filling.manned
  · intro worker below
    by_cases last : worker = busy
    · subst worker
      exact ⟨⟨busy, payload⟩, List.getElem?_set_self bound⟩
    · obtain ⟨block, staging⟩ := filling.staging worker (by omega)
      exact ⟨block, (List.getElem?_set_ne (by omega)).trans staging⟩
  · intro worker above below
    exact (List.getElem?_set_ne (by omega)).trans (filling.waiting worker (by omega) below)

theorem buffers_eq (filling : upload.Filling options options.maxConcurrency) :
    upload.buffers = options.maxConcurrency + 1 := by
  have busy : upload.workers.countP (·.isStaging) = upload.workers.length := by
    refine List.countP_eq_length.mpr ?_
    intro state member
    obtain ⟨worker, found⟩ := List.mem_iff_getElem?.mp member
    have bound := (List.getElem?_eq_some_iff.mp found).1
    obtain ⟨block, staging⟩ := filling.staging worker (filling.manned ▸ bound)
    rw [staging, Option.some.injEq] at found
    subst state
    rfl
  simp only [buffers, filling.reading, Producer.buffers, filling.room, Option.toList_none,
    List.length_nil, busy, filling.manned, filling.fresh]
  omega

/-- As long as the source has blocks, all workers come to hold one, and one more waits in the
channel while the producer fills the next. -/
theorem crowds {left : Bytes} {idle : Nat} (filling : upload.Filling options busy)
    (rest : busy + idle = options.maxConcurrency) (manned : 0 < options.maxConcurrency)
    (few : options.maxConcurrency < mostBlocks) (sized : 0 < options.blockSize)
    (long : (idle + 1) * options.blockSize ≤ left.length) :
    ∃ schedule final rest, upload.steps schedule = some final ∧
      UploadStep.draw left schedule = some rest ∧
      final.buffers = options.maxConcurrency + 2 := by
  induction idle generalizing busy upload left with
  | zero =>
      obtain rfl : busy = options.maxConcurrency := by omega
      have full : (left.take options.blockSize).length = options.blockSize := by
        rw [List.length_take]
        omega
      have crowded := filling.buffers_eq
      refine ⟨_, _, _, filling.hand manned few sized full, draw_block full [.send] rfl, ?_⟩
      simp only [buffers, filling.reading, filling.room, Producer.buffers, Option.toList_none,
        Option.toList_some, List.length_nil, List.length_singleton] at crowded ⊢
      omega
  | succ idle ih =>
      have full : (left.take options.blockSize).length = options.blockSize := by
        rw [Nat.add_mul] at long
        rw [List.length_take]
        omega
      obtain ⟨next, ran, filling⟩ := filling.round (by omega) (by omega) sized full
      have enough : (idle + 1) * options.blockSize ≤ (left.drop options.blockSize).length := by
        rw [List.length_drop]
        rw [Nat.add_mul (idle + 1)] at long
        omega
      obtain ⟨schedule, final, rest, continued, drawn, crowded⟩ := ih filling (by omega) enough
      exact ⟨_, final, rest, steps_append.mpr ⟨next, ran, continued⟩,
        draw_append.mpr ⟨_, draw_block full [.send, .turn busy, .receive busy] rfl, drawn⟩,
        crowded⟩

end Filling

/-- An upload never needs more than two buffers besides those of its workers, and with enough
blocks to read some schedule comes to that many. -/
theorem most_buffers_of_upload (options : UploadOptions) (transfer : Uuid) :
    (∀ ended schedule upload, (start options transfer ended).steps schedule = some upload →
      upload.buffers ≤ options.maxConcurrency + 2) ∧
    ∀ source : Bytes, options.validate = .ok () → options.maxConcurrency < mostBlocks →
      (options.maxConcurrency + 1) * options.blockSize ≤ source.length →
      ∃ schedule upload left,
        (start options transfer none).steps schedule = some upload ∧
        UploadStep.draw source schedule = some left ∧
        upload.buffers = options.maxConcurrency + 2 := by
  refine ⟨fun _ _ _ ran => buffers_le_of_steps ran, ?_⟩
  intro source valid few long
  obtain ⟨sized, manned⟩ := UploadOptions.positive_of_validate valid
  exact (filling_start transfer valid).crowds (Nat.zero_add _) manned few sized long

def crowding : List UploadStep :=
  [.read [1], .send, .turn 0, .receive 0, .read [2], .send]

theorem crowded_upload_exceeds_workers_and_one :
    ∃ upload, (start { blockSize := 1, maxConcurrency := 1 } (.random fun _ => 0) none).steps
        crowding = some upload ∧
      ¬ upload.buffers ≤ 1 + 1 :=
  ⟨_, rfl, by decide⟩

theorem two_workers_come_to_four_buffers :
    ∃ schedule upload left,
      (start { blockSize := 1, maxConcurrency := 2 } (.random fun _ => 0) none).steps schedule =
        some upload ∧
      UploadStep.draw [1, 2, 3] schedule = some left ∧ upload.buffers = 2 + 2 ∧
      ∀ later final, upload.steps later = some final → final.buffers ≤ 2 + 2 := by
  obtain ⟨bounded, reached⟩ := most_buffers_of_upload { blockSize := 1, maxConcurrency := 2 }
    (.random fun _ => 0)
  obtain ⟨schedule, upload, left, ran, drawn, crowded⟩ :=
    reached [1, 2, 3] rfl (by decide) (by decide)
  exact ⟨schedule, upload, left, ran, drawn, crowded, fun later final continued =>
    bounded none (schedule ++ later) final (steps_append.mpr ⟨upload, ran, continued⟩)⟩

end Upload

end BlobTransfer
