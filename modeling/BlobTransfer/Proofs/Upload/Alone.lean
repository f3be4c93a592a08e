import BlobTransfer.Proofs.Upload.Sharing

/-!
An upload that has a store to itself and with which nothing goes wrong. Until it returns, each
block it has staged is there under its name and the blob is as it was; then the blob is its source.
It gets there in so many steps at most, whichever they are, and there is always another one.
-/

namespace BlobTransfer

namespace Upload

structure Flawless (base : BlobStore) (source left : Bytes) (upload : Upload)
    (store : BlobStore) : Prop where
  smooth : upload.Smooth source left
  positive : 0 < upload.options.blockSize
  few : upload.options.blocksFor source.length ≤ mostBlocks
  allowed : upload.options.conditions.allow (base.blob.map (·.etag)) = true
  underway : (∀ result, upload.phase ≠ .returned result) → store.blob = base.blob ∧
    ∀ block ∈ upload.staged,
      store.staged[(upload.blockId block.number).text]? = some block.payload
  returned : ∀ result, upload.phase = .returned result → store.blob.map (·.data) = some source

variable {base store after : BlobStore} {source left rest : Bytes} {upload next : Upload}
  {step : UploadStep}

theorem Intact.end?_eq (intact : upload.Intact) : upload.end? = none := by
  simpa [isOver] using intact.live

theorem Transition.unanswered (moved : Transition upload step next)
    (unanswered : step.isSuccess = false) (smooth : step.isSmooth = true)
    (unfailed : ∀ error, next.phase ≠ .returned (.error error)) :
    next.staged = upload.staged ∧
      ∀ result, next.phase = .returned result ↔ upload.phase = .returned result := by
  cases moved with
  | readBlock | lastBlock =>
      unfold completeBlock finishProducing
      split <;> exact ⟨rfl, fun _ => Iff.rfl⟩
  | sendFull =>
      unfold beginBlock finishProducing
      split <;> exact ⟨rfl, fun _ => Iff.rfl⟩
  | commit staging => exact ⟨rfl, by simp [staging]⟩
  | fail | abandonCommit => exact absurd rfl (unfailed _)
  | staged | reportPanicked => simp [UploadStep.isSuccess] at unanswered
  | @commitEnd outcome committing =>
      cases outcome with
      | ok receipt => simp [UploadStep.isSuccess] at unanswered
      | error error => simp [UploadStep.isSmooth, UploadStep.failsCommit] at smooth
  | _ => exact ⟨rfl, fun _ => Iff.rfl⟩

namespace Flawless

theorem commits (flawless : upload.Flawless base source left store)
    (committing : upload.phase = .committing) :
    store.Commits upload.end? upload.blockList ∧
      upload.blockList.ids.flatMap store.block = source := by
  have lawful := flawless.smooth.lawful
  obtain ⟨_, complete, _⟩ := lawful.of_begun (lawful.orderly.begun (.inl committing))
  obtain ⟨unwritten, staged⟩ := flawless.underway (by simp [committing])
  have ids : upload.blockList.ids =
      (List.range (upload.options.blocksFor source.length)).map fun number =>
        (upload.blockId number).text := by
    simp only [blockList, blockIds, complete.counted, List.map_map]
    rfl
  have there : ∀ number < upload.options.blocksFor source.length,
      store.staged[(upload.blockId number).text]? =
        some (upload.options.block source number).payload := by
    intro number below
    refine staged (upload.options.block source number) (complete.staged.mem_iff.mpr ?_)
    exact UploadOptions.mem_firstBlocks.mpr ⟨below, rfl⟩
  refine ⟨⟨flawless.smooth.intact.end?_eq, ?_, ?_⟩, ?_⟩
  · rw [unwritten]
    exact flawless.allowed
  · intro id member
    rw [ids, List.mem_map] at member
    obtain ⟨number, listed, rfl⟩ := member
    rw [Std.TreeMap.mem_iff_isSome_getElem?, there number (List.mem_range.mp listed)]
    rfl
  · rw [ids]
    exact BlobStore.flatMap_block flawless.positive there

theorem smooth_step (flawless : upload.Flawless base source left store)
    (moved : Transition upload step next)
    (effect : SharedUploads.Effect true store upload step after) : step.isSmooth = true := by
  cases effect with
  | apart unanswered unfailing => exact unfailing rfl
  | stage staging called told =>
      rw [flawless.smooth.intact.end?_eq, BlobStore.stage_of_live, Prod.mk.injEq] at called
      obtain ⟨receipt, _, rfl | ⟨contrary, _⟩⟩ | ⟨error, refused, _⟩ := told
      · rfl
      · simp at contrary
      · rw [← called.1] at refused
        contradiction
  | commit called =>
      cases moved with
      | commitEnd committing =>
          rw [(flawless.commits committing).1.commit, Prod.mk.injEq] at called
          rw [← called.1]
          rfl

theorem staged_insert (flawless : upload.Flawless base source left store) {worker : Nat}
    {block other : Block} (found : upload.workers[worker]? = some (.staging block))
    (member : other ∈ block :: upload.staged)
    (staged : ∀ block ∈ upload.staged,
      store.staged[(upload.blockId block.number).text]? = some block.payload) :
    (store.staged.insert (upload.blockId block.number).text block.payload)[
      (upload.blockId other.number).text]? = some other.payload := by
  have lawful := flawless.smooth.lawful
  have staging : upload.phase = .staging := by
    by_contra settled
    have joined := (lawful.orderly.idle settled).1 _ (List.mem_of_getElem? found)
    contradiction
  have whole := lawful.whole staging flawless.smooth.intact
  have held : block ∈ heldBlocks upload.workers :=
    List.mem_filterMap.mpr ⟨_, List.mem_of_getElem? found, rfl⟩
  have genuine : ∀ held ∈ block :: upload.staged,
      held.number < upload.handed ∧ upload.options.block source held.number = held := by
    intro held' member
    refine UploadOptions.mem_firstBlocks.mp (whole.accounted.mem_iff.mp ?_)
    obtain rfl | old := List.mem_cons.mp member
    · exact List.mem_append_right _ (List.mem_append_left _ held)
    · exact List.mem_append_right _ (List.mem_append_right _ old)
  rw [Std.TreeMap.getElem?_insert]
  split
  · rename_i same
    have small : mostBlocks < UInt32.size := by decide
    have bounded := whole.bounded
    obtain ⟨below, payload⟩ := genuine block List.mem_cons_self
    obtain ⟨below', payload'⟩ := genuine other member
    have number := (BlockId.text_new_inj (by omega) (by omega)
      (Std.LawfulEqCmp.eq_of_compare same)).2
    rw [← payload, ← payload', number]
  · rename_i different
    obtain rfl | old := List.mem_cons.mp member
    · simp at different
    · exact staged other old

theorem preserve (flawless : upload.Flawless base source left store)
    (moved : Transition upload step next) (taken : step.leave left = some rest)
    (effect : SharedUploads.Effect true store upload step after) :
    next.Flawless base source rest after := by
  have smooth := flawless.smooth_step moved effect
  have state := flawless.smooth.preserve flawless.few moved taken smooth
  obtain ⟨options, transfer⟩ := moved.fixed
  have keeps : ((∀ result, next.phase ≠ .returned result) → after.blob = base.blob ∧
      ∀ block ∈ next.staged,
        after.staged[(upload.blockId block.number).text]? = some block.payload) →
      (∀ result, next.phase = .returned result → after.blob.map (·.data) = some source) →
      next.Flawless base source rest after := by
    intro underway returned
    refine ⟨state, options ▸ flawless.positive, options ▸ flawless.few,
      options ▸ flawless.allowed, ?_, returned⟩
    rwa [show next.blockId = upload.blockId by unfold blockId; rw [transfer]]
  cases effect with
  | apart unanswered =>
      obtain ⟨staged, phase⟩ := moved.unanswered unanswered smooth state.unfailed
      refine keeps ?_ fun result returned => flawless.returned result ((phase result).mp returned)
      intro unreturned
      rw [staged]
      exact flawless.underway fun result returned => unreturned result ((phase result).mpr returned)
  | @stage worker block mark result outcome _ staging called told =>
      rw [flawless.smooth.intact.end?_eq, BlobStore.stage_of_live, Prod.mk.injEq] at called
      obtain ⟨_, rfl⟩ := called
      cases moved with
      | staged found =>
          obtain rfl := Worker.staging.inj (Option.some.inj (found.symm.trans staging))
          refine keeps ?_ flawless.returned
          intro unreturned
          obtain ⟨unwritten, staged⟩ := flawless.underway unreturned
          exact ⟨unwritten, fun other member => flawless.staged_insert staging member staged⟩
      | _ => simp [UploadStep.isSmooth, UploadStep.isFault] at smooth
  | commit called =>
      cases moved with
      | commitEnd committing =>
          obtain ⟨commits, whole⟩ := flawless.commits committing
          rw [commits.commit, Prod.mk.injEq] at called
          obtain ⟨_, rfl⟩ := called
          exact keeps (fun unreturned => absurd rfl (unreturned _)) fun _ _ => congrArg some whole

end Flawless

theorem start_fresh {options : UploadOptions} (transfer : Uuid) (ended : Option ScopeEnd)
    (valid : options.validate = .ok ()) :
    (start options transfer ended).staged = [] ∧
      (start options transfer ended).phase = .staging ∧
      (start options transfer ended).workers = List.replicate options.maxConcurrency .waiting := by
  simp only [start, valid]
  unfold beginBlock finishProducing
  split <;> exact ⟨rfl, rfl, rfl⟩

theorem flawless_start {options : UploadOptions} (transfer : Uuid)
    (valid : options.validate = .ok ()) (few : options.blocksFor source.length ≤ mostBlocks)
    (allowed : options.conditions.allow (store.blob.map (·.etag)) = true) :
    (start options transfer none).Flawless store source source store := by
  have unmoved : (start options transfer none).steps [] = some (start options transfer none) := rfl
  have fixed := (fixed_of_steps unmoved).1
  obtain ⟨unstaged, staging, _⟩ := start_fresh transfer none valid
  refine ⟨smooth_start transfer source valid, ?_, ?_, ?_, ?_, ?_⟩
  · rw [fixed]
    exact (UploadOptions.positive_of_validate valid).1
  · rw [fixed]
    exact few
  · rw [fixed]
    exact allowed
  · simp [unstaged]
  · simp [staging]

theorem rank_start_le {options : UploadOptions} (transfer : Uuid)
    (valid : options.validate = .ok ()) (source : Bytes) :
    (start options transfer none).rank source ≤
      9 * source.length + 4 * options.maxConcurrency + 4 := by
  simp only [start, valid]
  refine Nat.le_trans (Nat.le_of_add_le_add_right (beginBlock_rank_le _ source)) ?_
  simp [rank, Producer.rank, UploadPhase.rank, Worker.rank]
  omega

end Upload

namespace SharedUploads

structure Alone (base : BlobStore) (source : Bytes) (uploader : Uploader)
    (shared : SharedUploads) : Prop where
  only : shared.uploaders = [uploader]
  flawless : uploader.upload.Flawless base source uploader.left shared.store

variable {base : BlobStore} {source : Bytes} {uploader : Uploader} {shared next : SharedUploads}

theorem Alone.step (alone : shared.Alone base source uploader) {step : SharedStep}
    (smooth : step.isSmooth = true) (ran : shared.step step = some next) :
    ∃ uploader', next.Alone base source uploader' ∧
      uploader'.upload.rank uploader'.left < uploader.upload.rank uploader.left := by
  obtain ⟨data, rfl, _⟩ | ⟨index, before, after, taken, found, stepped, same, effect⟩ :=
    step_cases ran
  · simp [SharedStep.isSmooth] at smooth
  · obtain ⟨rfl, rfl⟩ : index = 0 ∧ before = uploader := by
      rw [alone.only, List.getElem?_singleton] at found
      split at found
      · rename_i first
        exact ⟨first, (Option.some.inj found).symm⟩
      · simp at found
    obtain ⟨upload, possible, onward⟩ := Option.bind_eq_some_iff.mp stepped
    obtain ⟨left, taken', same'⟩ := Option.bind_eq_some_iff.mp onward
    obtain rfl := Option.some.inj same'
    have moved := Upload.transition_of_step possible
    rw [smooth] at effect
    have going := UploadStep.going_of_smooth (alone.flawless.smooth_step moved effect)
    refine ⟨⟨upload, left⟩, ⟨?_, alone.flawless.preserve moved taken' effect⟩,
      moved.rank_lt taken' going⟩
    rw [same, alone.only]
    rfl

theorem Alone.steps (alone : shared.Alone base source uploader) {schedule : List SharedStep}
    (smooth : ∀ step ∈ schedule, step.isSmooth = true)
    (ran : shared.steps schedule = some next) :
    ∃ uploader', next.Alone base source uploader' ∧
      schedule.length + uploader'.upload.rank uploader'.left ≤
        uploader.upload.rank uploader.left := by
  induction schedule generalizing shared uploader with
  | nil =>
      obtain rfl := Option.some.inj ran
      exact ⟨uploader, alone, by simp⟩
  | cons step later ih =>
      obtain ⟨middle, stepped, onward⟩ := Option.bind_eq_some_iff.mp ran
      obtain ⟨uploader', alone', lower⟩ := alone.step (smooth step List.mem_cons_self) stepped
      obtain ⟨uploader'', alone'', bound⟩ :=
        ih alone' (fun step member => smooth step (List.mem_cons_of_mem _ member)) onward
      refine ⟨uploader'', alone'', ?_⟩
      rw [List.length_cons]
      omega

theorem alone_start {store : BlobStore} {job : UploadJob} (valid : job.options.validate = .ok ())
    (few : job.options.blocksFor job.source.length ≤ mostBlocks)
    (allowed : job.options.conditions.allow (store.blob.map (·.etag)) = true)
    (live : job.ended = none) : (start store [job]).Alone store job.source job.begin := by
  refine ⟨rfl, ?_⟩
  rw [UploadJob.begin, live]
  exact Upload.flawless_start job.transfer valid few allowed

theorem Alone.proceeds (alone : shared.Alone base source uploader)
    (unreturned : ∀ result, uploader.upload.phase ≠ .returned result) (mark : ServiceMark) :
    ∃ step : SharedStep, step.isSmooth = true ∧ (shared.step step).isSome = true := by
  obtain ⟨taken, upload, left, possible, read, smooth, _⟩ :=
    alone.flawless.smooth.lawful.moves unreturned
  have first : shared.uploaders[0]? = some uploader := by
    rw [alone.only]
    rfl
  have live := alone.flawless.smooth.intact.end?_eq
  have stepped : uploader.step taken = some ⟨upload, left⟩ := by
    simp [Uploader.step, possible, read]
  cases success : taken.isSuccess with
  | false =>
      refine ⟨.apart 0 taken, smooth, ?_⟩
      simp only [SharedUploads.step, success, first, Bool.false_eq_true, if_false,
        Option.bind_some, advance, stepped, Option.map_some, Option.isSome_some]
  | true =>
      cases Upload.transition_of_step possible with
      | @staged worker block staging =>
          refine ⟨.stage 0 worker mark false, rfl, ?_⟩
          simp only [SharedUploads.step, first, Option.bind_some, staging, BlobStore.writer, live,
            BlobStore.stage_of_live, Bool.false_and, Bool.false_eq_true, if_false, advance,
            stepped, Option.map_some, Option.isSome_some]
      | @commitEnd outcome committing =>
          refine ⟨.commit 0 mark, rfl, ?_⟩
          simp only [SharedUploads.step, first, Option.bind_some, advance, Uploader.step,
            Upload.step, Upload.commitEnd, committing, UploadStep.leave, Option.bind_eq_bind,
            Option.pure_def, Option.map_some, Option.isSome_some]
      | reportPanicked => simp [UploadStep.isSmooth, UploadStep.isFault] at smooth
      | _ => simp [UploadStep.isSuccess] at success

end SharedUploads

end BlobTransfer
