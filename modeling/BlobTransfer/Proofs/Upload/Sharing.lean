import BlobTransfer.Proofs.BlockId
import BlobTransfer.Proofs.Store.Calls
import BlobTransfer.Proofs.Upload.Genuine
import BlobTransfer.Upload.Writer
import Mathlib.Data.List.Nodup

/-!
Uploads into one store at the same time, and others who put blobs there. All go on in any order,
step by step, where a call on the store is one step. What is staged under the name of a block is
that block, so a commit comes to the whole source or to nothing.
-/

namespace BlobTransfer

structure UploadJob where
  options : UploadOptions := {}
  transfer : Uuid
  ended : Option ScopeEnd := none
  source : Bytes

structure Uploader where
  upload : Upload
  left : Bytes

structure SharedUploads where
  store : BlobStore
  uploaders : List Uploader

inductive SharedStep where
  | apart (uploader : Nat) (step : UploadStep)
  | stage (uploader worker : Nat) (mark : ServiceMark) (panics : Bool)
  | commit (uploader : Nat) (mark : ServiceMark)
  | put (data : Bytes)

def UploadStep.isSuccess : UploadStep → Bool
  | .stageEnd _ .staged | .stageEnd _ .reportPanicked | .commitEnd (.ok _) => true
  | _ => false

def SharedStep.isSmooth : SharedStep → Bool
  | .apart _ step => step.isSmooth
  | .stage _ _ _ panics => !panics
  | .commit _ _ => true
  | .put _ => false

def UploadJob.ids (job : UploadJob) : List String :=
  (List.range (job.options.blocksFor job.source.length)).map fun number =>
    (BlockId.new job.transfer (.ofNat number)).text

def UploadJob.blockList (job : UploadJob) : BlockList where
  ids := job.ids
  headers := job.options.headers
  metadata := job.options.metadata
  conditions := job.options.conditions

def UploadJob.begin (job : UploadJob) : Uploader :=
  ⟨.start job.options job.transfer job.ended, job.source⟩

def Upload.blockList (upload : Upload) : BlockList where
  ids := upload.blockIds.map (·.text)
  headers := upload.options.headers
  metadata := upload.options.metadata
  conditions := upload.options.conditions

def Uploader.step (uploader : Uploader) (step : UploadStep) : Option Uploader := do
  let upload ← uploader.upload.step step
  let left ← step.leave uploader.left
  return ⟨upload, left⟩

namespace SharedUploads

def start (store : BlobStore) (jobs : List UploadJob) : SharedUploads :=
  ⟨store, jobs.map UploadJob.begin⟩

def advance (shared : SharedUploads) (index : Nat) (uploader : Uploader) (store : BlobStore)
    (step : UploadStep) : Option SharedUploads :=
  (uploader.step step).map fun next => ⟨store, shared.uploaders.set index next⟩

def step (shared : SharedUploads) : SharedStep → Option SharedUploads
  | .apart index step =>
      if step.isSuccess then none
      else (shared.uploaders[index]?).bind fun uploader =>
        shared.advance index uploader shared.store step
  | .stage index worker mark panics =>
      (shared.uploaders[index]?).bind fun uploader =>
        let upload := uploader.upload
        match upload.workers[worker]? with
        | some (.staging block) =>
            let (reply, store) := (BlobStore.writer mark).stage shared.store upload.end?
              (upload.blockId block.number) block.payload upload.options.conditions.lease
            let outcome := if panics && reply.outcome = .staged then .reportPanicked
              else reply.outcome
            shared.advance index uploader store (.stageEnd worker outcome)
        | _ => none
  | .commit index mark =>
      (shared.uploaders[index]?).bind fun uploader =>
        let (outcome, store) := (BlobStore.writer mark).commit shared.store uploader.upload.end?
          uploader.upload.blockList
        shared.advance index uploader store (.commitEnd outcome)
  | .put data => some { shared with store := (shared.store.put data).2 }

def steps (shared : SharedUploads) (schedule : List SharedStep) : Option SharedUploads :=
  schedule.foldlM step shared

/-- What a step of one upload does to the store: nothing, or what its call does. A smooth one
fails in nothing but what the store refuses. -/
inductive Effect (smooth : Bool) (store : BlobStore) (upload : Upload) :
    UploadStep → BlobStore → Prop
  | apart {step} (unanswered : step.isSuccess = false)
      (unfailing : smooth = true → step.isSmooth = true) : Effect smooth store upload step store
  | stage {worker block mark result outcome next}
      (staging : upload.workers[worker]? = some (.staging block))
      (called : store.stage upload.end? (upload.blockId block.number).text block.payload mark =
        (result, next))
      (told : (∃ receipt, result = .ok receipt ∧
          (outcome = .staged ∨ smooth = false ∧ outcome = .reportPanicked)) ∨
        ∃ error, result = .error error ∧ outcome = .failed error) :
      Effect smooth store upload (.stageEnd worker outcome) next
  | commit {mark outcome next}
      (called : store.commit upload.end? upload.blockList mark = (outcome, next)) :
      Effect smooth store upload (.commitEnd outcome) next

variable {shared next : SharedUploads}

theorem step_cases {step : SharedStep} (ran : shared.step step = some next) :
    (∃ data, step = .put data ∧ next = { shared with store := (shared.store.put data).2 }) ∨
    ∃ index uploader uploader' taken, shared.uploaders[index]? = some uploader ∧
      uploader.step taken = some uploader' ∧
      next.uploaders = shared.uploaders.set index uploader' ∧
      Effect step.isSmooth shared.store uploader.upload taken next.store := by
  cases step with
  | put data => exact .inl ⟨data, rfl, (Option.some.inj ran).symm⟩
  | apart index taken =>
      simp only [step] at ran
      split at ran
      · simp at ran
      · rename_i unanswered
        obtain ⟨uploader, found, advanced⟩ := Option.bind_eq_some_iff.mp ran
        obtain ⟨uploader', stepped, rfl⟩ := Option.map_eq_some_iff.mp advanced
        exact .inr ⟨index, uploader, uploader', taken, found, stepped, rfl,
          .apart (Bool.eq_false_iff.mpr unanswered) id⟩
  | stage index worker mark panics =>
      obtain ⟨uploader, found, called⟩ := Option.bind_eq_some_iff.mp ran
      dsimp only at called
      split at called
      · rename_i block staging
        cases answered : shared.store.stage uploader.upload.end?
            (uploader.upload.blockId block.number).text block.payload mark with
        | mk result store =>
            simp only [BlobStore.writer, answered] at called
            obtain ⟨uploader', stepped, rfl⟩ := Option.map_eq_some_iff.mp called
            refine .inr ⟨index, uploader, uploader', _, found, stepped, rfl,
              .stage staging answered ?_⟩
            cases result with
            | ok receipt =>
                refine .inl ⟨receipt, rfl, ?_⟩
                cases panics <;> simp [SharedStep.isSmooth]
            | error error => exact .inr ⟨error, rfl, by simp⟩
      · simp at called
  | commit index mark =>
      obtain ⟨uploader, found, called⟩ := Option.bind_eq_some_iff.mp ran
      obtain ⟨uploader', stepped, rfl⟩ := Option.map_eq_some_iff.mp called
      exact .inr ⟨index, uploader, uploader', _, found, stepped, rfl, .commit rfl⟩

end SharedUploads

theorem BlobStore.flatMap_block {store : BlobStore} {options : UploadOptions} {source : Bytes}
    {name : Nat → String} (positive : 0 < options.blockSize)
    (staged : ∀ number < options.blocksFor source.length,
      store.staged[name number]? = some (options.block source number).payload) :
    ((List.range (options.blocksFor source.length)).map name).flatMap store.block = source := by
  rw [List.flatMap_map]
  conv_rhs => rw [← options.flatMap_block positive source]
  refine List.flatMap_congr fun number listed => ?_
  rw [BlobStore.block, staged number (List.mem_range.mp listed), Option.getD_some]

def UploadJob.Tracked (job : UploadJob) (uploader : Uploader) : Prop :=
  ∃ schedule, (Upload.start job.options job.transfer job.ended).steps schedule =
      some uploader.upload ∧
    UploadStep.draw job.source schedule = some uploader.left

namespace UploadJob.Tracked

variable {job : UploadJob} {uploader next : Uploader}

theorem step (tracked : job.Tracked uploader) {taken : UploadStep}
    (stepped : uploader.step taken = some next) : job.Tracked next := by
  obtain ⟨schedule, ran, drawn⟩ := tracked
  obtain ⟨upload, possible, onward⟩ := Option.bind_eq_some_iff.mp stepped
  obtain ⟨left, read, same⟩ := Option.bind_eq_some_iff.mp onward
  obtain rfl := Option.some.inj same
  refine ⟨schedule ++ [taken], ?_, ?_⟩
  · exact Upload.steps_append.mpr ⟨_, ran, Upload.steps_cons.mpr ⟨_, possible, rfl⟩⟩
  · exact Upload.draw_append.mpr ⟨_, drawn, by simp [UploadStep.draw, read]⟩

theorem genuine (tracked : job.Tracked uploader) :
    uploader.upload.Genuine job.source uploader.left := by
  obtain ⟨schedule, ran, drawn⟩ := tracked
  exact Upload.genuine_of_steps ran drawn

theorem fixed (tracked : job.Tracked uploader) :
    uploader.upload.options = job.options ∧ uploader.upload.transfer = job.transfer := by
  obtain ⟨schedule, ran, _⟩ := tracked
  exact Upload.fixed_of_steps ran

theorem committing (tracked : job.Tracked uploader)
    (committing : uploader.upload.phase = .committing) :
    uploader.upload.blockList = job.blockList ∧ 0 < job.options.blockSize ∧
      job.options.blocksFor job.source.length ≤ mostBlocks := by
  obtain ⟨schedule, ran, drawn⟩ := tracked
  have lawful := Upload.lawful_of_steps ran drawn
  have fixed := Upload.fixed_of_steps ran
  obtain ⟨_, complete, _⟩ := lawful.of_begun (lawful.orderly.begun (.inl committing))
  refine ⟨?_, ?_, ?_⟩
  · simp only [Upload.blockList, Upload.blockIds_eq fixed complete, List.map_map, fixed.1]
    rfl
  · cases valid : job.options.validate with
    | ok _ => exact (UploadOptions.positive_of_validate valid).1
    | error error =>
        have refused := Upload.refused_of_invalid valid ran
        simp [committing] at refused
  · rw [← fixed.1, ← complete.counted]
    exact complete.bounded

end UploadJob.Tracked

namespace SharedUploads

/-- Each upload has come from its job, and what is staged is a block of a job under its name. -/
structure Sound (jobs : List UploadJob) (shared : SharedUploads) : Prop where
  tracked : ∀ (index : Nat) (uploader : Uploader), shared.uploaders[index]? = some uploader →
    ∃ job, jobs[index]? = some job ∧ job.Tracked uploader
  staged : ∀ id data, shared.store.staged[id]? = some data →
    ∃ job ∈ jobs, ∃ number < mostBlocks, id = (BlockId.new job.transfer (.ofNat number)).text ∧
      data = (job.options.block job.source number).payload

variable {jobs : List UploadJob} {shared next : SharedUploads}

theorem sound_start {store : BlobStore} (unstaged : ∀ id, id ∉ store.staged) :
    (start store jobs).Sound jobs := by
  refine ⟨?_, ?_⟩
  · intro index uploader found
    rw [start, List.getElem?_map, Option.map_eq_some_iff] at found
    obtain ⟨job, listed, rfl⟩ := found
    exact ⟨job, listed, [], rfl, rfl⟩
  · intro id data found
    have listed : id ∈ store.staged :=
      Std.TreeMap.mem_iff_isSome_getElem?.mpr (Option.isSome_of_eq_some found)
    exact absurd listed (unstaged id)

theorem Effect.staged {smooth : Bool} {store after : BlobStore} {upload : Upload}
    {taken : UploadStep} (effect : Effect smooth store upload taken after) {id : String}
    {data : Bytes} (found : after.staged[id]? = some data) :
    store.staged[id]? = some data ∨ ∃ block, upload.Holds block ∧
      id = (upload.blockId block.number).text ∧ data = block.payload := by
  cases effect with
  | apart => exact .inl found
  | @stage worker block mark result outcome _ staging called told =>
      obtain ⟨error, refused⟩ | ⟨receipt, staged⟩ := store.stage_cases upload.end?
        (upload.blockId block.number).text block.payload mark
      · rw [refused, Prod.mk.injEq] at called
        exact .inl (called.2 ▸ found)
      · rw [staged, Prod.mk.injEq] at called
        rw [← called.2] at found
        obtain ⟨rfl, rfl⟩ | old := BlobStore.staged_insert found
        · exact .inr ⟨block, .inr (.inl (List.mem_of_getElem? staging)), rfl, rfl⟩
        · exact .inl old
  | @commit mark outcome _ called =>
      by_cases commits : store.Commits upload.end? upload.blockList
      · rw [commits.commit, Prod.mk.injEq] at called
        simp [← called.2] at found
      · obtain ⟨error, kept, refused, staged, _⟩ := BlobStore.commit_of_not commits mark
        rw [refused, Prod.mk.injEq] at called
        rw [← called.2, staged] at found
        exact .inl found

theorem Sound.step (sound : shared.Sound jobs) {step : SharedStep}
    (ran : shared.step step = some next) : next.Sound jobs := by
  obtain ⟨data, _, rfl⟩ | ⟨index, uploader, uploader', taken, found, stepped, same, effect⟩ :=
    step_cases ran
  · exact ⟨sound.tracked, sound.staged⟩
  · obtain ⟨job, listed, tracked⟩ := sound.tracked index uploader found
    refine ⟨?_, ?_⟩
    · intro other uploader'' found'
      rw [same, List.getElem?_set] at found'
      split at found'
      · rename_i here
        subst other
        split at found'
        · obtain rfl := Option.some.inj found'
          exact ⟨job, listed, tracked.step stepped⟩
        · simp at found'
      · exact sound.tracked other uploader'' found'
    · intro id data found'
      obtain old | ⟨block, held, rfl, rfl⟩ := effect.staged found'
      · exact sound.staged id data old
      · have genuine := tracked.genuine
        have fixed := tracked.fixed
        obtain ⟨below, payload⟩ := UploadOptions.mem_firstBlocks.mp (genuine.held block held)
        refine ⟨job, List.mem_of_getElem? listed, block.number,
          Nat.lt_of_lt_of_le below genuine.bounded, ?_, ?_⟩
        · rw [Upload.blockId, fixed.2]
        · rw [← fixed.1, payload]

theorem steps_preserve (Invariant : SharedUploads → Prop) {schedule : List SharedStep}
    (preserve : ∀ shared step next, step ∈ schedule → Invariant shared →
      shared.step step = some next → Invariant next)
    (initial : Invariant shared) (ran : shared.steps schedule = some next) : Invariant next := by
  induction schedule generalizing shared with
  | nil => exact Option.some.inj ran ▸ initial
  | cons step later ih =>
      obtain ⟨middle, stepped, onward⟩ := Option.bind_eq_some_iff.mp ran
      exact ih (fun shared step next member =>
        preserve shared step next (List.mem_cons_of_mem _ member))
        (preserve shared step middle List.mem_cons_self initial stepped) onward

theorem Sound.source_of_staged (sound : shared.Sound jobs)
    (distinct : (jobs.map fun job => job.transfer.bytes.take 12).Nodup) {job : UploadJob}
    (member : job ∈ jobs) (positive : 0 < job.options.blockSize)
    (few : job.options.blocksFor job.source.length ≤ mostBlocks)
    (staged : ∀ id ∈ job.ids, id ∈ shared.store.staged) :
    job.ids.flatMap shared.store.block = job.source := by
  refine BlobStore.flatMap_block positive fun number listed => ?_
  have below : number < mostBlocks := Nat.lt_of_lt_of_le listed few
  have known := staged _ (List.mem_map_of_mem (List.mem_range.mpr listed))
  obtain ⟨data, found⟩ := Option.isSome_iff_exists.mp (Std.TreeMap.mem_iff_isSome_getElem?.mp known)
  obtain ⟨owner, owner_member, number', below', same, rfl⟩ := sound.staged _ data found
  have small : mostBlocks < UInt32.size := by decide
  obtain ⟨front, rfl⟩ := BlockId.text_new_inj (by omega) (by omega) same
  obtain rfl := List.inj_on_of_nodup_map distinct member owner_member front
  exact found

theorem Sound.commit (sound : shared.Sound jobs)
    (distinct : (jobs.map fun job => job.transfer.bytes.take 12).Nodup) {index : Nat}
    {uploader : Uploader} {uploader' : Uploader} {mark : ServiceMark} {store : BlobStore}
    {outcome : Except TransferError CommitReceipt}
    (found : shared.uploaders[index]? = some uploader)
    (stepped : uploader.step (.commitEnd outcome) = some uploader')
    (called : shared.store.commit uploader.upload.end? uploader.upload.blockList mark =
      (outcome, store)) :
    ∃ job result, jobs[index]? = some job ∧ uploader'.upload.phase = .returned result ∧
      ((shared.store.Commits uploader.upload.end? job.blockList ∧
          (∃ receipt, result = .ok receipt) ∧
          ∃ blob, store.blob = some blob ∧ blob.data = job.source ∧ blob.blockIds = job.ids) ∨
        (¬ shared.store.Commits uploader.upload.end? job.blockList ∧
          (∃ error, result = .error error) ∧ store.staged = shared.store.staged ∧
          store.blob = shared.store.blob ∧ store.version = shared.store.version)) := by
  obtain ⟨job, listed, tracked⟩ := sound.tracked index uploader found
  obtain ⟨upload, possible, onward⟩ := Option.bind_eq_some_iff.mp stepped
  obtain ⟨left, _, same⟩ := Option.bind_eq_some_iff.mp onward
  obtain rfl := Option.some.inj same
  obtain ⟨committing, returned⟩ : uploader.upload.phase = .committing ∧
      upload.phase = .returned (outcome.map fun receipt =>
        { receipt with blockCount := .ofNat uploader.upload.handed }) := by
    cases Upload.transition_of_step possible with
    | commitEnd committing => exact ⟨committing, rfl⟩
  obtain ⟨list, positive, few⟩ := tracked.committing committing
  rw [list] at called
  refine ⟨job, _, listed, returned, ?_⟩
  by_cases commits : shared.store.Commits uploader.upload.end? job.blockList
  · have source := sound.source_of_staged distinct (List.mem_of_getElem? listed) positive few
      commits.staged
    rw [commits.commit, Prod.mk.injEq] at called
    obtain ⟨rfl, rfl⟩ := called
    exact .inl ⟨commits, ⟨_, rfl⟩, _, rfl, source, rfl⟩
  · obtain ⟨error, kept, refused, unchanged⟩ := BlobStore.commit_of_not commits mark
    rw [refused, Prod.mk.injEq] at called
    obtain ⟨rfl, rfl⟩ := called
    exact .inr ⟨commits, ⟨error, rfl⟩, unchanged⟩

/-- Where the blob of a store may come from. -/
def Whole (jobs : List UploadJob) (schedule : List SharedStep) (store : BlobStore)
    (shared : SharedUploads) : Prop :=
  shared.store.blob = store.blob ∨ ∃ blob, shared.store.blob = some blob ∧
    ((∃ job ∈ jobs, blob.data = job.source ∧ blob.blockIds = job.ids) ∨
      .put blob.data ∈ schedule ∧ blob.blockIds = [])

theorem Whole.step {store : BlobStore} {schedule : List SharedStep} {step : SharedStep}
    (whole : shared.Whole jobs schedule store) (sound : shared.Sound jobs)
    (distinct : (jobs.map fun job => job.transfer.bytes.take 12).Nodup)
    (member : step ∈ schedule) (ran : shared.step step = some next) :
    next.Whole jobs schedule store := by
  obtain ⟨data, rfl, rfl⟩ | ⟨index, uploader, uploader', taken, found, stepped, same, effect⟩ :=
    step_cases ran
  · exact .inr ⟨_, rfl, .inr ⟨member, rfl⟩⟩
  · have unchanged : next.store.blob = shared.store.blob → next.Whole jobs schedule store := by
      intro kept
      rw [Whole, kept]
      exact whole
    obtain ⟨store', uploaders⟩ := next
    cases effect with
    | apart => exact unchanged rfl
    | @stage worker block mark result outcome _ staging called told =>
        obtain ⟨error, refused⟩ | ⟨receipt, staged⟩ := shared.store.stage_cases
          uploader.upload.end? (uploader.upload.blockId block.number).text block.payload mark
        · rw [refused, Prod.mk.injEq] at called
          exact unchanged (by rw [← called.2])
        · rw [staged, Prod.mk.injEq] at called
          exact unchanged (by rw [← called.2])
    | commit called =>
        obtain ⟨job, _, listed, _, ⟨_, _, blob, stored, source, ids⟩ | ⟨_, _, _, kept, _⟩⟩ :=
          sound.commit distinct found stepped called
        · exact .inr ⟨blob, stored, .inl ⟨job, List.mem_of_getElem? listed, source, ids⟩⟩
        · exact unchanged kept

/-- Of uploads into one store, whatever their order and whatever else is put there, each commits its
whole source or, as when one of its blocks was given up by another commit, fails and leaves the
blob; so the blob is a whole source or was put whole. -/
theorem shared_uploads_never_mix {store : BlobStore} {jobs : List UploadJob}
    {schedule : List SharedStep} {shared : SharedUploads}
    (unstaged : ∀ id, id ∉ store.staged)
    (distinct : (jobs.map fun job => job.transfer.bytes.take 12).Nodup)
    (ran : (start store jobs).steps schedule = some shared) :
    (∀ index mark next, shared.step (.commit index mark) = some next →
      ∃ (job : UploadJob) (before after : Uploader) (result : Except TransferError CommitReceipt),
        jobs[index]? = some job ∧ shared.uploaders[index]? = some before ∧
        next.uploaders[index]? = some after ∧ after.upload.phase = .returned result ∧
        ((∃ receipt, result = .ok receipt) ↔
          before.upload.end? = none ∧
          job.options.conditions.allow (shared.store.blob.map (·.etag)) = true ∧
          ∀ id ∈ job.ids, id ∈ shared.store.staged) ∧
        (∀ receipt, result = .ok receipt →
          ∃ blob, next.store.blob = some blob ∧ blob.data = job.source ∧
            blob.blockIds = job.ids) ∧
        (∀ error, result = .error error →
          next.store.blob = shared.store.blob ∧ next.store.staged = shared.store.staged ∧
            next.store.version = shared.store.version)) ∧
    (shared.store.blob = store.blob ∨ ∃ blob, shared.store.blob = some blob ∧
      ((∃ job ∈ jobs, blob.data = job.source ∧ blob.blockIds = job.ids) ∨
        .put blob.data ∈ schedule ∧ blob.blockIds = [])) := by
  have kept := steps_preserve
    (fun shared => shared.Sound jobs ∧ shared.Whole jobs schedule store) ?_
    ⟨sound_start unstaged, .inl rfl⟩ ran
  · obtain ⟨sound, whole⟩ := kept
    refine ⟨?_, whole⟩
    intro index mark next committed
    obtain ⟨before, found, called⟩ := Option.bind_eq_some_iff.mp committed
    obtain ⟨after, stepped, rfl⟩ := Option.map_eq_some_iff.mp called
    obtain ⟨job, result, listed, returned, came_to⟩ := sound.commit distinct found stepped rfl
    have bound := (List.getElem?_eq_some_iff.mp found).1
    refine ⟨job, before, after, result, listed, found, List.getElem?_set_self bound, returned, ?_⟩
    obtain ⟨⟨live, allowed, staged⟩, ⟨receipt, rfl⟩, whole⟩ | ⟨uncommitted, ⟨error, rfl⟩, unstaged,
      unwritten, version⟩ := came_to
    · exact ⟨⟨fun _ => ⟨live, allowed, staged⟩, fun _ => ⟨receipt, rfl⟩⟩, fun _ _ => whole,
        by simp⟩
    · refine ⟨⟨by simp, fun ⟨live, allowed, staged⟩ => ?_⟩, by simp,
        fun _ _ => ⟨unwritten, unstaged, version⟩⟩
      exact absurd ⟨live, allowed, staged⟩ uncommitted
  · intro shared step next member ⟨sound, whole⟩ ran
    exact ⟨sound.step ran, whole.step sound distinct member ran⟩

def rivals : List UploadJob := [
  { transfer := .random fun _ => 0, source := [1, 2] },
  { transfer := .random fun _ => 1, source := [7] }]

def rivalMark : ServiceMark := ⟨.random fun _ => 2, ⟨0, 0, 0⟩⟩

def racing : List SharedStep :=
  [.apart 0 (.read [1, 2]), .apart 0 .sourceEnd, .apart 0 .send, .apart 0 (.turn 0),
    .apart 1 (.read [7]), .apart 1 .sourceEnd, .apart 1 .send, .apart 1 (.turn 0),
    .apart 0 (.receive 0), .apart 1 (.receive 0), .stage 0 0 rivalMark false,
    .stage 1 0 rivalMark false, .apart 0 (.turn 0), .apart 1 (.turn 0), .apart 1 (.receive 0),
    .apart 0 (.receive 0), .apart 1 (.join 0), .apart 0 (.join 0), .apart 1 .settle,
    .apart 0 .settle, .commit 1 rivalMark]

theorem rival_uploads_never_mix :
    ∃ shared next after, (start {} rivals).steps racing = some shared ∧
      shared.store.blob.map (·.data) = some [7] ∧
      shared.step (.commit 0 rivalMark) = some next ∧ next.uploaders[0]? = some after ∧
      after.upload.phase =
        .returned (.error (.invalid (.blockUnknown "AAAAAAAAQACAAAAAAAAAAA=="))) ∧
      next.store.blob = shared.store.blob := by
  have ran : (start {} rivals).steps racing = some _ := rfl
  obtain ⟨commits, _⟩ := shared_uploads_never_mix
    (fun _ => Std.TreeMap.not_mem_emptyc) (by decide) ran
  obtain ⟨_, _, after, result, _, _, there, returned, _, _, failed⟩ :=
    commits 0 rivalMark _ rfl
  have came_to : after.upload.phase =
      .returned (.error (.invalid (.blockUnknown "AAAAAAAAQACAAAAAAAAAAA=="))) := by
    rw [← Option.some.inj there]
    rfl
  obtain rfl := UploadPhase.returned.inj (returned.symm.trans came_to)
  exact ⟨_, _, after, ran, rfl, rfl, there, returned, (failed _ rfl).1⟩

end SharedUploads

end BlobTransfer
