import BlobTransfer.Proofs.Upload.FirstError
import BlobTransfer.Proofs.Upload.Genuine
import Mathlib.Algebra.Order.Floor.Div

/-!
The limit on the number of blocks. A size that is known beforehand is held to it by a division,
a source of unknown size by the block that is one too many; both come to the same.
-/

namespace BlobTransfer

namespace UploadOptions

theorem blocksFor_eq_ceilDiv (options : UploadOptions) (size : Nat) :
    options.blocksFor size = size ⌈/⌉ options.blockSize :=
  (Nat.ceilDiv_eq_add_pred_div size options.blockSize).symm

theorem validate_hint {options : UploadOptions} (valid : options.validate = .ok ())
    (size : Nat) : { options with sizeHint := some size }.validate = .ok () ↔
      options.blocksFor size ≤ mostBlocks := by
  obtain ⟨sized, fits, manned, _⟩ := validate_eq_ok.mp valid
  constructor
  · intro hinted
    exact (validate_eq_ok.mp hinted).2.2.2 size rfl
  · intro few
    refine validate_eq_ok.mpr ⟨sized, fits, manned, ?_⟩
    intro other given
    exact Option.some.inj given ▸ few

end UploadOptions

namespace Upload

variable {source left : Bytes} {upload next : Upload} {step : UploadStep}

/-- Whether something fails by itself at a step. That a stage call fails when the scope is over
comes of that. -/
def troubledBy (upload : Upload) : UploadStep → Bool
  | .stageEnd _ (.failed _) => !upload.isOver
  | step => !step.isSmooth

def Untroubled (upload : Upload) (schedule : List UploadStep) : Prop :=
  ∀ before step after middle, schedule = before ++ step :: after →
    upload.steps before = some middle → middle.troubledBy step = false

theorem untroubled_of_smooth {schedule : List UploadStep}
    (smooth : ∀ step ∈ schedule, step.isSmooth = true) : upload.Untroubled schedule := by
  intro before step after middle split _
  have quiet : step.isSmooth = true := smooth step (by simp [split])
  unfold troubledBy
  split
  · simp [UploadStep.isSmooth, UploadStep.isFault] at quiet
  · simp [quiet]

structure Undisturbed (upload : Upload) : Prop where
  unfailing : upload.firstError = none
  unpanicked : .exited true ∉ upload.workers
  unexpired : upload.expired = false
  stopped : upload.canceled = true → ∃ failure, upload.producer = .finished (.error failure)

theorem Undisturbed.wanted (undisturbed : upload.Undisturbed)
    (fine : ∀ failure, upload.producer ≠ .finished (.error failure)) :
    upload.canceled = false := by
  by_contra canceled
  obtain ⟨failure, finished⟩ := undisturbed.stopped (Bool.eq_true_of_not_eq_false canceled)
  exact fine failure finished

theorem Undisturbed.preserve (undisturbed : upload.Undisturbed)
    (moved : Transition upload step next) (calm : upload.troubledBy step = false) :
    next.Undisturbed := by
  have wanted := undisturbed.wanted
  obtain ⟨unfailing, unpanicked, unexpired, stopped⟩ := undisturbed
  cases moved with
  | readPart reading =>
      refine ⟨unfailing, unpanicked, unexpired, ?_⟩
      simp [wanted, reading]
  | readBlock reading | lastBlock reading =>
      have going : upload.canceled = false := wanted (by simp [reading])
      unfold completeBlock finishProducing
      split
      · exact ⟨unfailing, unpanicked, unexpired, fun _ => ⟨_, rfl⟩⟩
      · refine ⟨unfailing, unpanicked, unexpired, ?_⟩
        simp [going]
  | noBlock found | sendShort found | stopReading found | stopSending found =>
      refine ⟨unfailing, unpanicked, unexpired, ?_⟩
      simp [finishProducing, hand, recycle, wanted, found, Except.isOk, Except.toBool]
  | sendFull sending =>
      have going : upload.canceled = false := wanted (by simp [sending])
      unfold beginBlock finishProducing
      split
      all_goals
        refine ⟨unfailing, unpanicked, unexpired, ?_⟩
        simp [hand, going, Except.isOk, Except.toBool]
  | turn found | take found | drop found | leave found | staged found | failedLate found
  | abandonStage found | join found =>
      exact ⟨unfailing, (unpanicked_set found (by simp) (by simp)).mpr unpanicked, unexpired,
        stopped⟩
  | joinPanicked exited => exact absurd (List.mem_of_getElem? exited) unpanicked
  | fail | commit | commitEnd | abandonCommit => exact ⟨unfailing, unpanicked, unexpired, stopped⟩
  | failed staging live => simp [troubledBy, live] at calm
  | sourceFailure | panicked | reportPanicked | cancel | expire =>
      simp [troubledBy, UploadStep.isSmooth, UploadStep.isFault, UploadStep.endsScope] at calm

def Blames (upload : Upload) : Prop :=
  match upload.phase with
  | .staging | .returned (.ok _) => True
  | .committing => upload.producer = .finished (.ok ())
  | .returned (.error error) => upload.producer = .finished (.error error)

theorem Undisturbed.end?_eq (undisturbed : upload.Undisturbed)
    (produced : upload.producer = .finished (.ok ())) : upload.end? = none := by
  have wanted : upload.canceled = false := undisturbed.wanted (by simp [produced])
  simp [end?, wanted, undisturbed.unexpired]

theorem Blames.preserve (blames : upload.Blames) (undisturbed : upload.Undisturbed)
    (lawful : upload.Lawful source left) (moved : Transition upload step next)
    (calm : upload.troubledBy step = false) : next.Blames := by
  by_cases staging : upload.phase = .staging
  · obtain ⟨staging', _⟩ | ⟨_, outcome, finished, _, settled⟩ := moved.while_staging staging
    · simp only [Blames, staging']
    · cases outcome with
      | error failure =>
          obtain ⟨error, failed, rfl⟩ | ⟨success, _⟩ := settled
          · simp only [failure?, Option.some.injEq] at failed
            exact failed ▸ finished
          · simp [failure?] at success
      | ok =>
          have unended := undisturbed.end?_eq finished
          obtain ⟨error, failed, _⟩ | ⟨_, rfl⟩ := settled
          · simp [failure?, undisturbed.unfailing, unended] at failed
          · exact finished
  · obtain ⟨joined, outcome, finished⟩ := lawful.orderly.idle staging
    obtain ⟨reply, rfl, _, rfl⟩ | ⟨_, reason, lapsed, committing, _⟩ | ⟨rfl, _⟩ | ⟨rfl, _⟩ :=
      moved.after_staging staging finished joined
    · cases reply with
      | error failure => simp [troubledBy, UploadStep.isSmooth, UploadStep.failsCommit] at calm
      | ok receipt => trivial
    · simp only [Blames, committing] at blames
      simp [undisturbed.end?_eq blames] at lapsed
    · simp [troubledBy, UploadStep.isSmooth, UploadStep.endsScope] at calm
    · simp [troubledBy, UploadStep.isSmooth, UploadStep.endsScope] at calm

section

variable {options : UploadOptions} {transfer : Uuid} {schedule : List UploadStep}

theorem undisturbed_start (transfer : Uuid) (valid : options.validate = .ok ()) :
    (start options transfer none).Undisturbed ∧ (start options transfer none).Blames := by
  have manned : Worker.exited true ∉ List.replicate options.maxConcurrency .waiting := by simp
  have going : ∀ upload : Upload, upload.isOver = false → upload.firstError = none →
      upload.beginBlock = { upload with
        producer := .reading [], idleBuffers := upload.idleBuffers - 1 } := by
    intro upload live unfailing
    simp [beginBlock, live, unfailing]
  simp only [start, valid]
  rw [going _ (by simp [isOver_eq]) rfl]
  exact ⟨⟨rfl, manned, rfl, by simp⟩, trivial⟩

theorem undisturbed_of_steps (valid : options.validate = .ok ())
    (ran : (start options transfer none).steps schedule = some upload)
    (drawn : UploadStep.draw source schedule = some left)
    (calm : (start options transfer none).Untroubled schedule) :
    upload.Undisturbed ∧ upload.Blames := by
  have kept := steps_preserve_within
    (fun upload left => upload.Lawful source left ∧ upload.Undisturbed ∧ upload.Blames) ?_
    ⟨lawful_start options transfer none source, undisturbed_start transfer valid⟩ ran drawn
  · exact kept.2
  · intro before step after upload left next rest split reached ⟨lawful, undisturbed, blames⟩
      moved taken
    have quiet := calm before step after upload split reached
    exact ⟨lawful.preserve moved taken, undisturbed.preserve moved quiet,
      blames.preserve undisturbed lawful moved quiet⟩

theorem too_long_of_failure {error : TransferError} (valid : options.validate = .ok ())
    (ran : (start options transfer none).steps schedule = some upload)
    (drawn : UploadStep.draw source schedule = some left)
    (calm : (start options transfer none).Untroubled schedule)
    (returned : upload.phase = .returned (.error error)) :
    error = .invalid (.sourceLength options.blockSize mostBlocks) ∧
      mostBlocks < options.blocksFor source.length := by
  have finished := (undisturbed_of_steps valid ran drawn calm).2
  have supplied := supplied_of_steps ran drawn
  simp only [Blames, returned] at finished
  simp only [Supplied, finished, (fixed_of_steps ran).1] at supplied
  obtain ⟨fault, scheduled, _⟩ | tooLong := supplied
  · obtain ⟨before, after, split⟩ := List.append_of_mem scheduled
    subst schedule
    obtain ⟨middle, reached, _⟩ := steps_append.mp ran
    have quiet := calm before _ after middle rfl reached
    simp [troubledBy, UploadStep.isSmooth, UploadStep.isFault] at quiet
  · exact tooLong

theorem counted_of_success {ended : Option ScopeEnd} {receipt : CommitReceipt}
    (ran : (start options transfer ended).steps schedule = some upload)
    (drawn : UploadStep.draw source schedule = some left)
    (returned : upload.phase = .returned (.ok receipt)) :
    receipt.blockCount.toNat = options.blocksFor source.length ∧
      options.blocksFor source.length ≤ mostBlocks := by
  have complete := complete_of_success ran drawn returned
  have counted := complete.counted
  have bounded := complete.bounded
  rw [(fixed_of_steps ran).1] at counted
  rw [(lawful_of_steps ran drawn).orderly.counted receipt returned, ← counted]
  refine ⟨?_, bounded⟩
  apply UInt32.toNat_ofNat_of_lt'
  simp only [mostBlocks, UInt32.size] at bounded ⊢
  omega

end

/-- A source of unknown length is held to the limit as if its length were given: an upload of it in
whose way nothing is comes to a result, to the refusal of a block too much just if the options with
the length are refused, and else to as many blocks as the length takes. The numbers of the blocks
always fit in their counter. -/
theorem limits_agree {options : UploadOptions} {transfer : Uuid} {source left : Bytes}
    {schedule : List UploadStep} {upload : Upload} (valid : options.validate = .ok ())
    (ran : (start options transfer none).steps schedule = some upload)
    (drawn : UploadStep.draw source schedule = some left)
    (calm : (start options transfer none).Untroubled schedule) :
    (∀ result, upload.phase = .returned result →
      ({ options with sizeHint := some source.length }.validate = .ok () ↔
        result ≠ .error (.invalid (.sourceLength options.blockSize mostBlocks))) ∧
      (result ≠ .error (.invalid (.sourceLength options.blockSize mostBlocks)) →
        ∃ receipt, result = .ok receipt ∧
          receipt.blockCount.toNat = source.length ⌈/⌉ options.blockSize ∧
          source.length ⌈/⌉ options.blockSize ≤ mostBlocks)) ∧
    (∃ closing final result rest, upload.steps closing = some final ∧
      UploadStep.draw left closing = some rest ∧ final.phase = .returned result ∧
      ∀ step ∈ closing, step.isSmooth = true) ∧
    upload.handed ≤ mostBlocks ∧ (UInt32.ofNat upload.handed).toNat = upload.handed := by
  rw [UploadOptions.validate_hint valid, ← options.blocksFor_eq_ceilDiv]
  refine ⟨?_, ?_, ?_⟩
  · intro result returned
    cases result with
    | ok receipt =>
        obtain ⟨counted, few⟩ := counted_of_success ran drawn returned
        exact ⟨by simp [few], fun _ => ⟨receipt, rfl, counted, few⟩⟩
    | error error =>
        obtain ⟨rfl, many⟩ := too_long_of_failure valid ran drawn calm returned
        refine ⟨?_, fun other => absurd rfl other⟩
        simp [Nat.not_le.mpr many]
  · obtain ⟨closing, final, result, rest, ran', drawn', returned, quiet⟩ :=
      (lawful_of_steps ran drawn).returns
    exact ⟨closing, final, result, rest, ran', drawn', returned,
      fun step member => (quiet step member).1⟩
  · have few := (genuine_of_steps ran drawn).bounded
    refine ⟨few, UInt32.toNat_ofNat_of_lt' ?_⟩
    simp only [mostBlocks, UInt32.size] at few ⊢
    omega

theorem overtaking_upload_keeps_limit :
    ∃ upload receipt,
      (start { blockSize := 2, maxConcurrency := 2 } (.random fun _ => 0) none).steps overtaking =
        some upload ∧
      UploadStep.draw [1, 2, 3] overtaking = some [] ∧
      (start { blockSize := 2, maxConcurrency := 2 } (.random fun _ => 0) none).Untroubled
        overtaking ∧
      upload.phase = .returned (.ok receipt) ∧
      ({ blockSize := 2, maxConcurrency := 2, sizeHint := some 3 } : UploadOptions).validate =
        .ok () ∧
      receipt.blockCount.toNat = 2 ∧ upload.handed ≤ mostBlocks := by
  have ran : (start { blockSize := 2, maxConcurrency := 2 } (.random fun _ => 0) none).steps
      overtaking = some _ := rfl
  have drawn : UploadStep.draw [1, 2, 3] overtaking = some [] := by decide
  have calm : (start { blockSize := 2, maxConcurrency := 2 } (.random fun _ => 0) none).Untroubled
      overtaking := untroubled_of_smooth (by decide)
  obtain ⟨verdict, _, few, _⟩ := limits_agree rfl ran drawn calm
  obtain ⟨hinted, success⟩ := verdict _ rfl
  obtain ⟨receipt, returned, counted, _⟩ := success nofun
  refine ⟨_, receipt, ran, drawn, calm, congrArg _ returned, hinted.mpr nofun, counted, few⟩

end Upload

end BlobTransfer
