import BlobTransfer.Proofs.Upload.Accounting

/-!
What an upload commits: nothing, or once and for all the blocks of the whole source, in order and
after each of them was staged. A schedule on which nothing goes wrong ends in no failure, and one
on which something goes wrong before the commit ends in nothing else.
-/

namespace BlobTransfer

theorem UploadOptions.validate_eq_ok {options : UploadOptions} : options.validate = .ok () ↔
    0 < options.blockSize ∧ options.blockSize ≤ largestBlock ∧ 0 < options.maxConcurrency ∧
      ∀ size, options.sizeHint = some size → options.blocksFor size ≤ mostBlocks := by
  simp only [validate, throw, throwThe, MonadExceptOf.throw, bind, Except.bind]
  by_cases sized : options.blockSize = 0 ∨ largestBlock < options.blockSize
  · simp only [sized, if_true, reduceCtorEq, false_iff]
    omega
  · by_cases idle : options.maxConcurrency = 0
    · simp [sized, idle]
    · have positive : 0 < options.blockSize ∧ options.blockSize ≤ largestBlock ∧
          0 < options.maxConcurrency := by omega
      cases hint : options.sizeHint with
      | none => simp [sized, idle, positive, pure, Except.pure]
      | some size =>
          by_cases many : mostBlocks < options.blocksFor size
          · simp [sized, idle, many]
          · simp [sized, idle, many, positive, Nat.not_lt.mp many, pure, Except.pure]

theorem UploadOptions.positive_of_validate {options : UploadOptions}
    (valid : options.validate = .ok ()) : 0 < options.blockSize ∧ 0 < options.maxConcurrency := by
  obtain ⟨sized, _, manned, _⟩ := validate_eq_ok.mp valid
  exact ⟨sized, manned⟩

namespace Upload

/-- Every block of the source has been staged, each by one call. -/
structure Complete (source : Bytes) (upload : Upload) : Prop where
  counted : upload.handed = upload.options.blocksFor source.length
  bounded : upload.handed ≤ mostBlocks
  staged : upload.staged.Perm (upload.options.cut source)
  called : upload.calls.Perm (upload.options.cut source)

theorem heldBlocks_joined {workers : List Worker} (joined : ∀ worker ∈ workers, worker = .joined) :
    heldBlocks workers = [] := by
  apply List.filterMap_eq_nil_iff.mpr
  intro worker member
  rw [joined worker member]
  rfl

theorem Whole.complete {source left : Bytes} {upload : Upload}
    {outcome : Except TransferError Unit} (whole : upload.Whole source left)
    (finished : upload.producer = .finished outcome)
    (joined : ∀ worker ∈ upload.workers, worker = .joined) : upload.Complete source := by
  obtain ⟨worker, member⟩ := List.exists_mem_of_ne_nil _ whole.manned
  have drained : upload.channel = none :=
    (whole.attended worker member (by rw [joined worker member]; rfl)).1
  have produced := whole.produced
  have accounted := whole.accounted
  have called := whole.called
  simp only [Produced, finished] at produced
  rw [drained, heldBlocks_joined joined, Option.toList_none, List.nil_append, List.nil_append,
    produced.2.2] at accounted
  rw [heldBlocks_joined joined, List.nil_append] at called
  exact ⟨produced.2.2, whole.bounded, accounted, called.trans accounted⟩

/-- The order of things: staging, then at most one commit, then the result. -/
structure Orderly (source : Bytes) (upload : Upload) : Prop where
  unbegun : upload.phase = .staging → upload.commits = []
  complete : upload.commits = [] ∨
    upload.commits = [upload.blockIds] ∧ upload.Complete source
  begun : (upload.phase = .committing ∨ ∃ receipt, upload.phase = .returned (.ok receipt)) →
    upload.commits ≠ []
  counted : ∀ receipt, upload.phase = .returned (.ok receipt) →
    receipt.blockCount = .ofNat upload.handed
  idle : upload.phase ≠ .staging →
    (∀ worker ∈ upload.workers, worker = .joined) ∧
      ∃ outcome, upload.producer = .finished outcome

theorem Transition.while_staging {upload next : Upload} {step : UploadStep}
    (moved : Transition upload step next) (staging : upload.phase = .staging) :
    (next.phase = .staging ∧ next.commits = upload.commits) ∨
    (step = .settle ∧ ∃ outcome, upload.producer = .finished outcome ∧
      (∀ worker ∈ upload.workers, worker = .joined) ∧
      ((∃ error, upload.failure? outcome = some error ∧
          next = { upload with phase := .returned (.error error) }) ∨
        (upload.failure? outcome = none ∧
          next = { upload with
            phase := .committing, commits := upload.blockIds :: upload.commits }))) := by
  cases moved with
  | fail _ finished joined failure =>
      exact .inr ⟨rfl, _, finished, joined, .inl ⟨_, failure, rfl⟩⟩
  | commit _ finished joined success =>
      exact .inr ⟨rfl, _, finished, joined, .inr ⟨success, rfl⟩⟩
  | commitEnd committing | abandonCommit committing =>
      rw [staging] at committing
      contradiction
  | readBlock | lastBlock =>
      unfold completeBlock finishProducing
      split <;> exact .inl ⟨staging, rfl⟩
  | sendFull =>
      unfold beginBlock finishProducing
      split <;> exact .inl ⟨staging, rfl⟩
  | _ => exact .inl ⟨staging, rfl⟩

theorem Transition.after_staging {upload next : Upload} {step : UploadStep}
    {outcome : Except TransferError Unit} (moved : Transition upload step next)
    (settled : upload.phase ≠ .staging) (finished : upload.producer = .finished outcome)
    (joined : ∀ worker ∈ upload.workers, worker = .joined) :
    (∃ reply, step = .commitEnd reply ∧ upload.phase = .committing ∧
      next = { upload with
        phase := .returned (reply.map fun receipt =>
          { receipt with blockCount := .ofNat upload.handed }) }) ∨
    (step = .abandonCommit ∧ ∃ reason, upload.end? = some reason ∧ upload.phase = .committing ∧
      next = { upload with phase := .returned (.error reason.error) }) ∨
    (step = .cancel ∧ next = { upload with canceled := true }) ∨
    (step = .expire ∧ next = { upload with expired := true }) := by
  cases moved with
  | commitEnd committing => exact .inl ⟨_, rfl, committing, rfl⟩
  | abandonCommit committing lapsed => exact .inr (.inl ⟨rfl, _, lapsed, committing, rfl⟩)
  | cancel => exact .inr (.inr (.inl ⟨rfl, rfl⟩))
  | expire => exact .inr (.inr (.inr ⟨rfl, rfl⟩))
  | fail staging | commit staging => exact absurd staging settled
  | readPart reading | readBlock reading | noBlock reading | lastBlock reading
  | sourceFailure reading | stopReading reading => simp [finished] at reading
  | sendShort sending | sendFull sending | stopSending sending => simp [finished] at sending
  | turn found | take found | drop found | leave found | staged found | failedLate found
  | failed found | panicked found | reportPanicked found | abandonStage found | join found
  | joinPanicked found =>
      have same := joined _ (List.mem_of_getElem? found)
      contradiction

theorem intact_of_success {upload : Upload} {outcome : Except TransferError Unit}
    (joined : ∀ worker ∈ upload.workers, worker = .joined)
    (success : upload.failure? outcome = none) : upload.Intact := by
  cases outcome with
  | error error => simp [failure?] at success
  | ok done =>
      simp only [failure?, Option.or_eq_none_iff, Option.map_eq_none_iff] at success
      refine ⟨by simp [isOver, success.2], success.1, ?_⟩
      intro member
      have same := joined _ member
      contradiction

def Noticed (upload : Upload) : Prop := upload.firstError.isSome = true → upload.canceled = true

/-- What holds in every state of an upload of a source, of which so much is left. -/
structure Lawful (source left : Bytes) (upload : Upload) : Prop where
  orderly : upload.Orderly source
  noticed : upload.Noticed
  whole : upload.phase = .staging → upload.Intact → upload.Whole source left

theorem Orderly.of_staging {source : Bytes} {upload : Upload} (staging : upload.phase = .staging)
    (unbegun : upload.commits = []) : upload.Orderly source := by
  refine ⟨fun _ => unbegun, .inl unbegun, ?_, ?_, ?_⟩
  · rintro (committing | ⟨receipt, returned⟩)
    · simp [staging] at committing
    · simp [staging] at returned
  · intro receipt returned
    simp [staging] at returned
  · intro settled
    exact absurd staging settled

theorem Orderly.of_settled {source : Bytes} {upload : Upload} {phase : UploadPhase}
    (canceled expired : Bool) (orderly : upload.Orderly source)
    (settled : upload.phase ≠ .staging) (settled' : phase ≠ .staging)
    (begun : (phase = .committing ∨ ∃ receipt, phase = .returned (.ok receipt)) →
      upload.commits ≠ [])
    (counted : ∀ receipt, phase = .returned (.ok receipt) →
      receipt.blockCount = .ofNat upload.handed) :
    ({ upload with phase, canceled, expired } : Upload).Orderly source := by
  refine ⟨fun staging => absurd staging settled', ?_, begun, counted,
    fun _ => orderly.idle settled⟩
  rcases orderly.complete with unbegun | ⟨list, complete⟩
  · exact .inl unbegun
  · exact .inr ⟨list, complete.counted, complete.bounded, complete.staged, complete.called⟩

theorem Orderly.preserve {source left : Bytes} {upload next : Upload} {step : UploadStep}
    (lawful : upload.Lawful source left) (moved : Transition upload step next) :
    next.Orderly source := by
  have orderly := lawful.orderly
  by_cases staging : upload.phase = .staging
  · have unbegun := orderly.unbegun staging
    obtain ⟨staging', same⟩ | ⟨_, outcome, finished, joined, settled⟩ :=
      moved.while_staging staging
    · exact .of_staging staging' (same.trans unbegun)
    · obtain ⟨error, failure, rfl⟩ | ⟨success, rfl⟩ := settled
      · refine ⟨fun _ => unbegun, .inl unbegun, ?_, ?_, fun _ => ⟨joined, outcome, finished⟩⟩
        · rintro (committing | ⟨receipt, returned⟩)
          · simp at committing
          · simp at returned
        · intro receipt returned
          simp at returned
      · have whole := lawful.whole staging (intact_of_success joined success)
        have complete := whole.complete finished joined
        refine ⟨?_, .inr ⟨?_, ?_⟩, ?_, ?_, fun _ => ⟨joined, outcome, finished⟩⟩
        · intro staging'
          simp at staging'
        · rw [unbegun]
          rfl
        · exact ⟨complete.counted, complete.bounded, complete.staged, complete.called⟩
        · intro _
          simp
        · intro receipt returned
          simp at returned
  · obtain ⟨joined, outcome, finished⟩ := orderly.idle staging
    obtain ⟨reply, _, committing, rfl⟩ | ⟨_, reason, _, committing, rfl⟩ | ⟨_, rfl⟩ | ⟨_, rfl⟩ :=
      moved.after_staging staging finished joined
    · refine orderly.of_settled _ _ staging (by simp) (fun _ => orderly.begun (.inl committing)) ?_
      intro receipt returned
      cases reply with
      | error error => simp [Except.map] at returned
      | ok given =>
          simp only [Except.map, UploadPhase.returned.injEq, Except.ok.injEq] at returned
          rw [← returned]
    · refine orderly.of_settled _ _ staging (by simp) (fun _ => orderly.begun (.inl committing)) ?_
      intro receipt returned
      simp at returned
    · exact orderly.of_settled _ _ staging staging orderly.begun orderly.counted
    · exact orderly.of_settled _ _ staging staging orderly.begun orderly.counted

theorem Orderly.staging_before {source : Bytes} {upload next : Upload} {step : UploadStep}
    (orderly : upload.Orderly source) (moved : Transition upload step next)
    (staging : next.phase = .staging) : upload.phase = .staging := by
  by_cases settled : upload.phase = .staging
  · exact settled
  · obtain ⟨joined, outcome, finished⟩ := orderly.idle settled
    obtain ⟨reply, _, committing, rfl⟩ | ⟨_, reason, _, committing, rfl⟩ | ⟨_, rfl⟩ | ⟨_, rfl⟩ :=
      moved.after_staging settled finished joined
    · simp at staging
    · simp at staging
    · exact staging
    · exact staging

theorem finishProducing_noticed {upload : Upload} (noticed : upload.Noticed)
    (outcome : Except TransferError Unit) : (upload.finishProducing outcome).Noticed := by
  intro failed
  have canceled := noticed failed
  simp [finishProducing, canceled]

theorem completeBlock_noticed {upload : Upload} (noticed : upload.Noticed) (payload : Bytes) :
    (upload.completeBlock payload).Noticed := by
  unfold completeBlock
  split
  · exact finishProducing_noticed noticed _
  · exact noticed

theorem beginBlock_noticed {upload : Upload} (noticed : upload.Noticed) :
    upload.beginBlock.Noticed := by
  unfold beginBlock
  split
  · exact finishProducing_noticed noticed _
  · exact noticed

theorem Noticed.preserve {upload next : Upload} {step : UploadStep} (noticed : upload.Noticed)
    (moved : Transition upload step next) : next.Noticed := by
  cases moved with
  | readBlock | lastBlock => exact completeBlock_noticed noticed _
  | sendFull => exact beginBlock_noticed noticed
  | noBlock | sourceFailure | sendShort | stopReading | stopSending =>
      exact finishProducing_noticed noticed _
  | failed | joinPanicked | cancel => exact fun _ => rfl
  | _ => exact noticed

theorem Lawful.preserve {source left rest : Bytes} {upload next : Upload} {step : UploadStep}
    (lawful : upload.Lawful source left) (moved : Transition upload step next)
    (taken : step.leave left = some rest) : next.Lawful source rest := by
  refine ⟨.preserve lawful moved, lawful.noticed.preserve moved, ?_⟩
  intro staging intact
  have staging' := lawful.orderly.staging_before moved staging
  exact (lawful.whole staging' (intact.before moved)).preserve moved taken intact

theorem lawful_start (options : UploadOptions) (transfer : Uuid) (ended : Option ScopeEnd)
    (source : Bytes) : (start options transfer ended).Lawful source source := by
  unfold start
  split
  · rename_i error invalid
    refine ⟨⟨?_, .inl rfl, ?_, ?_, fun _ => ⟨?_, _, rfl⟩⟩, by simp [Noticed], ?_⟩
    · intro staging
      simp at staging
    · rintro (committing | ⟨receipt, returned⟩)
      · simp at committing
      · simp at returned
    · intro receipt returned
      simp at returned
    · intro worker member
      simp at member
    · intro staging
      simp at staging
  · rename_i valid
    obtain ⟨sized, manned⟩ := UploadOptions.positive_of_validate valid
    unfold beginBlock
    split
    · rename_i lapsed
      refine ⟨.of_staging rfl rfl, by simp [Noticed, finishProducing], ?_⟩
      intro _ intact
      have live := (finishProducing_intact.mp intact).1.live
      simp [live] at lapsed
    · rename_i going
      refine ⟨.of_staging rfl rfl, by simp [Noticed], ?_⟩
      intro _ intact
      refine ⟨sized, ?_, Nat.zero_le _, ⟨sized, ?_, ?_⟩, ?_, ?_, ?_⟩
      · simp only [ne_eq, List.replicate_eq_nil_iff]
        omega
      · simp
      · simp
      · intro worker member gone
        rw [List.eq_of_mem_replicate member] at gone
        contradiction
      · simp [heldBlocks, UploadOptions.firstBlocks, Worker.block?]
      · simp [heldBlocks, Worker.block?]

theorem lawful_of_steps {options : UploadOptions} {transfer : Uuid} {ended : Option ScopeEnd}
    {source left : Bytes} {schedule : List UploadStep} {upload : Upload}
    (ran : (start options transfer ended).steps schedule = some upload)
    (drawn : UploadStep.draw source schedule = some left) : upload.Lawful source left :=
  steps_preserve (fun upload left => upload.Lawful source left)
    (fun _ _ _ _ _ _ lawful moved taken => lawful.preserve moved taken)
    (lawful_start options transfer ended source) ran drawn

theorem Transition.fixed {upload next : Upload} {step : UploadStep}
    (moved : Transition upload step next) :
    next.options = upload.options ∧ next.transfer = upload.transfer := by
  cases moved with
  | readBlock | lastBlock =>
      unfold completeBlock finishProducing
      split <;> exact ⟨rfl, rfl⟩
  | sendFull =>
      unfold beginBlock finishProducing
      split <;> exact ⟨rfl, rfl⟩
  | _ => exact ⟨rfl, rfl⟩

theorem fixed_of_steps {options : UploadOptions} {transfer : Uuid} {ended : Option ScopeEnd}
    {schedule : List UploadStep} {upload : Upload}
    (ran : (start options transfer ended).steps schedule = some upload) :
    upload.options = options ∧ upload.transfer = transfer := by
  refine steps_preserve_all (fun upload => upload.options = options ∧ upload.transfer = transfer)
    ?_ ?_ ran
  · intro upload step next ⟨sameOptions, sameTransfer⟩ moved
    obtain ⟨keptOptions, keptTransfer⟩ := moved.fixed
    exact ⟨keptOptions.trans sameOptions, keptTransfer.trans sameTransfer⟩
  · unfold start
    split
    · exact ⟨rfl, rfl⟩
    · unfold beginBlock finishProducing
      split <;> exact ⟨rfl, rfl⟩

end Upload

/-- Whether the source fails, a stage call fails, or the report of one panics. -/
def UploadStep.isFault : UploadStep → Bool
  | .sourceFailure _ | .stageEnd _ (.failed _) | .stageEnd _ .panicked
  | .stageEnd _ .reportPanicked => true
  | _ => false

def UploadStep.endsScope : UploadStep → Bool
  | .cancel | .expire => true
  | _ => false

def UploadStep.failsCommit : UploadStep → Bool
  | .commitEnd (.error _) => true
  | _ => false

def UploadStep.isSmooth (step : UploadStep) : Bool :=
  !step.isFault && !step.endsScope && !step.failsCommit

theorem UploadStep.going_of_smooth {step : UploadStep} (smooth : step.isSmooth = true) :
    step.endsScope = false := by
  simp only [isSmooth, Bool.and_eq_true, Bool.not_eq_true'] at smooth
  exact smooth.1.2

namespace Upload

theorem Whole.handed_lt {source left : Bytes} {upload : Upload} {filled : Bytes}
    (whole : upload.Whole source left) (reading : upload.producer = .reading filled)
    (more : 0 < filled.length + left.length) :
    upload.handed < upload.options.blocksFor source.length := by
  have produced := whole.produced
  simp only [Produced, reading] at produced
  apply UploadOptions.lt_blocksFor _ whole.sized
  omega

theorem Whole.intact_of_smooth {source left rest : Bytes} {upload next : Upload}
    {step : UploadStep} (whole : upload.Whole source left) (intact : upload.Intact)
    (few : upload.options.blocksFor source.length ≤ mostBlocks)
    (moved : Transition upload step next) (taken : step.leave left = some rest)
    (smooth : step.isSmooth = true) : next.Intact := by
  have live := intact.live
  have unfailing := intact.unfailing
  have unpanicked := intact.unpanicked
  cases moved with
  | @readBlock filled bytes reading nonempty full =>
      simp only [UploadStep.leave, Option.ite_none_right_eq_some, Option.some.injEq] at taken
      obtain ⟨⟨others, rfl⟩, _⟩ := taken
      have positive : 0 < bytes.length := List.length_pos_iff.mpr nonempty
      have below := whole.handed_lt reading (by simp only [List.length_append]; omega)
      exact completeBlock_intact.mpr ⟨intact, by omega⟩
  | @lastBlock filled reading nonempty =>
      have positive : 0 < filled.length := List.length_pos_iff.mpr nonempty
      have below := whole.handed_lt reading (by omega)
      exact completeBlock_intact.mpr ⟨intact, by omega⟩
  | noBlock | sendShort =>
      exact finishProducing_intact.mpr ⟨⟨live, unfailing, unpanicked⟩, rfl⟩
  | sendFull => exact beginBlock_intact.mpr ⟨live, unfailing, unpanicked⟩
  | stopReading | stopSending => exact finishProducing_intact.mpr ⟨intact, rfl⟩
  | turn found | take found | drop found | leave found | staged found | abandonStage found
  | join found =>
      exact ⟨live, unfailing, (unpanicked_set found (by simp) (by simp)).mpr unpanicked⟩
  | joinPanicked exited => exact absurd (List.mem_of_getElem? exited) unpanicked
  | readPart | fail | commit | commitEnd | abandonCommit => exact ⟨live, unfailing, unpanicked⟩
  | sourceFailure | failedLate | failed | panicked | reportPanicked
  | cancel | expire =>
      simp [UploadStep.isSmooth, UploadStep.isFault, UploadStep.endsScope] at smooth

/-- The state of an upload on which nothing has gone wrong, also not its commit. -/
structure Smooth (source left : Bytes) (upload : Upload) : Prop where
  lawful : upload.Lawful source left
  intact : upload.Intact
  unfailed : ∀ error, upload.phase ≠ .returned (.error error)

theorem Smooth.preserve {source left rest : Bytes} {upload next : Upload} {step : UploadStep}
    (state : upload.Smooth source left)
    (few : upload.options.blocksFor source.length ≤ mostBlocks)
    (moved : Transition upload step next) (taken : step.leave left = some rest)
    (smooth : step.isSmooth = true) : next.Smooth source rest := by
  have lawful := state.lawful.preserve moved taken
  by_cases staging : upload.phase = .staging
  · have whole := state.lawful.whole staging state.intact
    refine ⟨lawful, whole.intact_of_smooth state.intact few moved taken smooth, ?_⟩
    intro error returned
    obtain ⟨staging', _⟩ | ⟨_, outcome, finished, joined, settled⟩ := moved.while_staging staging
    · rw [staging'] at returned
      contradiction
    · obtain ⟨failure, failed, _⟩ | ⟨success, rfl⟩ := settled
      · have produced := whole.produced
        have lapsed := state.intact.live
        simp only [Produced, finished] at produced
        simp only [isOver, Option.isSome_eq_false_iff, Option.isNone_iff_eq_none] at lapsed
        simp [failure?, produced.1, state.intact.unfailing, lapsed] at failed
      · simp at returned
  · obtain ⟨joined, outcome, finished⟩ := state.lawful.orderly.idle staging
    obtain ⟨live, unfailing, unpanicked⟩ := state.intact
    obtain ⟨reply, rfl, committing, rfl⟩ | ⟨_, reason, lapsed, committing, rfl⟩ | ⟨rfl, _⟩ |
      ⟨rfl, _⟩ := moved.after_staging staging finished joined
    · refine ⟨lawful, ⟨live, unfailing, unpanicked⟩, ?_⟩
      intro error returned
      cases reply with
      | error failure => simp [UploadStep.isSmooth, UploadStep.failsCommit] at smooth
      | ok receipt => simp [Except.map] at returned
    · simp [isOver, lapsed] at live
    · simp [UploadStep.isSmooth, UploadStep.endsScope] at smooth
    · simp [UploadStep.isSmooth, UploadStep.endsScope] at smooth

theorem smooth_start {options : UploadOptions} (transfer : Uuid) (source : Bytes)
    (valid : options.validate = .ok ()) : (start options transfer none).Smooth source source := by
  refine ⟨lawful_start options transfer none source, ?_, ?_⟩
  · simp only [start, valid]
    apply beginBlock_intact.mpr
    exact ⟨by simp [isOver_eq], rfl, by simp⟩
  · simp only [start, valid, beginBlock, finishProducing]
    split <;> simp

theorem smooth_of_steps {options : UploadOptions} {transfer : Uuid} {source left : Bytes}
    {schedule : List UploadStep} {upload : Upload} (valid : options.validate = .ok ())
    (few : options.blocksFor source.length ≤ mostBlocks)
    (smooth : ∀ step ∈ schedule, step.isSmooth = true)
    (ran : (start options transfer none).steps schedule = some upload)
    (drawn : UploadStep.draw source schedule = some left) : upload.Smooth source left := by
  have unmoved : (start options transfer none).steps [] = some (start options transfer none) := rfl
  have kept := steps_preserve
    (fun upload left => upload.Smooth source left ∧ upload.options = options) ?_
    ⟨smooth_start transfer source valid, (fixed_of_steps unmoved).1⟩ ran drawn
  · exact kept.1
  · intro upload left step next rest member ⟨state, same⟩ moved taken
    refine ⟨state.preserve (same ▸ few) moved taken (smooth step member), ?_⟩
    exact moved.fixed.1.trans same

end Upload

end BlobTransfer
