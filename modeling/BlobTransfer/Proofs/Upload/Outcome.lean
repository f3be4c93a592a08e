import BlobTransfer.Proofs.Upload.Closing

/-!
What the result of an upload says about what was staged and committed, over every schedule.
-/

namespace BlobTransfer

namespace Upload

theorem Lawful.of_begun {source left : Bytes} {upload : Upload} (lawful : upload.Lawful source left)
    (begun : upload.commits ≠ []) :
    upload.commits = [upload.blockIds] ∧ upload.Complete source ∧
      ∀ worker ∈ upload.workers, worker = .joined := by
  have settled : upload.phase ≠ .staging := by
    intro staging
    exact begun (lawful.orderly.unbegun staging)
  obtain ⟨list, complete⟩ := lawful.orderly.complete.resolve_left begun
  exact ⟨list, complete, (lawful.orderly.idle settled).1⟩

theorem complete_of_success {options : UploadOptions} {transfer : Uuid} {ended : Option ScopeEnd}
    {source left : Bytes} {schedule : List UploadStep} {upload : Upload} {receipt : CommitReceipt}
    (ran : (start options transfer ended).steps schedule = some upload)
    (drawn : UploadStep.draw source schedule = some left)
    (returned : upload.phase = .returned (.ok receipt)) : upload.Complete source := by
  have lawful := lawful_of_steps ran drawn
  exact (lawful.of_begun (lawful.orderly.begun (.inr ⟨receipt, returned⟩))).2.1

theorem blockIds_eq {options : UploadOptions} {transfer : Uuid} {source : Bytes} {upload : Upload}
    (fixed : upload.options = options ∧ upload.transfer = transfer)
    (complete : upload.Complete source) :
    upload.blockIds = (List.range (options.blocksFor source.length)).map fun number =>
      BlockId.new transfer (.ofNat number) := by
  obtain ⟨rfl, rfl⟩ := fixed
  rw [blockIds, complete.counted]
  rfl

/-- An upload that succeeds has staged each block of its source by one call, under the identifier
of its number, and then committed all of them in order, once; and as long as nothing goes wrong, it
has not failed and can go on to succeed. -/
theorem successful_upload_commits_source {options : UploadOptions} {transfer : Uuid}
    {ended : Option ScopeEnd} {source left : Bytes} {schedule : List UploadStep} {upload : Upload}
    (ran : (start options transfer ended).steps schedule = some upload)
    (drawn : UploadStep.draw source schedule = some left) :
    (∀ receipt, upload.phase = .returned (.ok receipt) →
      upload.calls.Perm (options.cut source) ∧ upload.staged.Perm (options.cut source) ∧
      (upload.calls.map fun block => (upload.blockId block.number, block.payload)).Perm
        ((List.range (options.blocksFor source.length)).map fun number =>
          (BlockId.new transfer (.ofNat number),
            (source.drop (number * options.blockSize)).take options.blockSize)) ∧
      upload.commits.map (·.map (·.text)) =
        [(List.range (options.blocksFor source.length)).map fun number =>
          (BlockId.new transfer (.ofNat number)).text] ∧
      (∀ before after middle, schedule = before ++ after →
        (start options transfer ended).steps before = some middle → middle.commits ≠ [] →
          middle.staged.Perm (options.cut source) ∧
            ∀ worker ∈ middle.workers, worker.isStaging = false) ∧
      receipt.blockCount.toNat = options.blocksFor source.length) ∧
    (options.validate = .ok () → ended = none →
      options.blocksFor source.length ≤ mostBlocks →
      (∀ step ∈ schedule, step.isSmooth = true) →
        (∀ error, upload.phase ≠ .returned (.error error)) ∧
        ∃ closing final receipt rest, upload.steps closing = some final ∧
          UploadStep.draw left closing = some rest ∧ final.phase = .returned (.ok receipt) ∧
          ∀ step ∈ closing, step.isSmooth = true) := by
  constructor
  · intro receipt returned
    have lawful := lawful_of_steps ran drawn
    have fixed := fixed_of_steps ran
    obtain ⟨list, complete, _⟩ := lawful.of_begun (lawful.orderly.begun (.inr ⟨receipt, returned⟩))
    have called : upload.calls.Perm (options.cut source) := fixed.1 ▸ complete.called
    refine ⟨called, fixed.1 ▸ complete.staged, ?_, ?_, ?_, ?_⟩
    · have named := called.map fun block => (upload.blockId block.number, block.payload)
      rw [UploadOptions.cut, UploadOptions.firstBlocks, List.map_map] at named
      rw [← fixed.2]
      exact named
    · rw [list, blockIds_eq fixed complete]
      simp
    · intro before after middle split reached begun
      subst schedule
      obtain ⟨rest, drawn', _⟩ := draw_append.mp drawn
      obtain ⟨_, complete', joined⟩ := (lawful_of_steps reached drawn').of_begun begun
      refine ⟨(fixed_of_steps reached).1 ▸ complete'.staged, ?_⟩
      intro worker member
      rw [joined worker member]
      rfl
    · have bounded := complete.bounded
      rw [lawful.orderly.counted receipt returned, ← fixed.1, ← complete.counted]
      apply UInt32.toNat_ofNat_of_lt'
      simp only [mostBlocks, UInt32.size] at bounded ⊢
      omega
  · rintro valid rfl few smooth
    have state := smooth_of_steps valid few smooth ran drawn
    refine ⟨state.unfailed, ?_⟩
    obtain ⟨closing, final, result, rest, ran', drawn', returned, quiet⟩ := state.lawful.returns
    have smooth' : ∀ step ∈ schedule ++ closing, step.isSmooth = true := by
      intro step member
      rcases List.mem_append.mp member with before | after
      · exact smooth step before
      · exact (quiet step after).1
    have ended := smooth_of_steps valid few smooth' (steps_append.mpr ⟨upload, ran, ran'⟩)
      (draw_append.mpr ⟨left, drawn, drawn'⟩)
    cases result with
    | error error => exact absurd returned (ended.unfailed error)
    | ok receipt =>
        exact ⟨closing, final, receipt, rest, ran', drawn', returned,
          fun step member => (quiet step member).1⟩

def overtaking : List UploadStep :=
  [.turn 0, .read [1], .read [2], .send, .read [3], .sourceEnd, .receive 0, .turn 1, .send,
    .receive 1, .stageEnd 1 .staged, .turn 1, .receive 1, .stageEnd 0 .staged, .turn 0, .receive 0,
    .join 1, .join 0, .settle, .commitEnd (.ok {})]

theorem overtaking_upload_commits_source :
    ∃ upload receipt, upload.phase = .returned (.ok receipt) ∧
      (start { blockSize := 2, maxConcurrency := 2 } (.random fun _ => 0) none).steps overtaking =
        some upload ∧
      UploadStep.draw [1, 2, 3] overtaking = some [] ∧
      upload.staged.Perm [⟨0, [1, 2]⟩, ⟨1, [3]⟩] ∧ receipt.blockCount.toNat = 2 ∧
      (∀ error, upload.phase ≠ .returned (.error error)) := by
  have ran : (start { blockSize := 2, maxConcurrency := 2 } (.random fun _ => 0) none).steps
      overtaking = some _ := rfl
  have drawn : UploadStep.draw [1, 2, 3] overtaking = some [] := by decide
  obtain ⟨success, untroubled⟩ := successful_upload_commits_source ran drawn
  obtain ⟨_, staged, _, _, _, counted⟩ := success _ rfl
  exact ⟨_, _, rfl, ran, drawn, staged, counted, (untroubled rfl rfl (by decide) (by decide)).1⟩

/-- The upload has failed or will fail: nothing is committed, and either something has gone wrong
or the failure is its result. -/
def Doomed (upload : Upload) : Prop :=
  upload.commits = [] ∧ (upload.Intact → ∃ error, upload.phase = .returned (.error error))

theorem Doomed.preserve {source left : Bytes} {upload next : Upload} {step : UploadStep}
    (doomed : upload.Doomed) (lawful : upload.Lawful source left)
    (moved : Transition upload step next) : next.Doomed := by
  obtain ⟨unbegun, failed⟩ := doomed
  by_cases staging : upload.phase = .staging
  · have broken : ¬upload.Intact := by
      intro intact
      obtain ⟨error, returned⟩ := failed intact
      simp [staging] at returned
    refine ⟨?_, fun intact => absurd (intact.before moved) broken⟩
    obtain ⟨_, same⟩ | ⟨_, outcome, _, joined, settled⟩ := moved.while_staging staging
    · rw [same, unbegun]
    · obtain ⟨error, _, rfl⟩ | ⟨success, _⟩ := settled
      · exact unbegun
      · exact absurd (intact_of_success joined success) broken
  · obtain ⟨joined, outcome, finished⟩ := lawful.orderly.idle staging
    have uncommitted : upload.phase ≠ .committing := by
      intro committing
      exact lawful.orderly.begun (.inl committing) unbegun
    obtain ⟨_, _, committing, _⟩ | ⟨_, _, _, committing, _⟩ | ⟨_, rfl⟩ | ⟨_, rfl⟩ :=
      moved.after_staging staging finished joined
    · exact absurd committing uncommitted
    · exact absurd committing uncommitted
    · refine ⟨unbegun, fun intact => ?_⟩
      have live := intact.live
      simp [isOver_eq] at live
    · refine ⟨unbegun, fun intact => ?_⟩
      have live := intact.live
      simp [isOver_eq] at live

theorem not_intact_of_fault {upload next : Upload} {step : UploadStep}
    (moved : Transition upload step next) (fault : step.isFault = true) : ¬next.Intact := by
  intro intact
  cases moved with
  | sourceFailure reading =>
      have fine := (finishProducing_intact.mp intact).2
      contradiction
  | failedLate staging lapsed =>
      have live : upload.isOver = false := intact.live
      simp [lapsed] at live
  | failed staging live => exact recordError_not_intact intact
  | panicked staging | reportPanicked staging reports =>
      have bound := (List.getElem?_eq_some_iff.mp staging).1
      exact intact.unpanicked (List.mem_set bound _)
  | _ => simp [UploadStep.isFault] at fault

theorem doomed_of_fault {source left : Bytes} {upload next : Upload} {step : UploadStep}
    (lawful : upload.Lawful source left) (moved : Transition upload step next)
    (fault : step.isFault = true) : next.Doomed := by
  refine ⟨?_, fun intact => absurd intact (not_intact_of_fault moved fault)⟩
  by_cases staging : upload.phase = .staging
  · obtain ⟨_, same⟩ | ⟨rfl, _⟩ := moved.while_staging staging
    · rw [same, lawful.orderly.unbegun staging]
    · simp [UploadStep.isFault] at fault
  · obtain ⟨joined, outcome, finished⟩ := lawful.orderly.idle staging
    obtain ⟨_, rfl, _⟩ | ⟨rfl, _⟩ | ⟨rfl, _⟩ | ⟨rfl, _⟩ :=
      moved.after_staging staging finished joined <;>
      simp [UploadStep.isFault] at fault

theorem doomed_of_end {upload next : Upload} {step : UploadStep} (unbegun : upload.commits = [])
    (moved : Transition upload step next) (ended : step.endsScope = true) : next.Doomed := by
  cases moved with
  | cancel =>
      refine ⟨unbegun, fun intact => ?_⟩
      have live := intact.live
      simp [isOver_eq] at live
  | expire =>
      refine ⟨unbegun, fun intact => ?_⟩
      have live := intact.live
      simp [isOver_eq] at live
  | _ => simp [UploadStep.endsScope] at ended

theorem doomed_start (options : UploadOptions) (transfer : Uuid) {ended : Option ScopeEnd}
    (lapsed : ended.isSome = true) : (start options transfer ended).Doomed := by
  obtain ⟨reason, rfl⟩ := Option.isSome_iff_exists.mp lapsed
  unfold start
  split
  · rename_i error invalid
    exact ⟨rfl, fun _ => ⟨error, rfl⟩⟩
  · refine ⟨?_, fun intact => ?_⟩
    · unfold beginBlock finishProducing
      split <;> rfl
    · have live := (beginBlock_intact.mp intact).live
      cases reason <;> simp [isOver_eq] at live

theorem doomed_of_steps {source left rest : Bytes} {upload final : Upload}
    {schedule : List UploadStep} (lawful : upload.Lawful source left) (doomed : upload.Doomed)
    (ran : upload.steps schedule = some final)
    (drawn : UploadStep.draw left schedule = some rest) : final.Doomed := by
  have kept := steps_preserve (fun upload left => upload.Lawful source left ∧ upload.Doomed) ?_
    ⟨lawful, doomed⟩ ran drawn
  · exact kept.2
  · intro upload left step next rest _ ⟨lawful, doomed⟩ moved taken
    exact ⟨lawful.preserve moved taken, doomed.preserve lawful moved⟩

def Broken (options : UploadOptions) (transfer : Uuid) (ended : Option ScopeEnd)
    (schedule : List UploadStep) : Prop :=
  ended.isSome = true ∨
  (∃ step ∈ schedule, step.isFault = true) ∨
  ∃ before step after middle, schedule = before ++ step :: after ∧ step.endsScope = true ∧
    (start options transfer ended).steps before = some middle ∧ middle.commits = []

theorem doomed_of_broken {options : UploadOptions} {transfer : Uuid} {ended : Option ScopeEnd}
    {source left : Bytes} {schedule : List UploadStep} {upload : Upload}
    (ran : (start options transfer ended).steps schedule = some upload)
    (drawn : UploadStep.draw source schedule = some left)
    (broken : Broken options transfer ended schedule) : upload.Doomed := by
  have settled : ∀ before step after, schedule = before ++ step :: after →
      (∀ middle next left, middle.Lawful source left →
        (start options transfer ended).steps before = some middle →
        Transition middle step next → next.Doomed) → upload.Doomed := by
    intro before step after split dooms
    subst schedule
    obtain ⟨middle, reached, onward⟩ := steps_append.mp ran
    obtain ⟨next, possible, continued⟩ := steps_cons.mp onward
    obtain ⟨left', drawn', remaining⟩ := draw_append.mp drawn
    rw [UploadStep.draw, List.foldlM_cons] at remaining
    obtain ⟨rest, taken, remaining'⟩ := Option.bind_eq_some_iff.mp remaining
    have lawful := lawful_of_steps reached drawn'
    have moved := transition_of_step possible
    exact doomed_of_steps (lawful.preserve moved taken) (dooms _ _ _ lawful reached moved)
      continued remaining'
  obtain lapsed | ⟨step, member, fault⟩ | ⟨before, step, after, middle, split, ended', reached,
    unbegun⟩ := broken
  · exact doomed_of_steps (lawful_start options transfer ended source)
      (doomed_start options transfer lapsed) ran drawn
  · obtain ⟨before, after, split⟩ := List.append_of_mem member
    exact settled before step after split
      (fun _ _ _ lawful _ moved => doomed_of_fault lawful moved fault)
  · refine settled before step after split ?_
    intro middle' next left' _ reached' moved
    rw [reached, Option.some.injEq] at reached'
    subst middle'
    exact doomed_of_end unbegun moved ended'

theorem unbegun_of_many {options : UploadOptions} {transfer : Uuid} {ended : Option ScopeEnd}
    {source left : Bytes} {schedule : List UploadStep} {upload : Upload}
    (ran : (start options transfer ended).steps schedule = some upload)
    (drawn : UploadStep.draw source schedule = some left)
    (many : mostBlocks < options.blocksFor source.length) : upload.commits = [] := by
  obtain unbegun | ⟨_, complete⟩ := (lawful_of_steps ran drawn).orderly.complete
  · exact unbegun
  · have counted := complete.counted
    have bounded := complete.bounded
    rw [(fixed_of_steps ran).1] at counted
    omega

/-- What an upload commits is its whole source, once. If something goes wrong before, or if the
source needs too many blocks, it commits nothing and comes to no result but a failure; to that it
comes by itself, unless it has yet to read the block that is too much. -/
theorem failed_upload_commits_nothing {options : UploadOptions} {transfer : Uuid}
    {ended : Option ScopeEnd} {source left : Bytes} {schedule : List UploadStep} {upload : Upload}
    (ran : (start options transfer ended).steps schedule = some upload)
    (drawn : UploadStep.draw source schedule = some left) :
    upload.commits.length ≤ 1 ∧
    (∀ list ∈ upload.commits,
      list = ((List.range (options.blocksFor source.length)).map fun number =>
        BlockId.new transfer (.ofNat number)) ∧
      upload.staged.Perm (options.cut source)) ∧
    (Broken options transfer ended schedule ∨ mostBlocks < options.blocksFor source.length →
      upload.commits = [] ∧ (∀ receipt, upload.phase ≠ .returned (.ok receipt)) ∧
      ∃ closing final error rest, upload.steps closing = some final ∧
        UploadStep.draw left closing = some rest ∧ final.phase = .returned (.error error) ∧
        ∀ step ∈ closing, step.isSmooth = true ∧
          (Broken options transfer ended schedule → step.isInternal = true)) := by
  have lawful := lawful_of_steps ran drawn
  have fixed := fixed_of_steps ran
  refine ⟨?_, ?_, ?_⟩
  · obtain unbegun | ⟨list, _⟩ := lawful.orderly.complete
    · simp [unbegun]
    · simp [list]
  · intro list member
    obtain ⟨only, complete, _⟩ := lawful.of_begun (List.ne_nil_of_mem member)
    rw [only, List.mem_singleton] at member
    exact ⟨member.trans (blockIds_eq fixed complete), fixed.1 ▸ complete.staged⟩
  · intro trouble
    have unbegun : ∀ closing final rest, upload.steps closing = some final →
        UploadStep.draw left closing = some rest → final.commits = [] := by
      intro closing final rest ran' drawn'
      obtain broken | many := trouble
      · exact (doomed_of_steps lawful (doomed_of_broken ran drawn broken) ran' drawn').1
      · exact unbegun_of_many (steps_append.mpr ⟨upload, ran, ran'⟩)
          (draw_append.mpr ⟨left, drawn, drawn'⟩) many
    have now := unbegun [] upload left rfl rfl
    refine ⟨now, ?_, ?_⟩
    · intro receipt returned
      exact lawful.orderly.begun (.inr ⟨receipt, returned⟩) now
    · by_cases failed : ∃ error, upload.phase = .returned (.error error)
      · obtain ⟨error, returned⟩ := failed
        exact ⟨[], upload, error, left, rfl, rfl, returned, by simp⟩
      · obtain ⟨closing, final, result, rest, ran', drawn', returned, quiet⟩ := lawful.returns
        have later := unbegun closing final rest ran' drawn'
        cases result with
        | ok receipt =>
            have lawful' := lawful_of_steps (steps_append.mpr ⟨upload, ran, ran'⟩)
              (draw_append.mpr ⟨left, drawn, drawn'⟩)
            exact absurd later (lawful'.orderly.begun (.inr ⟨receipt, returned⟩))
        | error error =>
            refine ⟨closing, final, error, rest, ran', drawn', returned, ?_⟩
            intro step member
            refine ⟨(quiet step member).1, fun broken => ?_⟩
            have doomed := doomed_of_broken ran drawn broken
            exact (quiet step member).2 (fun intact => failed (doomed.2 intact))

def panicking : List UploadStep :=
  [.turn 0, .read [1, 2], .send, .receive 0, .turn 1, .read [3], .sourceEnd, .send,
    .stageEnd 0 .reportPanicked, .join 0, .receive 1, .join 1]

theorem panicking_upload_commits_nothing :
    ∃ upload closing final error,
      (start { blockSize := 2, maxConcurrency := 2, reportsProgress := true }
        (.random fun _ => 0) none).steps panicking = some upload ∧
      upload.commits = [] ∧ upload.steps closing = some final ∧
      final.phase = .returned (.error error) ∧ ∀ step ∈ closing, step.isInternal = true := by
  have ran : (start { blockSize := 2, maxConcurrency := 2, reportsProgress := true }
      (.random fun _ => 0) none).steps panicking = some _ := rfl
  have drawn : UploadStep.draw [1, 2, 3] panicking = some [] := by decide
  have broken : Broken { blockSize := 2, maxConcurrency := 2, reportsProgress := true }
      (.random fun _ => 0) none panicking :=
    .inr (.inl ⟨.stageEnd 0 .reportPanicked, by simp [panicking], rfl⟩)
  obtain ⟨_, _, failed⟩ := failed_upload_commits_nothing ran drawn
  obtain ⟨unbegun, _, closing, final, error, _, ran', _, returned, quiet⟩ := failed (.inl broken)
  exact ⟨_, closing, final, error, ran, unbegun, ran', returned,
    fun step member => (quiet step member).2 broken⟩

end Upload

end BlobTransfer
