import BlobTransfer.Proofs.Upload.Buffers
import BlobTransfer.Proofs.Upload.Outcome

/-!
Uploads never get stuck. Until an upload has returned it has a step of its own to take, or it
waits for the source, a stage call or the commit in a scope that is not over. Once something has
gone wrong it always has a step of its own, and it can take only so many.
-/

namespace BlobTransfer

def Producer.partBlock : Producer → Bytes
  | .reading filled => filled
  | _ => []

namespace Upload

def Pending (upload : Upload) : Prop :=
  (∃ filled, upload.producer = .reading filled) ∨
  (∃ block, .staging block ∈ upload.workers) ∨ upload.phase = .committing

theorem proceeds_or_pending {upload : Upload}
    (unreturned : ∀ result, upload.phase ≠ .returned result) :
    upload.Proceeds ∨ (upload.isOver = false ∧ upload.Pending) := by
  have waits : (upload.Proceeds ∨
      (upload.isOver = false ∧ ∃ block, .staging block ∈ upload.workers)) →
      upload.Proceeds ∨ (upload.isOver = false ∧ upload.Pending) := by
    rintro (proceeds | ⟨live, staging⟩)
    · exact .inl proceeds
    · exact .inr ⟨live, .inr (.inl staging)⟩
  by_cases lapsed : upload.isOver = true
  · exact .inl (proceeds_of_over lapsed unreturned)
  · have live : upload.isOver = false := Bool.eq_false_iff.mpr lapsed
    cases phase : upload.phase with
    | returned result => exact absurd phase (unreturned result)
    | committing => exact .inr ⟨live, .inr (.inr phase)⟩
    | staging =>
        cases producing : upload.producer with
        | reading filled => exact .inr ⟨live, .inl ⟨filled, producing⟩⟩
        | sending payload => exact waits (proceeds_of_sending live producing)
        | finished outcome => exact waits (proceeds_of_finished phase producing)

/-- The most steps of its own that an upload can still take. The bytes of a block that is not
full yet are left out of its rank, as no step of its own adds to them. -/
def stepsLeft (upload : Upload) : Nat := upload.rank [] - 8 * upload.producer.partBlock.length

theorem stepsLeft_add (upload : Upload) :
    upload.stepsLeft + 8 * upload.producer.partBlock.length = upload.rank [] := by
  unfold stepsLeft rank
  cases producing : upload.producer with
  | reading filled =>
      simp only [Producer.partBlock, Producer.rank]
      omega
  | sending payload => simp [Producer.partBlock]
  | finished outcome => simp [Producer.partBlock]

theorem sum_rank_le (workers : List Worker) :
    (workers.map Worker.rank).sum ≤ 7 * workers.length := by
  induction workers with
  | nil => exact Nat.zero_le _
  | cons worker rest ih =>
      have heaviest : worker.rank ≤ 7 := by
        cases worker <;> simp [Worker.rank]
      simp only [List.map_cons, List.sum_cons, List.length_cons]
      omega

theorem stepsLeft_le (upload : Upload) :
    upload.stepsLeft ≤ 7 * upload.workers.length + 16 := by
  have workers := sum_rank_le upload.workers
  have room : upload.channel.toList.length ≤ 1 := by
    cases upload.channel <;> simp
  have phase : upload.phase.rank ≤ 2 := by
    cases upload.phase <;> simp [UploadPhase.rank]
  have producer : upload.producer.rank ≤ 8 * upload.producer.partBlock.length + 9 := by
    cases upload.producer <;> simp [Producer.rank, Producer.partBlock]
  simp only [stepsLeft, rank, List.length_nil]
  omega

theorem Transition.partBlock_eq {upload next : Upload} {step : UploadStep}
    (moved : Transition upload step next) (internal : step.isInternal = true) :
    next.producer.partBlock = upload.producer.partBlock ∨
      ∃ filled, upload.producer = .reading filled ∧
        next = upload.finishProducing (.ok ()) := by
  cases moved with
  | sendShort sending =>
      rw [sending]
      exact .inl rfl
  | sendFull sending =>
      rw [sending]
      unfold beginBlock
      split <;> exact .inl rfl
  | stopSending sending =>
      rw [sending]
      exact .inl rfl
  | stopReading reading => exact .inr ⟨_, reading, rfl⟩
  | turn | take | drop | leave | abandonStage | join | joinPanicked | fail | commit
  | abandonCommit => exact .inl rfl
  | _ => simp [UploadStep.isInternal] at internal

theorem Transition.stepsLeft_lt {upload next : Upload} {step : UploadStep}
    (moved : Transition upload step next) (internal : step.isInternal = true) :
    next.stepsLeft < upload.stepsLeft := by
  have before := upload.stepsLeft_add
  have after := next.stepsLeft_add
  rcases moved.partBlock_eq internal with same | ⟨filled, reading, rfl⟩
  · obtain ⟨taken, smooth⟩ := UploadStep.quiet_of_internal internal []
    have lower := moved.rank_lt taken (UploadStep.going_of_smooth smooth)
    rw [same] at after
    omega
  · have finished := upload.finishProducing_rank (.ok ()) []
    rw [reading] at before finished
    simp only [Producer.partBlock, Producer.rank] at before finished
    omega

theorem length_le_of_broken {upload : Upload} (noticed : upload.Noticed)
    (broken : ¬upload.Intact) {later : List UploadStep} {final : Upload}
    (ran : upload.steps later = some final)
    (internal : ∀ step ∈ later, step.isInternal = true) :
    later.length ≤ upload.stepsLeft ∧
      ((∃ result, final.phase = .returned result) ∨ final.Proceeds) := by
  induction later generalizing upload with
  | nil =>
      simp only [steps, List.foldlM_nil, pure, Option.some.injEq] at ran
      subst final
      refine ⟨Nat.zero_le _, ?_⟩
      by_cases returned : ∃ result, upload.phase = .returned result
      · exact .inl returned
      · exact .inr (proceeds_of_broken noticed broken (fun result same => returned ⟨result, same⟩))
  | cons step later ih =>
      obtain ⟨next, possible, continued⟩ := steps_cons.mp ran
      have moved := transition_of_step possible
      have lower := moved.stepsLeft_lt (internal step List.mem_cons_self)
      have further := ih (noticed.preserve moved) (fun intact => broken (intact.before moved))
        continued (fun other member => internal other (List.mem_cons_of_mem step member))
      refine ⟨?_, further.2⟩
      rw [List.length_cons]
      omega

theorem returns_of_broken {upload : Upload} (noticed : upload.Noticed)
    (broken : ¬upload.Intact) :
    ∃ closing final result, upload.steps closing = some final ∧
      final.phase = .returned result ∧ ∀ step ∈ closing, step.isInternal = true := by
  generalize counted : upload.stepsLeft = count
  induction count using Nat.strongRecOn generalizing upload with
  | ind count ih =>
      by_cases returned : ∃ result, upload.phase = .returned result
      · obtain ⟨result, same⟩ := returned
        exact ⟨[], upload, result, rfl, same, by simp⟩
      · obtain ⟨step, internal, possible⟩ := proceeds_of_broken noticed broken
          (fun result same => returned ⟨result, same⟩)
        obtain ⟨next, taken⟩ := Option.isSome_iff_exists.mp possible
        have moved := transition_of_step taken
        obtain ⟨closing, final, result, ran, same, quiet⟩ :=
          ih next.stepsLeft (counted ▸ moved.stepsLeft_lt internal) (noticed.preserve moved)
            (fun intact => broken (intact.before moved)) rfl
        refine ⟨step :: closing, final, result, steps_cons.mpr ⟨next, taken, ran⟩, same, ?_⟩
        intro other member
        rcases List.mem_cons.mp member with rfl | later
        · exact internal
        · exact quiet other later

theorem noticed_of_steps {options : UploadOptions} {transfer : Uuid} {ended : Option ScopeEnd}
    {schedule : List UploadStep} {upload : Upload}
    (ran : (start options transfer ended).steps schedule = some upload) : upload.Noticed :=
  steps_preserve_all Noticed (fun _ _ _ noticed moved => noticed.preserve moved)
    (lawful_start options transfer ended []).noticed ran

theorem not_intact_of_steps {upload final : Upload} {schedule : List UploadStep}
    (broken : ¬upload.Intact) (ran : upload.steps schedule = some final) : ¬final.Intact :=
  steps_preserve_all (fun upload => ¬upload.Intact)
    (fun _ _ _ broken moved intact => broken (intact.before moved)) broken ran

theorem not_intact_of_scheduled {options : UploadOptions} {transfer : Uuid}
    {ended : Option ScopeEnd} {schedule : List UploadStep} {upload : Upload} {step : UploadStep}
    (ran : (start options transfer ended).steps schedule = some upload)
    (scheduled : step ∈ schedule) (fault : step.isFault = true) : ¬upload.Intact := by
  obtain ⟨before, after, rfl⟩ := List.append_of_mem scheduled
  obtain ⟨middle, _, onward⟩ := steps_append.mp ran
  obtain ⟨next, possible, continued⟩ := steps_cons.mp onward
  have broken : ¬next.Intact := not_intact_of_fault (transition_of_step possible) fault
  exact not_intact_of_steps broken continued

/-- However an upload has come to where it is, it has returned, can go on by itself, or waits for
a call in a scope that is not over. If the scope is over, or the source or a worker has failed, it
returns by itself: it can take no more than so many steps before it has returned, whichever it
takes, and until then there is always another one. -/
theorem uploads_never_get_stuck {options : UploadOptions} {transfer : Uuid}
    {ended : Option ScopeEnd} {schedule : List UploadStep} {upload : Upload}
    (ran : (start options transfer ended).steps schedule = some upload) :
    ((∃ result, upload.phase = .returned result) ∨
      (∃ step : UploadStep, step.isInternal = true ∧ (upload.step step).isSome = true) ∨
      (upload.isOver = false ∧ upload.Pending)) ∧
    (upload.isOver = true ∨ (∃ step ∈ schedule, step.isFault = true) →
      (∃ closing final result, upload.steps closing = some final ∧
        final.phase = .returned result ∧ ∀ step ∈ closing, step.isInternal = true) ∧
      ∀ later final, upload.steps later = some final →
        (∀ step ∈ later, step.isInternal = true) →
          later.length ≤ 7 * options.maxConcurrency + 16 ∧
          ((∃ result, final.phase = .returned result) ∨
            ∃ step : UploadStep, step.isInternal = true ∧ (final.step step).isSome = true)) := by
  constructor
  · by_cases returned : ∃ result, upload.phase = .returned result
    · exact .inl returned
    · exact .inr (proceeds_or_pending (fun result same => returned ⟨result, same⟩))
  · intro trouble
    have noticed := noticed_of_steps ran
    have broken : ¬upload.Intact := by
      rcases trouble with lapsed | ⟨step, scheduled, fault⟩
      · intro intact
        simp [intact.live] at lapsed
      · exact not_intact_of_scheduled ran scheduled fault
    refine ⟨returns_of_broken noticed broken, ?_⟩
    intro later final ran' internal
    obtain ⟨short, onward⟩ := length_le_of_broken noticed broken ran' internal
    have manned : upload.workers.length ≤ options.maxConcurrency :=
      steps_preserve_all (fun upload => upload.workers.length ≤ options.maxConcurrency)
        (fun _ _ _ manned moved => Nat.le_trans (Nat.le_of_eq moved.workers_length) manned)
        (start_workers_le options transfer ended) ran
    have bound := upload.stepsLeft_le
    exact ⟨by omega, onward⟩

def deserted : List UploadStep :=
  [.turn 0, .read [1], .send, .receive 0, .turn 1, .read [2], .send, .receive 1,
    .stageEnd 0 .panicked]

theorem deserted_upload_returns :
    ∃ upload, (start { blockSize := 1, maxConcurrency := 2 } (.random fun _ => 0) none).steps
        deserted = some upload ∧
      upload.isOver = false ∧ upload.Pending ∧
      (∃ closing final result, upload.steps closing = some final ∧
        final.phase = .returned result ∧ ∀ step ∈ closing, step.isInternal = true) ∧
      ∀ later final, upload.steps later = some final →
        (∀ step ∈ later, step.isInternal = true) → later.length ≤ 30 := by
  have ran : (start { blockSize := 1, maxConcurrency := 2 } (.random fun _ => 0) none).steps
      deserted = some _ := rfl
  have fault : ∃ step ∈ deserted, step.isFault = true :=
    ⟨.stageEnd 0 .panicked, by simp [deserted], rfl⟩
  obtain ⟨returns, bounded⟩ := (uploads_never_get_stuck ran).2 (.inr fault)
  refine ⟨_, ran, rfl, .inl ⟨[], rfl⟩, returns, ?_⟩
  intro later final ran' internal
  exact (bounded later final ran' internal).1

end Upload

end BlobTransfer
