import BlobTransfer.Proofs.Upload.Closing

/-!
What becomes of the first failure of a worker. It stays in its slot, nothing is committed any
more, and it is the result of the upload, unless the source has failed: that counts first, even if
it happens later.
-/

namespace BlobTransfer

namespace Upload

theorem completeBlock_firstError (upload : Upload) (payload : Bytes) :
    (upload.completeBlock payload).firstError = upload.firstError := by
  unfold completeBlock
  split <;> rfl

theorem beginBlock_firstError (upload : Upload) :
    upload.beginBlock.firstError = upload.firstError := by
  unfold beginBlock
  split <;> rfl

theorem Transition.firstError_eq {upload next : Upload} {step : UploadStep}
    (moved : Transition upload step next) :
    next.firstError = upload.firstError ∨
      (upload.firstError = none ∧ next.phase = upload.phase ∧
        ∃ state ∈ upload.workers, state ≠ .joined) := by
  have kept : ∀ error, upload.firstError.or (some error) = upload.firstError ∨
      upload.firstError = none := by
    intro error
    cases upload.firstError with
    | none => exact .inr rfl
    | some first => exact .inl rfl
  cases moved with
  | readBlock | lastBlock => exact .inl (completeBlock_firstError _ _)
  | sendFull => exact .inl (beginBlock_firstError _)
  | @failed worker block error staging live =>
      refine (kept error).imp id fun empty => ⟨empty, rfl, _, List.mem_of_getElem? staging, ?_⟩
      simp
  | @joinPanicked worker exited =>
      refine (kept workerPanicked).imp id fun empty =>
        ⟨empty, rfl, _, List.mem_of_getElem? exited, ?_⟩
      simp
  | _ => exact .inl rfl

/-- The producer has read as much as is gone from the source; if it has failed, the source did so
on the schedule, or has a block too much. -/
def Supplied (schedule : List UploadStep) (source left : Bytes) (upload : Upload) : Prop :=
  match upload.producer with
  | .reading filled =>
      filled.length < upload.options.blockSize ∧
      source.length = upload.handed * upload.options.blockSize + (filled.length + left.length)
  | .sending payload =>
      0 < payload.length ∧ payload.length ≤ upload.options.blockSize ∧
      source.length = upload.handed * upload.options.blockSize + (payload.length + left.length)
  | .finished (.ok ()) => True
  | .finished (.error failure) =>
      (∃ error, .sourceFailure error ∈ schedule ∧ failure = .io error) ∨
      (failure = .invalid (.sourceLength upload.options.blockSize mostBlocks) ∧
        mostBlocks < upload.options.blocksFor source.length)

namespace Supplied

variable {schedule : List UploadStep} {source left rest payload : Bytes} {upload next : Upload}

theorem completeBlock (nonempty : payload ≠ [])
    (fits : payload.length ≤ upload.options.blockSize)
    (size : source.length =
      upload.handed * upload.options.blockSize + (payload.length + rest.length)) :
    (upload.completeBlock payload).Supplied schedule source rest := by
  have positive : 0 < payload.length := List.length_pos_iff.mpr nonempty
  unfold Upload.completeBlock
  split
  · rename_i most
    have below : upload.handed < upload.options.blocksFor source.length :=
      upload.options.lt_blocksFor (by omega) (by omega)
    exact .inr ⟨rfl, most ▸ below⟩
  · exact ⟨positive, fits, size⟩

theorem beginBlock (sized : 0 < upload.options.blockSize)
    (size : source.length = upload.handed * upload.options.blockSize + left.length) :
    upload.beginBlock.Supplied schedule source left := by
  unfold Upload.beginBlock
  split
  · trivial
  · refine ⟨sized, ?_⟩
    rw [List.length_nil, Nat.zero_add]
    exact size

theorem preserve {step : UploadStep} (supplied : upload.Supplied schedule source left)
    (moved : Transition upload step next) (taken : step.leave left = some rest)
    (scheduled : step ∈ schedule) : next.Supplied schedule source rest := by
  cases moved with
  | @readPart filled bytes reading nonempty short =>
      simp only [Supplied, reading] at supplied
      have size := length_of_leave taken
      refine ⟨short, ?_⟩
      simp only [List.length_append]
      omega
  | @readBlock filled bytes reading nonempty full =>
      simp only [Supplied, reading] at supplied
      have size := length_of_leave taken
      refine .completeBlock (by simp [nonempty]) (Nat.le_of_eq full) ?_
      simp only [List.length_append]
      omega
  | lastBlock reading nonempty =>
      simp only [Supplied, reading] at supplied
      obtain rfl := eq_of_leave taken (by simp)
      exact .completeBlock nonempty (Nat.le_of_lt supplied.1) supplied.2
  | sourceFailure => exact .inl ⟨_, scheduled, rfl⟩
  | noBlock | stopReading | stopSending | sendShort => trivial
  | sendFull sending room wanted attended full =>
      simp only [Supplied, sending] at supplied
      obtain rfl := eq_of_leave taken (by simp)
      obtain ⟨positive, fits, size⟩ := supplied
      have whole := Nat.le_antisymm fits full
      refine .beginBlock (Nat.lt_of_lt_of_le positive fits) ?_
      rw [whole, ← Nat.add_assoc] at size
      simpa only [hand, Nat.add_mul, Nat.one_mul] using size
  | _ =>
      obtain rfl := eq_of_leave taken (by simp)
      exact supplied

end Supplied

theorem supplied_start (schedule : List UploadStep) (options : UploadOptions) (transfer : Uuid)
    (ended : Option ScopeEnd) (source : Bytes) :
    (start options transfer ended).Supplied schedule source source := by
  unfold start
  split
  · trivial
  · rename_i valid
    exact .beginBlock (UploadOptions.positive_of_validate valid).1 (by simp)

/-- A failure is in the slot: the upload has failed or will, with the fault of the source if there
is one and else with what is in the slot. -/
structure Failing (error : TransferError) (upload : Upload) : Prop where
  recorded : upload.firstError = some error
  unbegun : upload.commits = []
  verdict : upload.phase = .staging ∨
    (upload.producer = .finished (.ok ()) ∧ upload.phase = .returned (.error error)) ∨
    ∃ failure, upload.producer = .finished (.error failure) ∧
      upload.phase = .returned (.error failure)

namespace Failing

variable {source left rest : Bytes} {error : TransferError} {upload next : Upload}

theorem uncommitted (failing : upload.Failing error) : upload.phase ≠ .committing := by
  intro committing
  obtain staging | ⟨_, returned⟩ | ⟨_, _, returned⟩ := failing.verdict
  · simp [committing] at staging
  · simp [committing] at returned
  · simp [committing] at returned

theorem preserve {step : UploadStep} (failing : upload.Failing error)
    (lawful : upload.Lawful source left) (moved : Transition upload step next) :
    next.Failing error := by
  have recorded : next.firstError = some error := by
    obtain same | ⟨empty, _⟩ := moved.firstError_eq
    · exact same.trans failing.recorded
    · simp [failing.recorded] at empty
  by_cases staging : upload.phase = .staging
  · obtain ⟨staging', same⟩ | ⟨_, outcome, finished, _, settled⟩ := moved.while_staging staging
    · exact ⟨recorded, same.trans failing.unbegun, .inl staging'⟩
    · obtain ⟨failure, failed, rfl⟩ | ⟨success, _⟩ := settled
      · cases outcome with
        | ok =>
            simp only [failure?, failing.recorded, Option.some_or, Option.some.injEq] at failed
            exact ⟨recorded, failing.unbegun, .inr (.inl ⟨finished, failed ▸ rfl⟩)⟩
        | error fault =>
            simp only [failure?, Option.some.injEq] at failed
            exact ⟨recorded, failing.unbegun, .inr (.inr ⟨fault, finished, failed ▸ rfl⟩)⟩
      · cases outcome <;> simp [failure?, failing.recorded] at success
  · obtain ⟨joined, outcome, finished⟩ := lawful.orderly.idle staging
    obtain ⟨_, _, committing, _⟩ | ⟨_, _, _, committing, _⟩ | ⟨_, rfl⟩ | ⟨_, rfl⟩ :=
      moved.after_staging staging finished joined
    · exact absurd committing failing.uncommitted
    · exact absurd committing failing.uncommitted
    · exact ⟨recorded, failing.unbegun, failing.verdict⟩
    · exact ⟨recorded, failing.unbegun, failing.verdict⟩

end Failing

theorem failing_of_record {source left : Bytes} {error : TransferError} {upload next : Upload}
    {step : UploadStep} (lawful : upload.Lawful source left) (empty : upload.firstError = none)
    (moved : Transition upload step next) (recorded : next.firstError = some error) :
    next.Failing error := by
  obtain same | ⟨_, kept, state, member, unjoined⟩ := moved.firstError_eq
  · simp [same, empty] at recorded
  · have staging : upload.phase = .staging := by
      by_cases settled : upload.phase = .staging
      · exact settled
      · exact absurd ((lawful.orderly.idle settled).1 state member) unjoined
    obtain ⟨staging', same⟩ | ⟨_, _, _, joined, _⟩ := moved.while_staging staging
    · exact ⟨recorded, same.trans (lawful.orderly.unbegun staging), .inl staging'⟩
    · exact absurd (joined state member) unjoined

theorem start_firstError (options : UploadOptions) (transfer : Uuid) (ended : Option ScopeEnd) :
    (start options transfer ended).firstError = none := by
  unfold start
  split
  · rfl
  · exact beginBlock_firstError _

theorem failing_of_steps {options : UploadOptions} {transfer : Uuid} {ended : Option ScopeEnd}
    {source left : Bytes} {schedule : List UploadStep} {upload : Upload} {error : TransferError}
    (ran : (start options transfer ended).steps schedule = some upload)
    (drawn : UploadStep.draw source schedule = some left)
    (recorded : upload.firstError = some error) : upload.Failing error := by
  have kept := steps_preserve
    (fun upload left => upload.Lawful source left ∧
      ∀ error, upload.firstError = some error → upload.Failing error)
    ?_ ⟨lawful_start options transfer ended source, ?_⟩ ran drawn
  · exact kept.2 error recorded
  · intro upload left step next rest _ ⟨lawful, failing⟩ moved taken
    refine ⟨lawful.preserve moved taken, ?_⟩
    intro error recorded
    cases before : upload.firstError with
    | none => exact failing_of_record lawful before moved recorded
    | some first =>
        have later := (failing first before).preserve lawful moved
        rw [later.recorded, Option.some.injEq] at recorded
        exact recorded ▸ later
  · intro error recorded
    simp [start_firstError] at recorded

theorem Failing.of_steps {source left rest : Bytes} {error : TransferError}
    {upload final : Upload} {schedule : List UploadStep} (failing : upload.Failing error)
    (lawful : upload.Lawful source left) (ran : upload.steps schedule = some final)
    (drawn : UploadStep.draw left schedule = some rest) : final.Failing error := by
  have kept := steps_preserve
    (fun upload left => upload.Lawful source left ∧ upload.Failing error)
    ?_ ⟨lawful, failing⟩ ran drawn
  · exact kept.2
  · intro upload left step next rest _ ⟨lawful, failing⟩ moved taken
    exact ⟨lawful.preserve moved taken, failing.preserve lawful moved⟩

theorem supplied_of_steps {options : UploadOptions} {transfer : Uuid} {ended : Option ScopeEnd}
    {source left : Bytes} {schedule : List UploadStep} {upload : Upload}
    (ran : (start options transfer ended).steps schedule = some upload)
    (drawn : UploadStep.draw source schedule = some left) :
    upload.Supplied schedule source left :=
  steps_preserve (fun upload left => upload.Supplied schedule source left)
    (fun _ _ _ _ _ scheduled supplied moved taken => supplied.preserve moved taken scheduled)
    (supplied_start schedule options transfer ended source) ran drawn

/-- Whatever follows, the first failure of a worker stays in its slot and the upload commits
nothing. By itself it comes to its result, which is that failure, unless the source has failed or
was too long: then it is the fault of the source. -/
theorem first_failure_decides_result {options : UploadOptions} {transfer : Uuid}
    {ended : Option ScopeEnd} {source left : Bytes} {schedule : List UploadStep} {upload : Upload}
    {error : TransferError}
    (ran : (start options transfer ended).steps schedule = some upload)
    (drawn : UploadStep.draw source schedule = some left)
    (recorded : upload.firstError = some error) :
    (∀ later final rest, upload.steps later = some final →
      UploadStep.draw left later = some rest →
        final.firstError = some error ∧ final.commits = [] ∧
        ∀ result, final.phase = .returned result →
          (result = .error error ∧ final.producer = .finished (.ok ())) ∨
          ∃ failure, result = .error failure ∧ final.producer = .finished (.error failure) ∧
            ((∃ fault, .sourceFailure fault ∈ schedule ++ later ∧ failure = .io fault) ∨
              (failure = .invalid (.sourceLength options.blockSize mostBlocks) ∧
                mostBlocks < options.blocksFor source.length))) ∧
    ∃ closing final result rest, upload.steps closing = some final ∧
      UploadStep.draw left closing = some rest ∧ final.phase = .returned result ∧
      ∀ step ∈ closing, step.isInternal = true := by
  have lawful := lawful_of_steps ran drawn
  have failing := failing_of_steps ran drawn recorded
  constructor
  · intro later final rest ran' drawn'
    have ended := failing.of_steps lawful ran' drawn'
    refine ⟨ended.recorded, ended.unbegun, ?_⟩
    intro result returned
    obtain staging | ⟨finished, verdict⟩ | ⟨failure, finished, verdict⟩ := ended.verdict
    · simp [returned] at staging
    · rw [returned, UploadPhase.returned.injEq] at verdict
      exact .inl ⟨verdict, finished⟩
    · rw [returned, UploadPhase.returned.injEq] at verdict
      have whole := steps_append.mpr ⟨upload, ran, ran'⟩
      have supplied := supplied_of_steps whole (draw_append.mpr ⟨left, drawn, drawn'⟩)
      simp only [Supplied, finished, (fixed_of_steps whole).1] at supplied
      exact .inr ⟨failure, verdict, finished, supplied⟩
  · obtain ⟨closing, final, result, rest, ran', drawn', returned, quiet⟩ := lawful.returns
    refine ⟨closing, final, result, rest, ran', drawn', returned, ?_⟩
    intro step member
    refine (quiet step member).2 fun intact => ?_
    simp [intact.unfailing] at recorded

def refusing : List UploadStep :=
  [.read [1], .send, .turn 0, .receive 0, .stageEnd 0 (.failed (.backend "refused"))]

theorem late_source_failure_hides_first_failure :
    ∃ upload final,
      (start { blockSize := 1, maxConcurrency := 1 } (.random fun _ => 0) none).steps refusing =
        some upload ∧
      upload.firstError = some (.backend "refused") ∧
      upload.steps [.sourceFailure ⟨.other, .text "disk"⟩, .join 0, .settle] = some final ∧
      final.phase = .returned (.error (.io ⟨.other, .text "disk"⟩)) :=
  ⟨_, _, rfl, rfl, rfl, rfl⟩

theorem refused_block_decides_result :
    ∃ upload final,
      (start { blockSize := 1, maxConcurrency := 1 } (.random fun _ => 0) none).steps refusing =
        some upload ∧
      upload.firstError = some (.backend "refused") ∧
      upload.steps [.giveUp, .join 0, .settle] = some final ∧
      final.phase = .returned (.error (.backend "refused")) ∧ final.commits = [] := by
  have ran : (start { blockSize := 1, maxConcurrency := 1 } (.random fun _ => 0) none).steps
      refusing = some _ := rfl
  have drawn : UploadStep.draw [1, 2] refusing = some [2] := by decide
  obtain ⟨decided, _⟩ := first_failure_decides_result ran drawn rfl
  obtain ⟨_, unbegun, verdict⟩ := decided [.giveUp, .join 0, .settle] _ [2] rfl rfl
  obtain ⟨failed, _⟩ | ⟨failure, _, finished, _⟩ := verdict _ rfl
  · exact ⟨_, _, ran, rfl, rfl, congrArg UploadPhase.returned failed, unbegun⟩
  · cases finished

end Upload

end BlobTransfer
