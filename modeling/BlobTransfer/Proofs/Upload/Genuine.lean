import BlobTransfer.Proofs.Upload.Outcome

/-!
Blocks on their way are blocks of the source, also when something has gone wrong: the producer
stands in front of what is left of the source, and hands over nothing but whole blocks and the
last one.
-/

namespace BlobTransfer

namespace Upload

def Front (source left : Bytes) (upload : Upload) : Prop :=
  match upload.producer with
  | .reading filled =>
      filled.length < upload.options.blockSize ∧
      source.drop (upload.handed * upload.options.blockSize) = filled ++ left
  | .sending payload =>
      upload.handed < mostBlocks ∧ payload ≠ [] ∧ payload.length ≤ upload.options.blockSize ∧
      (payload.length < upload.options.blockSize → left = []) ∧
      source.drop (upload.handed * upload.options.blockSize) = payload ++ left
  | .finished _ => True

def Holds (upload : Upload) (block : Block) : Prop :=
  upload.channel = some block ∨ .staging block ∈ upload.workers ∨ block ∈ upload.staged

structure Genuine (source left : Bytes) (upload : Upload) : Prop where
  front : upload.Front source left
  bounded : upload.handed ≤ mostBlocks
  held : ∀ block, upload.Holds block →
    block ∈ upload.options.firstBlocks source upload.handed

variable {source left rest payload : Bytes} {upload next : Upload} {step : UploadStep}

theorem Front.completeBlock (bounded : upload.handed ≤ mostBlocks) (nonempty : payload ≠ [])
    (fits : payload.length ≤ upload.options.blockSize)
    (last : payload.length < upload.options.blockSize → rest = [])
    (split : source.drop (upload.handed * upload.options.blockSize) = payload ++ rest) :
    (upload.completeBlock payload).Front source rest := by
  unfold Upload.completeBlock
  split
  · trivial
  · rename_i room
    exact ⟨Nat.lt_of_le_of_ne bounded room, nonempty, fits, last, split⟩

theorem Front.beginBlock (sized : 0 < upload.options.blockSize)
    (split : source.drop (upload.handed * upload.options.blockSize) = left) :
    upload.beginBlock.Front source left := by
  unfold Upload.beginBlock
  split
  · trivial
  · exact ⟨sized, split⟩

theorem Front.preserve (front : upload.Front source left) (bounded : upload.handed ≤ mostBlocks)
    (moved : Transition upload step next) (taken : step.leave left = some rest) :
    next.Front source rest := by
  cases moved with
  | @readPart filled bytes reading nonempty short =>
      simp only [UploadStep.leave, Option.ite_none_right_eq_some, Option.some.injEq] at taken
      obtain ⟨⟨others, rfl⟩, rfl⟩ := taken
      simp only [Front, reading] at front
      exact ⟨short, by simpa using front.2⟩
  | @readBlock filled bytes reading nonempty full =>
      simp only [UploadStep.leave, Option.ite_none_right_eq_some, Option.some.injEq] at taken
      obtain ⟨⟨others, rfl⟩, rfl⟩ := taken
      simp only [Front, reading] at front
      exact .completeBlock bounded (by simp [nonempty]) (Nat.le_of_eq full) (by omega)
        (by simpa using front.2)
  | lastBlock reading nonempty =>
      simp only [UploadStep.leave, Option.ite_none_right_eq_some, Option.some.injEq] at taken
      obtain ⟨rfl, rfl⟩ := taken
      simp only [Front, reading] at front
      exact .completeBlock bounded nonempty (Nat.le_of_lt front.1) (fun _ => rfl) front.2
  | noBlock | sourceFailure | stopReading | stopSending | sendShort => trivial
  | @sendFull payload sending room wanted attended full =>
      obtain rfl := eq_of_leave taken (by simp)
      simp only [Front, sending] at front
      obtain ⟨_, nonempty, fits, _, split⟩ := front
      have whole : payload.length = upload.options.blockSize := Nat.le_antisymm fits full
      refine .beginBlock ?_ ?_
      · exact Nat.lt_of_lt_of_le (List.length_pos_iff.mpr nonempty) fits
      · have further := congrArg (List.drop upload.options.blockSize) split
        rw [List.drop_drop, List.drop_left' whole] at further
        simpa [hand, Nat.add_mul] using further
  | _ =>
      obtain rfl := eq_of_leave taken (by simp)
      exact front

theorem staging_of_set {workers : List Worker} {worker : Nat} {after : Worker} {block : Block}
    (idle : after.block? = none) (member : .staging block ∈ workers.set worker after) :
    .staging block ∈ workers := by
  obtain old | rfl := List.mem_or_eq_of_mem_set member
  · exact old
  · simp [Worker.block?] at idle

theorem hand_holds {block : Block} (held : (upload.hand payload).Holds block) :
    upload.Holds block ∨ block = ⟨upload.handed, payload⟩ := by
  obtain queued | others := held
  · exact .inr (Option.some.inj queued).symm
  · exact .inl (.inr others)

theorem Transition.holds (moved : Transition upload step next) :
    (next.handed = upload.handed ∧ ∀ block, next.Holds block → upload.Holds block) ∨
      ∃ payload, upload.producer = .sending payload ∧ next.handed = upload.handed + 1 ∧
        ∀ block, next.Holds block → upload.Holds block ∨ block = ⟨upload.handed, payload⟩ := by
  cases moved with
  | readBlock | lastBlock =>
      left
      unfold completeBlock finishProducing
      split <;> exact ⟨rfl, fun _ => id⟩
  | sendShort sending => exact .inr ⟨_, sending, rfl, fun _ held => hand_holds held⟩
  | sendFull sending =>
      refine .inr ⟨_, sending, ?_, fun _ held => hand_holds ?_⟩
      · unfold beginBlock finishProducing
        split <;> rfl
      · unfold beginBlock finishProducing at held
        split at held <;> exact held
  | turn | leave | abandonStage | join | failedLate | panicked | failed | joinPanicked =>
      refine .inl ⟨rfl, fun block held => ?_⟩
      exact held.imp_right (Or.imp_left (staging_of_set rfl))
  | drop =>
      refine .inl ⟨rfl, fun block held => .inr ?_⟩
      exact (held.resolve_left (by simp [setWorker, recycle])).imp_left (staging_of_set rfl)
  | @take worker taken receiving queued =>
      refine .inl ⟨rfl, fun block held => ?_⟩
      obtain member | old := held.resolve_left (by simp [setWorker])
      · obtain old | new := List.mem_or_eq_of_mem_set member
        · exact .inr (.inl old)
        · obtain rfl := Worker.staging.inj new
          exact .inl queued
      · exact .inr (.inr old)
  | staged found | reportPanicked found =>
      refine .inl ⟨rfl, fun block held => ?_⟩
      obtain queued | member | old := held
      · exact .inl queued
      · exact .inr (.inl (staging_of_set rfl member))
      · obtain rfl | old := List.mem_cons.mp old
        · exact .inr (.inl (List.mem_of_getElem? found))
        · exact .inr (.inr old)
  | _ => exact .inl ⟨rfl, fun _ => id⟩

theorem Genuine.preserve (genuine : upload.Genuine source left)
    (moved : Transition upload step next) (taken : step.leave left = some rest) :
    next.Genuine source rest := by
  have front := genuine.front.preserve genuine.bounded moved taken
  obtain ⟨same, kept⟩ | ⟨payload, sending, grown, kept⟩ := moved.holds
  · refine ⟨front, same ▸ genuine.bounded, fun block held => ?_⟩
    rw [moved.fixed.1, same]
    exact genuine.held block (kept block held)
  · have before := genuine.front
    simp only [Front, sending] at before
    obtain ⟨below, _, fits, last, split⟩ := before
    refine ⟨front, by omega, fun block held => ?_⟩
    rw [moved.fixed.1, grown, UploadOptions.firstBlocks_succ]
    obtain old | rfl := kept block held
    · exact List.mem_append_left _ (genuine.held block old)
    · rw [UploadOptions.block_of_drop fits last split]
      exact List.mem_append_right _ List.mem_cons_self

theorem genuine_start (options : UploadOptions) (transfer : Uuid) (ended : Option ScopeEnd)
    (source : Bytes) : (start options transfer ended).Genuine source source := by
  unfold start
  split
  · refine ⟨trivial, Nat.zero_le _, ?_⟩
    simp [Holds]
  · rename_i valid
    refine ⟨.beginBlock (UploadOptions.positive_of_validate valid).1 (by simp), ?_, ?_⟩
    · unfold beginBlock finishProducing
      split <;> exact Nat.zero_le _
    · unfold beginBlock finishProducing
      split <;> simp [Holds]

theorem genuine_of_steps {options : UploadOptions} {transfer : Uuid} {ended : Option ScopeEnd}
    {schedule : List UploadStep} (ran : (start options transfer ended).steps schedule = some upload)
    (drawn : UploadStep.draw source schedule = some left) : upload.Genuine source left :=
  steps_preserve (fun upload left => upload.Genuine source left)
    (fun _ _ _ _ _ _ genuine moved taken => genuine.preserve moved taken)
    (genuine_start options transfer ended source) ran drawn

theorem refused_of_invalid {options : UploadOptions} {transfer : Uuid} {ended : Option ScopeEnd}
    {schedule : List UploadStep} {error : TransferError}
    (invalid : options.validate = .error error)
    (ran : (start options transfer ended).steps schedule = some upload) :
    upload.phase = .returned (.error error) := by
  have kept := steps_preserve_all (fun upload => upload.phase = .returned (.error error) ∧
    (∀ worker ∈ upload.workers, worker = .joined) ∧
      ∃ outcome, upload.producer = .finished outcome) ?_ ?_ ran
  · exact kept.1
  · rintro upload step next ⟨returned, joined, outcome, finished⟩ moved
    obtain ⟨_, _, committing, _⟩ | ⟨_, _, _, committing, _⟩ | ⟨_, rfl⟩ | ⟨_, rfl⟩ :=
      moved.after_staging (by simp [returned]) finished joined
    · simp [returned] at committing
    · simp [returned] at committing
    · exact ⟨returned, joined, outcome, finished⟩
    · exact ⟨returned, joined, outcome, finished⟩
  · simp only [start, invalid]
    exact ⟨trivial, by simp, _, rfl⟩

end Upload

end BlobTransfer
