import BlobTransfer.Proofs.Upload.Source

/-!
Where every block of an upload is. As long as nothing has gone wrong, each block that was handed
over is in the channel, held by a worker or staged, and is a block of the source; the producer
stands right behind the last of them.
-/

namespace BlobTransfer

def Worker.block? : Worker → Option Block
  | .staging block => some block
  | _ => none

def heldBlocks (workers : List Worker) : List Block := workers.filterMap Worker.block?

theorem heldBlocks_at {workers : List Worker} {worker : Nat} {state : Worker}
    (found : workers[worker]? = some state) :
    (heldBlocks workers).Perm (state.block?.toList ++ heldBlocks (workers.eraseIdx worker)) := by
  induction workers generalizing worker with
  | nil => simp at found
  | cons first rest ih =>
      cases worker with
      | zero =>
          simp only [List.getElem?_cons_zero, Option.some.injEq] at found
          subst first
          cases holding : state.block? <;> simp [heldBlocks, holding]
      | succ worker =>
          have moved := ih (by simpa using found)
          cases holding : first.block? with
          | none => simpa [heldBlocks, List.filterMap_cons, holding] using moved
          | some block =>
              simp only [heldBlocks, List.filterMap_cons, holding, List.eraseIdx_cons_succ]
              exact (moved.cons block).trans List.perm_middle.symm

theorem heldBlocks_set {workers : List Worker} {worker : Nat} {state : Worker}
    (bound : worker < workers.length) :
    (heldBlocks (workers.set worker state)).Perm
      (state.block?.toList ++ heldBlocks (workers.eraseIdx worker)) := by
  have found : (workers.set worker state)[worker]? = some state := by
    simp [bound]
  have moved := heldBlocks_at found
  rwa [List.eraseIdx_set_eq] at moved

theorem heldBlocks_set_empty {workers : List Worker} {worker : Nat} {before after : Worker}
    (found : workers[worker]? = some before) (empty : before.block? = none) :
    (heldBlocks (workers.set worker after)).Perm (after.block?.toList ++ heldBlocks workers) := by
  have bound := (List.getElem?_eq_some_iff.mp found).1
  have others : (heldBlocks workers).Perm (heldBlocks (workers.eraseIdx worker)) := by
    simpa [empty] using heldBlocks_at found
  exact (heldBlocks_set bound).trans (others.symm.append_left _)

theorem heldBlocks_release {workers : List Worker} {worker : Nat} {block : Block}
    {after : Worker} (found : workers[worker]? = some (.staging block))
    (empty : after.block? = none) :
    (heldBlocks workers).Perm (block :: heldBlocks (workers.set worker after)) := by
  have bound := (List.getElem?_eq_some_iff.mp found).1
  have others : (heldBlocks (workers.set worker after)).Perm
      (after.block?.toList ++ heldBlocks (workers.eraseIdx worker)) := heldBlocks_set bound
  rw [empty, Option.toList_none, List.nil_append] at others
  exact (heldBlocks_at found).trans (others.symm.cons block)

namespace Upload

/-- Nothing has gone wrong: the scope lives, no failure is known and none waits to be noticed. -/
structure Intact (upload : Upload) : Prop where
  live : upload.isOver = false
  unfailing : upload.firstError = none
  unpanicked : .exited true ∉ upload.workers

theorem finishProducing_intact {upload : Upload} {outcome : Except TransferError Unit} :
    (upload.finishProducing outcome).Intact ↔ upload.Intact ∧ outcome = .ok () := by
  constructor
  · rintro ⟨live, unfailing, unpanicked⟩
    simp only [isOver_eq, finishProducing, Bool.or_eq_false_iff, Bool.not_eq_false'] at live
    refine ⟨⟨?_, unfailing, unpanicked⟩, ?_⟩
    · simp [isOver_eq, live]
    · cases outcome with
      | error error => simp [Except.isOk, Except.toBool] at live
      | ok done => rfl
  · rintro ⟨⟨live, unfailing, unpanicked⟩, rfl⟩
    refine ⟨?_, unfailing, unpanicked⟩
    simpa [isOver_eq, finishProducing, Except.isOk, Except.toBool] using live

theorem completeBlock_intact {upload : Upload} {payload : Bytes} :
    (upload.completeBlock payload).Intact ↔ upload.Intact ∧ upload.handed ≠ mostBlocks := by
  unfold completeBlock
  split
  · rename_i most
    rw [finishProducing_intact]
    simp [most]
  · rename_i room
    exact ⟨fun ⟨live, unfailing, unpanicked⟩ => ⟨⟨live, unfailing, unpanicked⟩, room⟩,
      fun ⟨⟨live, unfailing, unpanicked⟩, _⟩ => ⟨live, unfailing, unpanicked⟩⟩

theorem beginBlock_intact {upload : Upload} : upload.beginBlock.Intact ↔ upload.Intact := by
  unfold beginBlock
  split
  · rw [finishProducing_intact]
    simp
  · exact ⟨fun ⟨live, unfailing, unpanicked⟩ => ⟨live, unfailing, unpanicked⟩,
      fun ⟨live, unfailing, unpanicked⟩ => ⟨live, unfailing, unpanicked⟩⟩

theorem recordError_not_intact {upload : Upload} {error : TransferError} :
    ¬(upload.recordError error).Intact := by
  intro intact
  have live := intact.live
  simp [isOver_eq, recordError] at live

theorem mem_set_of_ne {workers : List Worker} {worker : Nat} {before after other : Worker}
    (found : workers[worker]? = some before) (different : other ≠ before)
    (member : other ∈ workers) : other ∈ workers.set worker after := by
  obtain ⟨place, at_place⟩ := List.mem_iff_getElem?.mp member
  have apart : worker ≠ place := by
    intro same
    subst place
    rw [found, Option.some.injEq] at at_place
    exact different at_place.symm
  apply List.mem_iff_getElem?.mpr
  exact ⟨place, by rw [List.getElem?_set_ne apart, at_place]⟩

theorem unpanicked_set {workers : List Worker} {worker : Nat} {before after : Worker}
    (found : workers[worker]? = some before) (calm : before ≠ .exited true)
    (harmless : after ≠ .exited true) :
    .exited true ∉ workers.set worker after ↔ .exited true ∉ workers := by
  constructor
  · intro unpanicked member
    exact unpanicked (mem_set_of_ne found calm.symm member)
  · intro unpanicked member
    rcases List.mem_or_eq_of_mem_set member with old | new
    · exact unpanicked old
    · exact harmless new.symm

theorem Intact.before {upload next : Upload} {step : UploadStep} (intact : next.Intact)
    (moved : Transition upload step next) : upload.Intact := by
  have live := intact.live
  have unfailing := intact.unfailing
  have unpanicked := intact.unpanicked
  cases moved with
  | readPart => exact ⟨live, unfailing, unpanicked⟩
  | readBlock | lastBlock => exact (completeBlock_intact.mp intact).1
  | noBlock | sendShort =>
      obtain ⟨⟨live, unfailing, unpanicked⟩, _⟩ := finishProducing_intact.mp intact
      exact ⟨live, unfailing, unpanicked⟩
  | sendFull =>
      obtain ⟨live, unfailing, unpanicked⟩ := beginBlock_intact.mp intact
      exact ⟨live, unfailing, unpanicked⟩
  | sourceFailure | stopReading | stopSending => exact (finishProducing_intact.mp intact).1
  | turn found | take found | drop found | leave found | staged found | failedLate found
  | abandonStage found | join found =>
      exact ⟨live, unfailing, (unpanicked_set found (by simp) (by simp)).mp unpanicked⟩
  | failed | joinPanicked => exact absurd intact recordError_not_intact
  | panicked staging | reportPanicked staging =>
      have bound := (List.getElem?_eq_some_iff.mp staging).1
      exact absurd (List.mem_set bound _) unpanicked
  | fail | commit | commitEnd | abandonCommit => exact ⟨live, unfailing, unpanicked⟩
  | cancel | expire => simp [isOver_eq] at live

def Produced (source left : Bytes) (upload : Upload) : Prop :=
  match upload.producer with
  | .reading filled =>
      filled.length < upload.options.blockSize ∧
      source.length = upload.handed * upload.options.blockSize + (filled.length + left.length) ∧
      source.drop (upload.handed * upload.options.blockSize) = filled ++ left
  | .sending payload =>
      upload.handed < mostBlocks ∧ payload ≠ [] ∧ payload.length ≤ upload.options.blockSize ∧
      (payload.length < upload.options.blockSize → left = []) ∧
      source.length = upload.handed * upload.options.blockSize + (payload.length + left.length) ∧
      source.drop (upload.handed * upload.options.blockSize) = payload ++ left
  | .finished outcome =>
      outcome = .ok () ∧ left = [] ∧ upload.handed = upload.options.blocksFor source.length

/-- The state of an upload in which every block of the source is accounted for. -/
structure Whole (source left : Bytes) (upload : Upload) : Prop where
  sized : 0 < upload.options.blockSize
  manned : upload.workers ≠ []
  bounded : upload.handed ≤ mostBlocks
  produced : upload.Produced source left
  attended : ∀ worker ∈ upload.workers, worker.isGone = true →
    upload.channel = none ∧ ∃ outcome, upload.producer = .finished outcome
  accounted : (upload.channel.toList ++ (heldBlocks upload.workers ++ upload.staged)).Perm
    (upload.options.firstBlocks source upload.handed)
  called : upload.calls.Perm (heldBlocks upload.workers ++ upload.staged)

namespace Whole

variable {source left rest : Bytes} {upload : Upload}

theorem present (whole : upload.Whole source left)
    (unfinished : ∀ outcome, upload.producer ≠ .finished outcome) {worker : Worker}
    (member : worker ∈ upload.workers) : worker.isGone ≠ true := by
  intro gone
  obtain ⟨_, outcome, finished⟩ := whole.attended worker member gone
  exact unfinished outcome finished

theorem attended_set (whole : upload.Whole source left) (worker : Nat) {after : Worker}
    (settled : after.isGone = true →
      upload.channel = none ∧ ∃ outcome, upload.producer = .finished outcome) :
    ∀ state ∈ upload.workers.set worker after, state.isGone = true →
      upload.channel = none ∧ ∃ outcome, upload.producer = .finished outcome := by
  intro state member gone
  rcases List.mem_or_eq_of_mem_set member with old | new
  · exact whole.attended state old gone
  · subst state
    exact settled gone

theorem manned_set (whole : upload.Whole source left) (worker : Nat) (after : Worker) :
    upload.workers.set worker after ≠ [] := by
  simpa using whole.manned

theorem replace (whole : upload.Whole source left) {worker : Nat} {before after : Worker}
    (found : upload.workers[worker]? = some before) (empty : before.block? = none)
    (idle : after.block? = none)
    (settled : after.isGone = true →
      upload.channel = none ∧ ∃ outcome, upload.producer = .finished outcome) :
    (upload.setWorker worker after).Whole source left := by
  have held : (heldBlocks (upload.workers.set worker after)).Perm
      (after.block?.toList ++ heldBlocks upload.workers) := heldBlocks_set_empty found empty
  rw [idle, Option.toList_none, List.nil_append] at held
  refine ⟨whole.sized, whole.manned_set _ _, whole.bounded, whole.produced,
    whole.attended_set worker settled, ?_, ?_⟩
  · exact ((held.append_right _).append_left _).trans whole.accounted
  · exact whole.called.trans (held.symm.append_right _)

theorem completeBlock (whole : upload.Whole source left) {filled payload : Bytes}
    (reading : upload.producer = .reading filled) (nonempty : payload ≠ [])
    (fits : payload.length ≤ upload.options.blockSize)
    (last : payload.length < upload.options.blockSize → rest = [])
    (size : source.length =
      upload.handed * upload.options.blockSize + (payload.length + rest.length))
    (split : source.drop (upload.handed * upload.options.blockSize) = payload ++ rest)
    (intact : (upload.completeBlock payload).Intact) :
    (upload.completeBlock payload).Whole source rest := by
  have room := (completeBlock_intact.mp intact).2
  have below : upload.handed < mostBlocks := Nat.lt_of_le_of_ne whole.bounded room
  rw [Upload.completeBlock, if_neg room]
  refine ⟨whole.sized, whole.manned, whole.bounded, ?_, ?_, whole.accounted, whole.called⟩
  · exact ⟨below, nonempty, fits, last, size, split⟩
  · intro worker member gone
    exact absurd gone (whole.present (by simp [reading]) member)

theorem block_of_payload {payload : Bytes} (produced : upload.Produced source left)
    (sending : upload.producer = .sending payload) :
    upload.options.block source upload.handed = ⟨upload.handed, payload⟩ := by
  simp only [Produced, sending] at produced
  obtain ⟨_, _, fits, last, _, split⟩ := produced
  exact UploadOptions.block_of_drop fits last split

theorem accounted_hand (whole : upload.Whole source left) {payload : Bytes}
    (sending : upload.producer = .sending payload) (room : upload.channel = none) :
    ((some (⟨upload.handed, payload⟩ : Block)).toList ++
      (heldBlocks upload.workers ++ upload.staged)).Perm
      (upload.options.firstBlocks source (upload.handed + 1)) := by
  have accounted := whole.accounted
  rw [room, Option.toList_none, List.nil_append] at accounted
  rw [UploadOptions.firstBlocks_succ, block_of_payload whole.produced sending,
    Option.toList_some]
  exact List.perm_append_comm.trans (accounted.append_right _)

end Whole

/-- As long as nothing goes wrong, every transition keeps all blocks accounted for. -/
theorem Whole.preserve {source left rest : Bytes} {upload next : Upload} {step : UploadStep}
    (whole : upload.Whole source left) (moved : Transition upload step next)
    (taken : step.leave left = some rest) (intact : next.Intact) : next.Whole source rest := by
  have before := intact.before moved
  have live := before.live
  have produced := whole.produced
  have accounted := whole.accounted
  have called := whole.called
  cases moved with
  | @readPart filled bytes reading nonempty short =>
      simp only [UploadStep.leave, Option.ite_none_right_eq_some, Option.some.injEq] at taken
      obtain ⟨⟨others, rfl⟩, rfl⟩ := taken
      simp only [Produced, reading] at produced
      obtain ⟨_, size, split⟩ := produced
      refine ⟨whole.sized, whole.manned, whole.bounded, ⟨short, ?_, ?_⟩, ?_, accounted, called⟩
      · simp only [List.length_append, List.drop_left] at size ⊢
        omega
      · simpa using split
      · intro worker member gone
        exact absurd gone (whole.present (by simp [reading]) member)
  | @readBlock filled bytes reading nonempty full =>
      simp only [UploadStep.leave, Option.ite_none_right_eq_some, Option.some.injEq] at taken
      obtain ⟨⟨others, rfl⟩, rfl⟩ := taken
      simp only [Produced, reading] at produced
      obtain ⟨_, size, split⟩ := produced
      refine whole.completeBlock reading (by simp [nonempty]) (Nat.le_of_eq full) ?_ ?_ ?_ intact
      · intro short
        omega
      · simp only [List.length_append, List.drop_left] at size ⊢
        omega
      · simpa using split
  | noBlock reading =>
      simp only [UploadStep.leave, Option.ite_none_right_eq_some, Option.some.injEq] at taken
      obtain ⟨rfl, rfl⟩ := taken
      simp only [Produced, reading] at produced
      obtain ⟨_, size, split⟩ := produced
      rw [List.length_nil, Nat.add_zero] at size
      refine ⟨whole.sized, whole.manned, whole.bounded, ?_, ?_, accounted, called⟩
      · exact ⟨rfl, rfl, (UploadOptions.blocksFor_whole _ whole.sized size).symm⟩
      · intro worker member gone
        exact ⟨(whole.attended worker member gone).1, _, rfl⟩
  | @lastBlock filled reading nonempty =>
      simp only [UploadStep.leave, Option.ite_none_right_eq_some, Option.some.injEq] at taken
      obtain ⟨rfl, rfl⟩ := taken
      simp only [Produced, reading] at produced
      obtain ⟨short, size, split⟩ := produced
      exact whole.completeBlock reading nonempty (Nat.le_of_lt short) (fun _ => rfl) size split
        intact
  | sourceFailure reading =>
      have fine := (finishProducing_intact.mp intact).2
      contradiction
  | @sendShort payload sending room wanted attended short =>
      simp only [UploadStep.leave, Option.some.injEq] at taken
      subst rest
      have placed := whole.accounted_hand sending room
      simp only [Produced, sending] at produced
      obtain ⟨below, nonempty, fits, last, size, split⟩ := produced
      refine ⟨whole.sized, whole.manned, below, ⟨rfl, last short, ?_⟩, ?_, placed, called⟩
      · have positive : 0 < payload.length := List.length_pos_iff.mpr nonempty
        rw [last short, List.length_nil, Nat.add_zero] at size
        exact (UploadOptions.blocksFor_rest _ positive fits size).symm
      · intro worker member gone
        exact absurd gone (whole.present (by simp [sending]) member)
  | @sendFull payload sending room wanted attended full =>
      simp only [UploadStep.leave, Option.some.injEq] at taken
      subst rest
      have placed := whole.accounted_hand sending room
      simp only [Produced, sending] at produced
      obtain ⟨below, nonempty, fits, last, size, split⟩ := produced
      have exact_size : payload.length = upload.options.blockSize := Nat.le_antisymm fits full
      have going : ¬((upload.hand payload).firstError.isSome || (upload.hand payload).isOver) := by
        have unfailing := before.unfailing
        simp only [isOver_eq] at live ⊢
        simp [hand, unfailing, live]
      rw [beginBlock, if_neg going]
      refine ⟨whole.sized, whole.manned, below, ⟨whole.sized, ?_, ?_⟩, ?_, placed, called⟩
      · simp only [hand, List.length_nil, Nat.add_mul, Nat.one_mul]
        omega
      · have further := congrArg (List.drop upload.options.blockSize) split
        rw [List.drop_drop, List.drop_left' exact_size] at further
        simpa [hand, Nat.add_mul] using further
      · intro worker member gone
        exact absurd gone (whole.present (by simp [sending]) member)
  | stopSending sending unwanted =>
      rcases unwanted with lapsed | deserted
      · rw [live] at lapsed
        contradiction
      · obtain ⟨worker, member⟩ := List.exists_mem_of_ne_nil _ whole.manned
        have gone := List.all_eq_true.mp deserted worker member
        exact absurd gone (whole.present (by simp [sending]) member)
  | turn waiting =>
      simp only [UploadStep.leave, Option.some.injEq] at taken
      subst rest
      exact whole.replace waiting rfl rfl (by simp [Worker.isGone])
  | @take worker block receiving queued live' =>
      simp only [UploadStep.leave, Option.some.injEq] at taken
      subst rest
      have held : (heldBlocks (upload.workers.set worker (.staging block))).Perm
          (block :: heldBlocks upload.workers) := heldBlocks_set_empty receiving rfl
      rw [queued, Option.toList_some] at accounted
      refine ⟨whole.sized, whole.manned_set _ _, whole.bounded, produced, ?_, ?_, ?_⟩
      · intro state member gone
        rcases List.mem_or_eq_of_mem_set member with old | new
        · exact ⟨rfl, (whole.attended state old gone).2⟩
        · subst state
          simp [Worker.isGone] at gone
      · exact (held.append_right _).trans accounted
      · exact (called.cons block).trans (held.symm.append_right _)
  | leave receiving drained finished =>
      simp only [UploadStep.leave, Option.some.injEq] at taken
      subst rest
      exact whole.replace receiving rfl rfl (fun _ => ⟨drained, _, finished⟩)
  | @staged worker block staging =>
      simp only [UploadStep.leave, Option.some.injEq] at taken
      subst rest
      have released : (heldBlocks upload.workers ++ upload.staged).Perm
          (heldBlocks (upload.workers.set worker .waiting) ++ block :: upload.staged) :=
        ((heldBlocks_release staging rfl).append_right _).trans List.perm_middle.symm
      refine ⟨whole.sized, whole.manned_set _ _, whole.bounded, produced,
        whole.attended_set worker (by simp [Worker.isGone]), ?_, ?_⟩
      · exact (released.symm.append_left _).trans accounted
      · exact called.trans released
  | join exited =>
      simp only [UploadStep.leave, Option.some.injEq] at taken
      subst rest
      exact whole.replace exited rfl rfl
        (fun _ => whole.attended _ (List.mem_of_getElem? exited) rfl)
  | fail | commit | commitEnd | abandonCommit =>
      simp only [UploadStep.leave, Option.some.injEq] at taken
      subst rest
      exact ⟨whole.sized, whole.manned, whole.bounded, produced, whole.attended, accounted, called⟩
  | failed | joinPanicked => exact absurd intact recordError_not_intact
  | panicked staging | reportPanicked staging =>
      have bound := (List.getElem?_eq_some_iff.mp staging).1
      exact absurd (List.mem_set bound _) intact.unpanicked
  | stopReading _ lapsed | drop _ _ lapsed | failedLate _ lapsed | abandonStage _ lapsed =>
      rw [live] at lapsed
      contradiction
  | cancel | expire => exact absurd intact.live (by simp [isOver_eq])

end Upload

end BlobTransfer
