import BlobTransfer.Proofs.Upload.Advance

/-!
An upload on a clock into a store comes to its result if nothing is in its way: when there is
nothing to be done it waits for its source, and all it does takes so much fuel at most.
-/

namespace BlobTransfer

namespace UploadRun

variable {base : BlobStore} {source left : Bytes} {run : UploadRun BlobStore} {mark : ServiceMark}

theorem idle_of_workFirst {writer : BlockWriter BlobStore} {workers : List Nat} {worker : Nat}
    {state : Worker} (idle : run.workFirst writer workers = none) (member : worker ∈ workers)
    (found : run.upload.workers[worker]? = some state) : run.work writer worker state = none := by
  induction workers with
  | nil => simp at member
  | cons first others ih =>
      simp only [workFirst] at idle
      split at idle
      · simp at idle
      · rename_i still
        obtain rfl | later := List.mem_cons.mp member
        · rwa [found, Option.bind_some] at still
        · exact ih idle later

theorem idle_of_turns {writer : BlockWriter BlobStore} {worker : Nat} {state : Worker}
    (idle : run.workFirst writer run.turns = none)
    (found : run.upload.workers[worker]? = some state) : run.work writer worker state = none := by
  have bound := (List.getElem?_eq_some_iff.mp found).1
  exact idle_of_workFirst idle (List.mem_append_right _ (List.mem_range.mpr bound)) found

theorem Carried.unstaging (carried : run.Carried base source left) (timed : run.Timed)
    (idle : run.workFirst (BlobStore.writer mark) run.turns = none) (block : Block) :
    .staging block ∉ run.upload.workers := by
  intro member
  obtain ⟨worker, found⟩ := List.mem_iff_getElem?.mp member
  have unended := carried.flawless.smooth.intact.end?_eq
  have ended := idle_of_turns idle found
  rw [work, if_pos (timed.staging worker block found)] at ended
  simp [endStage, BlobStore.writer, unended, BlobStore.stage_of_live, UploadRun.step,
    Upload.step, Upload.stageEnd, found] at ended

theorem Carried.waits_of_reading (carried : run.Carried base source left) {filled : Bytes}
    (reading : run.upload.producer = .reading filled) (produced : run.produce = none) :
    ∃ item rest time, run.nextRead = some (item, rest, time) ∧ run.timeline.now < time := by
  have fed := carried.fed
  cases pending : run.nextRead with
  | none =>
      simp only [Fed, pending] at fed
      obtain ⟨bytes, rest, time, given, _⟩ := LiveBody.read_of_steady fed.1
        (run.upload.options.blockSize - filled.length) run.timeline.now
      simp [produce, reading, pending, given] at produced
  | some given =>
      obtain ⟨item, rest, time⟩ := given
      refine ⟨item, rest, time, rfl, ?_⟩
      simp only [Fed, pending] at fed
      obtain ⟨_, bytes, filled', rfl, reading', fits, _⟩ := fed
      obtain rfl := Producer.reading.inj (reading.symm.trans reading')
      by_contra now
      simp only [produce, reading, pending, Nat.not_lt.mp now, if_true, UploadRun.step,
        Option.map_eq_none_iff] at produced
      cases bytes with
      | nil =>
          cases filled <;> simp [Upload.step, Upload.sourceEnd, reading] at produced
      | cons byte others =>
          simp only [Upload.step, Upload.read, reading, List.isEmpty_cons, Bool.false_or,
            decide_eq_true_eq, List.length_append, Nat.not_lt.mpr fits, if_false] at produced
          split at produced <;> simp at produced

theorem Carried.waits (carried : run.Carried base source left) (timed : run.Timed)
    (unreturned : ∀ result, run.upload.phase ≠ .returned result)
    (idle : run.act (BlobStore.writer mark) = none) :
    (∃ filled item rest time, run.upload.producer = .reading filled ∧
      run.nextRead = some (item, rest, time) ∧ run.timeline.now < time) ∧
    ∀ block : Block, .staging block ∉ run.upload.workers := by
  simp only [act, Option.orElse_eq_none, Option.map_eq_none_iff] at idle
  obtain ⟨_, _, ⟨produced, joined, concluded⟩, _, worked⟩ := idle
  refine ⟨?_, carried.unstaging timed worked⟩
  have live := carried.flawless.smooth.intact.live
  have unended := carried.flawless.smooth.intact.end?_eq
  obtain ⟨move, upload, rest, possible, _, smooth, _⟩ :=
    carried.flawless.smooth.lawful.moves unreturned
  have stepped : run.step move ≠ none := by simp [UploadRun.step, possible]
  cases Upload.transition_of_step possible with
  | readPart reading | readBlock reading | noBlock reading | lastBlock reading =>
      obtain ⟨item, rest, time, pending, late⟩ := carried.waits_of_reading reading produced
      exact ⟨_, item, rest, time, reading, pending, late⟩
  | sendShort sending | sendFull sending =>
      simp only [produce, sending, Option.orElse_eq_none] at produced
      exact absurd produced.2 stepped
  | stopSending sending =>
      simp only [produce, sending, Option.orElse_eq_none] at produced
      exact absurd produced.1 stepped
  | turn waiting => exact absurd (idle_of_turns worked waiting) stepped
  | take receiving | leave receiving =>
      exact absurd (Option.map_eq_none_iff.mp (idle_of_turns worked receiving)) stepped
  | staged staging =>
      exact absurd (List.mem_of_getElem? staging) (carried.unstaging timed worked _)
  | join exited | joinPanicked exited =>
      have bound := (List.getElem?_eq_some_iff.mp exited).1
      exact absurd (List.findSome?_eq_none_iff.mp joined _ (List.mem_range.mpr bound)) stepped
  | fail staging | commit staging =>
      simp only [conclude, staging, Option.map_eq_none_iff] at concluded
      exact absurd concluded stepped
  | commitEnd committing =>
      simp [conclude, committing, timed.committing committing, UploadRun.step, Upload.step,
        Upload.commitEnd] at concluded
  | stopReading _ lapsed | drop _ _ lapsed | failedLate _ lapsed | abandonStage _ lapsed =>
      simp [live] at lapsed
  | abandonCommit _ lapsed => simp [unended] at lapsed
  | _ => simp [UploadStep.isSmooth, UploadStep.isFault, UploadStep.endsScope] at smooth

theorem earliest_of_idle {ends : List (Worker × Option Nat)}
    (idle : ∀ entry ∈ ends, entry.1.isStaging = false) (earliest : Option Nat) :
    ends.foldl (fun earliest (worker, time) =>
      if worker.isStaging then earlier? earliest time else earliest) earliest = earliest := by
  induction ends with
  | nil => rfl
  | cons first others ih =>
      obtain ⟨still, onward⟩ := List.forall_mem_cons.mp idle
      simp only [List.foldl_cons, still, Bool.false_eq_true, if_false, ih onward]

theorem Carried.nextReady_eq (carried : run.Carried base source left) {filled : Bytes}
    {item : Except IoError Bytes} {later : LiveBody} {time : Nat}
    (reading : run.upload.producer = .reading filled)
    (pending : run.nextRead = some (item, later, time))
    (unstaging : ∀ block : Block, .staging block ∉ run.upload.workers) :
    run.nextReady = some time := by
  have idle : ∀ entry ∈ run.upload.workers.zip run.stageEnds, entry.1.isStaging = false := by
    rintro ⟨worker, ends⟩ member
    have listed := (List.of_mem_zip member).1
    cases worker with
    | staging block => exact absurd listed (unstaging block)
    | _ => rfl
  unfold nextReady
  rw [earliest_of_idle idle]
  cases phase : run.upload.phase with
  | staging => simp [reading, pending, earlier?]
  | committing | returned =>
      obtain ⟨_, outcome, finished⟩ :=
        carried.flawless.smooth.lawful.orderly.idle (by simp [phase])
      simp [reading] at finished

theorem wait_advances (carried : run.Carried base source left) (timed : run.Timed)
    (unreturned : ∀ result, run.upload.phase ≠ .returned result)
    (idle : run.act (BlobStore.writer mark) = none) :
    ∃ next, run.wait = some next ∧ run.Advances base source left next := by
  obtain ⟨⟨filled, item, rest, time, reading, pending, late⟩, unstaging⟩ :=
    carried.waits timed unreturned idle
  have ready := carried.nextReady_eq reading pending unstaging
  have now : (run.timeline.advanceTo time).now = max run.timeline.now time := rfl
  have due : ∀ {ends : Option Nat}, run.isDue ends = true →
      ({ run with timeline := run.timeline.advanceTo time } : UploadRun BlobStore).isDue ends =
        true := by
    rintro (_ | ends) due
    · simp [isDue] at due
    · simp only [isDue, Option.any_some, decide_eq_true_eq, now] at due ⊢
      omega
  refine ⟨{ run with timeline := run.timeline.advanceTo time }, ?_, left,
    ⟨carried.flawless, carried.endless.advanceTo _, carried.fed⟩,
    ⟨?_, fun committing => due (timed.committing committing), timed.aligned⟩, ?_⟩
  · simp only [wait, ready, carried.endless.run_eq, Option.map_some]
  · exact fun worker block staging => due (timed.staging worker block staging)
  · have kept : (run.timeline.advanceTo time).planned.length ≤ run.timeline.planned.length :=
      List.length_filter_le _ _
    have before : run.asking = 1 := by simp [asking, reading, pending, Nat.not_le.mpr late]
    have passed : time ≤ max run.timeline.now time := Nat.le_max_right _ _
    have after : ({ run with timeline := run.timeline.advanceTo time } :
        UploadRun BlobStore).asking = 0 := by
      simp only [asking, reading, pending, now, passed, if_true]
    simp only [cost, before, after]
    omega

theorem Carried.finish {fuel : Nat} (mark : ServiceMark)
    (carried : run.Carried base source left) (timed : run.Timed) (enough : run.cost left < fuel) :
    ∃ receipt final rest, run.finish (BlobStore.writer mark) fuel = some (.ok receipt, final) ∧
      final.upload.phase = .returned (.ok receipt) ∧ final.Carried base source rest := by
  induction fuel generalizing run left with
  | zero => omega
  | succ fuel ih =>
      simp only [UploadRun.finish]
      split
      · rename_i result returned
        cases result with
        | error error => exact absurd returned (carried.flawless.smooth.unfailed error)
        | ok receipt => exact ⟨receipt, run, left, rfl, returned, carried⟩
      · rename_i unreturned
        obtain ⟨next, went, rest, carried', timed', lower⟩ : ∃ next,
            (run.act (BlobStore.writer mark) <|> run.wait) = some next ∧
              run.Advances base source left next := by
          cases acted : run.act (BlobStore.writer mark) with
          | some next => exact ⟨next, rfl, act_advances carried timed acted⟩
          | none => exact wait_advances carried timed unreturned acted
        rw [went, Option.bind_some]
        exact ih carried' timed' (by omega)

variable {options : UploadOptions} {timeline : Timeline} {caller : Scope} {store : BlobStore}
  {body : Body}

theorem carried_start (transfer : Uuid) (valid : options.validate = .ok ())
    (few : options.blocksFor body.readable.length ≤ mostBlocks)
    (allowed : options.conditions.allow (store.blob.map (·.etag)) = true)
    (endless : (timeline.child caller).2.Endless (timeline.child caller).1)
    (steady : Body.Steady body.events) :
    (start options transfer timeline caller store body).Carried store body.readable body.readable ∧
      (start options transfer timeline caller store body).Timed := by
  have unended := endless.end?_eq
  obtain ⟨_, staging, manned⟩ := Upload.start_fresh transfer none valid
  refine ⟨⟨?_, endless, ⟨rfl, ?_⟩, rfl⟩, ⟨?_, ?_, ?_⟩⟩
  · simp only [start, unended]
    exact Upload.flawless_start transfer valid few allowed
  · rintro inner same
    obtain rfl := Option.some.inj same
    exact steady
  · intro worker block found
    simp only [start, unended, manned] at found
    have waiting := List.eq_of_mem_replicate (List.mem_of_getElem? found)
    contradiction
  · intro committing
    simp only [start, unended, staging] at committing
    contradiction
  · simp only [start, unended, manned, List.length_replicate]

theorem length_readable_le (events : List BodyEvent) :
    (Body.readableEvents events).length ≤ (events.flatMap fun
      | .data bytes => bytes
      | _ => []).length := by
  induction events with
  | nil => exact Nat.le_refl _
  | cons event later ih =>
      rw [List.flatMap_cons, List.length_append]
      cases event with
      | data bytes =>
          rw [Body.readableEvents, List.length_append]
          exact Nat.add_le_add_left ih _
      | delay millis =>
          rw [Body.readableEvents]
          exact Nat.le_trans ih (Nat.le_add_left _ _)
      | failure | silence => exact Nat.zero_le _

theorem cost_start_lt (transfer : Uuid) (valid : options.validate = .ok ())
    (endless : (timeline.child caller).2.Endless (timeline.child caller).1) :
    (start options transfer timeline caller store body).cost body.readable <
      enoughFuel options timeline body := by
  have rank : (start options transfer timeline caller store body).upload.rank body.readable ≤
      9 * body.readable.length + 4 * options.maxConcurrency + 4 := by
    simp only [start, endless.end?_eq]
    exact Upload.rank_start_le transfer valid body.readable
  have asked := (start options transfer timeline caller store body).asking_le
  have planned : (start options transfer timeline caller store body).timeline.planned =
      timeline.planned := rfl
  have enough : 16 * (body.readable.length + body.events.length + options.maxConcurrency +
      timeline.planned.length + 4) ≤ enoughFuel options timeline body := by
    refine Nat.mul_le_mul_left 16 (Nat.add_le_add_right (Nat.add_le_add_right ?_ _) _)
    exact Nat.add_le_add_right (Nat.add_le_add_right (length_readable_le body.events) _) _
  simp only [cost, planned]
  omega

/-- An upload into a store with nothing in its way succeeds, and its source is the blob. -/
theorem upload_completes (mark : ServiceMark) (transfer : Uuid)
    (valid : options.validate = .ok ())
    (few : options.blocksFor body.readable.length ≤ mostBlocks)
    (allowed : options.conditions.allow (store.blob.map (·.etag)) = true)
    (endless : (timeline.child caller).2.Endless (timeline.child caller).1)
    (steady : Body.Steady body.events) :
    ∃ receipt final, (BlobStore.writer mark).upload options transfer timeline caller store body =
        some (.ok receipt, final) ∧
      final.service.blob.map (·.data) = some body.readable := by
  obtain ⟨carried, timed⟩ := carried_start transfer valid few allowed endless steady
  obtain ⟨receipt, final, rest, finished, returned, there⟩ :=
    carried.finish mark timed (cost_start_lt transfer valid endless)
  exact ⟨receipt, final, finished, there.flawless.returned _ returned⟩

end UploadRun

end BlobTransfer
