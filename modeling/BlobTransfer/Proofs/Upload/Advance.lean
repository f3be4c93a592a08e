import BlobTransfer.Proofs.Scope.Endless
import BlobTransfer.Proofs.Upload.Alone
import BlobTransfer.Proofs.Upload.Buffers
import BlobTransfer.Proofs.Upload.Clock

/-!
An upload on a clock into a store, with nothing in its way: its scope never ends, and its source
gives bytes, now or later, up to its end. Whatever is done brings it nearer to its result.
-/

namespace BlobTransfer

def Body.Steady (events : List BodyEvent) : Prop :=
  ∀ event ∈ events, (∃ bytes, event = .data bytes) ∨ ∃ millis, event = .delay millis

theorem Body.nextEvent_of_steady {events : List BodyEvent} (steady : Steady events) (now : Nat)
    (wakeAt : Option Nat) :
    ∃ (item : Option Bytes) (rest : Body) (time : Nat), nextEvent List.isEmpty now wakeAt events =
        some (item.map .ok, rest, time) ∧ Steady rest.events := by
  induction events generalizing now wakeAt with
  | nil => exact ⟨none, {}, now, rfl, by simp [Steady]⟩
  | cons event later ih =>
      obtain ⟨first, onward⟩ := List.forall_mem_cons.mp steady
      obtain ⟨bytes, rfl⟩ | ⟨millis, rfl⟩ := first
      · by_cases empty : bytes.isEmpty
        · simp only [nextEvent, empty, if_true]
          exact ih onward now none
        · refine ⟨some bytes, { events := later }, now, ?_, onward⟩
          simp only [nextEvent, empty, Bool.false_eq_true, if_false, Option.map_some]
      · exact ih onward _ none

namespace LiveBody

def Steady (body : LiveBody) : Prop :=
  body.source.aborted = false ∧ ∀ inner, body.source.inner = some inner → Body.Steady inner.events

theorem read_of_steady {body : LiveBody} (steady : body.Steady) (limit now : Nat) :
    ∃ bytes rest time, body.read limit now none = some (.ok bytes, rest, time) ∧ rest.Steady := by
  obtain ⟨unaborted, onward⟩ := steady
  unfold read
  split
  · cases present : body.source.inner with
    | none =>
        refine ⟨[], ⟨body.source, []⟩, now, ?_, unaborted, by simp [present]⟩
        simp only [AbortableBody.next, present, Option.map_some]
    | some inner =>
        obtain ⟨item, rest, time, given, steady'⟩ :=
          Body.nextEvent_of_steady (onward inner present) now inner.wakeAt
        refine ⟨(item.getD []).take limit,
          ⟨{ body.source with inner := item.map fun _ => rest }, (item.getD []).drop limit⟩, time,
          ?_, unaborted, ?_⟩
        · simp only [AbortableBody.next, present, unaborted, Body.next, given, Bool.false_eq_true,
            if_false, Option.map_some]
          cases item <;> simp
        · cases item with
          | none => simp
          | some bytes =>
              intro inner' same
              obtain rfl := Option.some.inj same
              exact steady'
  · exact ⟨_, _, _, rfl, unaborted, onward⟩

end LiveBody

namespace Upload

variable {upload next : Upload} {step : UploadStep}

theorem Transition.producer_cases (moved : Transition upload step next)
    (neutral : ∀ left, step.leave left = some left) (live : upload.isOver = false)
    (smooth : step.isSmooth = true) :
    next.producer = upload.producer ∨ ∃ payload, upload.producer = .sending payload ∧
      ((∃ outcome, next.producer = .finished outcome) ∨
        upload.options.blockSize ≤ payload.length ∧ next.producer = .reading []) := by
  cases moved with
  | readPart reading nonempty | readBlock reading nonempty =>
      have front := neutral []
      simp [UploadStep.leave, nonempty] at front
  | noBlock | lastBlock =>
      have front := neutral [0]
      simp [UploadStep.leave] at front
  | sourceFailure => simp [UploadStep.isSmooth, UploadStep.isFault] at smooth
  | stopReading reading lapsed => simp [live] at lapsed
  | sendShort sending | stopSending sending => exact .inr ⟨_, sending, .inl ⟨_, rfl⟩⟩
  | sendFull sending room wanted attended full =>
      refine .inr ⟨_, sending, ?_⟩
      unfold beginBlock
      split
      · exact .inl ⟨_, rfl⟩
      · exact .inr ⟨full, rfl⟩
  | _ => exact .inl rfl

theorem Transition.staging_before (moved : Transition upload step next)
    (kept : ∀ worker, step ≠ .receive worker) {worker : Nat} {block : Block}
    (staging : next.workers[worker]? = some (.staging block)) :
    upload.workers[worker]? = some (.staging block) := by
  have unset : ∀ {other : Nat} {after : Worker}, after.block? = none →
      (upload.workers.set other after)[worker]? = some (.staging block) →
      upload.workers[worker]? = some (.staging block) := by
    intro other after idle found
    rw [List.getElem?_set] at found
    split at found
    · split at found
      · obtain rfl := Option.some.inj found
        simp [Worker.block?] at idle
      · simp at found
    · exact found
  cases moved with
  | readBlock | lastBlock =>
      unfold completeBlock finishProducing at staging
      split at staging <;> exact staging
  | sendFull =>
      unfold beginBlock finishProducing at staging
      split at staging <;> exact staging
  | take | drop | leave => exact absurd rfl (kept _)
  | turn | staged | failedLate | failed | panicked | reportPanicked | abandonStage | join
  | joinPanicked => exact unset rfl staging
  | _ => exact staging

theorem Transition.committing_before (moved : Transition upload step next)
    (unsettled : step ≠ .settle) (committing : next.phase = .committing) :
    upload.phase = .committing := by
  cases moved with
  | readBlock | lastBlock =>
      unfold completeBlock finishProducing at committing
      split at committing <;> exact committing
  | sendFull =>
      unfold beginBlock finishProducing at committing
      split at committing <;> exact committing
  | commit => exact absurd rfl unsettled
  | fail | commitEnd | abandonCommit => simp at committing
  | _ => exact committing

theorem Smooth.filled_lt {source left filled : Bytes} (state : upload.Smooth source left)
    (reading : upload.producer = .reading filled) : filled.length < upload.options.blockSize := by
  have staging : upload.phase = .staging := by
    by_contra settled
    obtain ⟨_, outcome, finished⟩ := state.lawful.orderly.idle settled
    simp [reading] at finished
  have produced := (state.lawful.whole staging state.intact).produced
  simp only [Produced, reading] at produced
  exact produced.1

end Upload

namespace UploadRun

def Fed (left : Bytes) (run : UploadRun BlobStore) : Prop :=
  match run.nextRead with
  | none => run.source.Steady ∧ run.source.readable = left
  | some (item, rest, _) => rest.Steady ∧ ∃ bytes filled, item = .ok bytes ∧
      run.upload.producer = .reading filled ∧
      filled.length + bytes.length ≤ run.upload.options.blockSize ∧
      left = bytes ++ rest.readable ∧ (bytes = [] → left = [])

structure Carried (base : BlobStore) (source left : Bytes) (run : UploadRun BlobStore) :
    Prop where
  flawless : run.upload.Flawless base source left run.service
  endless : run.timeline.Endless run.scope
  fed : run.Fed left

structure Timed (run : UploadRun BlobStore) : Prop where
  staging : ∀ (worker : Nat) (block : Block),
    run.upload.workers[worker]? = some (.staging block) →
      run.isDue (run.stageEnds.getD worker none) = true
  committing : run.upload.phase = .committing → run.isDue run.commitEnd = true
  aligned : run.stageEnds.length = run.upload.workers.length

def asking (run : UploadRun BlobStore) : Nat :=
  match run.upload.producer, run.nextRead with
  | .reading _, none => 2
  | .reading _, some (_, _, time) => if time ≤ run.timeline.now then 0 else 1
  | .sending payload, _ => if payload.length < run.upload.options.blockSize then 0 else 2
  | .finished _, _ => 0

def cost (left : Bytes) (run : UploadRun BlobStore) : Nat :=
  run.upload.rank left + 2 * left.length + run.timeline.planned.length + run.asking

def Advances (base : BlobStore) (source left : Bytes) (run next : UploadRun BlobStore) : Prop :=
  ∃ rest, next.Carried base source rest ∧ next.Timed ∧ next.cost rest < run.cost left

variable {base service : BlobStore} {source left rest : Bytes} {run next : UploadRun BlobStore}
  {mark : ServiceMark} {move : UploadStep}

theorem Carried.step (carried : run.Carried base source left)
    (stepped : ({ run with service } : UploadRun BlobStore).step move = some next)
    (effect : SharedUploads.Effect true run.service run.upload move service)
    (neutral : ∀ left, move.leave left = some left) :
    next.Carried base source left ∧ next.cost left < run.cost left := by
  obtain ⟨upload, possible, rfl⟩ := Option.map_eq_some_iff.mp stepped
  have moved : Upload.Transition run.upload move upload := Upload.transition_of_step possible
  have smooth := carried.flawless.smooth_step moved effect
  have lower := moved.rank_lt (neutral left) (UploadStep.going_of_smooth smooth)
  have fed := carried.fed
  obtain ⟨options, _⟩ := moved.fixed
  have onward : ({ run with service, upload } : UploadRun BlobStore).Fed left ∧
      ({ run with service, upload } : UploadRun BlobStore).asking ≤ run.asking := by
    obtain same | ⟨payload, sending, others⟩ :=
      moved.producer_cases neutral carried.flawless.smooth.intact.live smooth
    · simp only [Fed, asking, same, options]
      exact ⟨fed, Nat.le_refl _⟩
    · cases read : run.nextRead with
      | some given =>
          obtain ⟨item, later, time⟩ := given
          simp only [Fed, read, sending] at fed
          obtain ⟨_, _, _, _, contrary, _⟩ := fed
          contradiction
      | none =>
          simp only [Fed, read] at fed ⊢
          refine ⟨fed, ?_⟩
          obtain ⟨outcome, finished⟩ | ⟨full, reading⟩ := others
          · simp [asking, finished]
          · simp [asking, read, sending, reading, Nat.not_lt.mpr full]
  refine ⟨⟨carried.flawless.preserve moved (neutral left) effect, carried.endless, onward.1⟩, ?_⟩
  have less := onward.2
  simp only [cost]
  omega

theorem Timed.step (timed : run.Timed)
    (stepped : ({ run with service } : UploadRun BlobStore).step move = some next)
    (unreceived : ∀ worker, move ≠ .receive worker) (unsettled : move ≠ .settle) :
    next.Timed := by
  obtain ⟨upload, possible, rfl⟩ := Option.map_eq_some_iff.mp stepped
  have moved : Upload.Transition run.upload move upload := Upload.transition_of_step possible
  refine ⟨?_, ?_, timed.aligned.trans moved.workers_length.symm⟩
  · intro worker block staging
    exact timed.staging worker block (moved.staging_before unreceived staging)
  · intro committing
    exact timed.committing (moved.committing_before unsettled committing)

theorem Carried.advances (carried : run.Carried base source left) (timed : run.Timed)
    (stepped : ({ run with service } : UploadRun BlobStore).step move = some next)
    (effect : SharedUploads.Effect true run.service run.upload move service)
    (neutral : ∀ left, move.leave left = some left)
    (unreceived : ∀ worker, move ≠ .receive worker) (unsettled : move ≠ .settle) :
    run.Advances base source left next := by
  obtain ⟨carried', lower⟩ := carried.step stepped effect neutral
  exact ⟨left, carried', timed.step stepped unreceived unsettled, lower⟩

theorem Carried.advances_apart (carried : run.Carried base source left) (timed : run.Timed)
    (stepped : run.step move = some next) (unanswered : move.isSuccess = false)
    (smooth : move.isSmooth = true) (neutral : ∀ left, move.leave left = some left)
    (unreceived : ∀ worker, move ≠ .receive worker) (unsettled : move ≠ .settle) :
    run.Advances base source left next :=
  carried.advances timed stepped (.apart unanswered fun _ => smooth) neutral unreceived unsettled

theorem received_advances {worker : Nat} (carried : run.Carried base source left)
    (timed : run.Timed) (received : run.step (.receive worker) = some next) :
    run.Advances base source left (next.beginStage (BlobStore.writer mark) worker) := by
  obtain ⟨carried', lower⟩ :=
    carried.step received (.apart rfl fun _ => rfl) fun _ => rfl
  obtain ⟨upload, possible, rfl⟩ := Option.map_eq_some_iff.mp received
  have moved := Upload.transition_of_step possible
  have others : ∀ (other : Nat) (block : Block), other ≠ worker →
      upload.workers[other]? = some (.staging block) →
      run.isDue (run.stageEnds.getD other none) = true := by
    intro other block different staging
    refine timed.staging other block ?_
    cases moved with
    | take | drop | leave =>
        simp only [Upload.setWorker, Upload.recycle] at staging
        rwa [List.getElem?_set_ne different.symm] at staging
  have committing : upload.phase = .committing → run.isDue run.commitEnd = true := fun committing =>
    timed.committing (moved.committing_before (by simp) committing)
  have aligned : run.stageEnds.length = upload.workers.length :=
    timed.aligned.trans moved.workers_length.symm
  refine ⟨left, ?_, ?_, ?_⟩
  · unfold beginStage
    split <;> exact ⟨carried'.flawless, carried'.endless, carried'.fed⟩
  · unfold beginStage
    split
    · rename_i block found
      refine ⟨?_, committing, by simpa using aligned⟩
      intro other block staging
      by_cases same : other = worker
      · subst other
        have bound : worker < run.stageEnds.length := by
          rw [aligned]
          exact (List.getElem?_eq_some_iff.mp found).1
        simp [isDue, BlobStore.writer, bound]
      · simpa [isDue, List.getElem?_set_ne (Ne.symm same)] using others other block same staging
    · rename_i idle
      refine ⟨?_, committing, aligned⟩
      intro other block staging
      by_cases same : other = worker
      · subst other
        exact absurd staging (idle block)
      · exact others other block same staging
  · unfold beginStage
    split <;> exact lower

theorem endStage_advances {worker : Nat} {block : Block} (carried : run.Carried base source left)
    (timed : run.Timed) (found : run.upload.workers[worker]? = some (.staging block))
    (ended : run.endStage (BlobStore.writer mark) worker block = some next) :
    run.Advances base source left next := by
  cases answered : run.service.stage run.upload.end? (run.upload.blockId block.number).text
      block.payload mark with
  | mk result service =>
      simp only [endStage, BlobStore.writer, answered, Bool.false_eq_true, if_false] at ended
      refine carried.advances timed ended (.stage found answered ?_) (fun _ => rfl) (by simp)
        (by simp)
      cases result with
      | ok receipt => exact .inl ⟨receipt, rfl, .inl rfl⟩
      | error error => exact .inr ⟨error, rfl, rfl⟩

theorem work_advances {worker : Nat} {state : Worker} (carried : run.Carried base source left)
    (timed : run.Timed) (found : run.upload.workers[worker]? = some state)
    (worked : run.work (BlobStore.writer mark) worker state = some next) :
    run.Advances base source left next := by
  cases state with
  | waiting =>
      exact carried.advances_apart timed worked rfl rfl (fun _ => rfl) (by simp) (by simp)
  | receiving =>
      obtain ⟨after, received, rfl⟩ := Option.map_eq_some_iff.mp worked
      exact received_advances carried timed received
  | staging block =>
      simp only [work, timed.staging worker block found, if_true] at worked
      exact endStage_advances carried timed found worked
  | exited | joined => simp [work] at worked

theorem workFirst_advances {workers : List Nat} (carried : run.Carried base source left)
    (timed : run.Timed) (worked : run.workFirst (BlobStore.writer mark) workers = some next) :
    run.Advances base source left next := by
  induction workers with
  | nil => simp [workFirst] at worked
  | cons worker others ih =>
      simp only [workFirst] at worked
      split at worked
      · rename_i after went
        obtain ⟨state, found, possible⟩ := Option.bind_eq_some_iff.mp went
        obtain rfl := Option.some.inj worked
        obtain ⟨rest, carried', timed', lower⟩ := work_advances carried timed found possible
        exact ⟨rest, ⟨carried'.flawless, carried'.endless, carried'.fed⟩,
          ⟨timed'.staging, timed'.committing, timed'.aligned⟩, lower⟩
      · exact ih worked

theorem asking_le (run : UploadRun BlobStore) : run.asking ≤ 2 := by
  unfold asking
  split
  · exact Nat.le_refl _
  · split <;> omega
  · split <;> omega
  · exact Nat.zero_le _

theorem Carried.consumes {bytes : Bytes} {later : LiveBody} {time : Nat}
    (carried : run.Carried base source left) (timed : run.Timed)
    (read : run.nextRead = some (.ok bytes, later, time)) (now : time ≤ run.timeline.now)
    (stepped : ({ run with source := later, nextRead := none } : UploadRun BlobStore).step move =
      some next)
    (taken : move.leave left = some later.readable) (unanswered : move.isSuccess = false)
    (smooth : move.isSmooth = true) (unreceived : ∀ worker, move ≠ .receive worker)
    (unsettled : move ≠ .settle) (paid : next.asking ≤ 2 * bytes.length) :
    run.Advances base source left next := by
  have fed := carried.fed
  simp only [Fed, read] at fed
  obtain ⟨steady, _, filled, same, reading, _, front, _⟩ := fed
  obtain rfl := Except.ok.inj same
  have asked : run.asking = 0 := by simp [asking, reading, read, now]
  have ready : ({ run with source := later, nextRead := none } : UploadRun BlobStore).Timed :=
    ⟨timed.staging, timed.committing, timed.aligned⟩
  have timed' := ready.step stepped unreceived unsettled
  obtain ⟨upload, possible, rfl⟩ := Option.map_eq_some_iff.mp stepped
  have moved : Upload.Transition run.upload move upload := Upload.transition_of_step possible
  have lower := moved.rank_lt taken (UploadStep.going_of_smooth smooth)
  have flawless := carried.flawless.preserve moved taken (.apart unanswered fun _ => smooth)
  refine ⟨later.readable, ⟨flawless, carried.endless, steady, rfl⟩, timed', ?_⟩
  have size := congrArg List.length front
  rw [List.length_append] at size
  have enough : ({ run with source := later, nextRead := none, upload } :
      UploadRun BlobStore).asking ≤ 2 * bytes.length := paid
  simp only [cost, asked]
  omega

theorem read_advances {byte : UInt8} {others : Bytes} {later : LiveBody} {time : Nat}
    (carried : run.Carried base source left) (timed : run.Timed)
    (read : run.nextRead = some (.ok (byte :: others), later, time))
    (now : time ≤ run.timeline.now)
    (stepped : ({ run with source := later, nextRead := none } : UploadRun BlobStore).step
      (.read (byte :: others)) = some next) :
    run.Advances base source left next := by
  have fed := carried.fed
  simp only [Fed, read] at fed
  obtain ⟨_, _, _, same, _, _, front, _⟩ := fed
  obtain rfl := Except.ok.inj same
  have taken : (UploadStep.read (byte :: others)).leave left = some later.readable := by
    simp [UploadStep.leave, front]
  have paid : next.asking ≤ 2 * (byte :: others).length := by
    rw [List.length_cons]
    exact Nat.le_trans next.asking_le (by omega)
  exact carried.consumes timed read now stepped taken rfl rfl (by simp) (by simp) paid

theorem sourceEnd_advances {later : LiveBody} {time : Nat}
    (carried : run.Carried base source left) (timed : run.Timed)
    (read : run.nextRead = some (.ok [], later, time)) (now : time ≤ run.timeline.now)
    (stepped : ({ run with source := later, nextRead := none } : UploadRun BlobStore).step
      .sourceEnd = some next) :
    run.Advances base source left next := by
  have fed := carried.fed
  simp only [Fed, read] at fed
  obtain ⟨_, _, filled, same, reading, _, front, last⟩ := fed
  obtain rfl := Except.ok.inj same
  obtain rfl := last rfl
  have short := carried.flawless.smooth.filled_lt reading
  have taken : UploadStep.sourceEnd.leave [] = some later.readable := congrArg some front
  refine carried.consumes timed read now stepped taken rfl rfl (by simp) (by simp) ?_
  obtain ⟨upload, possible, rfl⟩ := Option.map_eq_some_iff.mp stepped
  have moved : Upload.Transition run.upload _ upload := Upload.transition_of_step possible
  cases moved with
  | noBlock => exact Nat.le_refl _
  | @lastBlock other reading' =>
      obtain rfl := Producer.reading.inj (reading.symm.trans reading')
      unfold Upload.completeBlock
      split
      · exact Nat.le_refl _
      · simp [asking, short]

theorem Carried.ask_advances {filled bytes : Bytes} {later : LiveBody} {time : Nat}
    (carried : run.Carried base source left) (timed : run.Timed)
    (reading : run.upload.producer = .reading filled) (unasked : run.nextRead = none)
    (given : run.source.read (run.upload.options.blockSize - filled.length) run.timeline.now none =
      some (.ok bytes, later, time)) (steady : later.Steady) :
    run.Advances base source left { run with nextRead := some (.ok bytes, later, time) } := by
  have fed := carried.fed
  simp only [Fed, unasked] at fed
  have short := carried.flawless.smooth.filled_lt reading
  obtain ⟨front, fits, last⟩ := LiveBody.readable_of_read given
  refine ⟨left, ⟨carried.flawless, carried.endless, steady, bytes, filled, rfl, reading, ?_,
    fed.2.symm.trans front, ?_⟩, ⟨timed.staging, timed.committing, timed.aligned⟩, ?_⟩
  · simp only
    omega
  · intro nothing
    exact fed.2.symm.trans (last (by omega) nothing)
  · have before : run.asking = 2 := by simp [asking, reading, unasked]
    have after : ({ run with nextRead := some (.ok bytes, later, time) } :
        UploadRun BlobStore).asking ≤ 1 := by
      simp only [asking, reading]
      split <;> omega
    simp only [cost, before]
    omega

theorem Carried.stays (carried : run.Carried base source left) {filled : Bytes}
    (reading : run.upload.producer = .reading filled) : run.step .giveUp = none := by
  have live := carried.flawless.smooth.intact.live
  simp [UploadRun.step, Upload.step, Upload.giveUp, reading, live]

theorem produce_advances (carried : run.Carried base source left) (timed : run.Timed)
    (produced : run.produce = some next) : run.Advances base source left next := by
  have fed := carried.fed
  unfold produce at produced
  split at produced
  · simp at produced
  · obtain gaveUp | ⟨_, sent⟩ := (Option.orElse_eq_some _ _ _).mp produced
    · exact carried.advances_apart timed gaveUp rfl rfl (fun _ => rfl) (by simp) (by simp)
    · exact carried.advances_apart timed sent rfl rfl (fun _ => rfl) (by simp) (by simp)
  · rename_i filled reading unasked
    simp only [Fed, unasked] at fed
    obtain ⟨bytes, rest, time, given, steady⟩ := LiveBody.read_of_steady fed.1
      (run.upload.options.blockSize - filled.length) run.timeline.now
    simp only [given, Option.some.injEq] at produced
    subst next
    exact carried.ask_advances timed reading unasked given steady
  · rename_i filled item rest time reading pending
    split at produced
    · rename_i now
      simp only [Fed, pending] at fed
      obtain ⟨_, bytes, _, rfl, _⟩ := fed
      cases bytes with
      | nil => exact sourceEnd_advances carried timed pending now produced
      | cons byte others => exact read_advances carried timed pending now produced
    · simp [carried.stays reading] at produced

theorem conclude_advances (carried : run.Carried base source left) (timed : run.Timed)
    (concluded : run.conclude (BlobStore.writer mark) = some next) :
    run.Advances base source left next := by
  unfold conclude at concluded
  split at concluded
  · obtain ⟨settled, stepped, rfl⟩ := Option.map_eq_some_iff.mp concluded
    obtain ⟨carried', lower⟩ := carried.step stepped (.apart rfl fun _ => rfl) fun _ => rfl
    obtain ⟨upload, possible, rfl⟩ := Option.map_eq_some_iff.mp stepped
    have moved := Upload.transition_of_step possible
    refine ⟨left, ⟨carried'.flawless, carried'.endless, carried'.fed⟩, ⟨?_, ?_, ?_⟩, lower⟩
    · intro worker block staging
      exact timed.staging worker block (moved.staging_before (by simp) staging)
    · simp [isDue, BlobStore.writer]
    · exact timed.aligned.trans moved.workers_length.symm
  · rename_i committing
    simp only [timed.committing committing, if_true] at concluded
    exact carried.advances timed concluded (.commit rfl) (fun _ => rfl) (by simp) (by simp)
  · simp at concluded

theorem carryOut_advances (carried : run.Carried base source left) (timed : run.Timed)
    (carriedOut : run.carryOut = some next) : run.Advances base source left next := by
  unfold carryOut at carriedOut
  split at carriedOut
  · rename_i due
    obtain rfl := Option.some.inj carriedOut
    have now : (run.timeline.advanceThrough run.timeline.now).now = run.timeline.now :=
      Nat.max_self _
    refine ⟨left, ⟨carried.flawless, carried.endless.advanceThrough _, carried.fed⟩,
      ⟨?_, ?_, timed.aligned⟩, ?_⟩
    · intro worker block staging
      rw [isDue, now]
      exact timed.staging worker block staging
    · intro committing
      rw [isDue, now]
      exact timed.committing committing
    · have fewer : (run.timeline.advanceThrough run.timeline.now).planned.length <
          run.timeline.planned.length := by
        simp only [Timeline.advanceThrough, Timeline.carryOut]
        rw [List.length_filter_lt_length_iff_exists]
        simpa using due
      have same : ({ run with timeline := run.timeline.advanceThrough run.timeline.now } :
          UploadRun BlobStore).asking = run.asking := by
        simp only [asking, now]
      simp only [cost, same]
      omega
  · simp at carriedOut

theorem learnEnd_of_endless (endless : run.timeline.Endless run.scope) : run.learnEnd = none := by
  obtain ⟨deadline, canceled, _⟩ := Timeline.endless_iff.mp endless
  simp [learnEnd, canceled, Scope.hasExpired, deadline]

/-- Whatever is done brings the upload nearer to its result. -/
theorem act_advances (carried : run.Carried base source left) (timed : run.Timed)
    (acted : run.act (BlobStore.writer mark) = some next) :
    run.Advances base source left next := by
  simp only [act, Option.orElse_eq_some] at acted
  obtain learnt | ⟨_, worked | ⟨_, went | ⟨_, out | ⟨_, worked⟩⟩⟩⟩ := acted
  · simp [learnEnd_of_endless carried.endless] at learnt
  · exact workFirst_advances carried timed worked
  · obtain ⟨after, advanced, rfl⟩ := Option.map_eq_some_iff.mp went
    have there : run.Advances base source left after := by
      simp only [Option.orElse_eq_some] at advanced
      obtain produced | ⟨_, joined | ⟨_, concluded⟩⟩ := advanced
      · exact produce_advances carried timed produced
      · obtain ⟨worker, _, stepped⟩ := List.exists_of_findSome?_eq_some joined
        exact carried.advances_apart timed stepped rfl rfl (fun _ => rfl) (by simp) (by simp)
      · exact conclude_advances carried timed concluded
    obtain ⟨rest, carried', timed', lower⟩ := there
    exact ⟨rest, ⟨carried'.flawless, carried'.endless, carried'.fed⟩,
      ⟨timed'.staging, timed'.committing, timed'.aligned⟩, lower⟩
  · exact carryOut_advances carried timed out
  · exact workFirst_advances carried timed worked

end UploadRun

end BlobTransfer
