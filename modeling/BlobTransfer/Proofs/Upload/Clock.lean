import BlobTransfer.Proofs.Reader.Content
import BlobTransfer.Proofs.Upload.Commit
import BlobTransfer.Upload.Run
import Mathlib.Data.Option.Basic

/-!
Uploads on a clock. Whatever the clock, the writer and the source do, what is carried out is one of
the schedules that read the source, so what holds after every schedule holds of it. The main result
is `schedule_of_finish`.
-/

namespace BlobTransfer

namespace Upload

def Roomy (upload : Upload) : Prop :=
  match upload.producer with
  | .reading filled => filled.length < upload.options.blockSize
  | .sending _ => 0 < upload.options.blockSize
  | .finished _ => True

variable {upload next : Upload} {step : UploadStep}

theorem completeBlock_roomy (payload : Bytes) (sized : 0 < upload.options.blockSize) :
    (upload.completeBlock payload).Roomy := by
  unfold completeBlock
  split
  · trivial
  · exact sized

theorem beginBlock_roomy (sized : 0 < upload.options.blockSize) : upload.beginBlock.Roomy := by
  unfold beginBlock
  split
  · trivial
  · exact sized

theorem Roomy.preserve (roomy : upload.Roomy) (moved : Transition upload step next) :
    next.Roomy := by
  have sized : ∀ filled, upload.producer = .reading filled → 0 < upload.options.blockSize := by
    intro filled reading
    simp only [Roomy, reading] at roomy
    omega
  cases moved with
  | readPart reading nonempty short => exact short
  | readBlock reading => exact completeBlock_roomy _ (sized _ reading)
  | lastBlock reading => exact completeBlock_roomy _ (sized _ reading)
  | sendFull sending =>
      simp only [Roomy, sending] at roomy
      exact beginBlock_roomy roomy
  | noBlock | sourceFailure | sendShort | stopReading | stopSending => trivial
  | _ => exact roomy

theorem roomy_start (options : UploadOptions) (transfer : Uuid) (ended : Option ScopeEnd) :
    (start options transfer ended).Roomy := by
  unfold start
  split
  · trivial
  · rename_i valid
    exact beginBlock_roomy (UploadOptions.positive_of_validate valid).1

theorem Transition.unfinished (moved : Transition upload step next)
    (going : ∀ outcome, next.producer ≠ .finished outcome) :
    ∀ outcome, upload.producer ≠ .finished outcome := by
  intro outcome finished
  cases moved with
  | readPart reading | readBlock reading | noBlock reading | lastBlock reading
  | sourceFailure reading | stopReading reading => simp [reading] at finished
  | sendShort sending | sendFull sending | stopSending sending => simp [sending] at finished
  | _ => exact going outcome finished

end Upload

namespace UploadRun

variable {Service : Type} {run next : UploadRun Service} {began : Upload} {source : Bytes}
  {move : UploadStep}

def Ahead (run : UploadRun Service) : Prop :=
  ∀ bytes rest time, run.nextRead = some (.ok bytes, rest, time) →
    run.source.readable = bytes ++ rest.readable ∧ (bytes = [] → run.source.readable = [])

/-- The upload came about by a schedule that has read the source as far as the run has. -/
def Scheduled (began : Upload) (source : Bytes) (run : UploadRun Service) : Prop :=
  run.upload.Roomy ∧ run.Ahead ∧
  ∃ schedule left, began.steps schedule = some run.upload ∧
    UploadStep.draw source schedule = some left ∧
    ((∀ outcome, run.upload.producer ≠ .finished outcome) → left = run.source.readable)

theorem Scheduled.follow (scheduled : run.Scheduled began source) (ahead : next.Ahead)
    (possible : run.upload.step move = some next.upload)
    (read : ∀ left,
      ((∀ outcome, run.upload.producer ≠ .finished outcome) → left = run.source.readable) →
      ∃ rest, move.leave left = some rest ∧
        ((∀ outcome, next.upload.producer ≠ .finished outcome) → rest = next.source.readable)) :
    next.Scheduled began source := by
  obtain ⟨roomy, _, schedule, left, ran, drawn, same⟩ := scheduled
  obtain ⟨rest, taken, same'⟩ := read left same
  refine ⟨roomy.preserve (Upload.transition_of_step possible), ahead, schedule ++ [move], rest,
    ?_, ?_, same'⟩
  · exact Upload.steps_append.mpr ⟨_, ran, Upload.steps_cons.mpr ⟨_, possible, rfl⟩⟩
  · exact Upload.draw_append.mpr ⟨left, drawn, by simp [UploadStep.draw, taken]⟩

theorem Scheduled.step (scheduled : run.Scheduled began source)
    (stepped : run.step move = some next) (neutral : ∀ left, move.leave left = some left) :
    next.Scheduled began source := by
  obtain ⟨upload, possible, rfl⟩ := Option.map_eq_some_iff.mp stepped
  refine scheduled.follow scheduled.2.1 possible ?_
  intro left same
  have moved := Upload.transition_of_step possible
  exact ⟨left, neutral left, fun going => same (moved.unfinished going)⟩

theorem Scheduled.serve (scheduled : run.Scheduled began source) (timeline : Timeline)
    (service : Service) :
    ({ run with timeline, service } : UploadRun Service).Scheduled began source := scheduled

theorem learnEnd_scheduled (scheduled : run.Scheduled began source)
    (learnt : run.learnEnd = some next) : next.Scheduled began source := by
  unfold learnEnd at learnt
  split at learnt
  · exact scheduled.step learnt fun _ => rfl
  · split at learnt
    · exact scheduled.step learnt fun _ => rfl
    · simp at learnt

theorem produce_scheduled (scheduled : run.Scheduled began source)
    (produced : run.produce = some next) : next.Scheduled began source := by
  unfold produce at produced
  split at produced
  · simp at produced
  · obtain gaveUp | ⟨_, sent⟩ := (Option.orElse_eq_some _ _ _).mp produced
    · exact scheduled.step gaveUp fun _ => rfl
    · exact scheduled.step sent fun _ => rfl
  · rename_i filled reading _
    simp only at produced
    split at produced
    · rename_i nextRead answered
      simp only [Option.some.injEq] at produced
      subst next
      refine ⟨scheduled.1, ?_, scheduled.2.2⟩
      intro bytes rest time same
      rw [Option.some.inj same] at answered
      obtain ⟨front, _, last⟩ := LiveBody.readable_of_read answered
      have roomy := scheduled.1
      simp only [Upload.Roomy, reading] at roomy
      exact ⟨front, last (by omega)⟩
    · exact scheduled.step produced fun _ => rfl
  · rename_i filled item rest time reading pending
    split at produced
    · obtain ⟨upload, possible, rfl⟩ := Option.map_eq_some_iff.mp produced
      refine scheduled.follow (by simp [Ahead]) possible ?_
      intro left same
      obtain rfl := same (by simp [reading])
      cases item with
      | ok bytes =>
          obtain ⟨front, last⟩ := scheduled.2.1 bytes rest time pending
          cases bytes with
          | nil =>
              refine ⟨[], by simp [UploadStep.leave, last rfl], ?_⟩
              intro going
              simpa [last rfl] using front
          | cons first others =>
              exact ⟨rest.readable, by simp [UploadStep.leave, front], fun _ => rfl⟩
      | error error =>
          refine ⟨_, rfl, fun going => ?_⟩
          cases Upload.transition_of_step possible with
          | sourceFailure => exact absurd rfl (going _)
    · exact scheduled.step produced fun _ => rfl

theorem beginStage_scheduled (writer : BlockWriter Service) (worker : Nat)
    (scheduled : run.Scheduled began source) :
    (run.beginStage writer worker).Scheduled began source := by
  unfold beginStage
  split <;> exact scheduled

theorem endStage_scheduled {writer : BlockWriter Service} {worker : Nat} {block : Block}
    (scheduled : run.Scheduled began source)
    (ended : run.endStage writer worker block = some next) : next.Scheduled began source := by
  simp only [endStage] at ended
  split at ended
  · obtain ⟨canceled, cancels, ends⟩ := Option.bind_eq_some_iff.mp ended
    have told := (scheduled.serve _ _).step cancels fun _ => rfl
    exact told.step ends fun _ => rfl
  · exact (scheduled.serve _ _).step ended fun _ => rfl

theorem work_scheduled {writer : BlockWriter Service} {worker : Nat} {state : Worker}
    (scheduled : run.Scheduled began source)
    (worked : run.work writer worker state = some next) : next.Scheduled began source := by
  cases state with
  | waiting => exact scheduled.step worked fun _ => rfl
  | receiving =>
      obtain ⟨received, possible, rfl⟩ := Option.map_eq_some_iff.mp worked
      exact beginStage_scheduled writer worker (scheduled.step possible fun _ => rfl)
  | staging block =>
      simp only [work] at worked
      split at worked
      · exact endStage_scheduled scheduled worked
      · exact scheduled.step worked fun _ => rfl
  | exited | joined => simp [work] at worked

theorem workFirst_scheduled {writer : BlockWriter Service} {workers : List Nat}
    (scheduled : run.Scheduled began source)
    (worked : run.workFirst writer workers = some next) : next.Scheduled began source := by
  induction workers with
  | nil => simp [workFirst] at worked
  | cons worker others ih =>
      simp only [workFirst] at worked
      split at worked
      · rename_i after went
        obtain ⟨state, _, possible⟩ := Option.bind_eq_some_iff.mp went
        have there := work_scheduled scheduled possible
        simp only [Option.some.injEq] at worked
        subst next
        exact there
      · exact ih worked

theorem conclude_scheduled {writer : BlockWriter Service} (scheduled : run.Scheduled began source)
    (concluded : run.conclude writer = some next) : next.Scheduled began source := by
  simp only [conclude] at concluded
  split at concluded
  · obtain ⟨settled, possible, rfl⟩ := Option.map_eq_some_iff.mp concluded
    have there := scheduled.step possible fun _ => rfl
    exact there
  · split at concluded
    · exact (scheduled.serve _ _).step concluded fun _ => rfl
    · exact scheduled.step concluded fun _ => rfl
  · simp at concluded

theorem act_scheduled {writer : BlockWriter Service} (scheduled : run.Scheduled began source)
    (acted : run.act writer = some next) : next.Scheduled began source := by
  simp only [act, Option.orElse_eq_some] at acted
  obtain learnt | ⟨_, worked | ⟨_, went | ⟨_, carried | ⟨_, worked⟩⟩⟩⟩ := acted
  · exact learnEnd_scheduled scheduled learnt
  · exact workFirst_scheduled scheduled worked
  · obtain ⟨after, advanced, rfl⟩ := Option.map_eq_some_iff.mp went
    have there : after.Scheduled began source := by
      simp only [Option.orElse_eq_some] at advanced
      obtain produced | ⟨_, joined | ⟨_, concluded⟩⟩ := advanced
      · exact produce_scheduled scheduled produced
      · obtain ⟨worker, _, possible⟩ := List.exists_of_findSome?_eq_some joined
        exact scheduled.step possible fun _ => rfl
      · exact conclude_scheduled scheduled concluded
    exact there
  · unfold carryOut at carried
    split at carried
    · obtain rfl := Option.some.inj carried
      exact scheduled
    · simp at carried
  · exact workFirst_scheduled scheduled worked

theorem finish_scheduled {writer : BlockWriter Service} {fuel : Nat}
    {result : Except TransferError CommitReceipt} (scheduled : run.Scheduled began source)
    (finished : run.finish writer fuel = some (result, next)) :
    next.Scheduled began source ∧ next.upload.phase = .returned result := by
  induction fuel generalizing run with
  | zero => simp [finish] at finished
  | succ fuel ih =>
      simp only [finish] at finished
      split at finished
      · rename_i returned
        simp only [Option.some.injEq, Prod.mk.injEq] at finished
        obtain ⟨rfl, rfl⟩ := finished
        exact ⟨scheduled, returned⟩
      · obtain ⟨later, went, onward⟩ := Option.bind_eq_some_iff.mp finished
        refine ih ?_ onward
        obtain acted | ⟨_, waited⟩ := (Option.orElse_eq_some _ _ _).mp went
        · exact act_scheduled scheduled acted
        · obtain ⟨⟨_, timeline⟩, _, rfl⟩ := Option.map_eq_some_iff.mp waited
          exact scheduled

/-- An upload on a clock comes to its result by a schedule that reads its source. -/
theorem schedule_of_finish {writer : BlockWriter Service} {options : UploadOptions}
    {transfer : Uuid} {timeline : Timeline} {caller : Scope} {service : Service} {body : Body}
    {fuel : Nat} {result : Except TransferError CommitReceipt}
    (finished : (start options transfer timeline caller service body).finish writer fuel =
      some (result, next)) :
    ∃ schedule left,
      (Upload.start options transfer
        ((timeline.child caller).2.end? (timeline.child caller).1)).steps schedule =
          some next.upload ∧
      UploadStep.draw body.readable schedule = some left ∧
      next.upload.phase = .returned result := by
  have scheduled : (start options transfer timeline caller service body).Scheduled
      (.start options transfer ((timeline.child caller).2.end? (timeline.child caller).1))
      body.readable :=
    ⟨Upload.roomy_start _ _ _, by simp [Ahead, start], [], body.readable, rfl, rfl, fun _ => rfl⟩
  obtain ⟨⟨_, _, schedule, left, ran, drawn, _⟩, returned⟩ := finish_scheduled scheduled finished
  exact ⟨schedule, left, ran, drawn, returned⟩

end UploadRun

end BlobTransfer
