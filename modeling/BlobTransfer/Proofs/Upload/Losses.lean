import BlobTransfer.Proofs.Upload.Genuine
import Mathlib.Algebra.Ring.Nat

/-!
Every block that was handed over is in the channel, with a worker, staged or lost, and only in one
of these places, also when something has gone wrong. So what was staged is never more than the
source.
-/

namespace BlobTransfer

def payloadBytes (blocks : List Block) : Nat := (blocks.map (·.payload.length)).sum

theorem payloadBytes_append (blocks others : List Block) :
    payloadBytes (blocks ++ others) = payloadBytes blocks + payloadBytes others := by
  simp [payloadBytes]

theorem payloadBytes_perm {blocks others : List Block} (same : blocks.Perm others) :
    payloadBytes blocks = payloadBytes others :=
  (same.map _).sum_nat

theorem UploadOptions.payloadBytes_firstBlocks (options : UploadOptions) (source : Bytes)
    (count : Nat) : payloadBytes (options.firstBlocks source count) =
      min (count * options.blockSize) source.length := by
  rw [← List.length_take, ← options.flatMap_firstBlocks, List.length_flatMap]
  rfl

theorem UploadOptions.payloadBytes_cut (options : UploadOptions) (positive : 0 < options.blockSize)
    (source : Bytes) : payloadBytes (options.cut source) = source.length := by
  rw [cut, payloadBytes_firstBlocks]
  exact Nat.min_eq_right (options.le_blocksFor_mul positive source.length)

namespace Upload

variable {source left rest payload : Bytes} {upload next : Upload} {step : UploadStep}

def blocks (upload : Upload) : List Block :=
  upload.channel.toList ++ (heldBlocks upload.workers ++ upload.staged)

theorem blocks_replace {worker : Nat} {before after : Worker}
    (found : upload.workers[worker]? = some before) (empty : before.block? = none)
    (idle : after.block? = none) : (upload.setWorker worker after).blocks.Perm upload.blocks := by
  have held : (heldBlocks (upload.workers.set worker after)).Perm
      (after.block?.toList ++ heldBlocks upload.workers) := heldBlocks_set_empty found empty
  rw [idle, Option.toList_none, List.nil_append] at held
  exact (held.append_right _).append_left _

theorem blocks_release {worker : Nat} {block : Block} {after : Worker}
    (found : upload.workers[worker]? = some (.staging block)) (idle : after.block? = none) :
    (block :: (upload.setWorker worker after).blocks).Perm upload.blocks := by
  have released := (heldBlocks_release found idle).append_right upload.staged
  exact List.perm_middle.symm.trans (released.symm.append_left _)

theorem blocks_stage {worker : Nat} {block : Block} {after : Worker}
    (found : upload.workers[worker]? = some (.staging block)) (idle : after.block? = none) :
    ((upload.recordStaged block).setWorker worker after).blocks.Perm upload.blocks := by
  have released := (heldBlocks_release found idle).append_right upload.staged
  exact (List.perm_middle.trans released.symm).append_left _

theorem Transition.blocks_cases (moved : Transition upload step next) :
    (next.handed = upload.handed ∧ ∃ lost, (lost ++ next.blocks).Perm upload.blocks) ∨
      ∃ payload, upload.producer = .sending payload ∧ next.handed = upload.handed + 1 ∧
        next.blocks.Perm (⟨upload.handed, payload⟩ :: upload.blocks) := by
  cases moved with
  | readBlock | lastBlock =>
      left
      unfold completeBlock finishProducing
      split <;> exact ⟨rfl, [], .refl _⟩
  | sendShort sending room =>
      refine .inr ⟨_, sending, rfl, ?_⟩
      simp only [blocks, finishProducing, hand, room, Option.toList_some, Option.toList_none]
      exact .refl _
  | @sendFull payload sending room =>
      have placed : (upload.hand payload).blocks = ⟨upload.handed, payload⟩ :: upload.blocks := by
        simp only [blocks, hand, room, Option.toList_some, Option.toList_none]
        rfl
      refine .inr ⟨_, sending, ?_, ?_⟩
      · unfold beginBlock finishProducing
        split <;> rfl
      · rw [← placed]
        unfold beginBlock finishProducing
        split <;> exact .refl _
  | turn found | leave found | join found | joinPanicked found =>
      exact .inl ⟨rfl, [], blocks_replace found rfl rfl⟩
  | @take worker block receiving queued =>
      have held : (heldBlocks (upload.workers.set worker (.staging block))).Perm
          (block :: heldBlocks upload.workers) := heldBlocks_set_empty receiving rfl
      refine .inl ⟨rfl, [], ?_⟩
      simp only [blocks, queued, Option.toList_some]
      exact held.append_right _
  | @drop worker block receiving queued =>
      have emptied : block :: ({ upload with channel := none } : Upload).blocks =
          upload.blocks := by
        simp only [blocks, queued, Option.toList_some]
        rfl
      have replaced : (({ upload with channel := none } : Upload).setWorker worker
          (.exited false)).blocks.Perm ({ upload with channel := none } : Upload).blocks :=
        blocks_replace receiving rfl rfl
      refine .inl ⟨rfl, [block], ?_⟩
      rw [← emptied]
      exact replaced.cons block
  | staged found | reportPanicked found => exact .inl ⟨rfl, [], blocks_stage found rfl⟩
  | failedLate found | failed found | panicked found | abandonStage found =>
      exact .inl ⟨rfl, [_], blocks_release found rfl⟩
  | _ => exact .inl ⟨rfl, [], .refl _⟩

structure Traced (source : Bytes) (upload : Upload) : Prop where
  accounted : ∃ lost, (lost ++ upload.blocks).Perm
    (upload.options.firstBlocks source upload.handed)
  filled : ∀ block ∈ upload.blocks, 0 < block.payload.length

theorem Traced.preserve (traced : upload.Traced source) (genuine : upload.Genuine source left)
    (moved : Transition upload step next) : next.Traced source := by
  obtain ⟨lost, accounted⟩ := traced.accounted
  obtain ⟨same, more, kept⟩ | ⟨payload, sending, grown, kept⟩ := moved.blocks_cases
  · refine ⟨⟨lost ++ more, ?_⟩, fun block member => ?_⟩
    · rw [moved.fixed.1, same, List.append_assoc]
      exact (kept.append_left lost).trans accounted
    · exact traced.filled block (kept.subset (List.mem_append_right _ member))
  · have front := genuine.front
    simp only [Front, sending] at front
    obtain ⟨_, nonempty, fits, last, split⟩ := front
    refine ⟨⟨lost, ?_⟩, fun block member => ?_⟩
    · rw [moved.fixed.1, grown, UploadOptions.firstBlocks_succ,
        UploadOptions.block_of_drop fits last split]
      have placed := (kept.append_left lost).trans List.perm_middle
      exact placed.trans ((accounted.cons _).trans (List.perm_append_singleton _ _).symm)
    · obtain rfl | old := List.mem_cons.mp (kept.subset member)
      · exact List.length_pos_iff.mpr nonempty
      · exact traced.filled block old

theorem traced_start (options : UploadOptions) (transfer : Uuid) (ended : Option ScopeEnd)
    (source : Bytes) : (start options transfer ended).Traced source := by
  have none : ∀ upload : Upload, upload.blocks = [] → upload.handed = 0 →
      upload.Traced source := by
    intro upload empty unhanded
    refine ⟨⟨[], ?_⟩, ?_⟩
    · simp [empty, unhanded, UploadOptions.firstBlocks]
    · simp [empty]
  unfold start
  split
  · exact none _ rfl rfl
  · unfold beginBlock finishProducing
    split <;> exact none _ (by simp [blocks, heldBlocks, Worker.block?]) rfl

variable {options : UploadOptions} {transfer : Uuid} {ended : Option ScopeEnd}
  {schedule : List UploadStep}

theorem traced_of_steps (ran : (start options transfer ended).steps schedule = some upload)
    (drawn : UploadStep.draw source schedule = some left) : upload.Traced source := by
  have kept := steps_preserve
    (fun upload left => upload.Genuine source left ∧ upload.Traced source) ?_
    ⟨genuine_start options transfer ended source, traced_start options transfer ended source⟩
    ran drawn
  · exact kept.2
  · intro upload left step next rest _ ⟨genuine, traced⟩ moved taken
    exact ⟨genuine.preserve moved taken, traced.preserve genuine moved⟩

theorem Traced.payloadBytes_le (traced : upload.Traced source) :
    payloadBytes upload.staged ≤ min (upload.handed * upload.options.blockSize) source.length := by
  obtain ⟨lost, accounted⟩ := traced.accounted
  have all := payloadBytes_perm accounted
  rw [UploadOptions.payloadBytes_firstBlocks, blocks, payloadBytes_append, payloadBytes_append,
    payloadBytes_append] at all
  omega

end Upload

end BlobTransfer
