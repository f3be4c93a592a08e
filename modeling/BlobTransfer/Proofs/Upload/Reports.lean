import BlobTransfer.Proofs.Upload.Buffers
import BlobTransfer.Proofs.Upload.Losses
import Mathlib.Data.List.Induction

/-!
What an upload reports: one total for each stage call that comes back with success, in the order
in which they come back, whatever becomes of the upload.
-/

namespace BlobTransfer

def runningTotals (blocks : List Block) : List Nat :=
  (List.range blocks.length).map fun last => payloadBytes (blocks.take (last + 1))

theorem runningTotals_concat (blocks : List Block) (block : Block) :
    runningTotals (blocks ++ [block]) =
      runningTotals blocks ++ [payloadBytes (blocks ++ [block])] := by
  have earlier : ∀ last ∈ List.range blocks.length,
      payloadBytes ((blocks ++ [block]).take (last + 1)) =
        payloadBytes (blocks.take (last + 1)) := by
    intro last listed
    rw [List.take_append_of_le_length (List.mem_range.mp listed)]
  have whole : (blocks ++ [block]).take (blocks.length + 1) = blocks ++ [block] :=
    List.take_of_length_le (by simp)
  rw [runningTotals, List.length_append, List.length_singleton, List.range_succ, List.map_append,
    List.map_congr_left earlier, List.map_singleton, whole]
  rfl

theorem le_of_mem_runningTotals {blocks : List Block} {total : Nat}
    (member : total ∈ runningTotals blocks) : total ≤ payloadBytes blocks := by
  obtain ⟨last, _, rfl⟩ := List.mem_map.mp member
  have split := payloadBytes_append (blocks.take (last + 1)) (blocks.drop (last + 1))
  rw [List.take_append_drop] at split
  omega

theorem runningTotals_increase {blocks : List Block}
    (filled : ∀ block ∈ blocks, 0 < block.payload.length) :
    (runningTotals blocks).Pairwise (· < ·) := by
  induction blocks using List.reverseRecOn with
  | nil => exact .nil
  | append_singleton blocks block ih =>
      rw [runningTotals_concat, List.pairwise_append]
      refine ⟨ih fun other member => filled other (List.mem_append_left _ member), by simp, ?_⟩
      intro total earlier last equal
      rw [List.mem_singleton] at equal
      subst last
      have below := le_of_mem_runningTotals earlier
      have grown := payloadBytes_append blocks [block]
      have positive : 0 < payloadBytes [block] := filled block (by simp)
      omega

theorem getLast?_runningTotals (blocks : List Block) :
    (runningTotals blocks).getLast? =
      if blocks = [] then none else some (payloadBytes blocks) := by
  induction blocks using List.reverseRecOn with
  | nil => rfl
  | append_singleton blocks block => simp [runningTotals_concat]

def StageOutcome.isStaged : StageOutcome → Bool
  | .staged | .reportPanicked => true
  | .failed _ | .panicked => false

def UploadStep.stages : UploadStep → Bool
  | .stageEnd _ outcome => outcome.isStaged
  | _ => false

namespace Upload

variable {source left : Bytes} {upload next final : Upload} {step : UploadStep}

def stagedBy? (upload : Upload) : UploadStep → Option Block
  | .stageEnd worker outcome =>
      if outcome.isStaged then (upload.workers[worker]?).bind (·.block?) else none
  | _ => none

def stagedOn : Upload → List UploadStep → List Block
  | _, [] => []
  | upload, step :: later =>
      match upload.step step with
      | none => []
      | some next => (upload.stagedBy? step).toList ++ next.stagedOn later

theorem stagedOn_cons (possible : upload.step step = some next) (later : List UploadStep) :
    upload.stagedOn (step :: later) = (upload.stagedBy? step).toList ++ next.stagedOn later := by
  simp only [stagedOn, possible]

/-- A block is counted and reported at the step that stages it, and at no other one. -/
theorem Transition.staged_cases (moved : Transition upload step next) :
    (step.stages = false ∧ upload.stagedBy? step = none ∧ next.staged = upload.staged ∧
      next.total = upload.total ∧ next.reports = upload.reports) ∨
    ∃ block, step.stages = true ∧ upload.stagedBy? step = some block ∧
      next.staged = block :: upload.staged ∧ next.total = upload.total + block.payload.length ∧
      next.reports =
        if upload.options.reportsProgress then next.total :: upload.reports
        else upload.reports := by
  cases moved with
  | readBlock | lastBlock =>
      left
      unfold completeBlock finishProducing
      split <;> exact ⟨rfl, rfl, rfl, rfl, rfl⟩
  | sendFull =>
      left
      unfold beginBlock finishProducing
      split <;> exact ⟨rfl, rfl, rfl, rfl, rfl⟩
  | @staged worker block staging | @reportPanicked worker block staging =>
      refine .inr ⟨block, rfl, ?_, rfl, rfl, rfl⟩
      simp [stagedBy?, StageOutcome.isStaged, staging, Worker.block?]
  | _ => exact .inl ⟨rfl, rfl, rfl, rfl, rfl⟩

theorem staged_of_steps {schedule : List UploadStep} (ran : upload.steps schedule = some final) :
    final.staged = (upload.stagedOn schedule).reverse ++ upload.staged ∧
      (upload.stagedOn schedule).length = schedule.countP (·.stages) := by
  induction schedule generalizing upload with
  | nil =>
      simp only [steps, List.foldlM_nil, pure, Option.some.injEq] at ran
      subst final
      exact ⟨rfl, rfl⟩
  | cons step later ih =>
      obtain ⟨next, possible, continued⟩ := steps_cons.mp ran
      obtain ⟨order, count⟩ := ih continued
      rw [stagedOn_cons possible, order, List.length_append, count]
      obtain ⟨quiet, none, same, _⟩ | ⟨block, stages, some, grown, _⟩ :=
        (transition_of_step possible).staged_cases
      · simp [quiet, none, same]
      · simp [stages, some, grown, Nat.add_comm]

structure Reporting (upload : Upload) : Prop where
  counted : upload.total = payloadBytes upload.staged.reverse
  reported : upload.reports.reverse =
    if upload.options.reportsProgress then runningTotals upload.staged.reverse else []

theorem Reporting.preserve (reporting : upload.Reporting) (moved : Transition upload step next) :
    next.Reporting := by
  obtain ⟨counted, reported⟩ := reporting
  obtain ⟨_, _, staged, total, reports⟩ | ⟨block, _, _, staged, total, reports⟩ :=
    moved.staged_cases
  · refine ⟨?_, ?_⟩
    · rw [total, staged, counted]
    · rw [reports, staged, moved.fixed.1, reported]
  · have grown : next.total = payloadBytes next.staged.reverse := by
      rw [total, staged, counted, List.reverse_cons, payloadBytes_append]
      rfl
    refine ⟨grown, ?_⟩
    rw [moved.fixed.1, reports, grown, staged, List.reverse_cons, runningTotals_concat]
    split
    · rename_i reporting
      rw [if_pos reporting] at reported
      rw [List.reverse_cons, reported]
    · rename_i quiet
      rwa [if_neg quiet] at reported

theorem unstaged_start (options : UploadOptions) (transfer : Uuid) (ended : Option ScopeEnd) :
    (start options transfer ended).staged = [] ∧ (start options transfer ended).total = 0 ∧
      (start options transfer ended).reports = [] := by
  unfold start
  split
  · exact ⟨rfl, rfl, rfl⟩
  · unfold beginBlock finishProducing
    split <;> exact ⟨rfl, rfl, rfl⟩

theorem reporting_of_steps {options : UploadOptions} {transfer : Uuid} {ended : Option ScopeEnd}
    {schedule : List UploadStep}
    (ran : (start options transfer ended).steps schedule = some upload) : upload.Reporting := by
  obtain ⟨unstaged, uncounted, unreported⟩ := unstaged_start options transfer ended
  refine steps_preserve_all Reporting (fun _ _ _ reporting moved => reporting.preserve moved) ?_ ran
  refine ⟨?_, ?_⟩
  · rw [unstaged, uncounted]
    rfl
  · rw [unstaged, unreported]
    split <;> rfl

theorem unstaged_of_invalid {options : UploadOptions} {transfer : Uuid}
    {ended : Option ScopeEnd} {schedule : List UploadStep} {error : TransferError}
    (invalid : options.validate = .error error)
    (ran : (start options transfer ended).steps schedule = some upload) : upload.staged = [] := by
  have kept := steps_preserve_all
    (fun upload => upload.workers = [] ∧ upload.staged = []) ?_ ?_ ran
  · exact kept.2
  · intro upload step next ⟨unmanned, unstaged⟩ moved
    refine ⟨?_, ?_⟩
    · rw [← List.length_eq_zero_iff, moved.workers_length, unmanned, List.length_nil]
    · obtain ⟨_, _, same, _⟩ | ⟨block, _, by', _⟩ := moved.staged_cases
      · rw [same, unstaged]
      · cases step <;> simp [stagedBy?, unmanned] at by'
  · simp [start, invalid]

theorem total_lt_of_steps {options : UploadOptions} {transfer : Uuid} {ended : Option ScopeEnd}
    {schedule : List UploadStep}
    (ran : (start options transfer ended).steps schedule = some upload)
    (drawn : UploadStep.draw source schedule = some left) :
    upload.total ≤ source.length ∧ upload.total < UInt64.size := by
  have counted := (reporting_of_steps ran).counted
  rw [payloadBytes_perm (List.reverse_perm _)] at counted
  have part := (traced_of_steps ran drawn).payloadBytes_le
  rw [(fixed_of_steps ran).1] at part
  refine ⟨by omega, ?_⟩
  cases valid : options.validate with
  | error error =>
      rw [counted, unstaged_of_invalid valid ran]
      decide
  | ok =>
      obtain ⟨_, sized, _⟩ := UploadOptions.validate_eq_ok.mp valid
      have few := (genuine_of_steps ran drawn).bounded
      have most : upload.handed * options.blockSize ≤ mostBlocks * largestBlock :=
        Nat.mul_le_mul few sized
      simp only [mostBlocks, largestBlock, UInt64.size] at most ⊢
      omega

theorem payloadBytes_of_success {options : UploadOptions} {transfer : Uuid}
    {ended : Option ScopeEnd} {schedule : List UploadStep} {receipt : CommitReceipt}
    (ran : (start options transfer ended).steps schedule = some upload)
    (drawn : UploadStep.draw source schedule = some left)
    (returned : upload.phase = .returned (.ok receipt)) :
    payloadBytes upload.staged = source.length := by
  have complete := complete_of_success ran drawn returned
  cases valid : options.validate with
  | error error =>
      have refused := refused_of_invalid valid ran
      simp [returned] at refused
  | ok =>
      rw [payloadBytes_perm complete.staged, (fixed_of_steps ran).1]
      exact options.payloadBytes_cut (UploadOptions.positive_of_validate valid).1 source

/-- Whatever becomes of an upload, it has reported its progress once for each stage call that came
back with success, in that order, and at no other time: each report is the sum of all blocks that
were staged by then, so every report is more than the one before, and the counter has room for it.
When the upload succeeds the last report is the whole source, and there is none of an empty one. -/
theorem progress_follows_staging {options : UploadOptions} {transfer : Uuid}
    {ended : Option ScopeEnd} {source left : Bytes} {schedule : List UploadStep} {upload : Upload}
    (ran : (start options transfer ended).steps schedule = some upload)
    (drawn : UploadStep.draw source schedule = some left) :
    ((start options transfer ended).stagedOn schedule).length = schedule.countP (·.stages) ∧
    upload.reports.reverse =
      (if options.reportsProgress then
        runningTotals ((start options transfer ended).stagedOn schedule) else []) ∧
    upload.reports.reverse.Pairwise (· < ·) ∧
    (∀ total ∈ upload.reports, total ≤ source.length ∧ total < UInt64.size) ∧
    (∀ receipt, upload.phase = .returned (.ok receipt) → options.reportsProgress = true →
      upload.reports.reverse.getLast? = if source = [] then none else some source.length) := by
  obtain ⟨order, count⟩ := staged_of_steps ran
  obtain ⟨counted, reported⟩ := reporting_of_steps ran
  obtain ⟨part, bounded⟩ := total_lt_of_steps ran drawn
  have traced := traced_of_steps ran drawn
  rw [(unstaged_start options transfer ended).1, List.append_nil] at order
  rw [(fixed_of_steps ran).1, order, List.reverse_reverse] at reported
  rw [order, List.reverse_reverse] at counted
  have filled : ∀ block ∈ (start options transfer ended).stagedOn schedule,
      0 < block.payload.length := by
    intro block member
    have staged : block ∈ upload.staged := order ▸ List.mem_reverse.mpr member
    exact traced.filled block (List.mem_append_right _ (List.mem_append_right _ staged))
  refine ⟨count, reported, ?_, ?_, ?_⟩
  · rw [reported]
    split
    · exact runningTotals_increase filled
    · exact .nil
  · intro total member
    rw [← List.mem_reverse, reported] at member
    split at member
    · have below := le_of_mem_runningTotals member
      omega
    · cases member
  · intro receipt returned reporting
    have whole := payloadBytes_of_success ran drawn returned
    rw [← payloadBytes_perm (List.reverse_perm _), order, List.reverse_reverse] at whole
    rw [reported, if_pos reporting, getLast?_runningTotals, whole]
    cases blocks : (start options transfer ended).stagedOn schedule with
    | nil =>
        rw [blocks] at whole
        have empty : source = [] := List.eq_nil_of_length_eq_zero whole.symm
        rw [if_pos rfl, if_pos empty]
    | cons block others =>
        have positive := filled block (by simp [blocks])
        have sum : payloadBytes (block :: others) = block.payload.length + payloadBytes others :=
          List.sum_cons
        have nonempty : source ≠ [] := by
          intro empty
          rw [blocks, sum, empty, List.length_nil] at whole
          omega
        rw [if_neg (by simp), if_neg nonempty]

theorem overtaking_upload_reports_in_order :
    ∃ upload receipt,
      (start { blockSize := 2, maxConcurrency := 2, reportsProgress := true }
        (.random fun _ => 0) none).steps overtaking = some upload ∧
      UploadStep.draw [1, 2, 3] overtaking = some [] ∧
      upload.phase = .returned (.ok receipt) ∧
      upload.reports.reverse = runningTotals [⟨1, [3]⟩, ⟨0, [1, 2]⟩] ∧
      upload.reports.reverse.Pairwise (· < ·) ∧ upload.reports.reverse.getLast? = some 3 := by
  have ran : (start { blockSize := 2, maxConcurrency := 2, reportsProgress := true }
      (.random fun _ => 0) none).steps overtaking = some _ := rfl
  have drawn : UploadStep.draw [1, 2, 3] overtaking = some [] := by decide
  obtain ⟨_, reported, increasing, _, last⟩ := progress_follows_staging ran drawn
  exact ⟨_, _, ran, drawn, rfl, reported, increasing, last _ rfl rfl⟩

end Upload

end BlobTransfer
