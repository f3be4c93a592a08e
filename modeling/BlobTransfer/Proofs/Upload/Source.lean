import BlobTransfer.Proofs.Upload.Transition

/-!
The blocks that a source is cut into, and schedules that read a given source: whatever the sizes
of the reads, their bytes are those of the source in order, and its end comes after the last one.
-/

namespace BlobTransfer

namespace UploadOptions

def block (options : UploadOptions) (source : Bytes) (number : Nat) : Block :=
  ⟨number, (source.drop (number * options.blockSize)).take options.blockSize⟩

def firstBlocks (options : UploadOptions) (source : Bytes) (count : Nat) : List Block :=
  (List.range count).map (options.block source)

def cut (options : UploadOptions) (source : Bytes) : List Block :=
  options.firstBlocks source (options.blocksFor source.length)

theorem firstBlocks_succ (options : UploadOptions) (source : Bytes) (count : Nat) :
    options.firstBlocks source (count + 1) =
      options.firstBlocks source count ++ [options.block source count] := by
  simp [firstBlocks, List.range_succ]

theorem block_of_drop {options : UploadOptions} {source payload rest : Bytes} {number : Nat}
    (fits : payload.length ≤ options.blockSize)
    (last : payload.length < options.blockSize → rest = [])
    (split : source.drop (number * options.blockSize) = payload ++ rest) :
    options.block source number = ⟨number, payload⟩ := by
  simp only [block, split, Block.mk.injEq, true_and]
  by_cases short : payload.length < options.blockSize
  · rw [last short, List.append_nil, List.take_of_length_le fits]
  · exact List.take_left' (Nat.le_antisymm fits (Nat.not_lt.mp short))

theorem mem_firstBlocks {options : UploadOptions} {source : Bytes} {count : Nat} {block : Block} :
    block ∈ options.firstBlocks source count ↔
      block.number < count ∧ options.block source block.number = block := by
  simp only [firstBlocks, List.mem_map, List.mem_range]
  constructor
  · rintro ⟨number, listed, rfl⟩
    exact ⟨listed, rfl⟩
  · rintro ⟨listed, same⟩
    exact ⟨block.number, listed, same⟩

theorem blocksFor_whole (options : UploadOptions) {size count : Nat}
    (positive : 0 < options.blockSize) (whole : size = count * options.blockSize) :
    options.blocksFor size = count := by
  rw [blocksFor, whole]
  apply Nat.div_eq_of_lt_le
  · omega
  · rw [Nat.add_mul, Nat.one_mul]
    omega

theorem blocksFor_rest (options : UploadOptions) {size count rest : Nat}
    (positive : 0 < rest) (fits : rest ≤ options.blockSize)
    (split : size = count * options.blockSize + rest) :
    options.blocksFor size = count + 1 := by
  rw [blocksFor, split]
  apply Nat.div_eq_of_lt_le
  · rw [Nat.add_mul, Nat.one_mul]
    omega
  · rw [Nat.add_mul, Nat.add_mul, Nat.one_mul]
    omega

theorem le_blocksFor_mul (options : UploadOptions) (positive : 0 < options.blockSize) (size : Nat) :
    size ≤ options.blocksFor size * options.blockSize := by
  have below := Nat.lt_div_mul_add positive (a := size + options.blockSize - 1)
  unfold blocksFor
  omega

theorem flatMap_firstBlocks (options : UploadOptions) (source : Bytes) (count : Nat) :
    (options.firstBlocks source count).flatMap (·.payload) =
      source.take (count * options.blockSize) := by
  induction count with
  | zero => simp [firstBlocks]
  | succ count ih =>
      rw [firstBlocks_succ, List.flatMap_append, ih, List.flatMap_singleton, block, Nat.add_mul,
        Nat.one_mul, List.take_add]

theorem flatMap_block (options : UploadOptions) (positive : 0 < options.blockSize)
    (source : Bytes) :
    ((List.range (options.blocksFor source.length)).flatMap fun number =>
      (options.block source number).payload) = source := by
  have front := options.flatMap_firstBlocks source (options.blocksFor source.length)
  rw [firstBlocks, List.flatMap_map,
    List.take_of_length_le (options.le_blocksFor_mul positive source.length)] at front
  exact front

theorem lt_blocksFor (options : UploadOptions) {size count : Nat}
    (positive : 0 < options.blockSize) (more : count * options.blockSize < size) :
    count < options.blocksFor size := by
  rw [blocksFor, Nat.lt_iff_add_one_le, Nat.le_div_iff_mul_le positive, Nat.add_mul, Nat.one_mul]
  omega

end UploadOptions

def UploadStep.leave (left : Bytes) : UploadStep → Option Bytes
  | .read bytes => if bytes <+: left then some (left.drop bytes.length) else none
  | .sourceEnd => if left = [] then some left else none
  | _ => some left

def UploadStep.draw (source : Bytes) (schedule : List UploadStep) : Option Bytes :=
  schedule.foldlM UploadStep.leave source

namespace Upload

theorem steps_append {upload final : Upload} {before after : List UploadStep} :
    upload.steps (before ++ after) = some final ↔
      ∃ middle, upload.steps before = some middle ∧ middle.steps after = some final := by
  rw [steps, List.foldlM_append]
  exact Option.bind_eq_some_iff

theorem steps_cons {upload final : Upload} {step : UploadStep} {after : List UploadStep} :
    upload.steps (step :: after) = some final ↔
      ∃ next, upload.step step = some next ∧ next.steps after = some final := by
  rw [steps, List.foldlM_cons]
  exact Option.bind_eq_some_iff

/-- What every transition of a schedule preserves, along with what is left of the source, holds at
its end. Each transition is known with the steps that led to it. -/
theorem steps_preserve_within (Invariant : Upload → Bytes → Prop) {first : Upload}
    {schedule : List UploadStep}
    (preserve : ∀ before step after upload left next rest, schedule = before ++ step :: after →
      first.steps before = some upload → Invariant upload left →
      Transition upload step next → step.leave left = some rest → Invariant next rest)
    {final : Upload} {left rest : Bytes}
    (initial : Invariant first left) (ran : first.steps schedule = some final)
    (drawn : UploadStep.draw left schedule = some rest) : Invariant final rest := by
  induction schedule generalizing first left with
  | nil =>
      simp only [steps, UploadStep.draw, List.foldlM_nil, pure, Option.some.injEq] at ran drawn
      subst final rest
      exact initial
  | cons step after ih =>
      obtain ⟨next, possible, continued⟩ := steps_cons.mp ran
      rw [UploadStep.draw, List.foldlM_cons] at drawn
      obtain ⟨middle, taken, remaining⟩ := Option.bind_eq_some_iff.mp drawn
      have kept := preserve [] step after first left next middle rfl rfl initial
        (transition_of_step possible) taken
      refine ih ?_ kept continued remaining
      intro before later others upload left next rest split reached
      refine preserve (step :: before) later others upload left next rest ?_ ?_
      · rw [split, List.cons_append]
      · exact steps_cons.mpr ⟨_, possible, reached⟩

theorem steps_preserve (Invariant : Upload → Bytes → Prop) {schedule : List UploadStep}
    (preserve : ∀ upload left step next rest, step ∈ schedule → Invariant upload left →
      Transition upload step next → step.leave left = some rest → Invariant next rest)
    {upload final : Upload} {left rest : Bytes}
    (initial : Invariant upload left) (ran : upload.steps schedule = some final)
    (drawn : UploadStep.draw left schedule = some rest) : Invariant final rest := by
  refine steps_preserve_within Invariant ?_ initial ran drawn
  intro before step after upload left next rest split _
  exact preserve upload left step next rest (by simp [split])

theorem steps_preserve_all (Invariant : Upload → Prop)
    (preserve : ∀ upload step next, Invariant upload → Transition upload step next →
      Invariant next)
    {schedule : List UploadStep} {upload final : Upload}
    (initial : Invariant upload) (ran : upload.steps schedule = some final) :
    Invariant final := by
  induction schedule generalizing upload with
  | nil =>
      simp only [steps, List.foldlM_nil, pure, Option.some.injEq] at ran
      subst final
      exact initial
  | cons step after ih =>
      obtain ⟨next, possible, continued⟩ := steps_cons.mp ran
      exact ih (preserve upload step next initial (transition_of_step possible)) continued

theorem draw_append {source rest : Bytes} {before after : List UploadStep} :
    UploadStep.draw source (before ++ after) = some rest ↔
      ∃ left, UploadStep.draw source before = some left ∧
        UploadStep.draw left after = some rest := by
  rw [UploadStep.draw, List.foldlM_append]
  exact Option.bind_eq_some_iff

end Upload

end BlobTransfer
