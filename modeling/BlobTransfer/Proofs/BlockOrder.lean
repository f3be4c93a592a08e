import BlobTransfer.Proofs.BlockId
import Mathlib.Algebra.Ring.Nat

/-!
The order of blocks. Bytes of one length compare as the numbers they write, so the blocks of one
transfer are in the order of their numbers, and sorting them puts them into that order. Blocks of
two transfers are never the same, unless the transfers have the same front.
-/

namespace BlobTransfer

theorem compare_digits {base low other : Nat} (small : low < base) (small' : other < base)
    (high top : Nat) :
    Ord.compare (high * base + low) (top * base + other) =
      (Ord.compare high top).then (Ord.compare low other) := by
  obtain below | rfl | above := Nat.lt_trichotomy high top
  · have room : (high + 1) * base ≤ top * base := Nat.mul_le_mul_right base below
    rw [Nat.add_one_mul] at room
    rw [Nat.compare_eq_lt.mpr below, Ordering.lt_then]
    exact Nat.compare_eq_lt.mpr (by omega)
  · rw [Nat.compare_eq_eq.mpr rfl, Ordering.eq_then]
    simp only [Nat.compare_eq_ite_lt, Nat.add_lt_add_iff_left]
  · have room : (top + 1) * base ≤ high * base := Nat.mul_le_mul_right base above
    rw [Nat.add_one_mul] at room
    rw [Nat.compare_eq_gt.mpr above, Ordering.gt_then]
    exact Nat.compare_eq_gt.mpr (by omega)

namespace Bytes

theorem compare_byte (left right : UInt8) :
    Ord.compare left right = Ord.compare left.toNat right.toNat := by
  simp only [Ord.compare, compareOfLessAndEq, UInt8.lt_iff_toNat_lt, ← UInt8.toNat_inj]

theorem compare_word (left right : UInt32) :
    Ord.compare left right = Ord.compare left.toNat right.toNat := by
  simp only [Ord.compare, compareOfLessAndEq, UInt32.lt_iff_toNat_lt, ← UInt32.toNat_inj]

theorem isLE_compare_word (left right : UInt32) :
    (Ord.compare left right).isLE = true ↔ left ≤ right := by
  rw [compare_word, Nat.isLE_compare, UInt32.le_iff_toNat_le]

theorem mergeSort_words {words ordered : List UInt32} (same : ordered.Perm words)
    (rising : ordered.Pairwise (· ≤ ·)) :
    (words.mergeSort fun left right => (Ord.compare left right).isLE) = ordered := by
  have sorted : (words.mergeSort fun left right => (Ord.compare left right).isLE).Pairwise
      (· ≤ ·) := by
    refine (List.pairwise_mergeSort ?_ ?_ words).imp (isLE_compare_word _ _).mp
    · intro first second third below above
      rw [isLE_compare_word] at below above ⊢
      exact UInt32.le_trans below above
    · intro first second
      rw [Bool.or_eq_true, isLE_compare_word, isLE_compare_word]
      exact UInt32.le_total first second
  exact List.Perm.eq_of_pairwise (fun _ _ _ _ => UInt32.le_antisymm) sorted rising
    ((List.mergeSort_perm words _).trans same.symm)

theorem length_ofWord (word : UInt32) : (ofWord word).length = 4 := rfl

def value : Bytes → Nat
  | [] => 0
  | first :: rest => first.toNat * 256 ^ rest.length + value rest

theorem value_lt (bytes : Bytes) : value bytes < 256 ^ bytes.length := by
  induction bytes with
  | nil => simp [value]
  | cons first rest ih =>
      have digit : (first.toNat + 1) * 256 ^ rest.length ≤ 256 * 256 ^ rest.length :=
        Nat.mul_le_mul_right _ first.toNat_lt
      rw [Nat.add_one_mul] at digit
      rw [value, List.length_cons, Nat.pow_succ']
      omega

theorem value_append (front back : Bytes) :
    value (front ++ back) = value front * 256 ^ back.length + value back := by
  induction front with
  | nil => simp [value]
  | cons first rest ih =>
      rw [List.cons_append, value, value, ih, List.length_append, Nat.pow_add, Nat.add_mul,
        Nat.mul_assoc, Nat.add_assoc]

theorem value_of_four (first second third fourth : UInt8) :
    value [first, second, third, fourth] = (toWord [first, second, third, fourth]).toNat := by
  rw [toNat_toWord]
  simp only [value, List.length_cons, List.length_nil]
  omega

theorem value_ofWord (word : UInt32) : value (ofWord word) = word.toNat :=
  (value_of_four ..).trans (congrArg UInt32.toNat (toWord_ofWord word))

end Bytes

namespace BlockId

theorem compareLex_eq_compareOfLessAndEq (left right : Bytes) :
    compare.compareLex left right = compareOfLessAndEq left right := by
  induction left generalizing right with
  | nil => cases right <;> simp [compare.compareLex, compareOfLessAndEq]
  | cons first rest ih =>
      cases right with
      | nil => simp [compare.compareLex, compareOfLessAndEq]
      | cons other others =>
          rw [compare.compareLex, ih]
          simp only [Ord.compare, compareOfLessAndEq, List.cons_lt_cons_iff, List.cons.injEq]
          by_cases below : first < other
          · simp [below]
          · by_cases same : first = other
            · simp [same]
            · simp [below, same]

theorem compareLex_eq_compare_value {left right : Bytes} (same : left.length = right.length) :
    compare.compareLex left right = Ord.compare (Bytes.value left) (Bytes.value right) := by
  induction left generalizing right with
  | nil =>
      obtain rfl := List.length_eq_zero_iff.mp same.symm
      rfl
  | cons first rest ih =>
      obtain ⟨other, others, rfl⟩ := List.exists_cons_of_length_eq_add_one same.symm
      have same' : rest.length = others.length := Nat.succ.inj same
      have small := Bytes.value_lt rest
      rw [same'] at small
      rw [compare.compareLex, ih same', Bytes.value, Bytes.value, same',
        compare_digits small (Bytes.value_lt others), Bytes.compare_byte]

theorem bytes_new (transfer : Uuid) (number : UInt32) :
    (BlockId.new transfer number).bytes = transfer.bytes.take 12 ++ Bytes.ofWord number :=
  rfl

theorem bytes_withNumber (id : BlockId) (number : UInt32) :
    (id.withNumber number).bytes = id.transferBytes ++ Bytes.ofWord number :=
  rfl

theorem value_new (transfer : Uuid) (number : UInt32) :
    Bytes.value (BlockId.new transfer number).bytes =
      Bytes.value (transfer.bytes.take 12) * UInt32.size + number.toNat := by
  rw [bytes_new, Bytes.value_append, Bytes.value_ofWord, Bytes.length_ofWord]
  rfl

theorem compare_new (transfer : Uuid) (number other : UInt32) :
    compare (BlockId.new transfer number) (BlockId.new transfer other) =
      Ord.compare number other := by
  have same : (BlockId.new transfer number).bytes.length =
      (BlockId.new transfer other).bytes.length := by
    rw [BlockId.length_eq, BlockId.length_eq]
  rw [compare, compareLex_eq_compare_value same, value_new, value_new,
    compare_digits number.toNat_lt other.toNat_lt, Nat.compare_eq_eq.mpr rfl, Ordering.eq_then,
    Bytes.compare_word]

theorem sort_new (transfer : Uuid) {numbers ordered : List UInt32}
    (same : ordered.Perm numbers) (rising : ordered.Pairwise (· ≤ ·)) :
    sort (numbers.map (BlockId.new transfer)) = ordered.map (BlockId.new transfer) := by
  rw [sort, ← Bytes.mergeSort_words same rising, List.map_mergeSort]
  intro number _ other _
  rw [compare_new]

theorem new_eq_new_iff {transfer rival : Uuid} {number other : UInt32} :
    BlockId.new transfer number = BlockId.new rival other ↔
      transfer.bytes.take 12 = rival.bytes.take 12 ∧ number = other := by
  constructor
  · exact new_inj
  · rintro ⟨front, rfl⟩
    apply BlockId.ext
    rw [bytes_new, bytes_new, front]

theorem withNumber_new (transfer : Uuid) (number other : UInt32) :
    (BlockId.new transfer number).withNumber other = BlockId.new transfer other := by
  apply BlockId.ext
  rw [bytes_withNumber, transferBytes_new, bytes_new]

/-- Blocks compare byte by byte, and those of one transfer therefore as their numbers: however they
come, sorting puts the numbers in order. Two blocks are one only if the fronts of their transfers
and their numbers are the same. Another number makes the other block of the same transfer. -/
theorem blocks_of_transfer_are_ordered :
    (∀ left right : BlockId,
      compare left right = compareOfLessAndEq left.bytes right.bytes) ∧
    (∀ (transfer : Uuid) (number other : UInt32),
      compare (BlockId.new transfer number) (BlockId.new transfer other) =
        Ord.compare number other) ∧
    (∀ (transfer : Uuid) (numbers ordered : List UInt32), ordered.Perm numbers →
      ordered.Pairwise (· ≤ ·) →
      sort (numbers.map (BlockId.new transfer)) = ordered.map (BlockId.new transfer)) ∧
    (∀ (transfer rival : Uuid) (number other : UInt32),
      BlockId.new transfer number = BlockId.new rival other ↔
        transfer.bytes.take 12 = rival.bytes.take 12 ∧ number = other) ∧
    ∀ (transfer : Uuid) (number other : UInt32),
      (BlockId.new transfer number).withNumber other = BlockId.new transfer other := by
  refine ⟨?_, compare_new, ?_, ?_, withNumber_new⟩
  · intro left right
    exact compareLex_eq_compareOfLessAndEq left.bytes right.bytes
  · intro transfer numbers ordered same rising
    exact sort_new transfer same rising
  · intro transfer rival number other
    exact new_eq_new_iff

theorem shuffled_blocks_are_put_in_order :
    [1, 255, 256, 65536].Perm [(256 : UInt32), 65536, 1, 255] ∧
    [(1 : UInt32), 255, 256, 65536].Pairwise (· ≤ ·) ∧
    sort ([256, 65536, 1, 255].map (BlockId.new (.random fun _ => 0))) =
      [1, 255, 256, 65536].map (BlockId.new (.random fun _ => 0)) := by
  have same : [1, 255, 256, 65536].Perm [(256 : UInt32), 65536, 1, 255] := by decide
  have rising : [(1 : UInt32), 255, 256, 65536].Pairwise (· ≤ ·) := by decide
  exact ⟨same, rising, blocks_of_transfer_are_ordered.2.2.1 _ _ _ same rising⟩

end BlockId

end BlobTransfer
