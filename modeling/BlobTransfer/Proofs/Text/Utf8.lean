import BlobTransfer.Text.Utf8

/-!
Text that was written as UTF-8 is read back as it was, character by character.
-/

namespace BlobTransfer.Utf8

theorem toNat_ofNat_of_lt {value : Nat} (small : value < 256) :
    (UInt8.ofNat value).toNat = value := by
  rw [UInt8.toNat_ofNat']
  exact Nat.mod_eq_of_lt small

theorem lt_ofNat {value : Nat} (small : value < 256) (bound : UInt8) :
    UInt8.ofNat value < bound ↔ value < bound.toNat := by
  rw [UInt8.lt_iff_toNat_lt, toNat_ofNat_of_lt small]

theorem ofNat_le {value : Nat} (small : value < 256) (bound : UInt8) :
    UInt8.ofNat value ≤ bound ↔ value ≤ bound.toNat := by
  rw [UInt8.le_iff_toNat_le, toNat_ofNat_of_lt small]

theorem le_ofNat {value : Nat} (small : value < 256) (bound : UInt8) :
    bound ≤ UInt8.ofNat value ↔ bound.toNat ≤ value := by
  rw [UInt8.le_iff_toNat_le, toNat_ofNat_of_lt small]

theorem isContinuation_ofNat {value : Nat} (bits : value < 64) :
    isContinuation (UInt8.ofNat (value + 128)) = true := by
  have small : value + 128 < 256 := by omega
  simp only [isContinuation, Bool.and_eq_true, decide_eq_true_eq, le_ofNat small, ofNat_le small]
  constructor
  · exact Nat.le_add_left 128 value
  · change value + 128 ≤ 191
    omega

theorem payload_ofNat {value : Nat} (bits : value < 64) :
    payload (UInt8.ofNat (value + 128)) = value := by
  rw [payload, toNat_ofNat_of_lt (by omega)]
  omega

theorem ofNat_ne {value : Nat} (small : value < 256) {byte : UInt8}
    (different : value ≠ byte.toNat) : UInt8.ofNat value ≠ byte := by
  intro same
  apply different
  rw [← same, toNat_ofNat_of_lt small]

theorem decodeChars_one {value : Nat} (small : value < 0x80) (rest : Bytes) :
    decodeChars (UInt8.ofNat value :: rest) = Char.ofNat value :: decodeChars rest := by
  have short : UInt8.ofNat value < 0x80 := (lt_ofNat (by omega) _).mpr small
  rw [decodeChars.eq_def]
  simp only [short, if_true, toNat_ofNat_of_lt (by omega : value < 256)]

theorem not_short {value : Nat} (small : value < 256) (long : 0x80 ≤ value) :
    ¬UInt8.ofNat value < 0x80 := by
  rw [lt_ofNat small]
  exact Nat.not_lt.mpr long

theorem between_ofNat {value : Nat} (small : value < 256) (low high : UInt8) :
    (decide (low ≤ UInt8.ofNat value) && decide (UInt8.ofNat value ≤ high)) =
      decide (low.toNat ≤ value ∧ value ≤ high.toNat) := by
  simp only [le_ofNat small, ofNat_le small, Bool.decide_and]

theorem decodeChars_two {upper lower : Nat} (least : 2 ≤ upper) (high : upper < 32)
    (low : lower < 64) (rest : Bytes) :
    decodeChars (UInt8.ofNat (upper + 192) :: UInt8.ofNat (lower + 128) :: rest) =
      Char.ofNat (upper * 64 + lower) :: decodeChars rest := by
  have small : upper + 192 < 256 := by omega
  have two : (decide (0xC2 ≤ UInt8.ofNat (upper + 192)) &&
      decide (UInt8.ofNat (upper + 192) ≤ 0xDF)) = true := by
    rw [between_ofNat small, decide_eq_true_eq]
    change 194 ≤ upper + 192 ∧ upper + 192 ≤ 223
    omega
  rw [decodeChars.eq_def]
  simp only [not_short small (by omega), two, isContinuation_ofNat low, if_true, if_false,
    toNat_ofNat_of_lt small, payload_ofNat low]
  rw [show upper + 192 - 192 = upper by omega]

theorem startsThree_ofNat {upper middle : Nat} (high : upper < 16) (mid : middle < 64)
    (least : 0x800 ≤ upper * 4096 + middle * 64 + 63)
    (scalar : upper * 4096 + middle * 64 < 0xD800 ∨ 0xDFFF < upper * 4096 + middle * 64) :
    startsThree (UInt8.ofNat (upper + 224)) (UInt8.ofNat (middle + 128)) = true := by
  have small : middle + 128 < 256 := by omega
  have first : upper + 224 < 256 := by omega
  simp only [startsThree, isContinuation_ofNat mid, Bool.true_and, Bool.and_eq_true,
    Bool.or_eq_true, decide_eq_true_eq, le_ofNat small, ofNat_le small]
  constructor
  · by_cases zero : upper = 0
    · right
      change 160 ≤ middle + 128
      omega
    · left
      exact ofNat_ne first (by change upper + 224 ≠ 224; omega)
  · by_cases thirteen : upper = 13
    · right
      change middle + 128 ≤ 159
      omega
    · left
      exact ofNat_ne first (by change upper + 224 ≠ 237; omega)

theorem decodeChars_three {upper middle lower : Nat} (high : upper < 16) (mid : middle < 64)
    (low : lower < 64) (least : 0x800 ≤ upper * 4096 + middle * 64 + 63)
    (scalar : upper * 4096 + middle * 64 < 0xD800 ∨ 0xDFFF < upper * 4096 + middle * 64)
    (rest : Bytes) :
    decodeChars (UInt8.ofNat (upper + 224) :: UInt8.ofNat (middle + 128) ::
        UInt8.ofNat (lower + 128) :: rest) =
      Char.ofNat (upper * 4096 + middle * 64 + lower) :: decodeChars rest := by
  have small : upper + 224 < 256 := by omega
  have notTwo : (decide (0xC2 ≤ UInt8.ofNat (upper + 224)) &&
      decide (UInt8.ofNat (upper + 224) ≤ 0xDF)) = false := by
    rw [between_ofNat small, decide_eq_false_iff_not]
    change ¬(194 ≤ upper + 224 ∧ upper + 224 ≤ 223)
    omega
  have three : (decide (0xE0 ≤ UInt8.ofNat (upper + 224)) &&
      decide (UInt8.ofNat (upper + 224) ≤ 0xEF)) = true := by
    rw [between_ofNat small, decide_eq_true_eq]
    change 224 ≤ upper + 224 ∧ upper + 224 ≤ 239
    omega
  rw [decodeChars.eq_def]
  simp only [not_short small (by omega), notTwo, three, Bool.false_eq_true, if_true, if_false,
    startsThree_ofNat high mid least scalar, isContinuation_ofNat low,
    toNat_ofNat_of_lt small, payload_ofNat mid, payload_ofNat low]
  rw [show upper + 224 - 224 = upper by omega]

theorem startsFour_ofNat {upper second : Nat} (high : upper < 5) (mid : second < 64)
    (least : 0x10000 ≤ upper * 262144 + second * 4096 + 4095)
    (most : upper * 262144 + second * 4096 < 0x110000) :
    startsFour (UInt8.ofNat (upper + 240)) (UInt8.ofNat (second + 128)) = true := by
  have small : second + 128 < 256 := by omega
  have first : upper + 240 < 256 := by omega
  simp only [startsFour, isContinuation_ofNat mid, Bool.true_and, Bool.and_eq_true,
    Bool.or_eq_true, decide_eq_true_eq, le_ofNat small, ofNat_le small]
  constructor
  · by_cases zero : upper = 0
    · right
      change 144 ≤ second + 128
      omega
    · left
      exact ofNat_ne first (by change upper + 240 ≠ 240; omega)
  · by_cases four : upper = 4
    · right
      change second + 128 ≤ 143
      omega
    · left
      exact ofNat_ne first (by change upper + 240 ≠ 244; omega)

theorem decodeChars_four {upper second third lower : Nat} (high : upper < 5) (mid : second < 64)
    (inner : third < 64) (low : lower < 64)
    (least : 0x10000 ≤ upper * 262144 + second * 4096 + 4095)
    (most : upper * 262144 + second * 4096 < 0x110000) (rest : Bytes) :
    decodeChars (UInt8.ofNat (upper + 240) :: UInt8.ofNat (second + 128) ::
        UInt8.ofNat (third + 128) :: UInt8.ofNat (lower + 128) :: rest) =
      Char.ofNat (upper * 262144 + second * 4096 + third * 64 + lower) :: decodeChars rest := by
  have small : upper + 240 < 256 := by omega
  have notTwo : (decide (0xC2 ≤ UInt8.ofNat (upper + 240)) &&
      decide (UInt8.ofNat (upper + 240) ≤ 0xDF)) = false := by
    rw [between_ofNat small, decide_eq_false_iff_not]
    change ¬(194 ≤ upper + 240 ∧ upper + 240 ≤ 223)
    omega
  have notThree : (decide (0xE0 ≤ UInt8.ofNat (upper + 240)) &&
      decide (UInt8.ofNat (upper + 240) ≤ 0xEF)) = false := by
    rw [between_ofNat small, decide_eq_false_iff_not]
    change ¬(224 ≤ upper + 240 ∧ upper + 240 ≤ 239)
    omega
  have four : (decide (0xF0 ≤ UInt8.ofNat (upper + 240)) &&
      decide (UInt8.ofNat (upper + 240) ≤ 0xF4)) = true := by
    rw [between_ofNat small, decide_eq_true_eq]
    change 240 ≤ upper + 240 ∧ upper + 240 ≤ 244
    omega
  rw [decodeChars.eq_def]
  simp only [not_short small (by omega), notTwo, notThree, four, Bool.false_eq_true, if_true,
    if_false, startsFour_ofNat high mid least most, isContinuation_ofNat inner,
    isContinuation_ofNat low, toNat_ofNat_of_lt small, payload_ofNat mid, payload_ofNat inner,
    payload_ofNat low]
  rw [show upper + 240 - 240 = upper by omega]

theorem decodeChars_encodeChar (c : Char) (rest : Bytes) :
    decodeChars (String.utf8EncodeChar c ++ rest) = c :: decodeChars rest := by
  have scalar : c.toNat < 0xD800 ∨ (0xDFFF < c.toNat ∧ c.toNat < 0x110000) := c.valid
  have same : Char.ofNat c.toNat = c := c.ofNat_toNat
  have value : c.val.toNat = c.toNat := rfl
  simp only [String.utf8EncodeChar, value]
  by_cases one : c.toNat ≤ 127
  · rw [if_pos one, List.singleton_append, decodeChars_one (by omega), same]
  · by_cases two : c.toNat ≤ 2047
    · rw [if_neg one, if_pos two, List.cons_append, List.singleton_append,
        decodeChars_two (by omega) (by omega) (by omega),
        show c.toNat / 64 % 32 * 64 + c.toNat % 64 = c.toNat by omega, same]
    · by_cases three : c.toNat ≤ 65535
      · rw [if_neg one, if_neg two, if_pos three, List.cons_append, List.cons_append,
          List.singleton_append, decodeChars_three (by omega) (by omega) (by omega) (by omega)
            (by omega),
          show c.toNat / 4096 % 16 * 4096 + c.toNat / 64 % 64 * 64 + c.toNat % 64 = c.toNat by
            omega, same]
      · rw [if_neg one, if_neg two, if_neg three, List.cons_append, List.cons_append,
          List.cons_append, List.singleton_append,
          decodeChars_four (by omega) (by omega) (by omega) (by omega) (by omega) (by omega),
          show c.toNat / 262144 % 8 * 262144 + c.toNat / 4096 % 64 * 4096 +
            c.toNat / 64 % 64 * 64 + c.toNat % 64 = c.toNat by omega, same]

theorem encodeChar_of_lt {c : Char} (ascii : c.toNat < 128) :
    String.utf8EncodeChar c = [UInt8.ofNat c.toNat] := by
  have value : c.val.toNat = c.toNat := rfl
  simp only [String.utf8EncodeChar, value]
  rw [if_pos (by omega)]

theorem ofText_ofList (chars : List Char) :
    Bytes.ofText (String.ofList chars) = chars.flatMap String.utf8EncodeChar := by
  simp [Bytes.ofText, String.toUTF8, List.utf8Encode]

theorem ofText_inj {text other : String} (same : Bytes.ofText text = Bytes.ofText other) :
    text = other := by
  apply String.toByteArray_inj.mp
  exact ByteArray.ext (Array.toList_inj.mp same)

theorem decodeChars_encode (chars : List Char) :
    decodeChars (chars.flatMap String.utf8EncodeChar) = chars := by
  induction chars with
  | nil => rfl
  | cons c rest ih => rw [List.flatMap_cons, decodeChars_encodeChar, ih]

end BlobTransfer.Utf8
