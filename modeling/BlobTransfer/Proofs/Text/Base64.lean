import BlobTransfer.Base64
import BlobTransfer.Proofs.Fallible
import BlobTransfer.Proofs.Text.Utf8

/-!
Bytes that were written as Base64 are read back as they were, and nothing is read that was not
written in this way.
-/

namespace BlobTransfer.Base64

theorem symbolByte_plain : ∀ value < 64,
    symbolValue? (symbolByte value) = some value ∧ symbolByte value ≠ padByte ∧
      (symbolByte value).toNat < 128 := by
  decide

theorem valueAt_symbolByte {value : Nat} (small : value < 64) (offset : Nat) :
    valueAt (symbolByte value) offset = .ok value := by
  simp only [valueAt, (symbolByte_plain value small).1]

theorem valuesFrom_symbols {values : List Nat} (small : ∀ value ∈ values, value < 64)
    (offset : Nat) : valuesFrom offset (values.map symbolByte) = .ok values := by
  induction values generalizing offset with
  | nil => rfl
  | cons value rest ih =>
      obtain ⟨first, others⟩ := List.forall_mem_cons.mp small
      simp only [List.map_cons, valuesFrom, valueAt_symbolByte first, ih others]
      rfl

theorem split_symbols {values : List Nat} (small : ∀ value ∈ values, value < 64) (pads : Nat) :
    (values.map symbolByte ++ List.replicate pads padByte).takeWhile (· != padByte) =
        values.map symbolByte ∧
      (values.map symbolByte ++ List.replicate pads padByte).dropWhile (· != padByte) =
        List.replicate pads padByte := by
  have symbols : ∀ symbol ∈ values.map symbolByte, (symbol != padByte) = true := by
    intro symbol member
    obtain ⟨value, listed, rfl⟩ := List.mem_map.mp member
    simpa using (symbolByte_plain value (small value listed)).2.1
  rw [List.takeWhile_append_of_pos symbols, List.dropWhile_append_of_pos symbols]
  cases pads <;> simp [List.replicate_succ]

/-! The symbols of three bytes, and the bytes again. -/

section Quad

variable (first second third : UInt8)

theorem quad_small : first.toNat / 4 < 64 ∧ first.toNat % 4 * 16 + second.toNat / 16 < 64 ∧
    second.toNat % 16 * 4 + third.toNat / 64 < 64 ∧ third.toNat % 64 < 64 := by
  have := first.toNat_lt
  have := second.toNat_lt
  have := third.toNat_lt
  omega

theorem quad_first :
    UInt8.ofNat (first.toNat / 4 * 4 + (first.toNat % 4 * 16 + second.toNat / 16) / 16) =
      first := by
  have := second.toNat_lt
  rw [show first.toNat / 4 * 4 + (first.toNat % 4 * 16 + second.toNat / 16) / 16 = first.toNat by
    omega, UInt8.ofNat_toNat]

theorem quad_second :
    UInt8.ofNat ((first.toNat % 4 * 16 + second.toNat / 16) % 16 * 16 +
      (second.toNat % 16 * 4 + third.toNat / 64) / 4) = second := by
  have := second.toNat_lt
  have := third.toNat_lt
  rw [show (first.toNat % 4 * 16 + second.toNat / 16) % 16 * 16 +
    (second.toNat % 16 * 4 + third.toNat / 64) / 4 = second.toNat by omega, UInt8.ofNat_toNat]

theorem quad_third :
    UInt8.ofNat ((second.toNat % 16 * 4 + third.toNat / 64) % 4 * 64 + third.toNat % 64) =
      third := by
  have := third.toNat_lt
  rw [show (second.toNat % 16 * 4 + third.toNat / 64) % 4 * 64 + third.toNat % 64 =
    third.toNat by omega, UInt8.ofNat_toNat]

end Quad

theorem decodeLast_two {high low : Nat} (small : ∀ value ∈ [high, low], value < 64)
    (filled : low % 16 = 0) (offset : Nat) :
    decodeLast offset [symbolByte high, symbolByte low, padByte, padByte] =
      .ok [UInt8.ofNat (high * 4 + low / 16)] := by
  obtain ⟨symbols, pads⟩ := split_symbols small 2
  have values := valuesFrom_symbols small offset
  simp only [List.map_cons, List.map_nil, List.replicate, List.cons_append, List.nil_append]
    at symbols pads values
  simp [decodeLast, symbols, pads, values, filled, bind, Except.bind, pure, Except.pure]

theorem decodeLast_three {high middle low : Nat} (small : ∀ value ∈ [high, middle, low], value < 64)
    (filled : low % 4 = 0) (offset : Nat) :
    decodeLast offset [symbolByte high, symbolByte middle, symbolByte low, padByte] =
      .ok [UInt8.ofNat (high * 4 + middle / 16), UInt8.ofNat (middle % 16 * 16 + low / 4)] := by
  obtain ⟨symbols, pads⟩ := split_symbols small 1
  have values := valuesFrom_symbols small offset
  simp only [List.map_cons, List.map_nil, List.replicate, List.cons_append, List.nil_append]
    at symbols pads values
  simp [decodeLast, symbols, pads, values, filled, bind, Except.bind, pure, Except.pure]

theorem decodeLast_four {high middle low last : Nat}
    (small : ∀ value ∈ [high, middle, low, last], value < 64) (offset : Nat) :
    decodeLast offset [symbolByte high, symbolByte middle, symbolByte low, symbolByte last] =
      .ok [UInt8.ofNat (high * 4 + middle / 16), UInt8.ofNat (middle % 16 * 16 + low / 4),
        UInt8.ofNat (low % 4 * 64 + last)] := by
  obtain ⟨symbols, pads⟩ := split_symbols small 0
  have values := valuesFrom_symbols small offset
  simp only [List.map_cons, List.map_nil, List.replicate, List.append_nil] at symbols pads values
  simp [decodeLast, symbols, pads, values, bind, Except.bind, pure, Except.pure]

theorem encode_shape : ∀ bytes : Bytes, bytes = [] ∨ ∃ next others, encode bytes = next :: others
  | [] => .inl rfl
  | [_] | [_, _] | _ :: _ :: _ :: _ => .inr ⟨_, _, rfl⟩

theorem decodeQuads_encode (bytes : Bytes) (offset : Nat) :
    decodeQuads offset (encode bytes) = .ok bytes := by
  induction bytes using encode.induct generalizing offset with
  | case1 => rfl
  | case2 first =>
      obtain ⟨high, low, _⟩ := quad_small first 0 0
      have front : UInt8.ofNat (first.toNat / 4 * 4 + first.toNat % 4 * 16 / 16) = first :=
        quad_first first 0
      rw [encode, decodeQuads, decodeLast_two (by simpa using ⟨high, low⟩) (by omega), front]
      simp
  | case3 first second =>
      obtain ⟨high, middle, low, _⟩ := quad_small first second 0
      have back : UInt8.ofNat ((first.toNat % 4 * 16 + second.toNat / 16) % 16 * 16 +
          second.toNat % 16 * 4 / 4) = second := quad_second first second 0
      rw [encode, decodeQuads, decodeLast_three (by simpa using ⟨high, middle, low⟩) (by omega),
        quad_first, back]
      simp
  | case4 first second third rest ih =>
      obtain ⟨high, middle, low, last⟩ := quad_small first second third
      obtain rfl | ⟨next, others, encoded⟩ := encode_shape rest
      · rw [encode, encode, decodeQuads, decodeLast_four
          (by simpa using ⟨high, middle, low, last⟩), quad_first, quad_second, quad_third]
        simp
      · have onward := ih (offset + 4)
        rw [encoded] at onward
        rw [encode, encoded, decodeQuads]
        simp only [valueAt_symbolByte high, valueAt_symbolByte middle, valueAt_symbolByte low,
          valueAt_symbolByte last, onward, bind, Except.bind, pure, Except.pure, quad_first,
          quad_second, quad_third]

theorem encode_ascii (bytes : Bytes) : ∀ symbol ∈ encode bytes, symbol.toNat < 128 := by
  induction bytes using encode.induct with
  | case1 => simp [encode]
  | case2 first =>
      obtain ⟨high, low, _⟩ := quad_small first 0 0
      simp only [encode, List.forall_mem_cons]
      exact ⟨(symbolByte_plain _ high).2.2, (symbolByte_plain _ low).2.2, by decide, by decide,
        by simp⟩
  | case3 first second =>
      obtain ⟨high, middle, low, _⟩ := quad_small first second 0
      simp only [encode, List.forall_mem_cons]
      exact ⟨(symbolByte_plain _ high).2.2, (symbolByte_plain _ middle).2.2,
        (symbolByte_plain _ low).2.2, by decide, by simp⟩
  | case4 first second third rest ih =>
      obtain ⟨high, middle, low, last⟩ := quad_small first second third
      simp only [encode, List.forall_mem_cons]
      exact ⟨(symbolByte_plain _ high).2.2, (symbolByte_plain _ middle).2.2,
        (symbolByte_plain _ low).2.2, (symbolByte_plain _ last).2.2, ih⟩

theorem encode_length_mod (bytes : Bytes) : (encode bytes).length % 4 = 0 := by
  induction bytes using encode.induct with
  | case1 | case2 | case3 => simp [encode]
  | case4 first second third rest ih =>
      simp only [encode, List.length_cons]
      omega

theorem decode_encode (bytes : Bytes) : decode (encode bytes) = .ok bytes := by
  have whole := encode_length_mod bytes
  have straight : strayLast? (encode bytes) = none := by
    unfold strayLast?
    split
    · rw [if_neg (by omega)]
    · rfl
  rw [decode, straight, decodeQuads_encode]

theorem symbol_of_value : ∀ code < 256, ∀ value ∈ symbolValue? (UInt8.ofNat code),
    symbolByte value = UInt8.ofNat code ∧ value < 64 := by
  decide +kernel

theorem symbol_of_valueAt {symbol : UInt8} {offset value : Nat}
    (read : valueAt symbol offset = .ok value) : symbolByte value = symbol ∧ value < 64 := by
  have known := symbol_of_value symbol.toNat symbol.toNat_lt value
  rw [UInt8.ofNat_toNat] at known
  unfold valueAt at read
  split at read
  · rename_i found
    exact known (Except.ok.inj read ▸ found)
  · simp at read

theorem symbols_of_valuesFrom {symbols : Bytes} {offset : Nat} {values : List Nat}
    (read : valuesFrom offset symbols = .ok values) :
    values.map symbolByte = symbols ∧ ∀ value ∈ values, value < 64 := by
  induction symbols generalizing offset values with
  | nil =>
      obtain rfl := Except.ok.inj read
      simp
  | cons symbol rest ih =>
      simp only [valuesFrom, bind_eq_ok] at read
      obtain ⟨value, first, others, remaining, same⟩ := read
      obtain rfl := Except.ok.inj same
      obtain ⟨front, small⟩ := symbol_of_valueAt first
      obtain ⟨back, others⟩ := ih remaining
      exact ⟨by rw [List.map_cons, front, back], List.forall_mem_cons.mpr ⟨small, others⟩⟩

/-! Bytes put together from symbols, and the symbols again. -/

theorem encode_two {high low : Nat} (small : ∀ value ∈ [high, low], value < 64)
    (filled : low % 16 = 0) :
    encode [UInt8.ofNat (high * 4 + low / 16)] =
      [symbolByte high, symbolByte low, padByte, padByte] := by
  obtain ⟨_, _⟩ : high < 64 ∧ low < 64 := by simpa using small
  have first : (UInt8.ofNat (high * 4 + low / 16)).toNat = high * 4 + low / 16 :=
    Utf8.toNat_ofNat_of_lt (by omega)
  rw [encode, first, show (high * 4 + low / 16) / 4 = high by omega,
    show (high * 4 + low / 16) % 4 * 16 = low by omega]

theorem encode_three {high middle low : Nat} (small : ∀ value ∈ [high, middle, low], value < 64)
    (filled : low % 4 = 0) :
    encode [UInt8.ofNat (high * 4 + middle / 16), UInt8.ofNat (middle % 16 * 16 + low / 4)] =
      [symbolByte high, symbolByte middle, symbolByte low, padByte] := by
  obtain ⟨_, _, _⟩ : high < 64 ∧ middle < 64 ∧ low < 64 := by simpa using small
  have first : (UInt8.ofNat (high * 4 + middle / 16)).toNat = high * 4 + middle / 16 :=
    Utf8.toNat_ofNat_of_lt (by omega)
  have second : (UInt8.ofNat (middle % 16 * 16 + low / 4)).toNat = middle % 16 * 16 + low / 4 :=
    Utf8.toNat_ofNat_of_lt (by omega)
  rw [encode, first, second, show (high * 4 + middle / 16) / 4 = high by omega,
    show (high * 4 + middle / 16) % 4 * 16 + (middle % 16 * 16 + low / 4) / 16 = middle by omega,
    show (middle % 16 * 16 + low / 4) % 16 * 4 = low by omega]

theorem encode_four {high middle low last : Nat}
    (small : ∀ value ∈ [high, middle, low, last], value < 64) (rest : Bytes) :
    encode (UInt8.ofNat (high * 4 + middle / 16) :: UInt8.ofNat (middle % 16 * 16 + low / 4) ::
        UInt8.ofNat (low % 4 * 64 + last) :: rest) =
      symbolByte high :: symbolByte middle :: symbolByte low :: symbolByte last ::
        encode rest := by
  obtain ⟨_, _, _, _⟩ : high < 64 ∧ middle < 64 ∧ low < 64 ∧ last < 64 := by simpa using small
  have first : (UInt8.ofNat (high * 4 + middle / 16)).toNat = high * 4 + middle / 16 :=
    Utf8.toNat_ofNat_of_lt (by omega)
  have second : (UInt8.ofNat (middle % 16 * 16 + low / 4)).toNat = middle % 16 * 16 + low / 4 :=
    Utf8.toNat_ofNat_of_lt (by omega)
  have third : (UInt8.ofNat (low % 4 * 64 + last)).toNat = low % 4 * 64 + last :=
    Utf8.toNat_ofNat_of_lt (by omega)
  rw [encode, first, second, third, show (high * 4 + middle / 16) / 4 = high by omega,
    show (high * 4 + middle / 16) % 4 * 16 + (middle % 16 * 16 + low / 4) / 16 = middle by omega,
    show (middle % 16 * 16 + low / 4) % 16 * 4 + (low % 4 * 64 + last) / 64 = low by omega,
    show (low % 4 * 64 + last) % 64 = last by omega]

theorem pads_of_passed {values : List Nat} {pads : Bytes}
    (passed : ¬(!pads.isEmpty && (decide ((values.map symbolByte).length < 2) ||
      pads.any (· != padByte))) = true) :
    pads = List.replicate pads.length padByte ∧ (pads = [] ∨ 2 ≤ values.length) := by
  cases pads with
  | nil => simp
  | cons first others =>
      simp only [List.isEmpty_cons, Bool.not_false, Bool.true_and, Bool.or_eq_true,
        decide_eq_true_eq, List.length_map, not_or, Nat.not_lt, List.any_eq_true, bne_iff_ne,
        not_exists, not_and, Decidable.not_not] at passed
      exact ⟨List.eq_replicate_iff.mpr ⟨rfl, passed.2⟩, .inr passed.1⟩

theorem encode_of_decodeLast {offset : Nat} {quad bytes : Bytes} (short : quad.length ≤ 4)
    (read : decodeLast offset quad = .ok bytes) : encode bytes = quad := by
  have split : quad.takeWhile (· != padByte) ++ quad.dropWhile (· != padByte) = quad :=
    List.takeWhile_append_dropWhile
  simp only [decodeLast, bind_eq_ok] at read
  obtain ⟨values, known, read⟩ := read
  obtain ⟨symbols, small⟩ := symbols_of_valuesFrom known
  rw [← symbols] at read split
  generalize quad.dropWhile (· != padByte) = pads at read split
  split at read
  · simp [throw_bind] at read
  rename_i passed
  obtain ⟨padded, enough⟩ := pads_of_passed passed
  match values with
  | [] =>
      obtain rfl : pads = [] := by simpa using enough
      obtain rfl := Except.ok.inj read
      exact split
  | [_] => simp at read
  | [high, low] =>
      by_cases two : pads.length = 2
      · by_cases filled : low % 16 = 0
        · simp only [two, filled, ne_eq, not_true_eq_false, if_false] at read
          obtain rfl := Except.ok.inj read
          rw [encode_two small filled, ← split, padded, two]
          rfl
        · simp [two, filled, map_throw] at read
      · simp [two, throw_bind] at read
  | [high, middle, low] =>
      by_cases one : pads.length = 1
      · by_cases filled : low % 4 = 0
        · simp only [one, filled, ne_eq, not_true_eq_false, if_false] at read
          obtain rfl := Except.ok.inj read
          rw [encode_three small filled, ← split, padded, one]
          rfl
        · simp [one, filled, map_throw] at read
      · simp [one, throw_bind] at read
  | high :: middle :: low :: last :: others =>
      obtain rfl := Except.ok.inj read
      rw [← split] at short
      simp only [List.map_cons, List.length_append, List.length_cons, List.length_map] at short
      obtain rfl : others = [] := List.length_eq_zero_iff.mp (by omega)
      obtain rfl : pads = [] := List.length_eq_zero_iff.mp (by omega)
      rw [encode_four small, ← split]
      rfl

theorem encode_of_decodeQuads {offset : Nat} {text bytes : Bytes}
    (read : decodeQuads offset text = .ok bytes) : encode bytes = text := by
  induction offset, text using decodeQuads.induct generalizing bytes with
  | case1 offset first second third fourth next rest ih =>
      simp only [decodeQuads, bind_eq_ok] at read
      obtain ⟨high, first', middle, second', low, third', last, fourth', others, onward, same⟩ :=
        read
      obtain rfl := Except.ok.inj same
      obtain ⟨rfl, small⟩ := symbol_of_valueAt first'
      obtain ⟨rfl, small'⟩ := symbol_of_valueAt second'
      obtain ⟨rfl, small''⟩ := symbol_of_valueAt third'
      obtain ⟨rfl, small'''⟩ := symbol_of_valueAt fourth'
      rw [encode_four (by simp; omega), ih onward]
  | case2 offset quad single =>
      rw [decodeQuads] at read
      · refine encode_of_decodeLast ?_ read
        match quad with
        | [] | [_] | [_, _] | [_, _, _] | [_, _, _, _] => simp
        | first :: second :: third :: fourth :: next :: rest =>
            exact absurd rfl (single first second third fourth next rest)
      · exact single

theorem decode_eq_ok {text bytes : Bytes} : decode text = .ok bytes ↔ text = encode bytes := by
  constructor
  · intro read
    unfold decode at read
    split at read
    · simp at read
    · exact (encode_of_decodeQuads read).symm
  · rintro rfl
    exact decode_encode bytes

def alphabet : List Char :=
  "ABCDEFGHIJKLMNOPQRSTUVWXYZabcdefghijklmnopqrstuvwxyz0123456789+/".toList

theorem symbolByte_eq : ∀ value < 64,
    Char.ofNat (symbolByte value).toNat = alphabet.getD value '=' := by
  decide +kernel

theorem encode_one_over {bytes : Bytes} {quads : Nat} (size : bytes.length = 3 * quads + 1) :
    ∃ values last, values.length = 4 * quads + 1 ∧ (∀ value ∈ values, value < 64) ∧ last < 4 ∧
      encode bytes = (values ++ [16 * last]).map symbolByte ++ [padByte, padByte] := by
  induction quads generalizing bytes with
  | zero =>
      obtain ⟨first, rfl⟩ := List.length_eq_one_iff.mp size
      have := first.toNat_lt
      refine ⟨[first.toNat / 4], first.toNat % 4, rfl, by simp; omega, by omega, ?_⟩
      rw [Nat.mul_comm 16]
      rfl
  | succ quads ih =>
      match bytes with
      | [] | [_] | [_, _] => simp at size; try omega
      | first :: second :: third :: rest =>
          have shorter : rest.length = 3 * quads + 1 := by
            simp only [List.length_cons] at size
            omega
          obtain ⟨values, last, count, small, two, encoded⟩ := ih shorter
          obtain ⟨high, middle, low, fourth⟩ := quad_small first second third
          refine ⟨first.toNat / 4 :: (first.toNat % 4 * 16 + second.toNat / 16) ::
            (second.toNat % 16 * 4 + third.toNat / 64) :: third.toNat % 64 :: values, last, ?_, ?_,
            two, ?_⟩
          · simp only [List.length_cons]
            omega
          · simp only [List.forall_mem_cons]
            exact ⟨high, middle, low, fourth, small⟩
          · rw [encode, encoded]
            rfl

theorem toNat_charOfNat : ∀ value < 128, (Char.ofNat value).toNat = value := by
  decide

theorem ofText_ascii {symbols : Bytes} (ascii : ∀ symbol ∈ symbols, symbol.toNat < 128) :
    Bytes.ofText (String.ofList (symbols.map fun symbol => Char.ofNat symbol.toNat)) =
      symbols := by
  rw [Utf8.ofText_ofList]
  induction symbols with
  | nil => rfl
  | cons symbol rest ih =>
      obtain ⟨first, others⟩ := List.forall_mem_cons.mp ascii
      have same := toNat_charOfNat symbol.toNat first
      rw [List.map_cons, List.flatMap_cons, ih others, Utf8.encodeChar_of_lt (by rwa [same]), same,
        UInt8.ofNat_toNat, List.singleton_append]

theorem ofText_encodeText (bytes : Bytes) : Bytes.ofText (encodeText bytes) = encode bytes :=
  ofText_ascii (encode_ascii bytes)

end BlobTransfer.Base64
