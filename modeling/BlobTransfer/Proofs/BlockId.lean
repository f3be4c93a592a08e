import BlobTransfer.BlockId
import BlobTransfer.Proofs.Text.Base64

/-!
Names of blocks tell them apart: the text of a name is read back as the name, and no other text is
read as a name. The name of a block has the front of its transfer and its number.
-/

namespace BlobTransfer

theorem Bytes.toNat_push {word : UInt32} {value : Nat} (same : word.toNat = value)
    (small : value < 16777216) (byte : UInt8) :
    ((word <<< 8) ||| byte.toUInt32).toNat = value * 256 + byte.toNat := by
  have apart := Nat.shiftLeft_add_eq_or_of_lt (i := 8) byte.toNat_lt value
  have places : value <<< 8 = value * 256 := Nat.shiftLeft_eq _ _
  have eight : (8 : UInt32).toNat % 32 = 8 := rfl
  rw [UInt32.toNat_or, UInt32.toNat_shiftLeft, UInt8.toNat_toUInt32, eight, same,
    Nat.mod_eq_of_lt (by omega), ← apart, places]

theorem Bytes.toNat_toWord (first second third fourth : UInt8) :
    (Bytes.toWord [first, second, third, fourth]).toNat =
      ((first.toNat * 256 + second.toNat) * 256 + third.toNat) * 256 + fourth.toNat := by
  have := first.toNat_lt
  have := second.toNat_lt
  have := third.toNat_lt
  have one := toNat_push UInt32.toNat_zero (by omega) first
  have two := toNat_push one (by omega) second
  have three := toNat_push two (by omega) third
  have four := toNat_push three (by omega) fourth
  rwa [Nat.zero_mul, Nat.zero_add] at four

theorem Bytes.toWord_ofWord (word : UInt32) : Bytes.toWord (Bytes.ofWord word) = word := by
  have bound := word.toNat_lt
  apply UInt32.toNat_inj.mp
  rw [ofWord, toNat_toWord]
  simp only [UInt32.toNat_toUInt8, UInt32.toNat_shiftRight, UInt32.reduceToNat,
    Nat.shiftRight_eq_div_pow, Nat.reduceMod, Nat.reducePow]
  omega

theorem Bytes.ofWord_inj {left right : UInt32} (same : Bytes.ofWord left = Bytes.ofWord right) :
    left = right := by
  rw [← toWord_ofWord left, same, toWord_ofWord]

namespace BlockId

theorem ofText_text (id : BlockId) : BlockId.ofText id.text = .ok id := by
  simp only [ofText, text, Base64.ofText_encodeText, Base64.decode_encode, id.length_eq,
    dif_pos]

theorem text_inj {left right : BlockId} (same : left.text = right.text) : left = right := by
  have read := left.ofText_text
  rw [same, right.ofText_text, Except.ok.injEq] at read
  exact read.symm

theorem new_inj {transfer other : Uuid} {number number' : UInt32}
    (same : BlockId.new transfer number = BlockId.new other number') :
    transfer.bytes.take 12 = other.bytes.take 12 ∧ number = number' := by
  have bytes := congrArg BlockId.bytes same
  obtain ⟨front, word⟩ := List.append_inj bytes (by simp [transfer.length_eq, other.length_eq])
  exact ⟨front, Bytes.ofWord_inj word⟩

theorem text_new_inj {transfer other : Uuid} {number number' : Nat}
    (small : number < UInt32.size) (small' : number' < UInt32.size)
    (same : (BlockId.new transfer (.ofNat number)).text =
      (BlockId.new other (.ofNat number')).text) :
    transfer.bytes.take 12 = other.bytes.take 12 ∧ number = number' := by
  obtain ⟨front, numbers⟩ := new_inj (text_inj same)
  have values := congrArg UInt32.toNat numbers
  rw [UInt32.toNat_ofNat_of_lt' small, UInt32.toNat_ofNat_of_lt' small'] at values
  exact ⟨front, values⟩

theorem transferBytes_new (transfer : Uuid) (number : UInt32) :
    (BlockId.new transfer number).transferBytes = transfer.bytes.take 12 := by
  rw [transferBytes, new, List.take_left' (by simp [transfer.length_eq])]

theorem number_new (transfer : Uuid) (number : UInt32) :
    (BlockId.new transfer number).number = number := by
  rw [BlockId.number, new, List.drop_left' (by simp [transfer.length_eq]), Bytes.toWord_ofWord]

theorem ofText_eq_ok {text : String} {id : BlockId} : ofText text = .ok id ↔ text = id.text := by
  constructor
  · intro read
    simp only [ofText] at read
    split at read
    · simp at read
    · rename_i bytes decoded
      split at read
      · obtain rfl := Except.ok.inj read
        apply Utf8.ofText_inj
        rw [BlockId.text, Base64.ofText_encodeText]
        exact Base64.decode_eq_ok.mp decoded
      · simp at read
  · rintro rfl
    exact id.ofText_text

theorem ofText_cases (text : String) :
    (∃ id : BlockId, text = id.text) ∨ ∃ misuse, ofText text = .error (.invalid misuse) ∧
      ((∃ error, misuse = .blockIdText text error) ∨
        ∃ length, length ≠ 16 ∧ misuse = .blockIdLength text length) := by
  cases read : ofText text with
  | ok id => exact .inl ⟨id, ofText_eq_ok.mp read⟩
  | error failure =>
      right
      simp only [ofText] at read
      split at read
      · obtain rfl := Except.error.inj read
        exact ⟨_, rfl, .inl ⟨_, rfl⟩⟩
      · split at read
        · simp at read
        · rename_i size
          obtain rfl := Except.error.inj read
          exact ⟨_, rfl, .inr ⟨_, size, rfl⟩⟩

theorem text_shape (id : BlockId) : ∃ values last, values.length = 21 ∧
    (∀ value ∈ values, value < 64) ∧ last < 4 ∧
    id.text = String.ofList ((values ++ [16 * last]).map (Base64.alphabet.getD · '=') ++
      ['=', '=']) := by
  obtain ⟨values, last, count, small, two, encoded⟩ :=
    Base64.encode_one_over (show id.bytes.length = 3 * 5 + 1 from id.length_eq)
  refine ⟨values, last, count, small, two, ?_⟩
  have symbols :
      (values ++ [16 * last]).map (fun value => Char.ofNat (Base64.symbolByte value).toNat) =
        (values ++ [16 * last]).map (Base64.alphabet.getD · '=') := by
    apply List.map_congr_left
    intro value member
    refine Base64.symbolByte_eq value ?_
    obtain listed | rfl := List.mem_append.mp member |>.imp_right List.mem_singleton.mp
    · exact small value listed
    · omega
  rw [BlockId.text, Base64.encodeText, encoded, List.map_append, List.map_map, ← symbols]
  rfl

/-- Blocks and their texts stand for each other. The text of a block is read as that block, with
the front of its transfer and its number; every other text is refused. A text has twenty-two
symbols, the last of them with four bits that are zero, and two pads. -/
theorem texts_name_blocks :
    (∀ (transfer : Uuid) (number : UInt32),
      ofText (BlockId.new transfer number).text = .ok (BlockId.new transfer number) ∧
      (BlockId.new transfer number).transferBytes = transfer.bytes.take 12 ∧
      (BlockId.new transfer number).number = number) ∧
    (∀ (text : String) (id : BlockId), ofText text = .ok id ↔ text = id.text) ∧
    (∀ text : String, (∃ id : BlockId, text = id.text) ∨
      ∃ misuse, ofText text = .error (.invalid misuse) ∧
        ((∃ error, misuse = .blockIdText text error) ∨
          ∃ length, length ≠ 16 ∧ misuse = .blockIdLength text length)) ∧
    (∀ (text other : String) (id : BlockId),
      ofText text = .ok id → ofText other = .ok id → text = other) ∧
    ∀ id : BlockId, id.text.length = 24 ∧
      ∃ values last, values.length = 21 ∧ (∀ value ∈ values, value < 64) ∧ last < 4 ∧
        id.text = String.ofList ((values ++ [16 * last]).map (Base64.alphabet.getD · '=') ++
          ['=', '=']) := by
  refine ⟨?_, fun _ _ => ofText_eq_ok, ofText_cases, ?_, ?_⟩
  · intro transfer number
    exact ⟨ofText_text _, transferBytes_new transfer number, number_new transfer number⟩
  · intro text other id read again
    exact (ofText_eq_ok.mp read).trans (ofText_eq_ok.mp again).symm
  · intro id
    obtain ⟨values, last, count, small, two, shape⟩ := id.text_shape
    refine ⟨?_, values, last, count, small, two, shape⟩
    rw [shape, String.length_ofList]
    simp [count]

theorem seventh_block_has_one_text :
    ofText "AAAAAAAAQACAAAAAAAAABw==" = .ok (BlockId.new (.random fun _ => 0) 7) ∧
      "AAAAAAAAQACAAAAAAAAABw==" = (BlockId.new (.random fun _ => 0) 7).text := by
  obtain ⟨named, read, _, once, _⟩ := texts_name_blocks
  have written : "AAAAAAAAQACAAAAAAAAABw==" = (BlockId.new (.random fun _ => 0) 7).text := by
    decide +kernel
  have known := (read _ _).mpr written
  exact ⟨known, once _ _ _ known (named _ _).1⟩

end BlockId

end BlobTransfer
