import BlobTransfer.Proofs.Text.Utf8
import BlobTransfer.Url.Basic

/-!
Pairs that were written into a query are read back from it as they were, whatever their names and
values are made of.
-/

namespace BlobTransfer

namespace Percent

theorem decode_cons_of_ne {byte : UInt8} (plain : byte ≠ 0x25) (rest : Bytes) :
    decode (byte :: rest) = byte :: decode rest := by
  match rest with
  | [] => rfl
  | [_] => rfl
  | high :: low :: rest =>
      rw [decode]
      simp [escaped?, plain]

def escapeDigit (value : Nat) : Char := (Bytes.hexDigit value).toUpper

theorem hexByte_escapeDigit : ∀ value < 16,
    hexByte? (UInt8.ofNat (escapeDigit value).toNat) = some value := by
  decide

theorem escapeDigit_plain : ∀ value < 16,
    (escapeDigit value).toNat < 128 ∧ escapeDigit value ∉ ['+', '&', '='] := by
  decide

theorem decode_escape (byte : UInt8) (rest : Bytes) :
    decode ((escape byte).flatMap String.utf8EncodeChar ++ rest) = byte :: decode rest := by
  have bound : byte.toNat < 256 := byte.toNat_lt
  have upper : byte.toNat / 16 < 16 := by omega
  have lower : byte.toNat % 16 < 16 := by omega
  have bytes : (escape byte).flatMap String.utf8EncodeChar =
      [0x25, UInt8.ofNat (escapeDigit (byte.toNat / 16)).toNat,
        UInt8.ofNat (escapeDigit (byte.toNat % 16)).toNat] := by
    change ['%', escapeDigit (byte.toNat / 16), escapeDigit (byte.toNat % 16)].flatMap
      String.utf8EncodeChar = _
    rw [List.flatMap_cons, List.flatMap_cons, List.flatMap_singleton,
      Utf8.encodeChar_of_lt (escapeDigit_plain _ upper).1,
      Utf8.encodeChar_of_lt (escapeDigit_plain _ lower).1]
    rfl
  have whole : UInt8.ofNat (byte.toNat / 16 * 16 + byte.toNat % 16) = byte := by
    rw [Nat.div_add_mod', UInt8.ofNat_toNat]
  have escaped : escaped? 0x25 (UInt8.ofNat (escapeDigit (byte.toNat / 16)).toNat)
      (UInt8.ofNat (escapeDigit (byte.toNat % 16)).toNat) = some byte := by
    simp only [escaped?, hexByte_escapeDigit _ upper, hexByte_escapeDigit _ lower]
    exact congrArg some whole
  rw [bytes, List.cons_append, List.cons_append, List.singleton_append, decode, escaped]

theorem decode_escapes (bytes rest : Bytes) :
    decode ((bytes.flatMap escape).flatMap String.utf8EncodeChar ++ rest) =
      bytes ++ decode rest := by
  induction bytes with
  | nil => rfl
  | cons byte bytes ih =>
      rw [List.flatMap_cons, List.flatMap_append, List.append_assoc, decode_escape, ih,
        List.cons_append]

end Percent

namespace Form

theorem kept_ascii {c : Char} (kept : isKept c = true) :
    c.toNat < 128 ∧ c ∉ ['+', '&', '=', '%'] := by
  have less : ∀ left right : Char, left ≤ right ↔ left.toNat ≤ right.toNat := by
    intro left right
    rfl
  simp only [isKept, Ascii.isAlpha, Ascii.isDigit, Bool.or_eq_true, Bool.and_eq_true,
    decide_eq_true_eq, less] at kept
  constructor
  · rcases kept with ((((letter | digit) | rfl) | rfl) | rfl) | rfl
    · have small : 'z'.toNat = 122 := rfl
      have large : 'Z'.toNat = 90 := rfl
      omega
    · have nine : '9'.toNat = 57 := rfl
      omega
    all_goals decide
  · intro special
    simp only [List.mem_cons, List.not_mem_nil, or_false] at special
    rcases special with rfl | rfl | rfl | rfl
    all_goals exact absurd kept (by decide)

def unplus (c : Char) : Char := if c = '+' then ' ' else c

theorem unplus_of_ne {c : Char} (different : c ≠ '+') : unplus c = c := if_neg different

theorem mem_escapes {bytes : Bytes} {c : Char} (member : c ∈ bytes.flatMap Percent.escape) :
    c ∉ ['+', '&', '='] := by
  obtain ⟨byte, _, written⟩ := List.mem_flatMap.mp member
  have bound : byte.toNat < 256 := byte.toNat_lt
  change c ∈ ['%', Percent.escapeDigit (byte.toNat / 16), Percent.escapeDigit (byte.toNat % 16)]
    at written
  simp only [List.mem_cons, List.not_mem_nil, or_false] at written
  rcases written with rfl | rfl | rfl
  · decide
  · exact (Percent.escapeDigit_plain _ (by omega)).2
  · exact (Percent.escapeDigit_plain _ (by omega)).2

theorem mem_encodeChar {c written : Char} (member : written ∈ encodeChar c) :
    written ≠ '&' ∧ written ≠ '=' := by
  unfold encodeChar Percent.encodeChar at member
  split at member
  · obtain rfl := List.mem_singleton.mp member
    decide
  · split at member
    · rename_i kept
      obtain rfl := List.mem_singleton.mp member
      have plain := (kept_ascii kept).2
      simp only [List.mem_cons, not_or] at plain
      exact ⟨plain.2.1, plain.2.2.1⟩
    · have plain := mem_escapes member
      simp only [List.mem_cons, not_or] at plain
      exact ⟨plain.2.1, plain.2.2.1⟩

theorem mem_encode {text : String} {written : Char} (member : written ∈ encode text) :
    written ≠ '&' ∧ written ≠ '=' := by
  obtain ⟨c, _, inside⟩ := List.mem_flatMap.mp member
  exact mem_encodeChar inside

theorem decode_encodeChar (c : Char) (rest : Bytes) :
    Percent.decode (((encodeChar c).map unplus).flatMap String.utf8EncodeChar ++ rest) =
      String.utf8EncodeChar c ++ Percent.decode rest := by
  unfold encodeChar Percent.encodeChar
  by_cases blank : c = ' '
  · subst blank
    rw [if_pos rfl]
    exact Percent.decode_cons_of_ne (by decide) rest
  · rw [if_neg blank]
    by_cases kept : isKept c = true
    · obtain ⟨ascii, plain⟩ := kept_ascii kept
      simp only [List.mem_cons, not_or, List.not_mem_nil, not_false_eq_true, and_true] at plain
      rw [if_pos kept, List.map_singleton, List.flatMap_singleton, unplus_of_ne plain.1,
        Utf8.encodeChar_of_lt ascii, List.singleton_append, List.singleton_append]
      apply Percent.decode_cons_of_ne
      apply Utf8.ofNat_ne (by omega)
      intro percent
      apply plain.2.2.2
      rw [← Char.ofNat_toNat c, percent]
      rfl
    · have same : ((String.utf8EncodeChar c).flatMap Percent.escape).map unplus =
          (String.utf8EncodeChar c).flatMap Percent.escape := by
        rw [List.map_congr_left (g := id), List.map_id]
        intro written member
        have plain := mem_escapes member
        simp only [List.mem_cons, not_or] at plain
        exact unplus_of_ne plain.1
      rw [if_neg kept, same, Percent.decode_escapes]

theorem decode_encode (text : String) : decode (encode text) = text := by
  have bytes : ∀ chars : List Char, Percent.decode
      (((chars.flatMap encodeChar).map unplus).flatMap String.utf8EncodeChar) =
        chars.flatMap String.utf8EncodeChar := by
    intro chars
    induction chars with
    | nil => rfl
    | cons c rest ih =>
        rw [List.flatMap_cons, List.map_append, List.flatMap_append, decode_encodeChar, ih,
          List.flatMap_cons]
  change String.ofList (Utf8.decodeChars (Percent.decode
    (((text.toList.flatMap encodeChar).map unplus).flatMap String.utf8EncodeChar))) = text
  rw [bytes, Utf8.decodeChars_encode, String.ofList_toList]

theorem split_of_absent {separator : Char} {part : List Char} (absent : separator ∉ part) :
    split separator part = [part] := by
  induction part with
  | nil => rfl
  | cons c rest ih =>
      rw [List.mem_cons, not_or] at absent
      obtain ⟨different, further⟩ := absent
      rw [split, if_neg (Ne.symm different), ih further]

theorem split_append {separator : Char} {part : List Char} (absent : separator ∉ part)
    (rest : List Char) :
    split separator (part ++ separator :: rest) = part :: split separator rest := by
  induction part with
  | nil => rw [List.nil_append, split, if_pos rfl]
  | cons c part ih =>
      rw [List.mem_cons, not_or] at absent
      obtain ⟨different, further⟩ := absent
      rw [List.cons_append, split, if_neg (Ne.symm different), ih further]

theorem decodePair_encodePair (pair : Pair) : decodePair (encodePair pair) = pair := by
  have named : ∀ c ∈ encode pair.1, decide (c ≠ '=') = true := by
    intro c member
    exact decide_eq_true (mem_encode member).2
  have front : (encodePair pair).takeWhile (· ≠ '=') = encode pair.1 := by
    rw [encodePair, List.takeWhile_append_of_pos named]
    simp
  have back : (encodePair pair).dropWhile (· ≠ '=') = '=' :: encode pair.2 := by
    rw [encodePair, List.dropWhile_append_of_pos named]
    simp
  rw [decodePair, front, back, List.drop_one, List.tail_cons, decode_encode, decode_encode]

theorem amp_not_mem_encodePair (pair : Pair) : '&' ∉ encodePair pair := by
  intro member
  rcases List.mem_append.mp member with name | rest
  · exact (mem_encode name).1 rfl
  · rcases List.mem_cons.mp rest with same | value
    · exact absurd same (by decide)
    · exact (mem_encode value).1 rfl

theorem encodePair_ne_nil (pair : Pair) : (encodePair pair).isEmpty = false := by
  rw [encodePair]
  cases encode pair.1 <;> rfl

theorem decodePairs_encodePairs (pairs : List Pair) : decodePairs (encodePairs pairs) = pairs := by
  induction pairs with
  | nil => rfl
  | cons pair rest ih =>
      have apart := amp_not_mem_encodePair pair
      have full := encodePair_ne_nil pair
      cases rest with
      | nil =>
          rw [encodePairs, decodePairs, split_of_absent apart]
          simp [full, decodePair_encodePair]
      | cons next others =>
          rw [encodePairs, decodePairs, split_append apart]
          simp only [List.filter_cons, full, Bool.not_false, if_true, List.map_cons,
            decodePair_encodePair]
          exact congrArg (pair :: ·) ih
          intro nothing
          simp at nothing

end Form

namespace Url

@[simp] theorem pairs_withPairs (url : Url) (pairs : List Form.Pair) :
    (url.withPairs pairs).pairs = pairs := by
  simp only [Url.pairs, withPairs, String.toList_ofList, Form.decodePairs_encodePairs]

theorem pairs_setParameter (url : Url) (name value : String) :
    (url.setParameter name value).pairs =
      url.pairs.filter (fun pair => pair.1 ≠ name) ++ [(name, value)] := pairs_withPairs _ _

end Url

end BlobTransfer
