import BlobTransfer.Http.Header
import BlobTransfer.Uuid

/-!
Headers by name: setting one leaves its value alone under its name and does not touch the others.
-/

namespace BlobTransfer

namespace Headers

def values (headers : Headers) (name : HeaderName) : List HeaderValue :=
  (headers.entries.filter (·.1 = name)).map (·.2)

variable {name : HeaderName}

theorem filter_insertEntry {kept : HeaderName → Bool} (spared : kept name = false)
    (value : HeaderValue) (entries : List (HeaderName × HeaderValue)) :
    (insertEntry name value entries).filter (fun entry => kept entry.1) =
      entries.filter (fun entry => kept entry.1) := by
  induction entries with
  | nil => simp [insertEntry, spared]
  | cons entry rest ih =>
      by_cases same : entry.1 = name
      · have others : (rest.filter (·.1 ≠ name)).filter (fun entry => kept entry.1) =
            rest.filter (fun entry => kept entry.1) := by
          rw [List.filter_filter]
          apply List.filter_congr
          intro other _
          by_cases equal : other.1 = name
          · simp [equal, spared]
          · simp [equal]
        rw [insertEntry, if_pos same, List.filter_cons_of_neg (by simp [spared]), others,
          List.filter_cons_of_neg (by simp [same, spared])]
      · rw [insertEntry, if_neg same, List.filter_cons, List.filter_cons, ih]

theorem filter_insert {kept : HeaderName → Bool} (spared : kept name = false) (headers : Headers)
    (value : HeaderValue) :
    (headers.insert name value).entries.filter (fun entry => kept entry.1) =
      headers.entries.filter (fun entry => kept entry.1) := filter_insertEntry spared value _

theorem values_insert_of_ne {other : HeaderName} (different : other ≠ name) (headers : Headers)
    (value : HeaderValue) : (headers.insert name value).values other = headers.values other := by
  have spared := @filter_insert name (fun found => decide (found = other))
    (decide_eq_false (Ne.symm different)) headers value
  exact congrArg (List.map (·.2)) spared

theorem values_insert (headers : Headers) (name : HeaderName) (value : HeaderValue) :
    (headers.insert name value).values name = [value] := by
  rcases headers with ⟨entries⟩
  simp only [values, insert]
  induction entries with
  | nil => simp [insertEntry]
  | cons entry rest ih =>
      by_cases same : entry.1 = name
      · have none_left : (rest.filter (·.1 ≠ name)).filter (·.1 = name) = [] := by
          rw [List.filter_filter, List.filter_eq_nil_iff]
          intro other _
          simp
        rw [insertEntry, if_pos same, List.filter_cons_of_pos (by simp), none_left]
        rfl
      · rw [insertEntry, if_neg same, List.filter_cons_of_neg (by simpa using same), ih]

theorem get?_eq_none {headers : Headers} :
    headers.get? name = none ↔ headers.values name = [] := by
  rcases headers with ⟨entries⟩
  simp only [get?, values, List.map_eq_nil_iff]
  induction entries with
  | nil => simp
  | cons entry rest ih =>
      by_cases same : entry.1 = name
      · rw [List.filter_cons_of_pos (by simpa using same)]
        simp [same]
      · have different : (name == entry.1) = false := beq_eq_false_iff_ne.mpr (Ne.symm same)
        rw [List.filter_cons_of_neg (by simpa using same), ← ih, List.lookup_cons, different]

end Headers

theorem Uuid.text_isHeaderValue (uuid : Uuid) : isHeaderValue uuid.text = true := by
  have digit : ∀ value < 16, 0x20 ≤ (Bytes.hexDigit value).toNat ∧
      (Bytes.hexDigit value).toNat ≠ 0x7F := by
    decide
  have digits : ∀ c ∈ Bytes.toHex uuid.bytes, 0x20 ≤ c.toNat ∧ c.toNat ≠ 0x7F := by
    intro c member
    obtain ⟨byte, _, written⟩ := List.mem_flatMap.mp member
    have bound : byte.toNat < 256 := byte.toNat_lt
    simp only [List.mem_cons, List.not_mem_nil, or_false] at written
    rcases written with rfl | rfl
    · exact digit _ (by omega)
    · exact digit _ (by omega)
  have group : ∀ start size, ∀ c ∈ ((Bytes.toHex uuid.bytes).drop start).take size,
      0x20 ≤ c.toNat ∧ c.toNat ≠ 0x7F := by
    intro start size c member
    exact digits c (List.mem_of_mem_drop (List.mem_of_mem_take member))
  have hyphen : 0x20 ≤ '-'.toNat ∧ '-'.toNat ≠ 0x7F := by decide
  unfold isHeaderValue Uuid.text
  rw [String.toList_ofList, List.all_eq_true]
  intro c member
  simp only [List.mem_append, List.mem_cons] at member
  have plain : 0x20 ≤ c.toNat ∧ c.toNat ≠ 0x7F := by
    rcases member with (((first | rfl | second) | rfl | third) | rfl | fourth) | rfl | last
    · exact group _ _ c first
    · exact hyphen
    · exact group _ _ c second
    · exact hyphen
    · exact group _ _ c third
    · exact hyphen
    · exact group _ _ c fourth
    · exact hyphen
    · exact group _ _ c last
  simp [plain]

end BlobTransfer
