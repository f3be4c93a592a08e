import BlobTransfer.Proofs.Reader.Flow
import BlobTransfer.Proofs.Store.Version

/-!
What a store answers to those who ask for a part of its blob: which parts there are to be had, why
others are refused, and in which pieces the bytes of a part come.
-/

namespace BlobTransfer

structure CutInto (size : Nat) (bytes : Bytes) (pieces : List Bytes) : Prop where
  whole : pieces.flatten = bytes
  filled : ∀ piece ∈ pieces, piece ≠ []
  full : ∀ piece ∈ pieces.dropLast, piece.length = size
  bounded : ∀ piece ∈ pieces, piece.length ≤ size
  number : pieces.length = (bytes.length + size - 1) / size

theorem cutInto_nil {size : Nat} (positive : 0 < size) : CutInto size [] [] where
  whole := rfl
  filled := fun _ member => absurd member List.not_mem_nil
  full := fun _ member => absurd member List.not_mem_nil
  bounded := fun _ member => absurd member List.not_mem_nil
  number := by
    rw [List.length_nil, List.length_nil, Nat.zero_add, Nat.div_eq_of_lt (by omega)]

theorem CutInto.cons {size : Nat} {bytes : Bytes} {pieces : List Bytes} (positive : 0 < size)
    (some_bytes : bytes ≠ []) (rest : CutInto size (bytes.drop size) pieces) :
    CutInto size bytes (bytes.take size :: pieces) where
  whole := by rw [List.flatten_cons, rest.whole, List.take_append_drop]
  filled := by
    intro piece member
    obtain rfl | later := List.mem_cons.mp member
    · simp [List.take_eq_nil_iff, some_bytes, Nat.ne_of_gt positive]
    · exact rest.filled piece later
  full := by
    intro piece member
    cases pieces with
    | nil => exact absurd member List.not_mem_nil
    | cons next others =>
        obtain rfl | later := List.mem_cons.mp member
        · have next_filled := List.length_pos_iff.mpr (rest.filled next List.mem_cons_self)
          have left := congrArg List.length rest.whole
          rw [List.flatten_cons, List.length_append, List.length_drop] at left
          rw [List.length_take]
          omega
        · exact rest.full piece later
  bounded := by
    intro piece member
    obtain rfl | later := List.mem_cons.mp member
    · exact List.length_take_le _ _
    · exact rest.bounded piece later
  number := by
    have longer := List.length_pos_iff.mpr some_bytes
    rw [List.length_cons, rest.number, List.length_drop]
    by_cases last : bytes.length ≤ size
    · have one : bytes.length + size - 1 = (bytes.length - 1) + size := by omega
      rw [one, Nat.add_div_right _ positive, Nat.div_eq_of_lt (by omega),
        Nat.div_eq_of_lt (by omega)]
    · have more : bytes.length + size - 1 = (bytes.length - size + size - 1) + size := by omega
      rw [more, Nat.add_div_right _ positive]

theorem cutInto_piecesOf (size : Nat) (positive : 0 < size) (bytes : Bytes) :
    CutInto size bytes (piecesOf size positive bytes) := by
  induction bytes using piecesOf.induct size positive with
  | case1 bytes empty =>
      rw [piecesOf, if_pos empty, List.isEmpty_iff.mp empty]
      exact cutInto_nil positive
  | case2 bytes filled ih =>
      rw [piecesOf, if_neg filled]
      exact ih.cons positive (by simpa using filled)

theorem Body.drain_pieces (pieces : List Bytes) (now : Nat) :
    Body.drain { events := pieces.map .data } now = some (pieces.map .ok, now) := by
  have items : ∀ wakeAt, drainEvents now wakeAt (pieces.map .data) =
      some (pieces.map .ok, now) := by
    induction pieces with
    | nil => intro wakeAt; rfl
    | cons piece others ih =>
        intro wakeAt
        rw [List.map_cons, drainEvents, ih, Option.map_some, List.map_cons]
  exact items none

/-- Where a part ends in data of a size. An end behind the largest offset stays at that. -/
def Span.stop (span : Span) (size : Nat) : Nat :=
  match span.count with
  | some count => min (min (span.offset + count) largestOffset) size
  | none => size

theorem Span.stop_eq (span : Span) {size : Nat} (fits : size ≤ largestOffset) :
    span.stop size = (span.count.map fun count => min (span.offset + count) size).getD size := by
  unfold stop
  cases span.count with
  | none => rfl
  | some count =>
      simp only [Option.map_some, Option.getD_some]
      omega

namespace BlobStore

variable {store : BlobStore} {span : Span}

def Admits (span : Span) (blob : StoredBlob) : Prop :=
  ∀ tag, span.etag = some tag → tag = blob.etag

/-- Whether there is a byte at an offset. In a blob without bytes, its start counts as one. -/
def Reaches (blob : StoredBlob) (offset : Nat) : Prop :=
  offset < blob.data.length ∨ offset = 0 ∧ blob.data.length = 0

theorem outside_iff {blob : StoredBlob} {offset : Nat} :
    (blob.data.length < offset ∨ offset = blob.data.length ∧ 0 < blob.data.length) ↔
      ¬Reaches blob offset := by
  unfold Reaches
  omega

theorem not_admits_iff {blob : StoredBlob} :
    ¬Admits span blob ↔ ∃ tag, span.etag = some tag ∧ tag ≠ blob.etag := by
  simp only [Admits, Classical.not_forall, exists_prop]

/-- How a store answers: the first thing that is wrong decides, and a part only comes if nothing
is. -/
inductive Reads (store : BlobStore) (span : Span) : Except TransferError LiveResponse → Prop
  | missing (unwritten : store.blob = none) : Reads store span (.error (.status .notFound none))
  | mismatched {blob : StoredBlob} (stored : store.blob = some blob)
      (other : ¬Admits span blob) : Reads store span (.error (.status .preconditionFailed none))
  | outside {blob : StoredBlob} (stored : store.blob = some blob) (admitted : Admits span blob)
      (beyond : ¬Reaches blob span.offset) :
      Reads store span (.error (.status .rangeNotSatisfiable none))
  | opened {blob : StoredBlob} (stored : store.blob = some blob) (admitted : Admits span blob)
      (inside : Reaches blob span.offset) :
      Reads store span (.ok {
        body := { events := (piecesOf store.pieceSize store.pieceSize_pos
          (span.part blob.data)).map .data }
        etag := some blob.etag
        abortable := true })

theorem reads_read (store : BlobStore) (span : Span) : store.Reads span (store.read span) := by
  cases stored : store.blob with
  | none =>
      have missing : store.read span = .error (.status .notFound none) := by simp [read, stored]
      exact missing ▸ .missing stored
  | some blob =>
      by_cases admitted : Admits span blob
      · rw [read_of_unchanged stored admitted]
        split
        · rename_i beyond
          exact .outside stored admitted (outside_iff.mp beyond)
        · rename_i inside
          exact .opened stored admitted (Classical.not_not.mp (mt outside_iff.mpr inside))
      · obtain ⟨tag, wanted, other⟩ := not_admits_iff.mp admitted
        rw [read_of_other stored wanted other]
        exact .mismatched stored admitted

namespace Reads

variable {answer : Except TransferError LiveResponse}

theorem isOk_iff (reads : store.Reads span answer) :
    (∃ response, answer = .ok response) ↔
      ∃ blob, store.blob = some blob ∧ Admits span blob ∧ Reaches blob span.offset := by
  cases reads with
  | missing unwritten => simp [unwritten]
  | mismatched stored other => simp [stored, other]
  | outside stored admitted beyond => simp [stored, beyond]
  | opened stored admitted inside => simp [stored, admitted, inside]

theorem notFound_iff (reads : store.Reads span answer) :
    answer = .error (.status .notFound none) ↔ store.blob = none := by
  cases reads with
  | missing unwritten => simp [unwritten]
  | mismatched stored other => simp [stored, StatusCode.notFound, StatusCode.preconditionFailed]
  | outside stored admitted beyond =>
      simp [stored, StatusCode.notFound, StatusCode.rangeNotSatisfiable]
  | opened stored admitted inside => simp [stored]

theorem preconditionFailed_iff (reads : store.Reads span answer) :
    answer = .error (.status .preconditionFailed none) ↔
      ∃ blob, store.blob = some blob ∧ ¬Admits span blob := by
  cases reads with
  | missing unwritten => simp [unwritten, StatusCode.notFound, StatusCode.preconditionFailed]
  | mismatched stored other => simp [stored, other]
  | outside stored admitted beyond =>
      simp [stored, admitted, StatusCode.preconditionFailed, StatusCode.rangeNotSatisfiable]
  | opened stored admitted inside => simp [stored, admitted]

theorem rangeNotSatisfiable_iff (reads : store.Reads span answer) :
    answer = .error (.status .rangeNotSatisfiable none) ↔
      ∃ blob, store.blob = some blob ∧ Admits span blob ∧ ¬Reaches blob span.offset := by
  cases reads with
  | missing unwritten => simp [unwritten, StatusCode.notFound, StatusCode.rangeNotSatisfiable]
  | mismatched stored other =>
      simp [stored, other, StatusCode.preconditionFailed, StatusCode.rangeNotSatisfiable]
  | outside stored admitted beyond => simp [stored, admitted, beyond]
  | opened stored admitted inside => simp [stored, inside]

theorem pieces_of_ok {response : LiveResponse} (reads : store.Reads span (.ok response)) :
    ∃ blob pieces, store.blob = some blob ∧ response.etag = some blob.etag ∧
      response.body = { events := pieces.map .data } ∧
      CutInto store.pieceSize (span.part blob.data) pieces := by
  cases reads with
  | @opened blob stored => exact ⟨blob, _, stored, rfl, rfl, cutInto_piecesOf _ _ _⟩

end Reads

/-- Asked in a scope that is not over, a store answers with a part exactly if there is a blob, of
the version asked for if one is, and the offset is inside it; the first of these that fails is the
error. The part comes in pieces of one size but for the last, so that their number is known before
and cutting comes to an end with every size that a store can be given. Asking changes no blob. -/
theorem part_is_served_in_pieces (store : BlobStore) (span : Span) :
    let answer := (store.get none span).1
    let after := (store.get none span).2
    ((∃ response, answer = .ok response) ↔
      ∃ blob, store.blob = some blob ∧ (∀ tag, span.etag = some tag → tag = blob.etag) ∧
        (span.offset < blob.data.length ∨ span.offset = 0 ∧ blob.data.length = 0)) ∧
    (answer = .error (.status ⟨404⟩ none) ↔ store.blob = none) ∧
    (answer = .error (.status ⟨412⟩ none) ↔
      ∃ blob, store.blob = some blob ∧ ¬∀ tag, span.etag = some tag → tag = blob.etag) ∧
    (answer = .error (.status ⟨416⟩ none) ↔
      ∃ blob, store.blob = some blob ∧ (∀ tag, span.etag = some tag → tag = blob.etag) ∧
        ¬(span.offset < blob.data.length ∨ span.offset = 0 ∧ blob.data.length = 0)) ∧
    (∀ response, answer = .ok response →
      ∃ blob pieces, store.blob = some blob ∧ response.etag = some blob.etag ∧
        (∀ now, response.body.drain now = some (pieces.map .ok, now)) ∧
        CutInto store.pieceSize ((blob.data.take ((span.count.map fun count =>
          min (span.offset + count) blob.data.length).getD blob.data.length)).drop span.offset)
          pieces ∧
        (blob.data.length ≤ largestOffset →
          pieces.flatten = (blob.data.take (span.stop blob.data.length)).drop span.offset)) ∧
    (after.blob = store.blob ∧ after.staged = store.staged ∧ after.version = store.version) ∧
    ∀ size, (store.withPieceSize size).pieceSize = max size 1 := by
  intro answer after
  have reads : store.Reads span answer := reads_read store span
  refine ⟨reads.isOk_iff, reads.notFound_iff, reads.preconditionFailed_iff,
    reads.rangeNotSatisfiable_iff, ?_, ⟨rfl, rfl, rfl⟩, fun _ => rfl⟩
  intro response answered
  obtain ⟨blob, pieces, stored, tagged, body, cut⟩ := (answered ▸ reads).pieces_of_ok
  rw [Span.part_eq] at cut
  refine ⟨blob, pieces, stored, tagged, ?_, cut, fun fits => ?_⟩
  · rw [body]
    exact Body.drain_pieces pieces
  · rw [cut.whole, Span.stop_eq span fits]

theorem huge_count_is_served_in_pieces :
    let store := ((({} : BlobStore).withPieceSize 3).put [1, 2, 3, 4, 5, 6, 7]).2
    let span : Span := { offset := 2, count := some largestOffset }
    ∃ response, (store.get none span).1 = .ok response ∧ ∃ blob, ∃ pieces : List Bytes,
      store.blob = some blob ∧ blob.data.length ≤ largestOffset ∧
      response.body.drain 0 = some (pieces.map .ok, 0) ∧ pieces.length = 2 ∧
      pieces.flatten = [3, 4, 5, 6, 7] := by
  intro store span
  obtain ⟨opens, _, _, _, served, _⟩ := part_is_served_in_pieces store span
  obtain ⟨response, answered⟩ := opens.mpr ⟨_, rfl, by simp [span], .inl (by decide)⟩
  obtain ⟨blob, pieces, stored, _, drained, cut, whole⟩ := served response answered
  obtain rfl : _ = blob := Option.some.inj stored
  have fits : 7 ≤ largestOffset := by decide
  exact ⟨response, answered, _, pieces, stored, fits, drained 0,
    cut.number.trans (by decide), (whole fits).trans (by decide)⟩

end BlobStore

end BlobTransfer
