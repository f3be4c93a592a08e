import BlobTransfer.Proofs.Reader.Serving
import BlobTransfer.Reader.Drain

/-!
Reading out a response that is all there: no read needs another request or a retry, so it all comes
out, in order, however many retries there may be.
-/

namespace BlobTransfer

namespace ReadSession

/-- The response that is held has just what is left of the part. -/
structure Flowing (scope : Scope) (rest : Bytes) (session : ReadSession BlobStore) : Prop where
  calm : session.Calm scope
  bounded : session.reader.bounded = session.reader.span.count.isSome
  wanted : ∀ count, session.reader.span.count = some count → rest.length ≤ count
  holds : ∃ inner buffered, session.reader.body = some ⟨⟨some inner, false⟩, buffered⟩ ∧
    Body.Flow inner.events ∧ buffered ++ inner.readable = rest

variable {scope : Scope} {rest : Bytes} {session : ReadSession BlobStore}

theorem readHeld_of_given (calm : session.Calm scope) {body left : LiveBody} {bytes : Bytes}
    {size time : Nat} (held : session.reader.body = some body)
    (given : body.read (session.reader.limit size) session.timeline.now none =
      some (.ok bytes, left, time)) :
    ∃ timeline, timeline.Endless scope ∧ session.readHeld scope size =
      some (.done (.ok bytes), ({ session with timeline } : ReadSession BlobStore).deliver bytes
        left) := by
  refine ⟨_, calm.endless.reach left.source.aborted time, ?_⟩
  simp only [ReadSession.readHeld, held, calm.await_eq, given, Option.map_some]

theorem Flowing.readHeld (flowing : session.Flowing scope rest) {size : Nat} (positive : 0 < size)
    (unexhausted : session.reader.isExhausted = false) :
    (rest = [] ∧ ∃ next, session.readHeld scope size = some (.done (.ok []), next)) ∨
    ∃ bytes later next, bytes ≠ [] ∧ rest = bytes ++ later ∧
      session.readHeld scope size = some (.done (.ok bytes), next) ∧ next.Flowing scope later := by
  obtain ⟨inner, buffered, held, flow, rfl⟩ := flowing.holds
  have limit := RangeReader.limit_pos flowing.bounded unexhausted positive
  obtain ⟨nothing, given⟩ | ⟨bytes, inner', buffered', some_bytes, flow', front, given⟩ :=
    LiveBody.read_of_flow flow limit session.timeline.now (.inr rfl)
  · obtain ⟨timeline, _, ended⟩ := readHeld_of_given flowing.calm held given
    exact .inl ⟨nothing, _, ended⟩
  · obtain ⟨timeline, endless, delivered⟩ := readHeld_of_given flowing.calm held given
    refine .inr ⟨bytes, buffered' ++ inner'.readable, _, some_bytes, front, delivered, ?_⟩
    refine ⟨⟨endless, flowing.calm.unplanned⟩, ?_, ?_, inner', buffered', rfl, flow', rfl⟩
    · simp [ReadSession.deliver, RangeReader.advance, Span.advance, flowing.bounded]
    · intro count left
      obtain ⟨before, counted, rfl⟩ := Option.map_eq_some_iff.mp left
      have enough := flowing.wanted before counted
      rw [front, List.length_append] at enough
      omega

theorem Flowing.read (flowing : session.Flowing scope rest) {size : Nat} (positive : 0 < size) :
    (rest = [] ∧ ∃ next, session.read BlobStore.getter scope size = some (.ok [], next)) ∨
    ∃ bytes later next, bytes ≠ [] ∧ rest = bytes ++ later ∧
      session.read BlobStore.getter scope size = some (.ok bytes, next) ∧
      next.Flowing scope later := by
  rw [read_of_pos positive]
  obtain ⟨inner, buffered, held, _⟩ := flowing.holds
  cases exhausted : session.reader.isExhausted with
  | true =>
      have tried : session.tryRead BlobStore.getter scope size =
          some (.done (.ok []), session) := by
        simp only [tryRead, exhausted, if_true]
      refine .inl ⟨?_, session, readFrom_of_done tried⟩
      simp only [RangeReader.isExhausted, Bool.and_eq_true, decide_eq_true_eq] at exhausted
      exact List.length_eq_zero_iff.mp (Nat.le_zero.mp (flowing.wanted 0 exhausted.2))
  | false =>
      have tried : session.tryRead BlobStore.getter scope size = session.readHeld scope size := by
        simp only [tryRead, exhausted, held, Option.isSome_some, Bool.false_eq_true, if_false,
          if_true]
      obtain ⟨nothing, next, ended⟩ | ⟨bytes, later, next, some_bytes, front, given, flowing'⟩ :=
        flowing.readHeld positive exhausted
      · exact .inl ⟨nothing, next, readFrom_of_done (tried.trans ended)⟩
      · exact .inr ⟨bytes, later, next, some_bytes, front,
          readFrom_of_done (tried.trans given), flowing'⟩

theorem Flowing.copy {fuel : Nat} (flowing : session.Flowing scope rest)
    (enough : rest.length < fuel) {destination : Destination}
    (endless : destination.space = none) (total : Nat) :
    ∃ filled after, session.copy BlobStore.getter scope destination total fuel =
        some (.ok (total + rest.length), filled, after) ∧
      filled.data = destination.data ++ rest := by
  induction fuel generalizing session rest destination total with
  | zero => omega
  | succ fuel ih =>
      obtain ⟨rfl, next, ended⟩ | ⟨bytes, later, next, some_bytes, rfl, given, flowing'⟩ :=
        flowing.read (show 0 < drainSize by decide)
      · refine ⟨destination, next, ?_, by simp⟩
        simp [ReadSession.copy, ended]
      · obtain ⟨filled, written, endless', content⟩ :=
          Destination.write_of_endless endless bytes
        have positive : 0 < bytes.length := List.length_pos_iff.mpr some_bytes
        rw [List.length_append] at enough
        obtain ⟨last, after, copied, whole⟩ :=
          ih flowing' (by omega) endless' (total + bytes.length)
        refine ⟨last, after, ?_, ?_⟩
        · cases bytes with
          | nil => contradiction
          | cons byte others =>
              simp only [ReadSession.copy, given, Option.bind_eq_bind, Option.bind_some, written,
                copied, List.length_append, Nat.add_assoc]
        · rw [whole, content, List.append_assoc]

theorem flowing_of_request {blob : StoredBlob} (calm : session.Calm scope)
    (bounded : session.reader.bounded = session.reader.span.count.isSome)
    (stored : session.service.blob = some blob)
    (pinned : ∀ tag, session.reader.span.etag = some tag → tag = blob.etag)
    (inside : session.reader.span.offset < blob.data.length ∨
      session.reader.span.offset = 0 ∧ blob.data.length = 0) :
    ∃ next, session.request BlobStore.getter scope = some (.ok (), next) ∧
      next.Flowing scope (session.reader.span.part blob.data) := by
  obtain ⟨timeline, endless, requested⟩ :=
    request_of_endless session calm.endless calm.unplanned
  rw [BlobStore.read_of_unchanged stored pinned, if_neg (by omega)] at requested
  refine ⟨_, requested, ⟨endless, calm.unplanned⟩, bounded, ?_, _, [], rfl, Body.flow_pieces _,
    Body.readable_pieces _ _ _⟩
  intro count counted
  have counted' : session.reader.span.count = some count := counted
  simp only [Span.part, counted']
  exact List.length_take_le _ _

end ReadSession

/-- Whatever part of some data is asked of a store, it comes out of it, and so does all of it. -/
def BlobStore.Yields (store : BlobStore) (data : Bytes) : Prop :=
  ∀ (adapter : TransferAdapter BlobStore) (timeline : Timeline) (scope : Scope),
    adapter.getter = BlobStore.getter → timeline.awaitEnd scope = none →
      (∀ fuel > data.length, ∃ after,
        adapter.download timeline scope store fuel = some (.ok data, after)) ∧
      ∀ (offset : Nat) (count : Option Nat),
        (offset < data.length ∨ offset = 0 ∧ data.length = 0) →
          let stop := (count.map fun count => min (offset + count) data.length).getD data.length
          ∃ session, adapter.openPart timeline scope store offset count = some (.ok (), session) ∧
            ∀ fuel > stop - offset, ∃ destination after,
              session.copy adapter.getter scope {} 0 fuel =
                some (.ok (stop - offset), destination, after) ∧
              destination.data = (data.take stop).drop offset

theorem Span.part_eq (span : Span) (data : Bytes) :
    span.part data = (data.take ((span.count.map fun count =>
      min (span.offset + count) data.length).getD data.length)).drop span.offset := by
  cases counted : span.count with
  | none => simp [part, counted]
  | some count =>
      simp only [part, counted, Option.map_some, Option.getD_some]
      rw [List.drop_take, List.take_eq_take_iff, List.length_drop]
      omega

namespace TransferAdapter

variable {adapter : TransferAdapter BlobStore} {timeline : Timeline} {scope : Scope}
  {store : BlobStore} {blob : StoredBlob}

theorem flowing_of_open (served : adapter.getter = BlobStore.getter)
    (endless : timeline.Endless scope) (stored : store.blob = some blob) {offset : Nat}
    (inside : offset < blob.data.length ∨ offset = 0 ∧ blob.data.length = 0)
    (count : Option Nat) :
    ∃ session, adapter.openPart timeline scope store offset count = some (.ok (), session) ∧
      session.Flowing scope (({ offset, count } : Span).part blob.data) := by
  rw [openPart, served]
  exact ReadSession.flowing_of_request ⟨endless, rfl⟩ rfl stored (fun _ pinned => by cases pinned)
    inside

end TransferAdapter

theorem BlobStore.yields_of_blob {store : BlobStore} {data : Bytes}
    (stored : store.blob.map (·.data) = some data) : store.Yields data := by
  obtain ⟨blob, there, rfl⟩ := Option.map_eq_some_iff.mp stored
  have empty : ({} : Destination).space = none := rfl
  intro adapter timeline scope served endless
  refine ⟨?_, ?_⟩
  · intro fuel enough
    have inside : 0 < blob.data.length ∨ 0 = 0 ∧ blob.data.length = 0 := by omega
    obtain ⟨session, opened, flowing⟩ :=
      TransferAdapter.flowing_of_open served endless there inside none
    have whole : ({ offset := 0, count := none } : Span).part blob.data = blob.data := rfl
    rw [whole] at flowing
    obtain ⟨filled, after, copied, content⟩ := flowing.copy enough empty 0
    refine ⟨after, ?_⟩
    simp only [TransferAdapter.download, opened, served, Option.bind_eq_bind, Option.bind_some,
      copied, content]
    rfl
  · intro offset count inside stop
    obtain ⟨session, opened, flowing⟩ :=
      TransferAdapter.flowing_of_open served endless there inside count
    rw [Span.part_eq] at flowing
    refine ⟨session, opened, fun fuel enough => ?_⟩
    have fits : stop ≤ blob.data.length := by
      cases count with
      | none => exact Nat.le_refl _
      | some count => exact Nat.min_le_right _ _
    have size : ((blob.data.take stop).drop offset).length = stop - offset := by
      rw [List.length_drop, List.length_take_of_le fits]
    rw [served, ← size]
    obtain ⟨filled, after, copied, content⟩ := flowing.copy (size.symm ▸ enough) empty 0
    rw [Nat.zero_add] at copied
    exact ⟨filled, after, copied, content⟩

end BlobTransfer
