import BlobTransfer.Adapter.Basic
import BlobTransfer.Proofs.Reader.Basic
import BlobTransfer.Proofs.Reader.Calm
import BlobTransfer.Proofs.Reader.Content
import BlobTransfer.Proofs.Reader.Inversion

/-!
A reader of a blob that is held unchanged, in a scope that never ends. What its response still
has is what is still wanted of the blob, also after a retry was forced.
-/

namespace BlobTransfer

theorem Span.part_advance (span : Span) (data : Bytes) (read : Nat) :
    (span.advance read).part data = (span.part data).drop read := by
  cases counted : span.count with
  | none => simp [Span.part, Span.advance, counted]
  | some count => simp [Span.part, Span.advance, counted, List.drop_take]

theorem Span.part_length_le (span : Span) (data : Bytes) :
    (span.part data).length ≤ data.length - span.offset := by
  cases counted : span.count with
  | none => simp [Span.part, counted]
  | some count =>
      simp only [Span.part, counted, List.length_take, List.length_drop]
      omega

namespace Body

def Flow (events : List BodyEvent) : Prop := ∀ event ∈ events, ∃ bytes, event = .data bytes

theorem nextEvent_of_flow {events : List BodyEvent} (flow : Flow events) (now : Nat)
    (wakeAt : Option Nat) :
    (readableEvents events = [] ∧
      nextEvent List.isEmpty now wakeAt events = some (none, {}, now)) ∨
    ∃ bytes rest, bytes ≠ [] ∧ Flow rest ∧ readableEvents events = bytes ++ readableEvents rest ∧
      nextEvent List.isEmpty now wakeAt events =
        some (some (.ok bytes), { events := rest }, now) := by
  induction events generalizing wakeAt with
  | nil => exact .inl ⟨rfl, rfl⟩
  | cons event later ih =>
      obtain ⟨bytes, rfl⟩ := flow event List.mem_cons_self
      have onward : Flow later := fun event member => flow event (List.mem_cons_of_mem _ member)
      by_cases empty : bytes = []
      · subst bytes
        exact ih onward none
      · refine .inr ⟨bytes, later, empty, onward, rfl, ?_⟩
        simp [nextEvent, empty]

theorem flow_pieces (pieces : List Bytes) : Flow (pieces.map .data) := by
  intro event member
  obtain ⟨bytes, _, rfl⟩ := List.mem_map.mp member
  exact ⟨bytes, rfl⟩

theorem readable_pieces (size : Nat) (positive : 0 < size) (bytes : Bytes) :
    readableEvents ((piecesOf size positive bytes).map .data) = bytes := by
  induction bytes using piecesOf.induct size positive with
  | case1 bytes empty =>
      rw [piecesOf, if_pos empty, List.isEmpty_iff.mp empty]
      rfl
  | case2 bytes filled ih =>
      rw [piecesOf, if_neg filled, List.map_cons, readableEvents, ih]
      exact List.take_append_drop size bytes

end Body

namespace LiveBody

theorem read_of_flow {inner : Body} (flow : Body.Flow inner.events) {aborted : Bool}
    {buffered : Bytes} {limit : Nat} (positive : 0 < limit) (now : Nat)
    (going : buffered ≠ [] ∨ aborted = false) :
    (buffered ++ inner.readable = [] ∧
      (LiveBody.mk ⟨some inner, aborted⟩ buffered).read limit now none =
        some (.ok [], ⟨⟨none, aborted⟩, []⟩, now)) ∨
    ∃ bytes inner' buffered', bytes ≠ [] ∧ Body.Flow inner'.events ∧
      buffered ++ inner.readable = bytes ++ (buffered' ++ inner'.readable) ∧
      (LiveBody.mk ⟨some inner, aborted⟩ buffered).read limit now none =
        some (.ok bytes, ⟨⟨some inner', aborted⟩, buffered'⟩, now) := by
  by_cases empty : buffered = []
  · subst buffered
    obtain rfl := going.resolve_left (by simp)
    obtain ⟨nothing, ended⟩ | ⟨bytes, rest, some_bytes, onward, front, given⟩ :=
      Body.nextEvent_of_flow flow now inner.wakeAt
    · refine .inl ⟨nothing, ?_⟩
      simp [read, AbortableBody.next, Body.next, ended]
    · refine .inr ⟨bytes.take limit, { events := rest }, bytes.drop limit, ?_, onward, ?_, ?_⟩
      · simp [List.take_eq_nil_iff, some_bytes, Nat.ne_of_gt positive]
      · rw [← List.append_assoc, List.take_append_drop, List.nil_append]
        exact front
      · simp [read, AbortableBody.next, Body.next, given]
  · refine .inr ⟨buffered.take limit, inner, buffered.drop limit, ?_, flow, ?_, ?_⟩
    · simp [List.take_eq_nil_iff, empty, Nat.ne_of_gt positive]
    · rw [← List.append_assoc, List.take_append_drop]
    · simp [read, empty]

theorem read_of_aborted (inner : Body) (limit now : Nat) :
    (LiveBody.mk ⟨some inner, true⟩ []).read limit now none =
      some (.error AbortableBody.interruption, ⟨⟨none, true⟩, []⟩, now) := by
  simp [read, AbortableBody.next]

end LiveBody

namespace BlobStore

theorem read_of_unchanged {store : BlobStore} {blob : StoredBlob} {span : Span}
    (unchanged : store.blob = some blob) (pinned : ∀ tag, span.etag = some tag → tag = blob.etag) :
    store.read span =
      if blob.data.length < span.offset ∨ (span.offset = blob.data.length ∧ 0 < blob.data.length)
      then .error (.status .rangeNotSatisfiable none)
      else .ok {
        body := { events := (piecesOf store.pieceSize store.pieceSize_pos
          (span.part blob.data)).map .data }
        etag := some blob.etag
        abortable := true } := by
  have same : span.etag.any (· ≠ blob.etag) = false := by
    cases tag : span.etag with
    | none => rfl
    | some tag => simp [pinned _ tag]
  simp only [read, unchanged, same, Bool.false_eq_true, if_false]

end BlobStore

namespace ReadSession

structure Attached (scope : Scope) (blob : StoredBlob) (session : ReadSession BlobStore) :
    Prop where
  endless : session.timeline.Endless scope
  unchanged : session.service.blob = some blob
  unplanned : session.forces = []
  retrying : 0 < session.reader.retries
  bounded : session.reader.bounded = session.reader.span.count.isSome
  pinned : ∀ tag, session.reader.span.etag = some tag → tag = blob.etag
  inside : session.reader.span.offset ≤ blob.data.length

/-- Whether the response that such a reader holds has what is still wanted, although it may have
been aborted. -/
structure Serving (scope : Scope) (blob : StoredBlob) (session : ReadSession BlobStore) : Prop
    extends Attached scope blob session where
  handle : session.reader.canForce = true
  holds : ∃ inner buffered,
    session.reader.body = some ⟨⟨some inner, session.reader.forced⟩, buffered⟩ ∧
    Body.Flow inner.events ∧ buffered ++ inner.readable = session.reader.span.part blob.data

structure Proceeds (scope : Scope) (blob : StoredBlob) (session : ReadSession BlobStore)
    (bytes : Bytes) (next : ReadSession BlobStore) : Prop where
  some_bytes : bytes ≠ []
  serving : next.Serving scope blob
  offset : next.reader.span.offset = session.reader.span.offset + bytes.length
  count : next.reader.span.count = session.reader.span.count.map (· - bytes.length)
  front : session.reader.span.part blob.data = bytes ++ next.reader.span.part blob.data
  calm : session.reader.forced = false → next.reader.forced = false

variable {scope : Scope} {blob : StoredBlob} {session : ReadSession BlobStore}

theorem await_of_endless (endless : session.timeline.Endless scope)
    (unplanned : session.forces = []) {body rest : LiveBody} {size time : Nat}
    {result : Except IoError Bytes}
    (given : body.read (session.reader.limit size) session.timeline.now none =
      some (result, rest, time)) :
    ∃ timeline, timeline.Endless scope ∧
      session.await scope body size = some (.read result rest, { session with timeline }) := by
  have calm : session.Calm scope := ⟨endless, unplanned⟩
  refine ⟨_, endless.reach rest.source.aborted time, ?_⟩
  rw [calm.await_eq, given, Option.map_some]

theorem Serving.force (serving : session.Serving scope blob) :
    Serving scope blob { session with reader := session.reader.force } := by
  obtain ⟨inner, buffered, held, flow, same⟩ := serving.holds
  have forced : session.reader.force = { session.reader with
      forced := true, body := some ⟨⟨some inner, true⟩, buffered⟩ } := by
    simp [RangeReader.force, serving.handle, held, LiveBody.abort, AbortableBody.abort]
  rw [forced]
  exact {
    endless := serving.endless, unchanged := serving.unchanged, unplanned := serving.unplanned
    retrying := serving.retrying, bounded := serving.bounded, pinned := serving.pinned
    inside := serving.inside, handle := serving.handle
    holds := ⟨inner, buffered, rfl, flow, same⟩ }

theorem Serving.prepare (serving : session.Serving scope blob) (turn : ReadTurn) :
    (session.prepare turn).Serving scope blob ∧
      (session.prepare turn).reader.span = session.reader.span := by
  unfold ReadSession.prepare
  split
  · refine ⟨serving.force, ?_⟩
    simp only [RangeReader.force]
    split <;> rfl
  · exact ⟨serving, rfl⟩

theorem request_of_endless (session : ReadSession BlobStore)
    (endless : session.timeline.Endless scope) (unplanned : session.forces = []) :
    ∃ timeline, timeline.Endless scope ∧
      session.request BlobStore.getter scope = some (
        let asked := { session.ask (session.service.get none session.reader.span).2 with timeline }
        match session.service.read session.reader.span with
        | .error error => (.error error, asked)
        | .ok response => (.ok (), asked.install response)) := by
  refine ⟨session.timeline.advanceTo (session.timeline.now + 0), endless.advanceTo _, ?_⟩
  have unplanned' : ∀ store, (session.ask store).forces = [] := fun _ => unplanned
  simp only [request, endless.end?_eq, BlobStore.getter, Option.map_some, endless.run_eq,
    Option.bind_eq_bind, Option.bind_some, moveTo_of_unplanned (unplanned' _), BlobStore.get]
  cases session.service.read session.reader.span <;> rfl

theorem Attached.request (attached : session.Attached scope blob) :
    (session.reader.span.offset = blob.data.length → 0 < blob.data.length →
      ∃ next, session.request BlobStore.getter scope =
        some (.error (.status .rangeNotSatisfiable none), next)) ∧
    (session.reader.span.offset < blob.data.length ∨ blob.data.length = 0 →
      ∃ next, session.request BlobStore.getter scope = some (.ok (), next) ∧
        next.Serving scope blob ∧ next.reader.forced = false ∧
        next.reader.isExhausted = session.reader.isExhausted ∧
        next.reader.span.offset = session.reader.span.offset ∧
        next.reader.span.count = session.reader.span.count) := by
  obtain ⟨timeline, endless, requested⟩ :=
    request_of_endless session attached.endless attached.unplanned
  have inside := attached.inside
  rw [BlobStore.read_of_unchanged attached.unchanged attached.pinned] at requested
  constructor
  · intro last some_data
    rw [if_pos (.inr ⟨last, some_data⟩)] at requested
    exact ⟨_, requested⟩
  · intro more
    rw [if_neg (by omega)] at requested
    refine ⟨_, requested, ?_, rfl, rfl, rfl, rfl⟩
    exact {
      endless := endless
      unchanged := attached.unchanged
      unplanned := attached.unplanned
      retrying := attached.retrying
      bounded := attached.bounded
      pinned := by
        intro tag pinned
        cases known : session.reader.span.etag with
        | none =>
            simp only [ReadSession.install, RangeReader.install, ReadSession.ask, known,
              Option.none_or, Option.some.injEq] at pinned
            exact pinned.symm
        | some first =>
            simp only [ReadSession.install, RangeReader.install, ReadSession.ask, known,
              Option.some_or, Option.some.injEq] at pinned
            exact pinned ▸ attached.pinned first known
      inside := inside
      handle := rfl
      holds := ⟨_, [], rfl, Body.flow_pieces _, Body.readable_pieces _ _ _⟩ }

theorem Serving.readHeld (serving : session.Serving scope blob) {size : Nat}
    (positive : 0 < size) (unexhausted : session.reader.isExhausted = false) {inner : Body}
    {buffered : Bytes}
    (held : session.reader.body = some ⟨⟨some inner, session.reader.forced⟩, buffered⟩)
    (flow : Body.Flow inner.events)
    (same : buffered ++ inner.readable = session.reader.span.part blob.data)
    (going : buffered ≠ [] ∨ session.reader.forced = false) :
    (session.reader.span.part blob.data = [] ∧
      ∃ next, session.readHeld scope size = some (.done (.ok []), next)) ∨
    ∃ bytes next, session.readHeld scope size = some (.done (.ok bytes), next) ∧
      session.Proceeds scope blob bytes next := by
  have limit := RangeReader.limit_pos serving.bounded unexhausted positive
  obtain ⟨nothing, given⟩ | ⟨bytes, inner', buffered', some_bytes, flow', front, given⟩ :=
    LiveBody.read_of_flow flow limit session.timeline.now going
  · obtain ⟨timeline, _, awaited⟩ :=
      await_of_endless serving.endless serving.unplanned given
    refine .inl ⟨same.symm.trans nothing,
      ({ session with timeline } : ReadSession BlobStore).deliver []
        ⟨⟨none, session.reader.forced⟩, []⟩, ?_⟩
    simp only [ReadSession.readHeld, held, awaited, Option.map_some]
  · obtain ⟨timeline, endless, awaited⟩ :=
      await_of_endless serving.endless serving.unplanned given
    have rest : (session.reader.span.advance bytes.length).part blob.data =
        buffered' ++ inner'.readable := by
      rw [Span.part_advance, ← same, front, List.drop_left]
    refine .inr ⟨bytes,
      ({ session with timeline } : ReadSession BlobStore).deliver bytes
        ⟨⟨some inner', session.reader.forced⟩, buffered'⟩, ?_, some_bytes, ?_, rfl, rfl,
      (same.symm.trans front).trans (congrArg (bytes ++ ·) rest.symm), id⟩
    · simp only [ReadSession.readHeld, held, awaited, Option.map_some]
    · have size_le := session.reader.span.part_length_le blob.data
      rw [← same, front, List.length_append] at size_le
      have inside := serving.inside
      exact {
        endless := endless
        unchanged := serving.unchanged
        unplanned := serving.unplanned
        retrying := serving.retrying
        bounded := by
          simp [ReadSession.deliver, RangeReader.advance, Span.advance, serving.bounded]
        pinned := serving.pinned
        inside := by
          simp only [ReadSession.deliver, RangeReader.advance, Span.advance]
          omega
        handle := serving.handle
        holds := ⟨inner', buffered', rfl, flow', rest.symm⟩ }

/-- Whether a reader has to ask for what lies behind its blob before it sees the end. -/
def Stranded (blob : StoredBlob) (session : ReadSession BlobStore) : Prop :=
  session.reader.forced = true ∧ session.reader.isExhausted = false ∧ blob.data ≠ []

instance (blob : StoredBlob) (session : ReadSession BlobStore) :
    Decidable (session.Stranded blob) :=
  inferInstanceAs (Decidable (_ ∧ _ ∧ _))

theorem Attached.part_eq_nil (attached : session.Attached scope blob)
    (unexhausted : session.reader.isExhausted = false) :
    session.reader.span.part blob.data = [] ↔
      session.reader.span.offset = blob.data.length := by
  have inside := attached.inside
  cases counted : session.reader.span.count with
  | none =>
      simp only [Span.part, counted, List.drop_eq_nil_iff]
      omega
  | some count =>
      have more : count ≠ 0 := by
        rintro rfl
        simp [RangeReader.isExhausted, attached.bounded, counted] at unexhausted
      simp only [Span.part, counted, List.take_eq_nil_iff, List.drop_eq_nil_iff]
      omega

theorem Serving.retry (serving : session.Serving scope blob) {size left failures : Nat}
    (unexhausted : session.reader.isExhausted = false) {inner : Body}
    (held : session.reader.body = some ⟨⟨some inner, true⟩, []⟩)
    (forced : session.reader.forced = true) :
    ∃ closed : ReadSession BlobStore, closed.Attached scope blob ∧ closed.reader.body = none ∧
      closed.reader.isExhausted = false ∧ closed.reader.span = session.reader.span ∧
      readFrom BlobStore.getter scope size (left + 1) failures session =
        readFrom BlobStore.getter scope size left (failures + 1) closed := by
  have given := LiveBody.read_of_aborted inner (session.reader.limit size) session.timeline.now
  obtain ⟨timeline, endless, awaited⟩ := await_of_endless serving.endless serving.unplanned given
  refine ⟨({ session with timeline } : ReadSession BlobStore).fail failures (left + 1)
    AbortableBody.interruption, ?_, rfl, unexhausted, rfl, ?_⟩
  · exact {
      endless := endless, unchanged := serving.unchanged, unplanned := serving.unplanned
      retrying := serving.retrying, bounded := serving.bounded, pinned := serving.pinned
      inside := serving.inside }
  · have tried : session.tryRead BlobStore.getter scope size =
        some (.failed AbortableBody.interruption, { session with timeline }) := by
      simp only [tryRead, unexhausted, Bool.false_eq_true, if_false, held, Option.isSome_some,
        if_true, ReadSession.readHeld, awaited, Option.map_some]
    simp only [readFrom, tried, Option.bind_some, RangeReader.mayRetry, forced, Bool.or_true,
      if_true]

theorem Attached.readFrom (attached : session.Attached scope blob)
    (unheld : session.reader.body = none) (unexhausted : session.reader.isExhausted = false)
    {size : Nat} (positive : 0 < size) (left failures : Nat) :
    (session.reader.span.offset = blob.data.length ∧ 0 < blob.data.length ∧
      ∃ next, readFrom BlobStore.getter scope size left failures session =
        some (.error (.status .rangeNotSatisfiable none), next)) ∨
    (session.reader.span.part blob.data = [] ∧ blob.data = [] ∧
      ∃ next, readFrom BlobStore.getter scope size left failures session = some (.ok [], next)) ∨
    ∃ bytes next, readFrom BlobStore.getter scope size left failures session =
        some (.ok bytes, next) ∧
      session.Proceeds scope blob bytes next := by
  obtain ⟨refused, answered⟩ := attached.request
  by_cases behind : session.reader.span.offset = blob.data.length ∧ 0 < blob.data.length
  · obtain ⟨next, requested⟩ := refused behind.1 behind.2
    have tried : session.tryRead BlobStore.getter scope size =
        some (.done (.error (.status .rangeNotSatisfiable none)), next) := by
      simp only [tryRead, unexhausted, unheld, Option.isSome_none, Bool.false_eq_true, if_false,
        requested, Option.bind_some]
    exact .inl ⟨behind.1, behind.2, next, readFrom_of_done tried⟩
  · have inside := attached.inside
    obtain ⟨next, requested, serving, fresh, same, offset, count⟩ := answered (by omega)
    have part : next.reader.span.part blob.data = session.reader.span.part blob.data := by
      rw [Span.part, Span.part, offset, count]
    have tried : session.tryRead BlobStore.getter scope size = next.readHeld scope size := by
      simp only [tryRead, unexhausted, unheld, Option.isSome_none, Bool.false_eq_true, if_false,
        requested, Option.bind_some]
    obtain ⟨inner, buffered, held, flow, content⟩ := serving.holds
    obtain ⟨nothing, last, ended⟩ | ⟨bytes, last, given, proceeds⟩ :=
      serving.readHeld positive (same.trans unexhausted) held flow content (.inr fresh)
    · rw [part] at nothing
      have empty : blob.data = [] := by
        have last := (attached.part_eq_nil unexhausted).mp nothing
        exact List.length_eq_zero_iff.mp (by omega)
      exact .inr (.inl ⟨nothing, empty, last, readFrom_of_done (tried.trans ended)⟩)
    · refine .inr (.inr ⟨bytes, last, readFrom_of_done (tried.trans given), ?_⟩)
      exact {
        some_bytes := proceeds.some_bytes
        serving := proceeds.serving
        offset := offset ▸ proceeds.offset
        count := count ▸ proceeds.count
        front := part ▸ proceeds.front
        calm := fun _ => proceeds.calm fresh }

theorem Serving.read (serving : session.Serving scope blob) {size : Nat} (positive : 0 < size) :
    (session.reader.span.part blob.data = [] ∧
      ∃ next, session.read BlobStore.getter scope size = some (
        if session.Stranded blob then .error (.status .rangeNotSatisfiable none) else .ok [],
        next)) ∨
    ∃ bytes next, session.read BlobStore.getter scope size = some (.ok bytes, next) ∧
      session.Proceeds scope blob bytes next := by
  obtain ⟨left, retries⟩ := Nat.exists_eq_add_one.mpr serving.retrying
  simp only [ReadSession.read, Nat.ne_of_gt positive, if_false, retries]
  cases exhausted : session.reader.isExhausted with
  | true =>
      have tried : session.tryRead BlobStore.getter scope size =
          some (.done (.ok []), session) := by
        simp only [tryRead, exhausted, if_true]
      refine .inl ⟨?_, session, ?_⟩
      · simp only [RangeReader.isExhausted, Bool.and_eq_true, decide_eq_true_eq] at exhausted
        simp [Span.part, exhausted.2]
      · rw [readFrom_of_done tried, if_neg (by simp [Stranded, exhausted])]
  | false =>
      obtain ⟨inner, buffered, held, flow, same⟩ := serving.holds
      by_cases going : buffered ≠ [] ∨ session.reader.forced = false
      · have tried : session.tryRead BlobStore.getter scope size =
            session.readHeld scope size := by
          simp only [tryRead, exhausted, Bool.false_eq_true, if_false, held, Option.isSome_some,
            if_true]
        obtain ⟨nothing, next, ended⟩ | ⟨bytes, next, given, proceeds⟩ :=
          serving.readHeld positive exhausted held flow same going
        · refine .inl ⟨nothing, next, ?_⟩
          have unforced : session.reader.forced = false := by
            refine going.resolve_left ?_
            rw [nothing, List.append_eq_nil_iff] at same
            simp [same.1]
          rw [readFrom_of_done (tried.trans ended), if_neg (by simp [Stranded, unforced])]
        · exact .inr ⟨bytes, next, readFrom_of_done (tried.trans given), proceeds⟩
      · simp only [ne_eq, not_or, Decidable.not_not, Bool.not_eq_false] at going
        obtain ⟨rfl, forced⟩ := going
        rw [forced] at held
        obtain ⟨closed, attached, unheld, unexhausted, stands, retried⟩ :=
          serving.retry exhausted held forced
        have part_nil := serving.part_eq_nil exhausted
        rw [retried]
        rw [← stands] at part_nil ⊢
        obtain ⟨last, some_data, next, refused⟩ | ⟨nothing, empty, next, ended⟩ |
          ⟨bytes, next, resumed, proceeds⟩ := attached.readFrom unheld unexhausted positive left 1
        · have stranded : session.Stranded blob :=
            ⟨forced, exhausted, List.length_pos_iff.mp some_data⟩
          refine .inl ⟨part_nil.mpr last, next, ?_⟩
          rw [refused, if_pos stranded]
        · refine .inl ⟨nothing, next, ?_⟩
          rw [ended, if_neg (by simp [Stranded, empty])]
        · refine .inr ⟨bytes, next, resumed, ?_⟩
          exact {
            some_bytes := proceeds.some_bytes
            serving := proceeds.serving
            offset := stands ▸ proceeds.offset
            count := stands ▸ proceeds.count
            front := stands ▸ proceeds.front
            calm := fun unforced => by simp [forced] at unforced }

end ReadSession

end BlobTransfer
