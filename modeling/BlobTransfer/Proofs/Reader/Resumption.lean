import BlobTransfer.Proofs.Reader.Serving

/-!
Reading a part of an unchanged blob to its end, with retries forced between the reads. All bytes
come, but the end may not be seen: after a retry was forced, the store is asked for what lies
behind its blob, which it refuses.
-/

namespace BlobTransfer

namespace ReadSession

variable {scope : Scope} {blob : StoredBlob} {session : ReadSession BlobStore}

theorem Serving.readTurns (serving : session.Serving scope blob) {turns : List ReadTurn}
    (nonempty : ∀ turn ∈ turns, 0 < turn.size)
    (enough : (session.reader.span.part blob.data).length < turns.length) :
    ∃ last, session.readTurns BlobStore.getter scope turns =
        some (session.reader.span.part blob.data,
          if last.Stranded blob then .error (.status .rangeNotSatisfiable none) else .ok (),
          last) ∧
      last.Attached scope blob ∧
      last.reader.span.count = session.reader.span.count.map
        (· - (session.reader.span.part blob.data).length) ∧
      ((∀ turn ∈ turns, turn.forced = false) → session.reader.forced = false →
        last.reader.forced = false) := by
  induction turns generalizing session with
  | nil => simp at enough
  | cons turn later ih =>
      obtain ⟨prepared, stands⟩ := serving.prepare turn
      have calm : turn.forced = false → (session.prepare turn).reader = session.reader := by
        intro unforced
        simp [ReadSession.prepare, unforced]
      rw [← stands] at enough ⊢
      obtain ⟨nothing, next, ended⟩ | ⟨bytes, next, given, proceeds⟩ :=
        prepared.read (nonempty turn List.mem_cons_self)
      · refine ⟨session.prepare turn, ?_, prepared.toAttached, ?_, ?_⟩
        · rw [nothing, ReadSession.readTurns, ended]
          by_cases stranded : (session.prepare turn).Stranded blob
          · simp only [if_pos stranded]
          · simp only [if_neg stranded]
        · rw [nothing]
          cases (session.prepare turn).reader.span.count <;> rfl
        · intro unforced fresh
          rw [calm (unforced turn List.mem_cons_self)]
          exact fresh
      · have front := proceeds.front
        have longer : 0 < bytes.length := List.length_pos_iff.mpr proceeds.some_bytes
        rw [front] at enough ⊢
        rw [List.length_append, List.length_cons] at enough
        obtain ⟨last, read, attached, count, kept⟩ := ih proceeds.serving
          (fun other member => nonempty other (List.mem_cons_of_mem turn member)) (by omega)
        refine ⟨last, ?_, attached, ?_, ?_⟩
        · cases bytes with
          | nil => simp at longer
          | cons first others => simp only [ReadSession.readTurns, given, read, Option.map_some]
        · rw [count, proceeds.count, Option.map_map]
          congr 1
          funext wanted
          simp only [Function.comp_apply, List.length_append]
          omega
        · intro unforced fresh
          refine kept (fun other member => unforced other (List.mem_cons_of_mem turn member)) ?_
          exact proceeds.calm (calm (unforced turn List.mem_cons_self) ▸ fresh)

theorem serving_of_open {adapter : TransferAdapter BlobStore} {timeline : Timeline}
    {store : BlobStore} {offset : Nat} {count : Option Nat}
    (stored : adapter.getter = BlobStore.getter) (retrying : 1 ≤ adapter.readerOptions.retries)
    (unchanged : store.blob = some blob) (endless : timeline.Endless scope)
    (opened : adapter.openPart timeline scope store offset count = some (.ok (), session)) :
    session.Serving scope blob ∧ session.reader.span.offset = offset ∧
      session.reader.span.count = count ∧ session.reader.forced = false := by
  rw [TransferAdapter.openPart, stored] at opened
  generalize beginning : start timeline store none { offset, count }
    adapter.readerOptions.retries = first at opened
  have endless' : first.timeline.Endless scope := beginning ▸ endless
  have unplanned : first.forces = [] := beginning ▸ rfl
  have unchanged' : first.service.blob = some blob := beginning ▸ unchanged
  have pinned : ∀ tag, first.reader.span.etag = some tag → tag = blob.etag := by
    simp [← beginning, start, RangeReader.new]
  have offset_first : first.reader.span.offset = offset := beginning ▸ rfl
  by_cases refused : blob.data.length < offset ∨ (offset = blob.data.length ∧ 0 < blob.data.length)
  · obtain ⟨later, _, requested⟩ := request_of_endless first endless' unplanned
    rw [BlobStore.read_of_unchanged unchanged' pinned, offset_first, if_pos refused, opened]
      at requested
    simp at requested
  · have attached : first.Attached scope blob := {
      endless := endless', unchanged := unchanged', unplanned := unplanned, pinned := pinned
      retrying := beginning ▸ retrying
      bounded := by rw [← beginning]; rfl
      inside := by omega }
    obtain ⟨next, requested, serving, fresh, _, offset_eq, count_eq⟩ :=
      attached.request.2 (by omega)
    simp only [requested, Option.some.injEq, Prod.mk.injEq, true_and] at opened
    subst session
    exact ⟨serving, offset_eq.trans offset_first, count_eq.trans (beginning ▸ rfl), fresh⟩

/-- A part of an unchanged blob that was opened is read as a whole, wherever retries are forced
between the reads. At the end of it the reader sees the end, but for one case: it fails when a
retry was forced since the last response came and no count has kept the part within the blob. -/
theorem forced_retries_deliver_part {adapter : TransferAdapter BlobStore} {timeline : Timeline}
    {store : BlobStore} {offset : Nat} {count : Option Nat} {turns : List ReadTurn}
    (stored : adapter.getter = BlobStore.getter) (retrying : 1 ≤ adapter.readerOptions.retries)
    (unchanged : store.blob = some blob) (endless : timeline.awaitEnd scope = none)
    (opened : adapter.openPart timeline scope store offset count = some (.ok (), session))
    (nonempty : ∀ turn ∈ turns, 0 < turn.size)
    (enough : (Span.part { offset, count } blob.data).length < turns.length) :
    ∃ last, session.readTurns adapter.getter scope turns =
        some (Span.part { offset, count } blob.data,
          if last.reader.forced ∧ blob.data ≠ [] ∧
            count.all (fun wanted => blob.data.length < offset + wanted)
          then .error (.status .rangeNotSatisfiable none) else .ok (), last) ∧
      ((∀ turn ∈ turns, turn.forced = false) → last.reader.forced = false) := by
  obtain ⟨serving, offset_eq, count_eq, fresh⟩ :=
    serving_of_open stored retrying unchanged endless opened
  have part : session.reader.span.part blob.data = Span.part { offset, count } blob.data := by
    simp only [Span.part, offset_eq, count_eq]
  rw [← part] at enough ⊢
  obtain ⟨last, read, attached, counted, kept⟩ := serving.readTurns nonempty enough
  refine ⟨last, ?_, fun unforced => kept unforced fresh⟩
  have inside := serving.inside
  have open_ended : last.reader.isExhausted = false ↔
      count.all (fun wanted => blob.data.length < offset + wanted) = true := by
    rw [RangeReader.isExhausted, attached.bounded, counted, part, count_eq]
    cases count with
    | none => simp
    | some wanted =>
        simp only [Span.part, Option.map_some, Option.isSome_some, Bool.true_and,
          decide_eq_false_iff_not, Option.some.injEq, List.length_take, List.length_drop,
          Option.all_some, decide_eq_true_eq]
        omega
  rw [stored, read]
  simp only [Stranded, open_ended, and_comm]

def threeBytes : BlobStore := (({} : BlobStore).put [1, 2, 3]).2

def lateForce : List ReadTurn :=
  [{ size := 2 }, { size := 2 }, { forced := true, size := 2 }, { size := 2 }]

theorem late_forced_retry_fails :
    ((TransferAdapter.ofStore ⟨.random fun _ => 0, ⟨0, 0, 0⟩⟩).openPart {} { lineage := [0] }
      threeBytes 0 none).bind (fun (_, session) =>
        (session.readTurns BlobStore.getter { lineage := [0] } lateForce).map
          fun (bytes, outcome, _) => (bytes, outcome)) =
      some ([1, 2, 3], .error (.status .rangeNotSatisfiable none)) := by
  with_unfolding_all rfl

theorem late_forced_retry_delivers_part :
    ∃ session last,
      (TransferAdapter.ofStore ⟨.random fun _ => 0, ⟨0, 0, 0⟩⟩).openPart {} { lineage := [0] }
        threeBytes 0 none = some (.ok (), session) ∧
      session.readTurns BlobStore.getter { lineage := [0] } lateForce =
        some ([1, 2, 3],
          if last.reader.forced then .error (.status .rangeNotSatisfiable none) else .ok (),
          last) := by
  obtain ⟨session, opened⟩ : ∃ session,
      (TransferAdapter.ofStore ⟨.random fun _ => 0, ⟨0, 0, 0⟩⟩).openPart {} { lineage := [0] }
        threeBytes 0 none = some (.ok (), session) := ⟨_, rfl⟩
  have nonempty : ∀ turn ∈ lateForce, 0 < turn.size := by decide
  obtain ⟨last, read, _⟩ :=
    forced_retries_deliver_part rfl (by decide) rfl rfl opened nonempty (by decide)
  refine ⟨session, last, opened, ?_⟩
  simpa [Span.part, TransferAdapter.ofStore] using read

end ReadSession

end BlobTransfer
