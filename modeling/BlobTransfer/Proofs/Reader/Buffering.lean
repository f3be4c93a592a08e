import BlobTransfer.Proofs.Reader.Basic
import BlobTransfer.Proofs.Reader.Calm
import BlobTransfer.Proofs.Reader.Inversion
import BlobTransfer.Reader.Script

/-!
Buffer sizes do not matter to what a calm reader comes to. A failure is only seen when nothing is
buffered, so a read with a large buffer is a read with a small one, and maybe another from what is
buffered then; between lists of buffers this cuts the first ones to one size.
-/

namespace BlobTransfer

namespace ReadSession

variable {Service : Type}

/-! What happened before has no part in what a reader does. -/

section Past

variable (session : ReadSession Service) (past : List ReadEvent)

def withPast : ReadSession Service := { session with history := past ++ session.history }

def forget : ReadSession Service := { session with history := [] }

theorem withPast_forget : session.forget.withPast session.history = session := by
  simp [withPast, forget]

theorem withPast_moveTo (timeline : Timeline) (through : Bool) :
    (session.withPast past).moveTo timeline through =
      (session.moveTo timeline through).withPast past := rfl

theorem withPast_ask (service : Service) :
    (session.withPast past).ask service = (session.ask service).withPast past := by
  simp [withPast, ask]

theorem withPast_install (response : LiveResponse) :
    (session.withPast past).install response = (session.install response).withPast past := by
  simp [withPast, install]

theorem withPast_deliver (bytes : Bytes) (rest : LiveBody) :
    (session.withPast past).deliver bytes rest = (session.deliver bytes rest).withPast past := by
  simp [withPast, deliver]

theorem withPast_fail (failures left : Nat) (error : IoError) :
    (session.withPast past).fail failures left error =
      (session.fail failures left error).withPast past := by
  simp [withPast, fail, close]

theorem request_withPast (getter : Getter Service) (scope : Scope) :
    (session.withPast past).request getter scope =
      (session.request getter scope).map (Prod.map id (withPast · past)) := by
  have timeline : (session.withPast past).timeline = session.timeline := rfl
  have service : (session.withPast past).service = session.service := rfl
  have reader : (session.withPast past).reader = session.reader := rfl
  simp only [request, timeline, service, reader, withPast_ask, withPast_moveTo]
  cases session.timeline.end? scope with
  | some reason => rfl
  | none =>
      cases session.timeline.run scope
          ((getter session.service session.reader.span).1.delay.map
            (session.timeline.now + ·)) with
      | none => rfl
      | some ran =>
          obtain ⟨waited, later⟩ := ran
          cases waited with
          | ended reason => rfl
          | finished =>
              cases (getter session.service session.reader.span).1.outcome with
              | error error => rfl
              | ok response => simp [withPast_install]

theorem await_withPast (scope : Scope) (body : LiveBody) (size : Nat) :
    (session.withPast past).await scope body size =
      (session.await scope body size).map (Prod.map id (withPast · past)) := by
  have timeline : (session.withPast past).timeline = session.timeline := rfl
  have reader : (session.withPast past).reader = session.reader := rfl
  have force : (session.withPast past).nextForce? = session.nextForce? := rfl
  simp only [await, timeline, reader, force]
  cases session.timeline.race scope with
  | some reason => rfl
  | none =>
      cases body.read (session.reader.limit size) session.timeline.now session.nextForce? with
      | none => cases session.timeline.endAhead? scope <;> rfl
      | some given =>
          cases session.timeline.endAhead? scope with
          | none => rfl
          | some ahead =>
              dsimp only
              split <;> rfl

theorem readHeld_withPast (scope : Scope) (size : Nat) :
    (session.withPast past).readHeld scope size =
      (session.readHeld scope size).map (Prod.map id (withPast · past)) := by
  have reader : (session.withPast past).reader = session.reader := rfl
  simp only [readHeld, reader]
  cases session.reader.body with
  | none => rfl
  | some body =>
      simp only [await_withPast, Option.map_map]
      congr 1
      funext answered
      obtain ⟨outcome, next⟩ := answered
      cases outcome with
      | ended reason => rfl
      | read result rest =>
          cases result with
          | error error => rfl
          | ok bytes => simp [withPast_deliver]

theorem tryRead_withPast (getter : Getter Service) (scope : Scope) (size : Nat) :
    (session.withPast past).tryRead getter scope size =
      (session.tryRead getter scope size).map (Prod.map id (withPast · past)) := by
  have reader : (session.withPast past).reader = session.reader := rfl
  simp only [tryRead, reader, readHeld_withPast, request_withPast]
  split
  · rfl
  · split
    · rfl
    · cases session.request getter scope with
      | none => rfl
      | some answered =>
          obtain ⟨ready, asked⟩ := answered
          cases ready with
          | error error => rfl
          | ok done => exact readHeld_withPast asked past scope size

theorem readFrom_withPast (getter : Getter Service) (scope : Scope) (size left failures : Nat) :
    readFrom getter scope size left failures (session.withPast past) =
      (readFrom getter scope size left failures session).map (Prod.map id (withPast · past)) := by
  induction left generalizing session failures with
  | zero =>
      simp only [readFrom, tryRead_withPast, Option.map_map]
      congr 1
      funext answered
      obtain ⟨outcome, next⟩ := answered
      cases outcome with
      | done result => rfl
      | failed error => simp [withPast_fail]
  | succ left ih =>
      simp only [readFrom, tryRead_withPast]
      cases session.tryRead getter scope size with
      | none => rfl
      | some tried =>
          obtain ⟨outcome, next⟩ := tried
          cases outcome with
          | done result => rfl
          | failed error =>
              have reader : (next.withPast past).reader = next.reader := rfl
              simp only [Option.map_some, Option.bind_some, Prod.map_apply, id_eq, reader,
                withPast_fail, ih]
              split <;> rfl

theorem read_withPast (getter : Getter Service) (scope : Scope) (size : Nat) :
    (session.withPast past).read getter scope size =
      (session.read getter scope size).map (Prod.map id (withPast · past)) := by
  have reader : (session.withPast past).reader = session.reader := rfl
  simp only [read, reader, readFrom_withPast]
  split <;> rfl

end Past

/-- What reading with some buffers comes to, but for the order of what happened. -/
def course (session : ReadSession Service) (getter : Getter Service) (scope : Scope)
    (sizes : List Nat) : Option (Bytes × Except TransferError Unit × ReadSession Service) :=
  (session.readBuffers getter scope sizes).map fun (bytes, outcome, last) =>
    (bytes, outcome, last.forget)

section Course

variable {session next : ReadSession Service} {getter : Getter Service} {scope : Scope} {size : Nat}

theorem course_of_never (stuck : session.read getter scope size = none) (later : List Nat) :
    session.course getter scope (size :: later) = none := by
  simp only [course, readBuffers, stuck, Option.map_none]

theorem course_of_error {error : TransferError}
    (failed : session.read getter scope size = some (.error error, next)) (later : List Nat) :
    session.course getter scope (size :: later) = some ([], .error error, next.forget) := by
  simp only [course, readBuffers, failed, Option.map_some]

theorem course_of_end (ended : session.read getter scope size = some (.ok [], next))
    (later : List Nat) :
    session.course getter scope (size :: later) = some ([], .ok (), next.forget) := by
  simp only [course, readBuffers, ended, Option.map_some]

theorem course_of_bytes {bytes : Bytes} (filled : bytes ≠ [])
    (given : session.read getter scope size = some (.ok bytes, next)) (later : List Nat) :
    session.course getter scope (size :: later) =
      (next.course getter scope later).map fun (others, found) => (bytes ++ others, found) := by
  obtain ⟨first, others, rfl⟩ := List.exists_cons_of_ne_nil filled
  simp only [course, readBuffers, given, Option.map_map]
  rfl

theorem course_cons_congr {other : ReadSession Service} {size' : Nat} {later later' : List Nat}
    (past : List ReadEvent)
    (same : other.read getter scope size' =
      (session.read getter scope size).map (Prod.map id (withPast · past)))
    (onward : ∀ bytes next, bytes ≠ [] → session.read getter scope size = some (.ok bytes, next) →
      (next.withPast past).course getter scope later' = next.course getter scope later) :
    other.course getter scope (size' :: later') = session.course getter scope (size :: later) := by
  cases read : session.read getter scope size with
  | none =>
      rw [read] at same
      rw [course_of_never same, course_of_never read]
  | some given =>
      obtain ⟨result, next⟩ := given
      rw [read] at same
      cases result with
      | error error =>
          rw [course_of_error same, course_of_error read]
          rfl
      | ok bytes =>
          by_cases filled : bytes = []
          · subst bytes
            rw [course_of_end same, course_of_end read]
            rfl
          · rw [course_of_bytes filled same, course_of_bytes filled read,
              onward bytes next filled read]

theorem course_withPast (session : ReadSession Service) (past : List ReadEvent)
    (sizes : List Nat) :
    (session.withPast past).course getter scope sizes = session.course getter scope sizes := by
  induction sizes generalizing session with
  | nil => rfl
  | cons size later ih =>
      exact course_cons_congr past (read_withPast session past getter scope size)
        fun bytes next _ _ => ih next

theorem course_congr {other : ReadSession Service} (alike : session.forget = other.forget)
    (sizes : List Nat) :
    session.course getter scope sizes = other.course getter scope sizes := by
  rw [← session.withPast_forget, course_withPast, alike, ← course_withPast _ other.history,
    withPast_forget]

end Course

section Agreement

variable {session : ReadSession Service} {getter : Getter Service} {scope : Scope}

theorem Calm.read_of_buffered (calm : session.Calm scope) {source : AbortableBody}
    {buffered : Bytes} (settled : session.timeline.Settled source.aborted)
    (held : session.reader.body = some ⟨source, buffered⟩) (filled : buffered ≠ [])
    (unexhausted : session.reader.isExhausted = false) {size : Nat} (positive : 0 < size)
    (getter : Getter Service) :
    session.read getter scope size =
      some (.ok (buffered.take (session.reader.limit size)),
        session.deliver (buffered.take (session.reader.limit size))
          ⟨source, buffered.drop (session.reader.limit size)⟩) := by
  have fetched : (LiveBody.mk source buffered).fetch session.timeline.now none =
      some (.ok buffered, source, session.timeline.now) := by
    simp [LiveBody.fetch, filled]
  have unmoved : session.timeline.reach source.aborted session.timeline.now =
      session.timeline := settled
  have tried : session.tryRead getter scope size =
      some (.done (.ok (buffered.take (session.reader.limit size))),
        session.deliver (buffered.take (session.reader.limit size))
          ⟨source, buffered.drop (session.reader.limit size)⟩) := by
    simp only [ReadSession.tryRead, unexhausted, Bool.false_eq_true, if_false, held,
      Option.isSome_some, if_true, ReadSession.readHeld, calm.await_eq, LiveBody.read_eq_fetch,
      fetched, Option.map_some, LiveBody.portion, unmoved]
  rw [read_of_pos positive]
  cases session.reader.retries <;>
    simp only [ReadSession.readFrom, tried, Option.map_some, Option.bind_some]

theorem forget_deliver_deliver (session : ReadSession Service) (bytes others : Bytes)
    (between rest : LiveBody) :
    ((session.deliver bytes between).deliver others rest).forget =
      (session.deliver (bytes ++ others) rest).forget := by
  simp [deliver, forget, RangeReader.advance, Span.advance_advance]

theorem Calm.course_of_fronts {waited : ReadSession Service} (calm : waited.Calm scope)
    {source : AbortableBody} {bytes : Bytes} (settled : waited.timeline.Settled source.aborted)
    {size more : Nat} (positive : 0 < size) (positive' : 0 < more)
    (given : ∀ size, 0 < size → session.read getter scope size =
      some (.ok (bytes.take (waited.reader.limit size)),
        waited.deliver (bytes.take (waited.reader.limit size))
          ⟨source, bytes.drop (waited.reader.limit size)⟩))
    (cut : waited.reader.limit size < bytes.length)
    (wider : waited.reader.limit size < waited.reader.limit (size + more)) (later : List Nat) :
    session.course getter scope ((size + more) :: later) =
      session.course getter scope (size :: more :: later) := by
  have some_limit := RangeReader.limit_pos_of_wider positive wider
  have filled : ∀ limit, 0 < limit → bytes.take limit ≠ [] := by
    intro limit some_limit nothing
    have none_left := congrArg List.length nothing
    rw [List.length_take, List.length_nil] at none_left
    omega
  let rest : LiveBody := ⟨source, bytes.drop (waited.reader.limit size)⟩
  let middle := waited.deliver (bytes.take (waited.reader.limit size)) rest
  have reader : middle.reader = waited.reader.advance rest (waited.reader.limit size) := by
    simp only [middle, deliver, List.length_take, Nat.min_eq_left (Nat.le_of_lt cut)]
  have split : waited.reader.limit (size + more) =
      waited.reader.limit size + middle.reader.limit more := by
    rw [reader]
    exact waited.reader.limit_add rest size more
  have others : bytes.drop (waited.reader.limit size) ≠ [] := by
    rw [ne_eq, List.drop_eq_nil_iff]
    omega
  have calm' : middle.Calm scope := ⟨calm.endless, calm.unplanned⟩
  have onward := calm'.read_of_buffered settled rfl others
    (RangeReader.unexhausted_of_limit (by omega : 0 < middle.reader.limit more)) positive' getter
  have filled' : (bytes.drop (waited.reader.limit size)).take (middle.reader.limit more) ≠ [] := by
    rw [ne_eq, List.take_eq_nil_iff, not_or]
    exact ⟨by omega, others⟩
  have whole : bytes.take (waited.reader.limit (size + more)) =
      bytes.take (waited.reader.limit size) ++
        (bytes.drop (waited.reader.limit size)).take (middle.reader.limit more) := by
    rw [split, List.take_add]
  rw [course_of_bytes (filled _ (by omega)) (given _ (by omega)),
    course_of_bytes (filled _ some_limit) (given _ positive), course_of_bytes filled' onward,
    Option.map_map]
  have same : (waited.deliver (bytes.take (waited.reader.limit (size + more)))
      ⟨source, bytes.drop (waited.reader.limit (size + more))⟩).forget =
      (middle.deliver ((bytes.drop (waited.reader.limit size)).take (middle.reader.limit more))
        ⟨source, (bytes.drop (waited.reader.limit size)).drop
          (middle.reader.limit more)⟩).forget := by
    rw [forget_deliver_deliver, whole, split, List.drop_drop]
  rw [course_congr same, whole]
  congr 1
  funext ⟨later, found⟩
  simp [List.append_assoc]

/-- A read of a calm session with a large buffer is one with a small buffer, or is one and then
one with a buffer for the rest. -/
theorem Calm.course_add (calm : session.Calm scope) {size more : Nat} (positive : 0 < size)
    (positive' : 0 < more) (getter : Getter Service) (later : List Nat) :
    session.course getter scope ((size + more) :: later) =
        session.course getter scope (size :: later) ∨
      session.course getter scope ((size + more) :: later) =
        session.course getter scope (size :: more :: later) := by
  have reads := calm.readFrom getter session.reader.retries 0
  have positive'' : 0 < size + more := by omega
  cases reads with
  | never stuck =>
      left
      rw [course_of_never ((read_of_pos positive'' getter).trans (stuck _)),
        course_of_never ((read_of_pos positive getter).trans (stuck _))]
  | alike outcome next _ given =>
      left
      refine course_cons_congr [] ?_ fun bytes next _ _ => course_withPast next [] later
      rw [read_of_pos positive, read_of_pos positive'', given, given]
      rfl
  | fronts waited source bytes calm settled given =>
      have given' : ∀ size, 0 < size → session.read getter scope size = _ :=
        fun size positive => (read_of_pos positive getter).trans (given size)
      by_cases apart : waited.reader.limit size < bytes.length ∧
          waited.reader.limit size < waited.reader.limit (size + more)
      · exact .inr (calm.course_of_fronts settled positive positive' given' apart.1 apart.2 later)
      · left
        have grown := waited.reader.limit_add ⟨source, []⟩ size more
        have front : bytes.take (waited.reader.limit (size + more)) =
            bytes.take (waited.reader.limit size) := by
          rw [List.take_eq_take_iff]
          omega
        have rest : bytes.drop (waited.reader.limit (size + more)) =
            bytes.drop (waited.reader.limit size) := by
          have whole := (bytes.take_append_drop (waited.reader.limit (size + more))).trans
            (bytes.take_append_drop (waited.reader.limit size)).symm
          rw [front] at whole
          exact List.append_cancel_left whole
        refine course_cons_congr [] ?_ fun bytes next _ _ => course_withPast next [] later
        rw [given' _ positive, given' _ positive'', front, rest]
        rfl

theorem Calm.read (calm : session.Calm scope) {size : Nat}
    {result : Except TransferError Bytes} {next : ReadSession Service}
    (given : session.read getter scope size = some (result, next)) : next.Calm scope := by
  by_cases empty : size = 0
  · rw [ReadSession.read, if_pos empty, Option.some.injEq, Prod.mk.injEq] at given
    exact given.2 ▸ calm
  · rw [read_of_pos (Nat.pos_of_ne_zero empty)] at given
    cases calm.readFrom getter session.reader.retries 0 with
    | never stuck => simp [stuck] at given
    | alike outcome next calm same =>
        rw [same, Option.some.injEq, Prod.mk.injEq] at given
        exact given.2 ▸ calm
    | fronts waited source bytes calm settled same =>
        rw [same, Option.some.injEq, Prod.mk.injEq] at given
        exact given.2 ▸ ⟨calm.endless, calm.unplanned⟩

/-- Whether some buffers give what is found with others, if they suffice at all: each buffer takes
a byte, and so does the end. -/
def Agrees (getter : Getter Service) (scope : Scope) (others : List Nat)
    (found : Bytes × Except TransferError Unit × ReadSession Service)
    (session : ReadSession Service) : Prop :=
  found.1.length < others.length ∨ (session.course getter scope others).isSome →
    session.course getter scope others = some found

theorem Calm.agrees_cons (calm : session.Calm scope) {size : Nat} {later others : List Nat}
    (onward : ∀ next found, next.Calm scope → next.course getter scope later = some found →
      Agrees getter scope others found next)
    {found : Bytes × Except TransferError Unit × ReadSession Service}
    (ended : session.course getter scope (size :: later) = some found) :
    Agrees getter scope (size :: others) found session := by
  intro enough
  cases given : session.read getter scope size with
  | none =>
      rw [course_of_never given] at ended
      simp at ended
  | some answered =>
      obtain ⟨result, next⟩ := answered
      cases result with
      | error error =>
          rw [course_of_error given] at ended ⊢
          exact ended
      | ok bytes =>
          by_cases filled : bytes = []
          · subst bytes
            rw [course_of_end given] at ended ⊢
            exact ended
          · rw [course_of_bytes filled given] at ended enough ⊢
            obtain ⟨found', ended', rfl⟩ := Option.map_eq_some_iff.mp ended
            have some_bytes := List.length_pos_iff.mpr filled
            have enough' : found'.1.length < others.length ∨
                (next.course getter scope others).isSome := by
              rw [Option.isSome_map] at enough
              refine enough.imp_left fun shorter => ?_
              simp only [List.length_append, List.length_cons] at shorter
              omega
            rw [onward next found' (calm.read given) ended' enough', Option.map_some]

theorem Calm.agrees {session : ReadSession Service} (calm : session.Calm scope)
    {sizes others : List Nat} (positive : ∀ size ∈ sizes, 0 < size)
    (positive' : ∀ size ∈ others, 0 < size)
    {found : Bytes × Except TransferError Unit × ReadSession Service}
    (ended : session.course getter scope sizes = some found) :
    Agrees getter scope others found session := by
  match sizes, others with
  | [], _ => simp [course, readBuffers] at ended
  | _ :: _, [] => simp [Agrees, course, readBuffers]
  | size :: later, size' :: later' =>
      obtain ⟨some_size, some_sizes⟩ := List.forall_mem_cons.mp positive
      obtain ⟨some_size', some_sizes'⟩ := List.forall_mem_cons.mp positive'
      have onward : ∀ next found, next.Calm scope → next.course getter scope later = some found →
          Agrees getter scope later' found next :=
        fun next found calm ended => calm.agrees some_sizes some_sizes' ended
      obtain smaller | rfl | larger := Nat.lt_trichotomy size size'
      · obtain ⟨more, some_more, rfl⟩ : ∃ more, 0 < more ∧ size' = size + more :=
          ⟨size' - size, by omega, by omega⟩
        intro enough
        obtain same | same := calm.course_add some_size some_more getter later'
        · rw [same] at enough ⊢
          exact calm.agrees_cons onward ended enough
        · rw [same] at enough ⊢
          exact calm.agrees_cons (fun next found calm ended =>
            calm.agrees some_sizes (List.forall_mem_cons.mpr ⟨some_more, some_sizes'⟩) ended)
            ended (enough.imp_left Nat.lt_succ_of_lt)
      · exact calm.agrees_cons onward ended
      · obtain ⟨more, some_more, rfl⟩ : ∃ more, 0 < more ∧ size = size' + more :=
          ⟨size - size', by omega, by omega⟩
        obtain same | same := calm.course_add some_size' some_more getter later
        · rw [same] at ended
          exact calm.agrees_cons onward ended
        · rw [same] at ended
          exact calm.agrees_cons (fun next found calm ended =>
            calm.agrees (List.forall_mem_cons.mpr ⟨some_more, some_sizes⟩) some_sizes' ended) ended
termination_by sizes.length + others.length
decreasing_by all_goals simp only [List.length_cons]; omega

end Agreement

/-- Reading to the end comes to the same with any buffers that suffice for it, as any do that are
more than the bytes: each takes at least one, and the last one sees the end. -/
theorem reading_ignores_buffer_sizes {session : ReadSession Service} {getter : Getter Service}
    {scope : Scope} (endless : session.timeline.awaitEnd scope = none)
    (unplanned : session.forces = []) {sizes others : List Nat}
    (filled : ∀ size ∈ sizes, 0 < size) (filled' : ∀ size ∈ others, 0 < size)
    {bytes : Bytes} {outcome : Except TransferError Unit} {last : ReadSession Service}
    (ended : session.readBuffers getter scope sizes = some (bytes, outcome, last))
    (enough : bytes.length < others.length ∨
      (session.readBuffers getter scope others).isSome) :
    ∃ last', session.readBuffers getter scope others = some (bytes, outcome, last') ∧
      last'.requests = last.requests ∧ last'.failures = last.failures ∧
      last'.reader = last.reader ∧ last'.service = last.service ∧
      last'.timeline = last.timeline := by
  have calm : session.Calm scope := ⟨endless, unplanned⟩
  have course : session.course getter scope sizes = some (bytes, outcome, last.forget) := by
    rw [ReadSession.course, ended, Option.map_some]
  have same := calm.agrees filled filled' course (by
    rwa [ReadSession.course, Option.isSome_map])
  obtain ⟨⟨bytes', outcome', last'⟩, ended', agree⟩ := Option.map_eq_some_iff.mp same
  simp only [forget, Prod.mk.injEq, ReadSession.mk.injEq, and_true] at agree
  obtain ⟨rfl, rfl, timeline, service, reader, _, requests, failures⟩ := agree
  exact ⟨last', ended', requests, failures, reader, service, timeline⟩

def failingReplies : ReplyScript where
  replies := [
    { outcome := .ok {
        body := {
          events := [.data [1, 2, 3], .data [], .failure ⟨.connectionReset, .kindOnly⟩] } } },
    { outcome := .ok { body := { events := [.data [4, 5], .failure ⟨.timedOut, .kindOnly⟩] } } },
    { outcome := .ok { body := { events := [.failure ⟨.connectionReset, .kindOnly⟩] } } }]

theorem failing_reading_ignores_buffer_sizes :
    let session := start { scopes := { fresh := 1 } } failingReplies none {} 1
    ∃ last last',
      session.readBuffers ReplyScript.getter { lineage := [0] } [8, 8, 8] =
        some ([1, 2, 3, 4, 5], .error (.io ⟨.connectionReset, .kindOnly⟩), last) ∧
      session.readBuffers ReplyScript.getter { lineage := [0] } [1, 1, 2, 1, 7, 1] =
        some ([1, 2, 3, 4, 5], .error (.io ⟨.connectionReset, .kindOnly⟩), last') ∧
      last'.requests = last.requests ∧ last.requests.length = 3 ∧
      last'.failures = last.failures ∧ last.failures.map (·.failureCount) = [1, 1, 2] := by
  intro session
  have ended : session.readBuffers ReplyScript.getter { lineage := [0] } [8, 8, 8] =
      some ([1, 2, 3, 4, 5], .error (.io ⟨.connectionReset, .kindOnly⟩), _) := rfl
  have filled : ∀ size ∈ [1, 1, 2, 1, 7, 1], 0 < size := by decide
  obtain ⟨last', ended', requests, failures, _⟩ :=
    reading_ignores_buffer_sizes rfl rfl (by decide) filled ended (.inl (by decide))
  exact ⟨_, last', ended, ended', requests, rfl, failures, rfl⟩

end ReadSession

end BlobTransfer
