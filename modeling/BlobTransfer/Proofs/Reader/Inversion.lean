import BlobTransfer.Reader.Use

/-!
What the parts of a read can come to, each told once. Whatever is proved about all reads goes over
these cases.
-/

namespace BlobTransfer

namespace ReadSession

variable {Service : Type} {session next : ReadSession Service} {getter : Getter Service}
  {scope : Scope} {size : Nat}

def askedUntil (session : ReadSession Service) (getter : Getter Service) (timeline : Timeline)
    (through : Bool) : ReadSession Service :=
  (session.ask (getter session.service session.reader.span).2).moveTo timeline through

theorem request_inversion {result : Except TransferError Unit}
    (requested : session.request getter scope = some (result, next)) :
    (∃ reason, session.timeline.end? scope = some reason ∧ result = .error reason.error ∧
      next = session) ∨
    session.timeline.end? scope = none ∧ ∃ waited timeline,
      session.timeline.run scope ((getter session.service session.reader.span).1.delay.map
        (session.timeline.now + ·)) = some (waited, timeline) ∧
      ((∃ reason, waited = .ended reason ∧ result = .error reason.error ∧
          next = session.askedUntil getter timeline (reason = ScopeEnd.canceled)) ∨
        waited = .finished ∧
          ((∃ error, (getter session.service session.reader.span).1.outcome = .error error ∧
            result = .error error ∧ next = session.askedUntil getter timeline false) ∨
          ∃ response, (getter session.service session.reader.span).1.outcome = .ok response ∧
            result = .ok () ∧
            next = (session.askedUntil getter timeline false).install response)) := by
  simp only [request] at requested
  split at requested
  · rename_i reason ended
    obtain ⟨rfl, rfl⟩ := Prod.mk.inj (Option.some.inj requested)
    exact .inl ⟨reason, ended, rfl, rfl⟩
  · rename_i live
    obtain ⟨⟨waited, timeline⟩, ran, settled⟩ := Option.bind_eq_some_iff.mp requested
    refine .inr ⟨live, waited, timeline, ran, ?_⟩
    dsimp only at settled
    split at settled
    · obtain ⟨rfl, rfl⟩ := Prod.mk.inj (Option.some.inj settled)
      exact .inl ⟨_, rfl, rfl, by simp [askedUntil]⟩
    · rename_i error refused
      obtain ⟨rfl, rfl⟩ := Prod.mk.inj (Option.some.inj settled)
      exact .inr ⟨rfl, .inl ⟨error, refused, rfl, by simp [askedUntil]⟩⟩
    · rename_i response answered
      obtain ⟨rfl, rfl⟩ := Prod.mk.inj (Option.some.inj settled)
      exact .inr ⟨rfl, .inr ⟨response, answered, rfl, by simp [askedUntil]⟩⟩

theorem await_inversion {body : LiveBody} {outcome : BodyRead}
    (awaited : session.await scope body size = some (outcome, next)) :
    (∃ reason, outcome = .ended reason ∧ next = session) ∨
    (∃ reason later, outcome = .ended reason ∧ next = (session.giveUp body reason later).2) ∨
    ∃ result rest time, outcome = .read result rest ∧
      body.read (session.reader.limit size) session.timeline.now session.nextForce? =
        some (result, rest, time) ∧
      next = (session.take result rest time).2 := by
  simp only [await] at awaited
  split at awaited
  · rename_i reason _
    obtain ⟨rfl, rfl⟩ := Prod.mk.inj (Option.some.inj awaited)
    exact .inl ⟨reason, rfl, rfl⟩
  · split at awaited
    · rename_i result rest time reason later answered _
      split at awaited
      · obtain ⟨rfl, rfl⟩ := Prod.mk.inj (Option.some.inj awaited)
        exact .inr (.inl ⟨reason, later, rfl, rfl⟩)
      · obtain ⟨rfl, rfl⟩ := Prod.mk.inj (Option.some.inj awaited)
        exact .inr (.inr ⟨result, rest, time, rfl, answered, rfl⟩)
    · rename_i result rest time answered _
      obtain ⟨rfl, rfl⟩ := Prod.mk.inj (Option.some.inj awaited)
      exact .inr (.inr ⟨result, rest, time, rfl, answered, rfl⟩)
    · rename_i reason later _ _
      obtain ⟨rfl, rfl⟩ := Prod.mk.inj (Option.some.inj awaited)
      exact .inr (.inl ⟨reason, later, rfl, rfl⟩)
    · simp at awaited

theorem readHeld_inversion {outcome : ReadTry}
    (tried : session.readHeld scope size = some (outcome, next)) :
    (session.reader.body = none ∧ outcome = .done (.ok []) ∧ next = session) ∨
    ∃ body given waited, session.reader.body = some body ∧
      session.await scope body size = some (given, waited) ∧
      ((∃ reason, given = .ended reason ∧ outcome = .done (.error reason.error) ∧ next = waited) ∨
        (∃ error rest, given = .read (.error error) rest ∧ outcome = .failed error ∧
          next = waited) ∨
        ∃ bytes rest, given = .read (.ok bytes) rest ∧ outcome = .done (.ok bytes) ∧
          next = waited.deliver bytes rest) := by
  unfold readHeld at tried
  split at tried
  · rename_i unheld
    obtain ⟨rfl, rfl⟩ := Prod.mk.inj (Option.some.inj tried)
    exact .inl ⟨unheld, rfl, rfl⟩
  · rename_i body held
    obtain ⟨⟨given, waited⟩, awaited, settled⟩ := Option.map_eq_some_iff.mp tried
    refine .inr ⟨body, given, waited, held, awaited, ?_⟩
    cases given with
    | ended reason =>
        obtain ⟨rfl, rfl⟩ := Prod.mk.inj settled
        exact .inl ⟨reason, rfl, rfl, rfl⟩
    | read result rest =>
        cases result with
        | error error =>
            obtain ⟨rfl, rfl⟩ := Prod.mk.inj settled
            exact .inr (.inl ⟨error, rest, rfl, rfl, rfl⟩)
        | ok bytes =>
            obtain ⟨rfl, rfl⟩ := Prod.mk.inj settled
            exact .inr (.inr ⟨bytes, rest, rfl, rfl, rfl⟩)

theorem tryRead_inversion {outcome : ReadTry}
    (tried : session.tryRead getter scope size = some (outcome, next)) :
    (session.reader.isExhausted = true ∧ outcome = .done (.ok []) ∧ next = session) ∨
    session.reader.isExhausted = false ∧
      (session.reader.body.isSome = true ∧ session.readHeld scope size = some (outcome, next) ∨
        session.reader.body = none ∧
          ((∃ error, session.request getter scope = some (.error error, next) ∧
              outcome = .done (.error error)) ∨
            ∃ asked, session.request getter scope = some (.ok (), asked) ∧
              asked.readHeld scope size = some (outcome, next))) := by
  unfold tryRead at tried
  split at tried
  · rename_i exhausted
    obtain ⟨rfl, rfl⟩ := Prod.mk.inj (Option.some.inj tried)
    exact .inl ⟨exhausted, rfl, rfl⟩
  · rename_i unexhausted
    refine .inr ⟨Bool.eq_false_iff.mpr unexhausted, ?_⟩
    split at tried
    · rename_i held
      exact .inl ⟨held, tried⟩
    · rename_i unheld
      refine .inr ⟨by simpa using unheld, ?_⟩
      obtain ⟨⟨ready, asked⟩, requested, settled⟩ := Option.bind_eq_some_iff.mp tried
      cases ready with
      | error error =>
          obtain ⟨rfl, rfl⟩ := Prod.mk.inj (Option.some.inj settled)
          exact .inl ⟨error, requested, rfl⟩
      | ok done => exact .inr ⟨asked, requested, settled⟩

theorem readFrom_inversion {left failures : Nat} {result : Except TransferError Bytes}
    (finished : readFrom getter scope size left failures session = some (result, next)) :
    ∃ outcome tried, session.tryRead getter scope size = some (outcome, tried) ∧
      (outcome = .done result ∧ next = tried ∨
        ∃ error, outcome = .failed error ∧
          ((tried.reader.mayRetry error && 0 < left) = false ∧ result = .error (.io error) ∧
              next = tried.fail failures left error ∨
            ∃ fewer, left = fewer + 1 ∧ tried.reader.mayRetry error = true ∧
              readFrom getter scope size fewer (failures + 1) (tried.fail failures left error) =
                some (result, next))) := by
  cases left with
  | zero =>
      obtain ⟨⟨outcome, tried⟩, attempt, settled⟩ := Option.map_eq_some_iff.mp finished
      refine ⟨outcome, tried, attempt, ?_⟩
      cases outcome with
      | done result' =>
          obtain ⟨rfl, rfl⟩ := Prod.mk.inj settled
          exact .inl ⟨rfl, rfl⟩
      | failed error =>
          obtain ⟨rfl, rfl⟩ := Prod.mk.inj settled
          exact .inr ⟨error, rfl, .inl ⟨by simp, rfl, rfl⟩⟩
  | succ fewer =>
      obtain ⟨⟨outcome, tried⟩, attempt, settled⟩ := Option.bind_eq_some_iff.mp finished
      refine ⟨outcome, tried, attempt, ?_⟩
      cases outcome with
      | done result' =>
          obtain ⟨rfl, rfl⟩ := Prod.mk.inj (Option.some.inj settled)
          exact .inl ⟨rfl, rfl⟩
      | failed error =>
          refine .inr ⟨error, rfl, ?_⟩
          dsimp only at settled
          split at settled
          · rename_i again
            exact .inr ⟨fewer, rfl, again, settled⟩
          · rename_i refused
            obtain ⟨rfl, rfl⟩ := Prod.mk.inj (Option.some.inj settled)
            exact .inl ⟨by simp [refused], rfl, rfl⟩

theorem readFrom_of_done {left failures : Nat} {result : Except TransferError Bytes}
    (tried : session.tryRead getter scope size = some (.done result, next)) :
    readFrom getter scope size left failures session = some (result, next) := by
  cases left <;> simp only [readFrom, tried, Option.map_some, Option.bind_some]

theorem read_of_pos (positive : 0 < size) (getter : Getter Service) :
    session.read getter scope size =
      readFrom getter scope size session.reader.retries 0 session := by
  rw [ReadSession.read, if_neg (Nat.ne_of_gt positive)]

theorem read_of_use {abandonAt : Option Nat} {bytes : Bytes}
    (used : session.use getter scope (.read size abandonAt) = some (bytes, next)) :
    ∃ timeline within result, timeline.now = session.timeline.now ∧
      ({ session with timeline } : ReadSession Service).read getter within size =
        some (result, next) ∧
      bytes = result.toOption.getD [] := by
  cases abandonAt with
  | none =>
      obtain ⟨⟨result, last⟩, finished, same⟩ := Option.map_eq_some_iff.mp used
      obtain ⟨rfl, rfl⟩ := Prod.mk.inj same
      exact ⟨session.timeline, scope, result, rfl, finished, rfl⟩
  | some time =>
      obtain ⟨⟨result, last⟩, finished, same⟩ := Option.map_eq_some_iff.mp used
      obtain ⟨rfl, rfl⟩ := Prod.mk.inj same
      exact ⟨(session.timeline.child scope).2.plan (session.timeline.child scope).1 time,
        (session.timeline.child scope).1, result, rfl, finished, rfl⟩

end ReadSession

end BlobTransfer
