import BlobTransfer.Proofs.Reader.Basic
import BlobTransfer.Proofs.Reader.Inversion
import BlobTransfer.Reader.Script

/-!
What a single read spends. It goes from failure to failure of the bodies that it gets, each of them
reported, until one is not made up for or something else ends it; a request is made only for a body
that is missing, so failures bound the requests as well.
-/

namespace BlobTransfer

namespace ReadSession

variable {Service : Type}

/-- The session of a read that has a body at hand: the one that is held, or that of an answer. -/
inductive AtHand (getter : Getter Service) (scope : Scope) (session : ReadSession Service) :
    ReadSession Service → LiveBody → Prop
  | held {body} (held : session.reader.body = some body) : AtHand getter scope session session body
  | answered {here body} (unheld : session.reader.body = none)
      (answered : session.request getter scope = some (.ok (), here))
      (held : here.reader.body = some body) : AtHand getter scope session here body

inductive Fails (getter : Getter Service) (scope : Scope) (size : Nat)
    (session : ReadSession Service) : IoError → ReadSession Service → Prop
  | read {here body error rest met} (unexhausted : session.reader.isExhausted = false)
      (hand : AtHand getter scope session here body)
      (failed : here.await scope body size = some (.read (.error error) rest, met)) :
      Fails getter scope size session error met

/-- A failure of a body, the session it was met in, and what was told about it. -/
structure Setback (Service : Type) where
  met : ReadSession Service
  error : IoError
  report : FailedRead

def tell (session : ReadSession Service) (report : FailedRead) : ReadSession Service :=
  { session.close with failures := session.failures ++ [report] }

/-- The failures of bodies that a read meets, each from where the one before has left it. -/
inductive Setbacks (getter : Getter Service) (scope : Scope) (size : Nat) :
    ReadSession Service → List (Setback Service) → ReadSession Service → Prop
  | none {session} : Setbacks getter scope size session [] session
  | next {session setback later last}
      (fails : Fails getter scope size session setback.error setback.met)
      (onward : Setbacks getter scope size (setback.met.tell setback.report) later last) :
      Setbacks getter scope size session (setback :: later) last

inductive Settles (getter : Getter Service) (scope : Scope) (size : Nat)
    (session : ReadSession Service) :
    Option (Except TransferError Bytes) → ReadSession Service → Prop
  | exhausted (exhausted : session.reader.isExhausted = true) :
      Settles getter scope size session (some (.ok [])) session
  | refused {error next} (unexhausted : session.reader.isExhausted = false)
      (unheld : session.reader.body = none)
      (refused : session.request getter scope = some (.error error, next))
      (cause : (∃ reason : ScopeEnd, error = reason.error) ∨
        (getter session.service session.reader.span).1.outcome = .error error) :
      Settles getter scope size session (some (.error error)) next
  | unanswered (unexhausted : session.reader.isExhausted = false)
      (unheld : session.reader.body = none)
      (unanswered : session.request getter scope = none) :
      Settles getter scope size session none
        (session.ask (getter session.service session.reader.span).2)
  | given {here body bytes rest next} (unexhausted : session.reader.isExhausted = false)
      (hand : AtHand getter scope session here body)
      (given : here.await scope body size = some (.read (.ok bytes) rest, next)) :
      Settles getter scope size session (some (.ok bytes)) (next.deliver bytes rest)
  | ended {here body reason next} (unexhausted : session.reader.isExhausted = false)
      (hand : AtHand getter scope session here body)
      (ended : here.await scope body size = some (.ended reason, next)) :
      Settles getter scope size session (some (.error reason.error)) next
  | silent {here body} (unexhausted : session.reader.isExhausted = false)
      (hand : AtHand getter scope session here body)
      (silent : here.await scope body size = none) : Settles getter scope size session none here

structure Reported (session : ReadSession Service) (before : Nat) (setback : Setback Service) :
    Prop where
  failureCount : setback.report.failureCount = before + 1
  error : setback.report.error = setback.error
  offset : setback.report.offset = session.reader.span.offset
  count : setback.report.count = session.reader.span.count
  willRetry : setback.report.willRetry = true ↔
    (setback.error.isNetwork = true ∨ setback.met.reader.forced = true) ∧
      before + 1 ≤ session.reader.retries

/-- How a read ends that has met some failures: otherwise than by one more if all of them were made
up for, and by the last one if only that was not. -/
inductive Ends (getter : Getter Service) (scope : Scope) (size : Nat) :
    List (Setback Service) → ReadSession Service →
      Option (Except TransferError Bytes) → ReadSession Service → Prop
  | settled {setbacks last result final}
      (madeUp : ∀ setback ∈ setbacks, setback.report.willRetry = true)
      (settles : Settles getter scope size last result final) :
      Ends getter scope size setbacks last result final
  | gaveUp (earlier setback last)
      (madeUp : ∀ setback ∈ earlier, setback.report.willRetry = true)
      (left : setback.report.willRetry = false) :
      Ends getter scope size (earlier ++ [setback]) last (some (.error (.io setback.error))) last

variable {getter : Getter Service} {scope : Scope} {size : Nat}
  {session here next last : ReadSession Service} {body : LiveBody}

def bodies (session : ReadSession Service) : Nat := session.reader.body.isSome.toNat

/-- The reports and requests between a session and a later one. -/
structure Spent (session next : ReadSession Service) (reports : List FailedRead)
    (asked : List Span) : Prop where
  failures : next.failures = session.failures ++ reports
  requests : next.requests = session.requests ++ asked
  retries : next.reader.retries = session.reader.retries

def SamePlace (session next : ReadSession Service) : Prop :=
  next.reader.span.offset = session.reader.span.offset ∧
    next.reader.span.count = session.reader.span.count

theorem Spent.refl (session : ReadSession Service) : Spent session session [] [] :=
  ⟨by simp, by simp, rfl⟩

theorem Spent.trans {reports later : List FailedRead} {asked more : List Span}
    (first : Spent session next reports asked) (second : Spent next last later more) :
    Spent session last (reports ++ later) (asked ++ more) where
  failures := by rw [second.failures, first.failures, List.append_assoc]
  requests := by rw [second.requests, first.requests, List.append_assoc]
  retries := second.retries.trans first.retries

theorem Spent.idle {reports : List FailedRead} {asked : List Span}
    (first : Spent session next reports asked) (still : Spent next last [] []) :
    Spent session last reports asked := by
  simpa using first.trans still

theorem SamePlace.trans (first : SamePlace session next) (second : SamePlace next last) :
    SamePlace session last := ⟨second.1.trans first.1, second.2.trans first.2⟩

theorem bodies_of_held (held : session.reader.body = some body) : session.bodies = 1 := by
  simp [bodies, held]

theorem bodies_of_unheld (unheld : session.reader.body = none) : session.bodies = 0 := by
  simp [bodies, unheld]

theorem moveTo_spent (session : ReadSession Service) (timeline : Timeline) (through : Bool) :
    Spent session (session.moveTo timeline through) [] [] ∧
      SamePlace session (session.moveTo timeline through) := by
  unfold moveTo
  split
  · refine ⟨⟨(List.append_nil _).symm, (List.append_nil _).symm, ?_⟩, ?_⟩
    · exact session.reader.force_retries
    · simp [SamePlace]
  · exact ⟨⟨(List.append_nil _).symm, (List.append_nil _).symm, rfl⟩, rfl, rfl⟩

theorem await_spent {outcome : BodyRead}
    (awaited : session.await scope body size = some (outcome, next)) :
    Spent session next [] [] ∧ SamePlace session next := by
  obtain ⟨reason, rfl, rfl⟩ | ⟨reason, later, rfl, rfl⟩ | ⟨result, rest, time, rfl, _, rfl⟩ :=
    await_inversion awaited
  · exact ⟨.refl _, rfl, rfl⟩
  · let waiting : ReadSession Service := { session with reader := { session.reader with
      body := some (body.waitUntil session.timeline.now later.now) } }
    have waited : Spent session waiting [] [] :=
      ⟨(List.append_nil _).symm, (List.append_nil _).symm, rfl⟩
    obtain ⟨spent, place⟩ := waiting.moveTo_spent later (reason = ScopeEnd.canceled)
    exact ⟨waited.trans spent, place⟩
  · exact session.moveTo_spent _ _

theorem ask_spent (session : ReadSession Service) (service : Service) :
    Spent session (session.ask service) [] [session.reader.span] :=
  ⟨(List.append_nil _).symm, rfl, rfl⟩

theorem request_spent {result : Except TransferError Unit}
    (unheld : session.reader.body = none)
    (requested : session.request getter scope = some (result, next)) :
    SamePlace session next ∧ ∃ asked, Spent session next [] asked ∧ asked.length ≤ 1 ∧
      (result = .ok () → asked.length = 1 ∧ next.reader.body.isSome = true) := by
  let asking := session.ask (getter session.service session.reader.span).2
  have asked : Spent session asking [] [session.reader.span] := session.ask_spent _
  have moved := asking.moveTo_spent
  obtain ⟨reason, _, rfl, rfl⟩ | ⟨_, waited, timeline, _, ⟨reason, _, rfl, rfl⟩ | ⟨_,
    ⟨error, _, rfl, rfl⟩ | ⟨response, _, rfl, rfl⟩⟩⟩ := request_inversion requested
  · exact ⟨⟨rfl, rfl⟩, [], .refl _, by simp, by simp⟩
  · exact ⟨(moved _ _).2, _, asked.idle (moved _ _).1, by simp, by simp⟩
  · exact ⟨(moved _ _).2, _, asked.idle (moved _ _).1, by simp, by simp⟩
  · have spent := asked.idle (moved timeline false).1
    exact ⟨(moved timeline false).2, _,
      ⟨spent.failures, spent.requests, spent.retries⟩, by simp, fun _ => ⟨rfl, rfl⟩⟩

theorem request_cause {error : TransferError}
    (requested : session.request getter scope = some (.error error, next)) :
    (∃ reason : ScopeEnd, error = reason.error) ∨
      (getter session.service session.reader.span).1.outcome = .error error := by
  obtain ⟨reason, _, same, _⟩ | ⟨_, waited, timeline, _, ⟨reason, _, same, _⟩ | ⟨_,
    ⟨cause, refused, same, _⟩ | ⟨_, _, contrary, _⟩⟩⟩ := request_inversion requested
  · exact .inl ⟨reason, Except.error.inj same⟩
  · exact .inl ⟨reason, Except.error.inj same⟩
  · exact .inr (Except.error.inj same ▸ refused)
  · simp at contrary

theorem AtHand.spent (hand : AtHand getter scope session here body) :
    here.reader.body = some body ∧ SamePlace session here ∧
      ∃ asked, Spent session here [] asked ∧ asked.length + session.bodies = 1 := by
  cases hand with
  | held held => exact ⟨held, ⟨rfl, rfl⟩, [], .refl session, by simp [bodies_of_held held]⟩
  | answered unheld answered held =>
      obtain ⟨place, asked, spent, _, one⟩ := request_spent unheld answered
      exact ⟨held, place, asked, spent, by rw [(one rfl).1, bodies_of_unheld unheld]⟩

theorem tell_spent (session : ReadSession Service) (report : FailedRead) :
    Spent session (session.tell report) [report] [] := ⟨rfl, (List.append_nil _).symm, rfl⟩

theorem Fails.spent {error : IoError} (fails : Fails getter scope size session error next) :
    SamePlace session next ∧
      ∃ asked, Spent session next [] asked ∧ asked.length + session.bodies = 1 := by
  obtain ⟨_, hand, failed⟩ := fails
  obtain ⟨_, place, asked, brought, balance⟩ := hand.spent
  obtain ⟨waited, place'⟩ := await_spent failed
  exact ⟨place.trans place', asked, brought.idle waited, balance⟩

theorem Setbacks.spent {setbacks : List (Setback Service)}
    (met : Setbacks getter scope size session setbacks last) :
    ∃ asked, Spent session last (setbacks.map (·.report)) asked ∧
      asked.length + session.bodies = setbacks.length + last.bodies := by
  induction met with
  | none => exact ⟨[], .refl _, by simp⟩
  | @next session setback later last fails _ ih =>
      obtain ⟨_, asked, brought, balance⟩ := fails.spent
      obtain ⟨more, spent, balance'⟩ := ih
      refine ⟨_, (brought.trans (setback.met.tell_spent setback.report)).trans spent, ?_⟩
      have empty : (setback.met.tell setback.report).bodies = 0 := rfl
      simp only [List.append_nil, List.length_append, List.length_cons]
      omega

theorem Settles.spent {result : Option (Except TransferError Bytes)} {final : ReadSession Service}
    (settles : Settles getter scope size session result final) :
    ∃ asked, Spent session final [] asked ∧ asked.length + session.bodies ≤ 1 := by
  cases settles with
  | exhausted _ =>
      refine ⟨[], .refl session, ?_⟩
      rw [List.length_nil, Nat.zero_add]
      exact Bool.toNat_le _
  | refused _ unheld refused _ =>
      obtain ⟨_, asked, spent, few, _⟩ := request_spent unheld refused
      exact ⟨asked, spent, by rw [bodies_of_unheld unheld]; exact few⟩
  | unanswered _ unheld _ =>
      exact ⟨_, session.ask_spent _, by simp [bodies_of_unheld unheld]⟩
  | given _ hand given =>
      obtain ⟨_, _, asked, brought, balance⟩ := hand.spent
      have spent := brought.idle (await_spent given).1
      exact ⟨asked, ⟨spent.failures, spent.requests, spent.retries⟩, Nat.le_of_eq balance⟩
  | ended _ hand ended =>
      obtain ⟨_, _, asked, brought, balance⟩ := hand.spent
      exact ⟨asked, brought.idle (await_spent ended).1, Nat.le_of_eq balance⟩
  | silent _ hand _ =>
      obtain ⟨_, _, asked, brought, balance⟩ := hand.spent
      exact ⟨asked, brought, Nat.le_of_eq balance⟩

theorem AtHand.tryRead_eq (hand : AtHand getter scope session here body)
    (unexhausted : session.reader.isExhausted = false) (size : Nat) :
    session.tryRead getter scope size = here.readHeld scope size := by
  cases hand with
  | held held => simp [tryRead, unexhausted, held]
  | answered unheld answered _ => simp [tryRead, unexhausted, unheld, answered]

theorem AtHand.tries (hand : AtHand getter scope session here body)
    (unexhausted : session.reader.isExhausted = false) (size : Nat) :
    (∃ error met, Fails getter scope size session error met ∧
      session.tryRead getter scope size = some (.failed error, met)) ∨
    ∃ result final, Settles getter scope size session result final ∧
      session.tryRead getter scope size = result.map fun result => (.done result, final) := by
  rw [hand.tryRead_eq unexhausted, readHeld]
  simp only [hand.spent.1]
  cases awaited : here.await scope body size with
  | none => exact .inr ⟨none, here, .silent unexhausted hand awaited, rfl⟩
  | some waited =>
      obtain ⟨outcome, met⟩ := waited
      cases outcome with
      | ended reason => exact .inr ⟨_, met, .ended unexhausted hand awaited, rfl⟩
      | read result rest =>
          cases result with
          | error error => exact .inl ⟨error, met, .read unexhausted hand awaited, rfl⟩
          | ok bytes =>
              exact .inr ⟨_, met.deliver bytes rest, .given unexhausted hand awaited, rfl⟩

theorem tryRead_tries (session : ReadSession Service) (getter : Getter Service) (scope : Scope)
    (size : Nat) :
    (∃ error met, Fails getter scope size session error met ∧
      session.tryRead getter scope size = some (.failed error, met)) ∨
    ∃ result final, Settles getter scope size session result final ∧
      session.tryRead getter scope size = result.map fun result => (.done result, final) := by
  cases exhausted : session.reader.isExhausted with
  | true => exact .inr ⟨_, session, .exhausted exhausted, by simp [tryRead, exhausted]⟩
  | false =>
      cases held : session.reader.body with
      | some body => exact (AtHand.held held).tries exhausted size
      | none =>
          cases requested : session.request getter scope with
          | none =>
              exact .inr ⟨none, _, .unanswered exhausted held requested,
                by simp [tryRead, exhausted, held, requested]⟩
          | some answered =>
              obtain ⟨ready, next⟩ := answered
              cases ready with
              | error error =>
                  exact .inr ⟨_, next, .refused exhausted held requested (request_cause requested),
                    by simp [tryRead, exhausted, held, requested]⟩
              | ok done =>
                  obtain ⟨_, _, _, _, answer⟩ := request_spent held requested
                  obtain ⟨body, brought⟩ := Option.isSome_iff_exists.mp (answer rfl).2
                  exact (AtHand.answered held requested brought).tries exhausted size

theorem readFrom_of_settled {left failures : Nat} {result : Option (Except TransferError Bytes)}
    (tried : session.tryRead getter scope size = result.map fun result => (.done result, next)) :
    readFrom getter scope size left failures session = result.map fun result => (result, next) := by
  cases result with
  | none => cases left <;> simp [readFrom, tried]
  | some result => exact readFrom_of_done tried

theorem readFrom_of_failed {left failures : Nat} {error : IoError} {met : ReadSession Service}
    (tried : session.tryRead getter scope size = some (.failed error, met)) :
    readFrom getter scope size left failures session =
      let report := met.reader.report failures left error
      if report.willRetry then
        readFrom getter scope size (left - 1) (failures + 1) (met.tell report)
      else some (.error (.io error), met.tell report) := by
  cases left <;> simp [readFrom, tried, RangeReader.report, fail, tell]

theorem Ends.after {setback : Setback Service} {later : List (Setback Service)}
    {result : Option (Except TransferError Bytes)}
    (ends : Ends getter scope size later last result next)
    (again : setback.report.willRetry = true) :
    Ends getter scope size (setback :: later) last result next := by
  cases ends with
  | settled madeUp settles => exact .settled (by simpa [again] using madeUp) settles
  | gaveUp earlier final _ madeUp left =>
      exact .gaveUp (setback :: earlier) final _ (by simpa [again] using madeUp) left

/-- A read goes through failures to its end. The report of each is that of the reader, with one
failure more to count, and one less to be made up for, than that of the one before. -/
theorem readFrom_course (getter : Getter Service) (scope : Scope) (size left failures : Nat)
    (session : ReadSession Service) :
    ∃ setbacks last result final,
      readFrom getter scope size left failures session =
        result.map (fun result => (result, final)) ∧
      Setbacks getter scope size session setbacks last ∧
      Ends getter scope size setbacks last result final ∧
      ∀ index (setback : Setback Service), setbacks[index]? = some setback →
        SamePlace session setback.met ∧ setback.report =
          setback.met.reader.report (failures + index) (left - index) setback.error := by
  induction left using Nat.strongRecOn generalizing failures session with
  | ind left ih =>
      obtain ⟨error, met, fails, tried⟩ | ⟨result, final, settles, tried⟩ :=
        session.tryRead_tries getter scope size
      · let setback : Setback Service := ⟨met, error, met.reader.report failures left error⟩
        have place : SamePlace session met := fails.spent.1
        cases again : setback.report.willRetry with
        | false =>
            refine ⟨[setback], met.tell setback.report, some (.error (.io error)), _, ?_,
              .next fails .none, .gaveUp [] setback _ (by simp) again, ?_⟩
            · rw [readFrom_of_failed tried]
              exact if_neg (Bool.eq_false_iff.mp again)
            · intro index found member
              obtain ⟨rfl, rfl⟩ : index = 0 ∧ setback = found := by
                simpa [List.getElem?_singleton] using member
              exact ⟨place, rfl⟩
        | true =>
            have some_left : 0 < left := by
              simp only [setback, RangeReader.report, Bool.and_eq_true, decide_eq_true_eq] at again
              exact again.2
            obtain ⟨later, last, result, final, finished, onward, ends, reports⟩ :=
              ih (left - 1) (by omega) (failures + 1) (met.tell setback.report)
            refine ⟨setback :: later, last, result, final, ?_, .next fails onward,
              ends.after again, ?_⟩
            · rw [readFrom_of_failed tried, ← finished]
              exact if_pos again
            · intro index found member
              cases index with
              | zero =>
                  obtain rfl : setback = found := by simpa using member
                  exact ⟨place, rfl⟩
              | succ index =>
                  obtain ⟨place', report⟩ := reports index found member
                  refine ⟨place.trans place', ?_⟩
                  rw [report]
                  congr 1 <;> omega
      · exact ⟨[], session, result, final, readFrom_of_settled tried, .none,
          .settled (by simp) settles, by simp⟩

theorem Setbacks.last_eq {earlier : List (Setback Service)} {setback : Setback Service}
    (met : Setbacks getter scope size session (earlier ++ [setback]) last) :
    last = setback.met.tell setback.report := by
  induction earlier generalizing session with
  | nil =>
      cases met with
      | next _ onward =>
          cases onward
          rfl
  | cons first earlier ih =>
      cases met with
      | next _ onward => exact ih onward

theorem reported_of_report {before left : Nat} {setback : Setback Service}
    (place : SamePlace session setback.met) (fewer : left = session.reader.retries - before)
    (report : setback.report = setback.met.reader.report before left setback.error) :
    Reported session before setback := by
  constructor
  case willRetry =>
    simp only [report, fewer, RangeReader.report, RangeReader.mayRetry, Bool.and_eq_true,
      Bool.or_eq_true, decide_eq_true_eq, Nat.sub_pos_iff_lt, Nat.succ_le_iff]
  all_goals rw [report]
  case failureCount => rfl
  case error => rfl
  case offset => exact place.1
  case count => exact place.2

section Reported

variable {setbacks : List (Setback Service)}

theorem length_le_of_made_up
    (reported : ∀ before setback, setbacks[before]? = some setback →
      Reported session before setback)
    (madeUp : ∀ setback ∈ setbacks, setback.report.willRetry = true) :
    setbacks.length ≤ session.reader.retries := by
  refine Nat.le_of_not_lt fun more => ?_
  have there := List.getElem?_eq_getElem more
  have again := madeUp _ (List.getElem_mem more)
  exact Nat.not_succ_le_self _ ((reported _ _ there).willRetry.mp again).2

theorem Ends.spent {result : Option (Except TransferError Bytes)} {final : ReadSession Service}
    (ends : Ends getter scope size setbacks last result final)
    (met : Setbacks getter scope size session setbacks last)
    (reported : ∀ before setback, setbacks[before]? = some setback →
      Reported session before setback) :
    setbacks.length ≤ session.reader.retries + 1 ∧
      ∃ asked, Spent session final (setbacks.map (·.report)) asked ∧
        asked.length + session.bodies ≤ session.reader.retries + 1 := by
  obtain ⟨asked, spent, balance⟩ := met.spent
  cases ends with
  | settled madeUp settles =>
      have few := length_le_of_made_up reported madeUp
      obtain ⟨more, spent', balance'⟩ := settles.spent
      refine ⟨by omega, asked ++ more, by simpa using spent.trans spent', ?_⟩
      rw [List.length_append]
      omega
  | gaveUp earlier setback _ madeUp _ =>
      have few : earlier.length ≤ session.reader.retries := by
        refine length_le_of_made_up (fun before setback member => reported before setback ?_) madeUp
        rw [List.getElem?_append_left (List.getElem?_eq_some_iff.mp member).1]
        exact member
      have empty : last.bodies = 0 := by
        rw [met.last_eq]
        rfl
      rw [List.length_append, List.length_singleton] at balance ⊢
      exact ⟨by omega, asked, spent, by omega⟩

theorem Ends.waits {final : ReadSession Service}
    (ends : Ends getter scope size setbacks last none final) :
    last.request getter scope = none ∨ ∃ body, final.await scope body size = none := by
  cases ends with
  | settled _ settles =>
      cases settles with
      | unanswered _ _ unanswered => exact .inl unanswered
      | silent _ _ silent => exact .inr ⟨_, silent⟩

end Reported

/-- A read makes up for as many failures as its reader allows, whatever answers come and whenever
retries are forced. Each failure of a body is told once, in its order, with what is left to be read;
it is made up for if it is one of the network or if a retry is forced by then, as long as some are
left to be. The first that is not ends the read and is its result. Nothing else is told or made up
for: a request that is refused and the end of the scope are results at once. So a read that never
ends waits for an answer or for a body; and with the body that was held, there is a request at most
for each failure that may be made up for, and one more. The next read has as much to spend. -/
theorem read_spends_its_own_budget (session : ReadSession Service) (getter : Getter Service)
    (scope : Scope) (positive : 0 < size) :
    ∃ setbacks last result final asked,
      session.read getter scope size = result.map (fun result => (result, final)) ∧
      Setbacks getter scope size session setbacks last ∧
      Ends getter scope size setbacks last result final ∧
      (∀ before setback, setbacks[before]? = some setback → Reported session before setback) ∧
      final.failures = session.failures ++ setbacks.map (·.report) ∧
      setbacks.length ≤ session.reader.retries + 1 ∧
      final.requests = session.requests ++ asked ∧
      asked.length ≤ session.reader.retries + 1 ∧
      (session.reader.body.isSome = true → asked.length ≤ session.reader.retries) ∧
      (result = none → last.request getter scope = none ∨
        ∃ body, final.await scope body size = none) ∧
      final.reader.retries = session.reader.retries := by
  obtain ⟨setbacks, last, result, final, finished, met, ends, reports⟩ :=
    readFrom_course getter scope size session.reader.retries 0 session
  have reported : ∀ before setback, setbacks[before]? = some setback →
      Reported session before setback := by
    intro before setback member
    obtain ⟨place, report⟩ := reports before setback member
    rw [Nat.zero_add] at report
    exact reported_of_report place rfl report
  obtain ⟨few, asked, spent, balance⟩ := ends.spent met reported
  rw [← read_of_pos positive] at finished
  refine ⟨setbacks, last, result, final, asked, finished, met, ends, reported, spent.failures, few,
    spent.requests, by omega, ?_, ?_, spent.retries⟩
  · intro held
    obtain ⟨body, held⟩ := Option.isSome_iff_exists.mp held
    rw [bodies_of_held held] at balance
    omega
  · rintro rfl
    exact ends.waits

def resets : ReplyScript where
  replies := [{ outcome := .ok { body := { events := [.failure ⟨.connectionReset, .kindOnly⟩] } } }]
  repeatsLast := true

theorem resets_spend_the_budget :
    0 < 8 ∧ ∃ final, (start {} resets none {} 3).read ReplyScript.getter { lineage := [0] } 8 =
        some (.error (.io ⟨.connectionReset, .kindOnly⟩), final) ∧
      final.failures.map (·.failureCount) = [1, 2, 3, 4] ∧
      final.failures.map (·.willRetry) = [true, true, true, false] ∧
      final.requests.length ≤ 4 := by
  refine ⟨by decide, ?_⟩
  have finished : (start {} resets none {} 3).read ReplyScript.getter { lineage := [0] } 8 =
      some (.error (.io ⟨.connectionReset, .kindOnly⟩), _) := rfl
  obtain ⟨setbacks, last, result, final, asked, spends, _, _, _, _, _, requests, few, _⟩ :=
    read_spends_its_own_budget (start {} resets none {} 3) ReplyScript.getter { lineage := [0] }
      (by decide : 0 < 8)
  rw [finished] at spends
  obtain ⟨_, rfl, same⟩ := Option.map_eq_some_iff.mp spends.symm
  obtain ⟨rfl, rfl⟩ := Prod.mk.inj same
  refine ⟨_, finished, rfl, rfl, ?_⟩
  rw [requests]
  exact few

end ReadSession

end BlobTransfer
