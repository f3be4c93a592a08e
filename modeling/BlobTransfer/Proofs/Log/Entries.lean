import BlobTransfer.Proofs.Log.Secrets
import BlobTransfer.Proofs.Retry.Law

/-!
What the request log does to the tries that pass through it: nothing. What it says of them: one
entry before each, and one after each that came back, as far as its options call for them.
-/

namespace BlobTransfer

def LogLevel.shown : LogLevel → List LogLevel
  | .none => []
  | .error => [.error]
  | .warning => [.error, .warning]
  | .info => [.error, .warning, .info]
  | .debug => [.error, .warning, .info, .debug]

theorem LogLevel.allows_iff (minimum level : LogLevel) :
    minimum.allows level = true ↔ level ∈ minimum.shown := by
  cases minimum <;> cases level <;> decide

namespace RequestLogOptions

variable {options : RequestLogOptions} {elapsed : Duration} {response : Response}

/-- Statuses that are errors: those of a server, and those of a client that were not expected. -/
def Objects (options : RequestLogOptions) (status : StatusCode) : Prop :=
  (500 ≤ status.code ∧ status.code ≤ 599) ∨
    (400 ≤ status.code ∧ status.code ≤ 499 ∧
      ∀ expected ∈ options.expectedStatuses, expected.toNat ≠ status.code)

/-- How loud the entry after a try is. -/
inductive Rates (options : RequestLogOptions) (elapsed : Duration) :
    Except TransferError Response → LogLevel → Prop
  | failed {error : TransferError} : Rates options elapsed (.error error) .error
  | objected {response : Response} (objects : options.Objects response.status) :
      Rates options elapsed (.ok response) .error
  | slow {response : Response} (fine : ¬options.Objects response.status) {threshold : Duration}
      (limited : options.slowThreshold = some threshold) (longer : threshold < elapsed) :
      Rates options elapsed (.ok response) .warning
  | fine {response : Response} (fine : ¬options.Objects response.status)
      (quick : ∀ threshold, options.slowThreshold = some threshold → ¬threshold < elapsed) :
      Rates options elapsed (.ok response) .info

theorem isUnexpected_iff (options : RequestLogOptions) (status : StatusCode) :
    options.isUnexpected status = true ↔ options.Objects status := by
  simp only [isUnexpected, StatusCode.isClientError, StatusCode.isServerError, Objects,
    Bool.or_eq_true, Bool.and_eq_true, decide_eq_true_eq, Bool.not_eq_true', List.any_eq_false]
  constructor
  · rintro (⟨⟨lower, upper⟩, unlisted⟩ | ⟨lower, upper⟩)
    · exact .inr ⟨lower, by omega, unlisted⟩
    · exact .inl ⟨lower, by omega⟩
  · rintro (⟨lower, upper⟩ | ⟨lower, upper, unlisted⟩)
    · exact .inr ⟨lower, by omega⟩
    · exact .inl ⟨⟨lower, by omega⟩, unlisted⟩

theorem isSlow_iff (options : RequestLogOptions) (elapsed : Duration) :
    options.isSlow elapsed = true ↔
      ∃ threshold, options.slowThreshold = some threshold ∧ threshold < elapsed := by
  simp [isSlow, Option.any_eq_true]

theorem rates_iff {outcome : Except TransferError Response} {level : LogLevel} :
    options.Rates elapsed outcome level ↔ options.level outcome elapsed = level := by
  constructor
  · rintro (_ | ⟨objects⟩ | ⟨fine, limited, longer⟩ | ⟨fine, quick⟩)
    · rfl
    · simp only [RequestLogOptions.level, (isUnexpected_iff _ _).mpr objects, if_true]
    · have slow := (isSlow_iff options elapsed).mpr ⟨_, limited, longer⟩
      simp only [RequestLogOptions.level, isUnexpected_iff, fine, if_false, slow, if_true]
    · have unslowed : ¬options.isSlow elapsed = true := by
        rw [isSlow_iff]
        rintro ⟨threshold, limited, longer⟩
        exact quick threshold limited longer
      simp only [RequestLogOptions.level, isUnexpected_iff, fine, unslowed, if_false,
        Bool.false_eq_true]
  · rintro rfl
    cases outcome with
    | error error => exact .failed
    | ok response =>
        by_cases objects : options.Objects response.status
        · simp only [RequestLogOptions.level, (isUnexpected_iff _ _).mpr objects, if_true]
          exact .objected objects
        · by_cases slow : options.isSlow elapsed = true
          · simp only [RequestLogOptions.level, isUnexpected_iff, objects, if_false, slow, if_true]
            obtain ⟨threshold, limited, longer⟩ := (isSlow_iff _ _).mp slow
            exact .slow objects limited longer
          · simp only [RequestLogOptions.level, isUnexpected_iff, objects, slow, if_false]
            refine .fine objects fun threshold limited longer => slow ?_
            exact (isSlow_iff _ _).mpr ⟨threshold, limited, longer⟩

structure Reports (options : RequestLogOptions) (number : Nat) (level : LogLevel)
    (closing : Option LogEntry) : Prop where
  emitted : closing.isSome = true ↔ level ∈ options.minLevel.shown ∨
    ((level = .warning ∨ level = .error) ∧ options.forceLog = true)
  entry : ∀ entry, closing = some entry → entry.level = level ∧ entry.tryNumber = number ∧
    (entry.forced = true ↔ level ∉ options.minLevel.shown)

theorem reports_completed? (options : RequestLogOptions) (number : Nat) (request : Request)
    (outcome : Except TransferError Response) (elapsed total : Duration) :
    options.Reports number (options.level outcome elapsed)
      (options.completed? number request outcome elapsed total) := by
  have forcing : (options.forceLog && (options.level outcome elapsed = .warning ||
      options.level outcome elapsed = .error)) = true ↔
      ((options.level outcome elapsed = .warning ∨ options.level outcome elapsed = .error) ∧
        options.forceLog = true) := by
    simp [and_comm]
  constructor
  · rw [← LogLevel.allows_iff, ← forcing, ← Bool.or_eq_true]
    unfold completed?
    dsimp only
    split <;> simp_all
  · intro entry emitted
    unfold completed? at emitted
    dsimp only at emitted
    split at emitted
    · rename_i shown
      obtain rfl := Option.some.inj emitted
      refine ⟨rfl, rfl, ?_⟩
      rw [← LogLevel.allows_iff]
      cases allowed : options.minLevel.allows (options.level outcome elapsed) with
      | true => simp
      | false => simpa [allowed] using shown
    · simp at emitted

end RequestLogOptions

variable {Service : Type}

def Progress.relog (progress : Progress Service) (log : LogState) (records : List LogRecord) :
    Progress Service := { progress with log, records }

/-- Whether a try that is sent comes back to the log. It does not if its scope ends before the
reply is there, or if neither ever happens. -/
def Dispatch.comesBack (dispatch : Dispatch) (reply : TransportReply) : Bool :=
  match dispatch.own with
  | none => reply.delay.isSome
  | some scope =>
      match dispatch.begun.run scope (reply.delay.map (dispatch.begun.now + ·)) with
      | some (.finished, _) => true
      | _ => false

namespace LastMile

def withLog (lastMile : LastMile Service) (options : RequestLogOptions) : LastMile Service :=
  { lastMile with requestLog := some options }

def withoutLog (lastMile : LastMile Service) : LastMile Service :=
  { lastMile with requestLog := none }

variable (lastMile : LastMile Service) (options : RequestLogOptions)
  (progress : Progress Service)

section Transparency

variable (log : LogState) (records : List LogRecord)

theorem start_withoutLog (scope : Scope) (request : Request) :
    lastMile.withoutLog.start (progress.relog log records) scope request =
      (((lastMile.withLog options).start progress scope request).1,
        ((lastMile.withLog options).start progress scope request).2.relog log records) := by
  rw [start_spec, start_spec]
  simp only [opening?, counted, withoutLog, Option.bind_none, Option.toList_none, List.map_nil,
    List.append_nil]
  rfl

theorem finish_withoutLog (caller scope : Scope) (attempt : Attempt) :
    lastMile.withoutLog.finish (progress.relog log records) caller scope attempt =
      (((lastMile.withLog options).finish progress caller scope attempt).1,
        ((lastMile.withLog options).finish progress caller scope attempt).2.relog log
          records) := by
  rw [finish_spec, finish_spec]
  simp only [closing?, withoutLog, Option.bind_none, Option.toList_none, List.map_nil,
    List.append_nil]
  rfl

def relogged {Outcome : Type} (log : LogState) (records : List LogRecord)
    (result : Outcome × Progress Service) : Outcome × Progress Service :=
  (result.1, result.2.relog log records)

theorem send_withoutLog (caller : Scope) (request : Request) :
    lastMile.withoutLog.send (progress.relog log records) caller request =
      ((lastMile.withLog options).send progress caller request).map (relogged log records) := by
  unfold send
  rw [start_withoutLog lastMile options]
  rcases (lastMile.withLog options).start progress caller request with ⟨attempt, started⟩
  have finished := fun timeline => finish_withoutLog lastMile options
    { started with timeline } log records caller caller attempt
  dsimp only
  cases attempt.reply.delay with
  | none => rfl
  | some delay => exact congrArg Except.ok (finished _)

theorem sendWithin_withoutLog (caller scope : Scope) (request : Request) :
    lastMile.withoutLog.sendWithin (progress.relog log records) caller scope request =
      ((lastMile.withLog options).sendWithin progress caller scope request).map
        (relogged log records) := by
  have same : (progress.relog log records).timeline = progress.timeline := rfl
  unfold sendWithin
  rw [same]
  cases progress.timeline.end? scope with
  | some reason => rfl
  | none =>
      rw [start_withoutLog lastMile options]
      rcases (lastMile.withLog options).start progress scope request with ⟨attempt, started⟩
      have finished := fun timeline => finish_withoutLog lastMile options
        { started with timeline } log records caller scope attempt
      have same' : (started.relog log records).timeline = started.timeline := rfl
      dsimp only
      rw [same']
      rcases started.timeline.run scope
        (attempt.reply.delay.map (started.timeline.now + ·)) with _ | ⟨_ | reason, timeline⟩
      · rfl
      · exact congrArg Except.ok (finished timeline)
      · rfl

theorem dispatch_withoutLog (dispatch : Dispatch) :
    lastMile.withoutLog.dispatch (progress.relog log records) dispatch =
      relogged log records ((lastMile.withLog options).dispatch progress dispatch) := by
  obtain ⟨begun, caller, own, request⟩ := dispatch
  have settled : ∀ scope sent sent', sent' = Except.map (relogged log records) sent →
      (lastMile.withoutLog.start ({ progress with timeline := begun }.relog log records) scope
          request).2.settle sent' =
        relogged log records (((lastMile.withLog options).start
          { progress with timeline := begun } scope request).2.settle sent) := by
    rintro scope sent _ rfl
    rw [start_withoutLog lastMile options]
    cases sent <;> rfl
  cases own with
  | none =>
      exact settled caller _ _
        (send_withoutLog lastMile options { progress with timeline := begun } log records caller
          request)
  | some scope =>
      exact settled scope _ _
        (sendWithin_withoutLog lastMile options { progress with timeline := begun } log records
          caller scope request)

theorem dispatchAll_withoutLog (dispatches : List Dispatch) :
    lastMile.withoutLog.dispatchAll (progress.relog log records) dispatches =
      relogged log records ((lastMile.withLog options).dispatchAll progress dispatches) := by
  induction dispatches generalizing progress with
  | nil => rfl
  | cons dispatch later ih =>
      rw [dispatchAll, dispatch_withoutLog lastMile options, dispatchAll]
      rcases (lastMile.withLog options).dispatch progress dispatch with ⟨outcome, next⟩
      simp only [relogged, ih next]

end Transparency

theorem dispatchAll_append (lastMile : LastMile Service) (progress : Progress Service)
    (before after : List Dispatch) :
    (lastMile.dispatchAll progress (before ++ after)).2 =
      (lastMile.dispatchAll (lastMile.dispatchAll progress before).2 after).2 := by
  induction before generalizing progress with
  | nil => rfl
  | cons dispatch later ih => exact ih (lastMile.dispatch progress dispatch).2

def heralds (options : RequestLogOptions) (number : Nat) (request : Request) : List LogEntry :=
  if .info ∈ options.minLevel.shown then [.outgoing number request] else []

theorem told_of_heralds {options : RequestLogOptions} {number : Nat} {request : Request}
    {entry : LogEntry} (member : entry ∈ heralds options number request) :
    entry.level = .info ∧ entry.tryNumber = number ∧ entry.forced = false := by
  unfold heralds at member
  split at member
  · rw [List.mem_singleton.mp member]
    exact ⟨rfl, rfl, rfl⟩
  · exact absurd member List.not_mem_nil

/-- What the log says of a try that was sent, and came back or did not. -/
structure Tells (options : RequestLogOptions) (number : Nat) (request : Request) (begun : Nat)
    (back : Bool) (progress : Progress Service) (outcome : Option (Except TransferError Response))
    (answered : Progress Service) : Prop where
  tries : answered.log.tries = number
  entries : ∃ closing : Option LogEntry,
    answered.records = progress.records ++
      (heralds options number request ++ closing.toList).map LogRecord.request ∧
    if back then ∃ given level, outcome = some given ∧
      options.Rates (answered.elapsedSince begun) given level ∧
      options.Reports number level closing
    else closing = none

section Try

variable (scope : Scope) (request : Request)

theorem start_heralds :
    let started := ((lastMile.withLog options).start progress scope request).2
    started.log.tries = progress.log.tries + 1 ∧
      started.records = progress.records ++
        (heralds options (progress.log.tries + 1) request).map LogRecord.request ∧
      started.calls = progress.calls ++ [⟨Layer.outbound lastMile.layers request, scope⟩] := by
  rw [start_spec]
  refine ⟨rfl, ?_, rfl⟩
  have opened : ((lastMile.withLog options).opening? progress request).toList =
      heralds options (progress.log.tries + 1) request := by
    simp only [opening?, withLog, Option.bind_some, heralds, ← LogLevel.allows_iff]
    split <;> rfl
  rw [← opened]

theorem start_tells (timeline : Timeline) (outcome : Option (Except TransferError Response)) :
    Tells options (progress.log.tries + 1) request progress.timeline.now false progress outcome
      { ((lastMile.withLog options).start progress scope request).2 with timeline } := by
  obtain ⟨tries, records, _⟩ := start_heralds lastMile options progress scope request
  exact ⟨tries, none, by simpa using records, rfl⟩

theorem finish_tells (timeline : Timeline) (caller : Scope) :
    let began := (lastMile.withLog options).start progress scope request
    let answered := (lastMile.withLog options).finish { began.2 with timeline } caller scope
      began.1
    Tells options (progress.log.tries + 1) request progress.timeline.now true progress
      (some answered.1) answered.2 := by
  intro began answered
  obtain ⟨tries, records, _⟩ := start_heralds lastMile options progress scope request
  have since : began.1.startedAt = progress.timeline.now := by
    simp only [began, start_spec]
  have finished := (lastMile.withLog options).finish_spec { began.2 with timeline } caller scope
    began.1
  have reports := options.reports_completed? (progress.log.tries + 1) began.1.request answered.1
    (answered.2.elapsedSince progress.timeline.now)
    (answered.2.elapsedSince (began.2.log.startedAt.getD progress.timeline.now))
  refine ⟨?_, _, ?_, answered.1, _, rfl, RequestLogOptions.rates_iff.mpr rfl, reports⟩
  · rw [show answered = _ from finished]
    exact tries
  · rw [List.map_append, ← List.append_assoc, ← records, ← since, ← tries,
      show answered = _ from finished]
    rfl

theorem start_reply : ((lastMile.withLog options).start progress scope request).1.reply =
      (lastMile.answer progress.service request).1 ∧
    ((lastMile.withLog options).start progress scope request).2.timeline = progress.timeline := by
  rw [start_spec]
  exact ⟨rfl, rfl⟩

theorem send_tells :
    let reply := (lastMile.answer progress.service request).1
    let began := ((lastMile.withLog options).start progress scope request).2
    let answered := began.settle ((lastMile.withLog options).send progress scope request)
    Tells options (progress.log.tries + 1) request progress.timeline.now reply.delay.isSome
      progress answered.1 answered.2 := by
  have silent := start_tells lastMile options progress scope request
  have finished := fun timeline =>
    finish_tells lastMile options progress scope request timeline scope
  simp only [send, ← (start_reply lastMile options progress scope request).1]
  generalize (lastMile.withLog options).start progress scope request = began at silent finished ⊢
  cases began.1.reply.delay with
  | none => exact silent began.2.timeline none
  | some delay => exact finished _

theorem sendWithin_tells (caller : Scope) (live : progress.timeline.end? scope = none) :
    let reply := (lastMile.answer progress.service request).1
    let began := ((lastMile.withLog options).start progress scope request).2
    let answered := began.settle
      ((lastMile.withLog options).sendWithin progress caller scope request)
    Tells options (progress.log.tries + 1) request progress.timeline.now
      (Dispatch.comesBack ⟨progress.timeline, caller, some scope, request⟩ reply)
      progress answered.1 answered.2 := by
  have silent := start_tells lastMile options progress scope request
  have finished := fun timeline =>
    finish_tells lastMile options progress scope request timeline caller
  obtain ⟨replied, unmoved⟩ := start_reply lastMile options progress scope request
  simp only [sendWithin, live, Dispatch.comesBack, ← replied, unmoved]
  generalize (lastMile.withLog options).start progress scope request = began at silent finished ⊢
  rcases progress.timeline.run scope (began.1.reply.delay.map (progress.timeline.now + ·))
    with _ | ⟨_ | reason, timeline⟩
  · exact silent began.2.timeline none
  · exact finished timeline
  · exact silent timeline _

end Try

theorem dispatch_tells {dispatch : Dispatch} (sent : dispatch.isSent = true) :
    let answered := (lastMile.withLog options).dispatch progress dispatch
    Tells options (progress.log.tries + 1) dispatch.request dispatch.begun.now
      (dispatch.comesBack (lastMile.answer progress.service dispatch.request).1) progress
      answered.1 answered.2 := by
  obtain ⟨begun, caller, own, request⟩ := dispatch
  have retimed : ∀ {number now back outcome answered},
      Tells options number request now back { progress with timeline := begun } outcome answered →
      Tells options number request now back progress outcome answered := by
    rintro number now back outcome answered ⟨tries, entries⟩
    exact ⟨tries, entries⟩
  cases own with
  | none =>
      exact retimed (send_tells lastMile options { progress with timeline := begun } caller request)
  | some scope =>
      have live : begun.end? scope = none := by simpa [Dispatch.isSent] using sent
      exact retimed (sendWithin_tells lastMile options { progress with timeline := begun } scope
        request caller live)

theorem dispatchAll_tries (dispatches : List Dispatch) :
    ((lastMile.withLog options).dispatchAll progress dispatches).2.log.tries =
      progress.log.tries + (dispatches.filter Dispatch.isSent).length := by
  induction dispatches generalizing progress with
  | nil => rfl
  | cons dispatch later ih =>
      have further := ih ((lastMile.withLog options).dispatch progress dispatch).2
      rw [dispatchAll, further]
      cases isSent : dispatch.isSent with
      | true =>
          rw [(dispatch_tells lastMile options progress isSent).tries,
            List.filter_cons_of_pos isSent, List.length_cons]
          omega
      | false =>
          obtain ⟨_, unsent⟩ := @dispatch_of_unsent _ (lastMile.withLog options) progress _ isSent
          rw [unsent, List.filter_cons_of_neg (by simp [isSent])]

/-- With the log and without it, the same requests go on, and the same comes back at the same
times. The n-th try that is sent has the number n in its entries: one before it, if the options
show what is no more than information, which it is; and one after it if it came back, and if they
show its level or force it, which only warnings and errors can be. -/
theorem request_log_is_transparent_and_exact (dispatches : List Dispatch) :
    let run := (lastMile.withLog options).dispatchAll progress
    lastMile.withoutLog.dispatchAll progress dispatches =
      ((run dispatches).1,
        { (run dispatches).2 with log := progress.log, records := progress.records }) ∧
    ∀ before dispatch after, dispatches = before ++ dispatch :: after →
      let middle := (run before).2
      let answered := (lastMile.withLog options).dispatch middle dispatch
      let number := progress.log.tries + (before.filter Dispatch.isSent).length + 1
      let opening := if .info ∈ options.minLevel.shown then
        [LogEntry.outgoing number dispatch.request] else []
      (run dispatches).2 = ((lastMile.withLog options).dispatchAll answered.2 after).2 ∧
      (dispatch.isSent = false → answered.2.records = middle.records) ∧
      (dispatch.isSent = true →
        let started := ((lastMile.withLog options).start { middle with timeline := dispatch.begun }
          dispatch.scope dispatch.request).2
        started.calls = middle.calls ++ [dispatch.call lastMile.layers] ∧
        started.records = middle.records ++ opening.map LogRecord.request ∧
        (∀ entry ∈ opening, entry.level = .info ∧ entry.tryNumber = number ∧
          entry.forced = false) ∧
        ∃ closing : Option LogEntry,
          answered.2.records =
            middle.records ++ (opening ++ closing.toList).map LogRecord.request ∧
          if dispatch.comesBack (lastMile.answer middle.service dispatch.request).1 then
            ∃ outcome level, answered.1 = some outcome ∧
              options.Rates (answered.2.elapsedSince dispatch.begun.now) outcome level ∧
              (closing.isSome = true ↔ level ∈ options.minLevel.shown ∨
                ((level = .warning ∨ level = .error) ∧ options.forceLog = true)) ∧
              ∀ entry, closing = some entry → entry.level = level ∧ entry.tryNumber = number ∧
                (entry.forced = true ↔ level ∉ options.minLevel.shown)
          else closing = none) := by
  intro run
  refine ⟨dispatchAll_withoutLog lastMile options progress progress.log progress.records
    dispatches, ?_⟩
  rintro before dispatch after rfl middle answered number opening
  have counted : middle.log.tries + 1 = number :=
    congrArg (· + 1) (dispatchAll_tries lastMile options progress before)
  refine ⟨dispatchAll_append _ _ _ _, ?_, ?_⟩
  · intro isUnsent
    obtain ⟨_, unsent⟩ := @dispatch_of_unsent _ (lastMile.withLog options) middle _ isUnsent
    rw [show answered = _ from unsent]
  · intro isSent started
    obtain ⟨_, records, calls⟩ := start_heralds lastMile options
      { middle with timeline := dispatch.begun } dispatch.scope dispatch.request
    have records' : started.records = middle.records ++
      (heralds options (middle.log.tries + 1) dispatch.request).map LogRecord.request := records
    obtain ⟨_, closing, entries, closed⟩ := dispatch_tells lastMile options middle isSent
    rw [counted] at records' entries closed
    refine ⟨calls, records', fun entry => told_of_heralds, closing, entries, ?_⟩
    split at closed
    · rename_i back
      obtain ⟨outcome, level, came, rates, reports⟩ := closed
      rw [if_pos back]
      exact ⟨outcome, level, came, rates, reports.emitted, reports.entry⟩
    · rename_i lost
      rw [if_neg lost]
      exact closed

def missingThenSlow : LastMile Nat where
  transport count _ := ({
    outcome := .ok { status := if count = 0 then .notFound else ⟨200⟩ }
    delay := some (4000 * count) }, count + 1)

def plainTry (begun : Nat) : Dispatch where
  begun := { now := begun }
  caller := RetryPolicy.soleScope
  request := RetryPolicy.mainPage

theorem slow_second_try_is_forced :
    ∃ entry,
      ((missingThenSlow.withLog { minLevel := .error }).dispatchAll
        { timeline := {}, service := 0 } [plainTry 0, plainTry 10]).2.records = [.request entry] ∧
      entry.level = .warning ∧ entry.tryNumber = 2 ∧ entry.forced = true := by
  obtain ⟨_, _, told⟩ := (request_log_is_transparent_and_exact missingThenSlow
    { minLevel := .error } { timeline := {}, service := 0 } [plainTry 0, plainTry 10]).2
    [plainTry 0] (plainTry 10) [] rfl
  obtain ⟨_, _, _, closing, entries, back⟩ := told rfl
  obtain ⟨outcome, level, came, rates, emitted, entry⟩ := back
  obtain rfl : .ok { status := ⟨200⟩ } = outcome := Option.some.inj came
  obtain rfl : .warning = level := RequestLogOptions.rates_iff.mp rates
  obtain ⟨closing, rfl⟩ := Option.isSome_iff_exists.mp (emitted.mpr (.inr ⟨.inl rfl, rfl⟩))
  obtain ⟨loud, number, forced⟩ := entry closing rfl
  exact ⟨closing, entries, loud, number, forced.mpr (by decide)⟩

end LastMile

end BlobTransfer
