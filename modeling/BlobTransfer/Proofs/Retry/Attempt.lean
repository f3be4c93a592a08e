import BlobTransfer.Proofs.Scope.Limited
import BlobTransfer.Retry.Loop

/-!
One try in a scope of its own. The request goes out once; what comes of it is the reply of the
transport if that is there in time, and the end of the scope if it is not.
-/

namespace BlobTransfer

variable {Service : Type}

def LogRecord.event? : LogRecord → Option RetryEvent
  | .tried event => some event
  | .request _ => none

def Progress.events (progress : Progress Service) : List RetryEvent :=
  progress.records.filterMap (·.event?)

theorem Progress.events_note_tried (progress : Progress Service) (event : RetryEvent) :
    (progress.note (.tried event)).events = progress.events ++ [event] := by
  simp [events, note, LogRecord.event?]

theorem Progress.events_of_requests {progress later : Progress Service}
    {entries : List LogEntry}
    (noted : later.records = progress.records ++ entries.map LogRecord.request) :
    later.events = progress.events := by
  have silent : (entries.map LogRecord.request).filterMap (·.event?) = [] :=
    List.filterMap_eq_nil_iff.mpr (by simp [LogRecord.event?])
  rw [events, noted, List.filterMap_append, silent, List.append_nil, events]

namespace TransportReply

def isTimely (reply : TransportReply) (timeout : Duration) : Bool :=
  reply.delay.any (· ≤ millisAtOrAfter timeout.nanos)

def waited (reply : TransportReply) (timeout : Duration) : Nat :=
  match reply.delay with
  | some delay => min delay (millisAtOrAfter timeout.nanos)
  | none => millisAtOrAfter timeout.nanos

def scopeEnd? (reply : TransportReply) (timeout : Duration) : Option ScopeEnd :=
  if reply.isTimely timeout && reply.cancelsTry then some .canceled
  else if timeout.nanos ≤ reply.waited timeout * nanosPerMilli then some .deadlineExceeded
  else none

def ended (reply : TransportReply) (caller scope : Scope) : List Scope :=
  (if reply.cancelsTry then [scope] else []) ++ if reply.cancelsCaller then [caller] else []

end TransportReply

def LastMile.outcomeOf (lastMile : LastMile Service) (timeout : Duration)
    (reply : TransportReply) : Except TransferError Response :=
  if reply.isTimely timeout then reply.outcome.map (Layer.inbound lastMile.layers)
  else .error .deadlineExceeded

theorem LastMile.map_of_outcomeOf {lastMile : LastMile Service} {timeout : Duration}
    {reply : TransportReply} {response : Response}
    (came : lastMile.outcomeOf timeout reply = .ok response) :
    reply.outcome.map (Layer.inbound lastMile.layers) = .ok response := by
  unfold outcomeOf at came
  split at came
  · exact came
  · contradiction

theorem Timeline.Within.run_eq {timeline : Timeline} {caller scope : Scope} {timeout : Duration}
    (nested : timeline.Within caller scope (timeline.instant + timeout.nanos))
    (positive : 0 < timeout.nanos) (reply : TransportReply) :
    timeline.run scope (reply.delay.map (timeline.now + ·)) = some (
      if reply.isTimely timeout then .finished else .ended .deadlineExceeded,
      timeline.advanceTo (timeline.now + reply.waited timeout)) := by
  have limit : millisAtOrAfter (timeline.instant + timeout.nanos) =
      timeline.now + millisAtOrAfter timeout.nanos := millisAtOrAfter_add _ _
  rw [run_of_limited nested.endless nested.deadline (by omega), limit]
  cases delay : reply.delay with
  | none => simp [TransportReply.isTimely, TransportReply.waited, delay]
  | some delayed =>
      by_cases timely : delayed ≤ millisAtOrAfter timeout.nanos
      · simp [TransportReply.isTimely, TransportReply.waited, delay, timely]
      · have shorter : min delayed (millisAtOrAfter timeout.nanos) =
            millisAtOrAfter timeout.nanos := by omega
        simp [TransportReply.isTimely, TransportReply.waited, delay, timely, shorter]

theorem Timeline.Within.end?_waited {timeline : Timeline} {caller scope : Scope}
    {timeout : Duration}
    (nested : timeline.Within caller scope (timeline.instant + timeout.nanos))
    (reply : TransportReply) :
    (timeline.advanceTo (timeline.now + reply.waited timeout)).end? scope =
      if timeout.nanos ≤ reply.waited timeout * nanosPerMilli then some .deadlineExceeded
      else none := by
  have later := nested.advanceTo (timeline.now + reply.waited timeout)
  have reached : timeline.instant + timeout.nanos ≤
      (timeline.advanceTo (timeline.now + reply.waited timeout)).instant ↔
        timeout.nanos ≤ reply.waited timeout * nanosPerMilli := by
    have clock : (timeline.advanceTo (timeline.now + reply.waited timeout)).now =
        timeline.now + reply.waited timeout := Nat.max_eq_right (Nat.le_add_right _ _)
    simp only [instant, clock, Nat.add_mul]
    omega
  simp only [end?_of_limited later.endless later.deadline, reached]

namespace LastMile

variable (lastMile : LastMile Service) (progress : Progress Service) (caller scope : Scope)

def answer (service : Service) (request : Request) : TransportReply × Service :=
  lastMile.transport service (Layer.outbound lastMile.layers request)

def counted : LogState :=
  match lastMile.requestLog with
  | none => progress.log
  | some _ => {
      tries := progress.log.tries + 1
      startedAt := progress.log.startedAt.or (some progress.timeline.now) }

def opening? (request : Request) : Option LogEntry :=
  lastMile.requestLog.bind fun options =>
    if options.minLevel.allows .info then some (.outgoing (progress.log.tries + 1) request)
    else none

def closing? (attempt : Attempt) : Option LogEntry :=
  lastMile.requestLog.bind fun options =>
    options.completed? progress.log.tries attempt.request
      (attempt.reply.outcome.map (Layer.inbound lastMile.layers))
      (progress.elapsedSince attempt.startedAt)
      (progress.elapsedSince (progress.log.startedAt.getD attempt.startedAt))

theorem start_spec (request : Request) :
    lastMile.start progress scope request = (
      { request, startedAt := progress.timeline.now
        reply := (lastMile.answer progress.service request).1 },
      { progress with
        log := lastMile.counted progress
        service := (lastMile.answer progress.service request).2
        records := progress.records ++
          (lastMile.opening? progress request).toList.map LogRecord.request
        calls := progress.calls ++ [⟨Layer.outbound lastMile.layers request, scope⟩] }) := by
  cases logging : lastMile.requestLog with
  | none => simp [start, counted, opening?, logging, answer]
  | some options =>
      by_cases logged : options.minLevel.allows .info
      · simp only [start, RequestLogOptions.enter, counted, opening?, logging, logged, if_true,
          Option.bind_some]
        rfl
      · simp only [start, RequestLogOptions.enter, counted, opening?, logging, logged,
          Bool.false_eq_true, if_false, Option.bind_some, Option.toList_none, List.map_nil,
          List.append_nil]
        rfl

theorem start_eq (request : Request) : ∃ (log : LogState) (entries : List LogEntry),
    lastMile.start progress scope request = (
      { request, startedAt := progress.timeline.now
        reply := (lastMile.answer progress.service request).1 },
      { progress with
        log
        service := (lastMile.answer progress.service request).2
        records := progress.records ++ entries.map LogRecord.request
        calls := progress.calls ++ [⟨Layer.outbound lastMile.layers request, scope⟩] }) :=
  ⟨_, _, lastMile.start_spec progress scope request⟩

theorem finish_spec (attempt : Attempt) :
    lastMile.finish progress caller scope attempt = (
      attempt.reply.outcome.map (Layer.inbound lastMile.layers),
      { progress with
        timeline := progress.timeline.cancelAll (attempt.reply.ended caller scope)
        records := progress.records ++
          (lastMile.closing? progress attempt).toList.map LogRecord.request }) := by
  have canceled : progress.timeline.cancelAll (attempt.reply.ended caller scope) =
      if attempt.reply.cancelsCaller then
        (if attempt.reply.cancelsTry then progress.timeline.cancel scope
          else progress.timeline).cancel caller
      else if attempt.reply.cancelsTry then progress.timeline.cancel scope
      else progress.timeline := by
    unfold TransportReply.ended
    cases attempt.reply.cancelsTry <;> cases attempt.reply.cancelsCaller <;> rfl
  rw [canceled]
  cases logging : lastMile.requestLog with
  | none => simp [finish, closing?, logging]
  | some options =>
      have elapsed : ∀ since, Progress.elapsedSince { progress with
          timeline := if attempt.reply.cancelsCaller then
              (if attempt.reply.cancelsTry then progress.timeline.cancel scope
                else progress.timeline).cancel caller
            else if attempt.reply.cancelsTry then progress.timeline.cancel scope
            else progress.timeline } since = progress.elapsedSince since := by
        intro since
        cases attempt.reply.cancelsTry <;> cases attempt.reply.cancelsCaller <;> rfl
      simp only [finish, RequestLogOptions.leave, closing?, logging, elapsed, Option.bind_some]
      split
      · rename_i entry completed
        rw [completed]
        rfl
      · rename_i silent
        rw [silent, Option.toList_none, List.map_nil, List.append_nil]

theorem finish_ends (attempt : Attempt) :
    ∃ entries : List LogEntry, lastMile.finish progress caller scope attempt = (
      attempt.reply.outcome.map (Layer.inbound lastMile.layers),
      { progress with
        timeline := progress.timeline.cancelAll (attempt.reply.ended caller scope)
        records := progress.records ++ entries.map LogRecord.request }) :=
  ⟨_, lastMile.finish_spec progress caller scope attempt⟩

theorem finish_eq (attempt : Attempt) (gentle : attempt.reply.cancelsCaller = false) :
    ∃ entries : List LogEntry, lastMile.finish progress caller scope attempt = (
      attempt.reply.outcome.map (Layer.inbound lastMile.layers),
      { progress with
        timeline :=
          if attempt.reply.cancelsTry then progress.timeline.cancel scope else progress.timeline
        records := progress.records ++ entries.map LogRecord.request }) := by
  obtain ⟨entries, finished⟩ := lastMile.finish_ends progress caller scope attempt
  refine ⟨entries, finished.trans ?_⟩
  unfold TransportReply.ended
  rw [gentle]
  cases attempt.reply.cancelsTry <;> rfl

structure Answered (caller scope : Scope) (request : Request) (timeout : Duration)
    (reply : TransportReply) (started answered : Progress Service) : Prop where
  served : lastMile.answer started.service request = (reply, answered.service)
  calls : answered.calls =
    started.calls ++ [⟨Layer.outbound lastMile.layers request, scope⟩]
  events : answered.events = started.events
  draws : answered.draws = started.draws
  origin : answered.timeline.origin = started.timeline.origin
  clock : answered.timeline.now = started.timeline.now + reply.waited timeout
  ended : answered.timeline.end? scope = reply.scopeEnd? timeout
  lasting : answered.timeline.Lasting caller
  grown : answered.timeline.scopes.fresh = started.timeline.scopes.fresh

variable {lastMile caller scope}

theorem sendWithin_answers (request : Request) {timeout : Duration}
    (nested : progress.timeline.Within caller scope (progress.timeline.instant + timeout.nanos))
    (positive : 0 < timeout.nanos)
    (gentle : (lastMile.answer progress.service request).1.cancelsCaller = false) :
    ∃ reply answered, lastMile.sendWithin progress caller scope request =
        .ok (lastMile.outcomeOf timeout reply, answered) ∧
      lastMile.Answered caller scope request timeout reply progress answered := by
  obtain ⟨log, entries, started⟩ := lastMile.start_eq progress scope request
  rcases served : lastMile.answer progress.service request with ⟨reply, service⟩
  rw [served] at started gentle
  have going : progress.timeline.end? scope = none := by
    rw [Timeline.end?_of_limited nested.endless nested.deadline, if_neg (by omega)]
  have later := nested.advanceTo (progress.timeline.now + reply.waited timeout)
  have settled : ∀ (timeline : Timeline) (entries : List LogEntry),
      timeline.origin = progress.timeline.origin →
      timeline.now = (progress.timeline.advanceTo
        (progress.timeline.now + reply.waited timeout)).now →
      timeline.scopes.fresh = (progress.timeline.advanceTo
        (progress.timeline.now + reply.waited timeout)).scopes.fresh →
      timeline.end? scope = reply.scopeEnd? timeout → timeline.Lasting caller →
      lastMile.Answered caller scope request timeout reply progress
        { progress with
          timeline, log, service
          records := progress.records ++ entries.map LogRecord.request
          calls := progress.calls ++ [⟨Layer.outbound lastMile.layers request, scope⟩] } := by
    intro timeline entries origin clock grown ended lasting
    exact {
      served
      calls := rfl
      events := Progress.events_of_requests rfl
      draws := rfl
      origin
      clock := clock.trans (Nat.max_eq_right (Nat.le_add_right _ _))
      ended, lasting
      grown := grown.trans (Timeline.fresh_advanceTo _ _) }
  refine ⟨reply, ?_⟩
  simp only [sendWithin, going, started, nested.run_eq positive reply]
  cases timely : reply.isTimely timeout with
  | false =>
      have outcome : lastMile.outcomeOf timeout reply = .error .deadlineExceeded := by
        simp [outcomeOf, timely]
      rw [outcome]
      refine ⟨_, rfl, settled _ entries rfl rfl rfl ?_ later.lasting⟩
      simp [nested.end?_waited, TransportReply.scopeEnd?, timely]
  | true =>
      have outcome : lastMile.outcomeOf timeout reply =
          reply.outcome.map (Layer.inbound lastMile.layers) := by
        simp [outcomeOf, timely]
      obtain ⟨others, finished⟩ := lastMile.finish_eq
        { progress with
          timeline := progress.timeline.advanceTo (progress.timeline.now + reply.waited timeout)
          log, service
          records := progress.records ++ entries.map LogRecord.request
          calls := progress.calls ++ [⟨Layer.outbound lastMile.layers request, scope⟩] }
        caller scope { request, startedAt := progress.timeline.now, reply } gentle
      rw [List.append_assoc, ← List.map_append] at finished
      simp only [if_true, finished, outcome]
      refine ⟨_, rfl, ?_⟩
      cases canceled : reply.cancelsTry with
      | false =>
          refine settled _ (entries ++ others) rfl rfl rfl ?_ later.lasting
          simp [nested.end?_waited, TransportReply.scopeEnd?, canceled]
      | true =>
          refine settled _ (entries ++ others) rfl rfl rfl ?_ (later.lasting.cancel later.apart)
          simp [later.end?_cancel, TransportReply.scopeEnd?, canceled, timely]

end LastMile

end BlobTransfer
