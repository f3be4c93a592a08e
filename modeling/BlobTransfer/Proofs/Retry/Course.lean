import BlobTransfer.Proofs.Retry.Outcome

/-!
The course of a request sent with retries, whatever scope it is sent in: rounds of a wait and a
try in a scope of its own, each asking for another one but the last, and what ends them.
-/

namespace BlobTransfer

variable {Service : Type}

/-- A round of the retries, up to the outcome of its try. -/
structure Round (Service : Type) where
  state : RetryState
  left : Nat
  before : Progress Service
  delay : Duration
  rested : Timeline
  timeout : Duration
  request : Request
  scope : Scope
  begun : Timeline
  outcome : Except TransferError Response
  answered : Progress Service

namespace Round

variable (round : Round Service) (caller : Scope)

def started : Progress Service :=
  { round.before with draws := round.before.draws + 1, timeline := round.begun }

def event : RetryEvent :=
  RetryPolicy.judge caller round.state round.left round.delay round.scope round.outcome
    round.answered

def decision : RetryDecision := (round.event caller).decision

def willRetry : Bool := (round.event caller).willRetry

theorem decision_eq : round.decision caller =
    .ofOutcome (round.answered.timeline.end? caller) (round.answered.timeline.end? round.scope)
      round.state.target round.outcome := rfl

theorem willRetry_eq : round.willRetry caller =
    ((round.decision caller).isRetryable && decide (round.left ≠ 0)) := rfl

def dropped : List Scope :=
  match round.outcome with
  | .ok response => if round.willRetry caller then response.retained else []
  | .error _ => []

theorem mem_dropped {round : Round Service} {caller scope : Scope}
    (member : scope ∈ round.dropped caller) :
    ∃ response, round.outcome = .ok response ∧ scope ∈ response.retained := by
  unfold dropped at member
  split at member
  · rename_i response came
    split at member
    · exact ⟨response, came, member⟩
    · exact absurd member List.not_mem_nil
  · exact absurd member List.not_mem_nil

def isDone : Bool :=
  match round.outcome with
  | .ok _ => round.willRetry caller
  | .error _ => true

def noted : Progress Service := round.answered.note (.tried (round.event caller))

def settled : Progress Service :=
  let timeline := round.answered.timeline.cancelAll (round.dropped caller)
  { round.noted caller with
    timeline := if round.isDone caller then timeline.cancel round.scope else timeline }

def result : Except TransferError Response := round.outcome.map (·.retain round.scope)

theorem settled_of_retried (retried : round.willRetry caller = true) :
    round.settled caller = RetryPolicy.discard round.scope round.outcome (round.noted caller) := by
  unfold settled dropped isDone RetryPolicy.discard
  rw [retried]
  cases round.outcome <;> rfl

theorem settled_of_told (told : round.willRetry caller = false) :
    RetryPolicy.handBack round.scope round.outcome (round.noted caller) =
      (round.result, round.settled caller) := by
  unfold settled dropped isDone RetryPolicy.handBack result
  rw [told]
  cases round.outcome <;> rfl

def calls (lastMile : LastMile Service) : List TransportCall :=
  if round.begun.isOver round.scope then []
  else [⟨Layer.outbound lastMile.layers round.request, round.scope⟩]

def reply (lastMile : LastMile Service) : TransportReply :=
  (lastMile.answer round.before.service round.request).1

def IsAnswered (lastMile : LastMile Service) : Prop :=
  lastMile.Answers round.scope round.request round.started round.outcome round.answered

structure MadeBy (policy : RetryPolicy) (lastMile : LastMile Service) (request : Request) :
    Prop where
  drawn : policy.delay round.state (policy.jitter round.before.draws) = some round.delay
  waited : round.before.timeline.sleep caller round.delay = some (.finished, round.rested)
  timeout : round.timeout = policy.timeout round.rested caller
  prepared : RetryPolicy.prepare round.state request round.timeout = .ok round.request
  short : round.rested.spans round.timeout = true
  nested : round.rested.childFor caller round.timeout = (round.scope, round.begun)
  sent : lastMile.sendWithin round.started caller round.scope round.request =
    .ok (round.outcome, round.answered)

variable {round caller} {policy : RetryPolicy} {lastMile : LastMile Service} {request : Request}

namespace MadeBy

variable (made : round.MadeBy caller policy lastMile request)

include made

theorem waits : round.before.timeline.Waits caller
    (some (round.before.timeline.wake round.delay)) .finished round.rested :=
  Timeline.waits_of_run made.waited

theorem madeFor :
    round.rested.MadeFor caller (policy.timeout round.rested caller) round.scope round.begun := by
  rw [← made.timeout]
  exact Timeline.madeFor_of_childFor made.nested

theorem begun_instant : round.begun.instant = round.rested.instant := by
  rw [Timeline.instant, Timeline.instant, made.madeFor.now]

theorem tries : lastMile.Tries caller round.scope round.request round.started round.outcome
    round.answered := LastMile.tries_of_sendWithin made.sent

theorem precedes_answered : round.begun.Precedes round.answered.timeline := made.tries.precedes

omit made in
theorem precedes_settled :
    round.answered.timeline.Precedes (round.settled caller).timeline := by
  have dropped := round.answered.timeline.precedes_cancelAll (round.dropped caller)
  cases done : round.isDone caller with
  | true =>
      simp only [settled, done, if_true]
      exact dropped.trans (Timeline.precedes_cancel _ _)
  | false =>
      simp only [settled, done, Bool.false_eq_true, if_false]
      exact dropped

theorem precedes : round.before.timeline.Precedes (round.settled caller).timeline :=
  made.waits.passes.toPrecedes.trans (made.madeFor.precedes.trans
    (made.precedes_answered.trans precedes_settled))

theorem calls_settled :
    (round.settled caller).calls = round.before.calls ++ round.calls lastMile := made.tries.calls

end MadeBy

end Round

namespace RetryPolicy

variable (policy : RetryPolicy) (lastMile : LastMile Service) (caller : Scope)
  (request : Request)

def firstState : RetryState where
  secondary := if request.isRead then policy.options.secondaryHost else none

inductive Reaches (start : Progress Service) :
    List (Round Service) → RetryState → Nat → Progress Service → Prop
  | start : Reaches start [] (policy.firstState request) policy.options.maxTries.toNat start
  | again {earlier : List (Round Service)} {round : Round Service}
      (reached : Reaches start earlier round.state (round.left + 1) round.before)
      (made : round.MadeBy caller policy lastMile request)
      (retried : round.willRetry caller = true) :
      Reaches start (earlier ++ [round]) (round.state.next (round.decision caller)) round.left
        (round.settled caller)

/-- The rounds of an operation and what comes of it. Only the last round may be one that asks for
no other; without it the operation stops between two rounds. -/
inductive Runs (start : Progress Service) : List (Round Service) →
    Except Halt (Except TransferError Response × Progress Service) → Prop
  | exhausted {earlier : List (Round Service)} {state : RetryState} {progress : Progress Service}
      (reached : policy.Reaches lastMile caller request start earlier state 0 progress) :
      Runs start earlier (.ok (.error (.invalid .tries), progress))
  | undrawn {earlier : List (Round Service)} {state : RetryState} {left : Nat}
      {progress : Progress Service}
      (reached : policy.Reaches lastMile caller request start earlier state (left + 1) progress)
      (drawn : policy.delay state (policy.jitter progress.draws) = none) :
      Runs start earlier (.error .overflow)
  | interrupted {earlier : List (Round Service)} {state : RetryState} {left : Nat}
      {progress : Progress Service} {delay : Duration} {reason : ScopeEnd} {later : Timeline}
      (reached : policy.Reaches lastMile caller request start earlier state (left + 1) progress)
      (waited : progress.timeline.sleep caller delay = some (.ended reason, later)) :
      Runs start earlier (.ok (.error reason.error,
        { progress with draws := progress.draws + 1, timeline := later }))
  | refused {earlier : List (Round Service)} {state : RetryState} {left : Nat}
      {progress : Progress Service} {delay : Duration} {rested : Timeline} {error : TransferError}
      (reached : policy.Reaches lastMile caller request start earlier state (left + 1) progress)
      (waited : progress.timeline.sleep caller delay = some (.finished, rested))
      (refusal : prepare state request (policy.timeout rested caller) = .error error) :
      Runs start earlier (.ok (.error error,
        { progress with draws := progress.draws + 1, timeline := rested }))
  | overlong {earlier : List (Round Service)} {state : RetryState} {left : Nat}
      {progress : Progress Service} {delay : Duration} {rested : Timeline}
      (reached : policy.Reaches lastMile caller request start earlier state (left + 1) progress)
      (waited : progress.timeline.sleep caller delay = some (.finished, rested))
      (long : rested.spans (policy.timeout rested caller) = false) :
      Runs start earlier (.error .overflow)
  | returned {earlier : List (Round Service)} {round : Round Service}
      (reached : policy.Reaches lastMile caller request start earlier round.state
        (round.left + 1) round.before)
      (made : round.MadeBy caller policy lastMile request)
      (told : round.willRetry caller = false) :
      Runs start (earlier ++ [round]) (.ok (round.result, round.settled caller))

variable {policy lastMile caller request} {start : Progress Service}

namespace Reaches

variable {earlier : List (Round Service)} {state : RetryState} {left : Nat}
  {progress : Progress Service}

theorem precedes
    (reached : policy.Reaches lastMile caller request start earlier state left progress) :
    start.timeline.Precedes progress.timeline := by
  induction reached with
  | start => exact .refl _
  | again _ made _ ih => exact ih.trans made.precedes

theorem calls
    (reached : policy.Reaches lastMile caller request start earlier state left progress) :
    progress.calls = start.calls ++ earlier.flatMap (·.calls lastMile) := by
  induction reached with
  | start => exact (List.append_nil _).symm
  | again _ made _ ih =>
      rw [made.calls_settled, ih, List.flatMap_append, List.flatMap_singleton, List.append_assoc]

theorem tryNumber
    (reached : policy.Reaches lastMile caller request start earlier state left progress) :
    state.tryNumber = earlier.length + 1 := by
  induction reached with
  | start => rfl
  | again _ _ _ ih => simp [RetryState.next, ih]

theorem secondary
    (reached : policy.Reaches lastMile caller request start earlier state left progress) :
    state.secondary = if ∀ past ∈ earlier, past.decision caller ≠ .secondaryNotFound then
      (policy.firstState request).secondary else none := by
  induction reached with
  | start => simp
  | @again earlier round _ _ _ ih =>
      simp only [RetryState.next, ih, List.forall_mem_append, List.forall_mem_singleton]
      by_cases lacking : round.decision caller = .secondaryNotFound
      · simp [lacking]
      · simp [lacking]

theorem configured {host : String}
    (reached : policy.Reaches lastMile caller request start earlier state left progress)
    (here : state.secondary = some host) : policy.options.secondaryHost = some host := by
  rw [reached.secondary] at here
  split at here
  · simp only [firstState] at here
    split at here
    · exact here
    · contradiction
  · contradiction

theorem split {round : Round Service} {before later : List (Round Service)}
    (reached : policy.Reaches lastMile caller request start earlier state left progress)
    (rounds : earlier = before ++ round :: later) :
    policy.Reaches lastMile caller request start before round.state (round.left + 1) round.before ∧
      round.MadeBy caller policy lastMile request ∧ round.willRetry caller = true := by
  induction reached generalizing later with
  | start => simp at rounds
  | again reached made retried ih =>
      obtain rfl | ⟨others, last, rfl⟩ := List.eq_nil_or_concat later
      · obtain ⟨rfl, same⟩ := List.append_inj' rounds rfl
        obtain rfl := List.singleton_inj.mp same
        exact ⟨reached, made, retried⟩
      · rw [List.concat_eq_append, ← List.cons_append, ← List.append_assoc] at rounds
        exact ih (List.append_inj' rounds rfl).1

end Reaches

namespace Runs

variable {rounds : List (Round Service)}
  {value : Except Halt (Except TransferError Response × Progress Service)}

theorem split {round : Round Service} {earlier later : List (Round Service)}
    (runs : policy.Runs lastMile caller request start rounds value)
    (parts : rounds = earlier ++ round :: later) :
    policy.Reaches lastMile caller request start earlier round.state (round.left + 1)
        round.before ∧
      round.MadeBy caller policy lastMile request ∧
      (later ≠ [] → round.willRetry caller = true) := by
  have stopped : ∀ {made state left progress others},
      policy.Reaches lastMile caller request start made state left progress →
      made = earlier ++ round :: others →
        policy.Reaches lastMile caller request start earlier round.state (round.left + 1)
            round.before ∧
          round.MadeBy caller policy lastMile request ∧
          (later ≠ [] → round.willRetry caller = true) := by
    intro made state left progress others reached parts
    obtain ⟨before, madeBy, retried⟩ := reached.split parts
    exact ⟨before, madeBy, fun _ => retried⟩
  cases runs with
  | exhausted reached => exact stopped reached parts
  | undrawn reached => exact stopped reached parts
  | interrupted reached => exact stopped reached parts
  | refused reached => exact stopped reached parts
  | overlong reached => exact stopped reached parts
  | returned reached made told =>
      obtain rfl | ⟨others, last, rfl⟩ := List.eq_nil_or_concat later
      · obtain ⟨rfl, same⟩ := List.append_inj' parts rfl
        obtain rfl := List.singleton_inj.mp same
        exact ⟨reached, made, fun more => absurd rfl more⟩
      · rw [List.concat_eq_append, ← List.cons_append, ← List.append_assoc] at parts
        exact stopped reached (List.append_inj' parts rfl).1

theorem cases_of_ok {result : Except TransferError Response} {final : Progress Service}
    (runs : policy.Runs lastMile caller request start rounds (.ok (result, final))) :
    (∃ state left progress error,
      policy.Reaches lastMile caller request start rounds state left progress ∧
      progress.timeline.Passes final.timeline ∧ final.calls = progress.calls ∧
      result = .error error) ∨
    ∃ earlier last, rounds = earlier ++ [last] ∧
      policy.Reaches lastMile caller request start earlier last.state (last.left + 1)
        last.before ∧
      last.MadeBy caller policy lastMile request ∧ last.willRetry caller = false ∧
      result = last.result ∧ final = last.settled caller := by
  cases runs with
  | exhausted reached => exact .inl ⟨_, _, _, _, reached, .refl _, rfl, rfl⟩
  | interrupted reached waited =>
      exact .inl ⟨_, _, _, _, reached, (Timeline.waits_of_run waited).passes, rfl, rfl⟩
  | refused reached waited =>
      exact .inl ⟨_, _, _, _, reached, (Timeline.waits_of_run waited).passes, rfl, rfl⟩
  | returned reached made told => exact .inr ⟨_, _, rfl, reached, made, told, rfl, rfl⟩

theorem calls {result : Except TransferError Response} {final : Progress Service}
    (runs : policy.Runs lastMile caller request start rounds (.ok (result, final))) :
    final.calls = start.calls ++ rounds.flatMap (·.calls lastMile) := by
  rcases runs.cases_of_ok with
    ⟨_, _, _, _, reached, _, same, _⟩ | ⟨earlier, last, rfl, reached, made, _, _, rfl⟩
  · rw [same, reached.calls]
  · rw [made.calls_settled, reached.calls, List.flatMap_append, List.flatMap_singleton,
      List.append_assoc]

end Runs

theorem exists_made (state : RetryState) (left : Nat) {progress : Progress Service}
    {delay : Duration} {rested : Timeline} {prepared : Request}
    (drawn : policy.delay state (policy.jitter progress.draws) = some delay)
    (waited : progress.timeline.sleep caller delay = some (.finished, rested))
    (ready : prepare state request (policy.timeout rested caller) = .ok prepared)
    (short : rested.spans (policy.timeout rested caller) = true) :
    ∃ round : Round Service, round.MadeBy caller policy lastMile request ∧
      round.state = state ∧ round.left = left ∧ round.before = progress := by
  rcases nested : rested.childFor caller (policy.timeout rested caller) with ⟨scope, begun⟩
  have limited : scope.deadline ≠ none := by
    rw [(Timeline.madeFor_of_childFor nested).deadline]
    exact Option.some_ne_none _
  obtain ⟨outcome, answered, sent⟩ := @LastMile.sendWithin_returns _ lastMile caller scope prepared
    { progress with draws := progress.draws + 1, timeline := begun } limited
  let round : Round Service := {
    state, left, before := progress, delay, rested, timeout := policy.timeout rested caller
    request := prepared, scope, begun, outcome, answered }
  exact ⟨round, ⟨drawn, waited, rfl, ready, short, nested, sent⟩, rfl, rfl, rfl⟩

theorem tryFrom_of_made {round : Round Service}
    (made : round.MadeBy caller policy lastMile request) :
    policy.tryFrom lastMile caller request round.state (round.left + 1) round.before =
      if round.willRetry caller then
        policy.tryFrom lastMile caller request (round.state.next (round.decision caller))
          round.left (round.settled caller)
      else .ok (round.result, round.settled caller) := by
  have sent := made.sent
  have ready := made.prepared
  have short := made.short
  have nested := made.nested
  simp only [Round.started] at sent
  rw [made.timeout] at ready short nested
  rw [tryFrom, made.drawn]
  simp only [bind, Except.bind, made.waited, ready, short, Bool.not_true, Bool.false_eq_true,
    if_false, nested, sent]
  cases again : round.willRetry caller with
  | true =>
      rw [Round.settled_of_retried round caller again]
      exact if_pos again
  | false =>
      rw [if_neg Bool.false_ne_true, ← Round.settled_of_told round caller again]
      exact if_neg (Bool.eq_false_iff.mp again)

/-- What the next round of an operation comes to, if there are tries left. -/
inductive Next (policy : RetryPolicy) (lastMile : LastMile Service) (caller : Scope)
    (request : Request) : RetryState → Nat → Progress Service →
      Except Halt (Except TransferError Response × Progress Service) → Prop
  | undrawn {state left progress}
      (drawn : policy.delay state (policy.jitter progress.draws) = none) :
      Next policy lastMile caller request state left progress (.error .overflow)
  | interrupted {state left progress delay reason later}
      (drawn : policy.delay state (policy.jitter progress.draws) = some delay)
      (waited : progress.timeline.sleep caller delay = some (.ended reason, later)) :
      Next policy lastMile caller request state left progress (.ok (.error reason.error,
        { progress with draws := progress.draws + 1, timeline := later }))
  | refused {state left progress delay rested error}
      (drawn : policy.delay state (policy.jitter progress.draws) = some delay)
      (waited : progress.timeline.sleep caller delay = some (.finished, rested))
      (refusal : prepare state request (policy.timeout rested caller) = .error error) :
      Next policy lastMile caller request state left progress (.ok (.error error,
        { progress with draws := progress.draws + 1, timeline := rested }))
  | overlong {state left progress delay rested}
      (drawn : policy.delay state (policy.jitter progress.draws) = some delay)
      (waited : progress.timeline.sleep caller delay = some (.finished, rested))
      (long : rested.spans (policy.timeout rested caller) = false) :
      Next policy lastMile caller request state left progress (.error .overflow)
  | made {round : Round Service} (made : round.MadeBy caller policy lastMile request) :
      Next policy lastMile caller request round.state round.left round.before
        (if round.willRetry caller then
          policy.tryFrom lastMile caller request (round.state.next (round.decision caller))
            round.left (round.settled caller)
        else .ok (round.result, round.settled caller))

variable (policy lastMile caller request) in
theorem tryFrom_next (state : RetryState) (left : Nat) (progress : Progress Service) :
    policy.Next lastMile caller request state left progress
      (policy.tryFrom lastMile caller request state (left + 1) progress) := by
  cases drawn : policy.delay state (policy.jitter progress.draws) with
  | none =>
      rw [tryFrom, drawn]
      exact .undrawn drawn
  | some delay =>
      cases waited : progress.timeline.sleep caller delay with
      | none => exact absurd waited (Timeline.run_ne_none (.inl (Option.some_ne_none _)))
      | some ending =>
          rcases ending with ⟨_ | reason, rested⟩
          · cases ready : prepare state request (policy.timeout rested caller) with
            | error error =>
                rw [tryFrom, drawn]
                simp only [bind, Except.bind, waited, ready]
                exact .refused drawn waited ready
            | ok prepared =>
                cases spans : rested.spans (policy.timeout rested caller) with
                | false =>
                    rw [tryFrom, drawn]
                    simp only [bind, Except.bind, waited, ready, spans, Bool.not_false, if_true]
                    exact .overlong drawn waited spans
                | true =>
                    obtain ⟨round, made, rfl, rfl, rfl⟩ :=
                      exists_made state left drawn waited ready spans
                    rw [tryFrom_of_made made]
                    exact .made made
          · rw [tryFrom, drawn]
            simp only [bind, Except.bind, waited]
            exact .interrupted drawn waited

theorem tryFrom_runs (left : Nat) {earlier : List (Round Service)} {state : RetryState}
    {progress : Progress Service}
    (reached : policy.Reaches lastMile caller request start earlier state left progress) :
    ∃ later, policy.Runs lastMile caller request start (earlier ++ later)
      (policy.tryFrom lastMile caller request state left progress) := by
  have stops : ∀ {made value}, policy.Runs lastMile caller request start made value →
      ∃ later, policy.Runs lastMile caller request start (made ++ later) value := by
    intro made value runs
    refine ⟨[], ?_⟩
    rw [List.append_nil]
    exact runs
  induction left generalizing earlier state progress with
  | zero => exact stops (.exhausted reached)
  | succ left ih =>
      have next := tryFrom_next policy lastMile caller request state left progress
      generalize policy.tryFrom lastMile caller request state (left + 1) progress = value at next ⊢
      cases next with
      | undrawn drawn => exact stops (.undrawn reached drawn)
      | interrupted _ waited => exact stops (.interrupted reached waited)
      | refused _ waited refusal => exact stops (.refused reached waited refusal)
      | overlong _ waited long => exact stops (.overlong reached waited long)
      | @made round made =>
          cases again : round.willRetry caller with
          | true =>
              obtain ⟨later, runs⟩ := ih (.again reached made again)
              rw [List.append_assoc] at runs
              exact ⟨round :: later, runs⟩
          | false => exact ⟨[round], .returned reached made again⟩

/-- Every operation is a course of rounds. -/
theorem send_runs (policy : RetryPolicy) (lastMile : LastMile Service) (start : Progress Service)
    (caller : Scope) (request : Request) : ∃ rounds,
      policy.Runs lastMile caller request start rounds
        (policy.send lastMile start caller request) := tryFrom_runs _ .start

end RetryPolicy

end BlobTransfer
