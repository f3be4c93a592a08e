import BlobTransfer.Pipeline.Traffic
import BlobTransfer.Proofs.Retry.Course

/-!
Requests that are sent through one pipeline side by side. A request that is sent alone goes on in
the same steps, so what holds of all that the steps lead to holds of it as well.
-/

namespace BlobTransfer

variable {Service : Type}

namespace Traffic

/-- One request is sent, one goes a step on, or something happens apart from them, with the clock
moving or not. Looks are prompt if the clock does not move as long as the scope of a try has been
made and not been looked at. -/
inductive Step (pipeline : Pipeline Service) (policy : RetryPolicy) (prompt : Prop) :
    Traffic Service → Traffic Service → Prop
  | send {traffic caller request named progress}
      (stamped : pipeline.withRequestId (traffic.progress {}) (pipeline.withUserAgent request) =
        (named, progress)) :
      Step pipeline policy prompt traffic (progress.traffic (traffic.sendings ++ [{
        caller, request := named
        phase := .idle (policy.firstState named) policy.options.maxTries.toNat }]))
  | move {traffic before sending after phase progress}
      (among : traffic.sendings = before ++ sending :: after)
      (moves : policy.Step pipeline.lastMile sending.caller sending.request sending.phase
        (traffic.progress sending.trace) phase progress) :
      Step pipeline policy prompt traffic
        (progress.traffic (before ++ sending.resume phase progress :: after))
  | elapse {traffic later : Traffic Service} (precedes : traffic.timeline.Precedes later.timeline)
      (kept : later.sendings = traffic.sendings)
      (still : prompt → later.timeline.now = traffic.timeline.now ∨
        ∀ sending ∈ traffic.sendings, sending.phase.isReady = false) :
      Step pipeline policy prompt traffic later

inductive Path (pipeline : Pipeline Service) (policy : RetryPolicy) (prompt : Prop) :
    Traffic Service → Traffic Service → Prop
  | stay {traffic} : Path pipeline policy prompt traffic traffic
  | step {start middle last} (path : Path pipeline policy prompt start middle)
      (step : Step pipeline policy prompt middle last) : Path pipeline policy prompt start last

variable {pipeline : Pipeline Service} {policy : RetryPolicy} {prompt : Prop}

theorem Path.trans {start middle last : Traffic Service}
    (first : Path pipeline policy prompt start middle)
    (second : Path pipeline policy prompt middle last) :
    Path pipeline policy prompt start last := by
  induction second with
  | stay => exact first
  | step _ step ih => exact ih.step step

end Traffic

theorem Pipeline.progress_of_withRequestId {pipeline : Pipeline Service}
    {progress later : Progress Service} {request named : Request}
    (stamped : pipeline.withRequestId progress request = (named, later)) :
    ∃ ids, later = { progress with ids } := by
  unfold withRequestId at stamped
  split at stamped
  · exact ⟨_, (Prod.mk.inj stamped).2.symm⟩
  · exact ⟨progress.ids, (Prod.mk.inj stamped).2.symm⟩

/-! What the steps of a request do to the timeline. -/

/-- An event tells what comes of a try, and whether another one follows. -/
structure Turn.Concludes (turn : Turn) (caller scope : Scope)
    (outcome : Except TransferError Response) (progress : Progress Service) (event : RetryEvent)
    (phase : SendPhase) (concluded : Progress Service) : Prop where
  noted : ∃ timeline, concluded = { progress.note (.tried event) with timeline }
  number : event.tryNumber = turn.state.tryNumber
  decision : event.decision = .ofOutcome (progress.timeline.end? caller)
    (progress.timeline.end? scope) turn.state.target outcome
  follows : event.willRetry = true ∧ event.decision.isRetryable = true ∧
      phase = .idle (turn.state.next event.decision) turn.left ∨
    event.willRetry = false ∧ ∃ result, phase = .returned result
  precedes : progress.timeline.Precedes concluded.timeline
  now : concluded.timeline.now = progress.timeline.now

theorem Turn.concludes {turn : Turn} {caller scope : Scope}
    {outcome : Except TransferError Response} {progress concluded : Progress Service}
    {phase : SendPhase}
    (conclusion : turn.conclude caller scope outcome progress = (phase, concluded)) :
    ∃ event, turn.Concludes caller scope outcome progress event phase concluded := by
  have stopped : ∀ timeline : Timeline, timeline.Precedes (timeline.cancel scope) :=
    fun timeline => timeline.precedes_cancel scope
  unfold conclude at conclusion
  dsimp only at conclusion
  split at conclusion
  · rename_i again
    have retryable := (Bool.and_eq_true_iff.mp again).1
    obtain ⟨rfl, rfl⟩ := Prod.mk.inj conclusion
    refine ⟨_, ⟨_, rfl⟩, rfl, rfl, .inl ⟨again, retryable, rfl⟩, ?_, ?_⟩
    · cases outcome with
      | error error => exact stopped _
      | ok response =>
          exact (progress.timeline.precedes_cancelAll response.retained).trans (stopped _)
    · cases outcome <;> rfl
  · rename_i last
    rw [Bool.not_eq_true] at last
    cases outcome with
    | error error =>
        obtain ⟨rfl, rfl⟩ := Prod.mk.inj conclusion
        exact ⟨_, ⟨_, rfl⟩, rfl, rfl, .inr ⟨last, _, rfl⟩, stopped _, rfl⟩
    | ok response =>
        obtain ⟨rfl, rfl⟩ := Prod.mk.inj conclusion
        exact ⟨_, ⟨_, rfl⟩, rfl, rfl, .inr ⟨last, _, rfl⟩, .refl _, rfl⟩

namespace RetryPolicy

variable {policy : RetryPolicy} {lastMile : LastMile Service} {caller : Scope}
  {request : Request} {phase next : SendPhase} {progress later : Progress Service}

/-- No step of a request takes time, or takes back an end of a scope. -/
theorem Step.timeline (step : policy.Step lastMile caller request phase progress next later) :
    progress.timeline.Precedes later.timeline ∧ later.timeline.now = progress.timeline.now := by
  cases step with
  | exhaust | decline | rest | interrupt | refuse | skip | abandon => exact ⟨.refl _, rfl⟩
  | begin _ _ _ nested =>
      have made := Timeline.madeFor_of_childFor nested
      exact ⟨made.precedes, made.now⟩
  | enter _ begun =>
      obtain ⟨_, _, started⟩ := lastMile.start_eq progress _ _
      rw [started] at begun
      obtain ⟨_, rfl⟩ := Prod.mk.inj begun
      exact ⟨.refl _, rfl⟩
  | answer _ _ finished =>
      rw [LastMile.finish_spec] at finished
      obtain ⟨_, rfl⟩ := Prod.mk.inj finished
      exact ⟨progress.timeline.precedes_cancelAll _, rfl⟩
  | judge conclusion =>
      obtain ⟨_, concludes⟩ := Turn.concludes conclusion
      exact ⟨concludes.precedes, concludes.now⟩

end RetryPolicy

/-! What holds of each request, whatever the others do. -/

namespace Traffic

variable {pipeline : Pipeline Service} {policy : RetryPolicy} {prompt : Prop}
  {traffic later : Traffic Service}

section Invariant

variable (holds : Timeline → Sending → Prop)
  (begun : ∀ timeline caller request, holds timeline {
    caller, request
    phase := .idle (policy.firstState request) policy.options.maxTries.toNat })
  (moved : ∀ (traffic : Traffic Service) sending phase progress,
    policy.Step pipeline.lastMile sending.caller sending.request sending.phase
      (traffic.progress sending.trace) phase progress →
    holds traffic.timeline sending → holds progress.timeline (sending.resume phase progress))
  (stays : ∀ timeline later sending, timeline.Precedes later →
    (prompt → later.now = timeline.now ∨ sending.phase.isReady = false) →
    holds timeline sending → holds later sending)

include begun moved stays

theorem Step.preserve (step : Step pipeline policy prompt traffic later)
    (all : ∀ sending ∈ traffic.sendings, holds traffic.timeline sending) :
    ∀ sending ∈ later.sendings, holds later.timeline sending := by
  cases step with
  | @send caller request named progress stamped =>
      obtain ⟨ids, rfl⟩ := Pipeline.progress_of_withRequestId stamped
      intro sending member
      rcases List.mem_append.mp member with old | new
      · exact all sending old
      · rw [List.mem_singleton.mp new]
        exact begun _ _ _
  | @move before sending after phase progress among moves =>
      have own : sending ∈ traffic.sendings := by simp [among]
      obtain ⟨precedes, now⟩ := moves.timeline
      have others : ∀ other ∈ traffic.sendings, holds progress.timeline other :=
        fun other member => stays _ _ other precedes (fun _ => .inl now) (all other member)
      intro other member
      rcases List.mem_append.mp member with earlier | here
      · exact others other (by simp [among, earlier])
      · rcases List.mem_cons.mp here with rfl | behind
        · exact moved traffic sending phase progress moves (all sending own)
        · exact others other (by simp [among, behind])
  | elapse precedes kept still =>
      intro sending member
      rw [kept] at member
      exact stays _ _ sending precedes
        (fun looks => (still looks).imp_right fun waiting => waiting sending member)
        (all sending member)

/-- What holds of a request at its start, and is kept by its own steps and by what happens apart from
them, holds of all requests at any time. -/
theorem Path.invariant (path : Path pipeline policy prompt traffic later)
    (empty : traffic.sendings = []) : ∀ sending ∈ later.sendings, holds later.timeline sending := by
  induction path with
  | stay => simp [empty]
  | step _ step ih => exact step.preserve holds begun moved stays ih

end Invariant

end Traffic

/-! A request that nobody disturbs. -/

namespace Traffic

variable {pipeline : Pipeline Service} {policy : RetryPolicy} {caller scope : Scope}
  {request prepared : Request} {phase next last : SendPhase}
  {progress later final : Progress Service} {outcome : Except TransferError Response}

def scene (others : List Sending) (caller : Scope) (request : Request)
    (entered : List (Nat × Nat)) (skipped : List Nat) (phase : SendPhase)
    (progress : Progress Service) : Traffic Service :=
  progress.traffic
    (others ++ [{ caller, request, phase, trace := progress.trace, entered, skipped }])

/-- The request gets on from one phase to another while the others stay where they are. -/
def Leads (pipeline : Pipeline Service) (policy : RetryPolicy) (prompt : Prop)
    (others : List Sending) (caller : Scope) (request : Request) (phase : SendPhase)
    (progress : Progress Service) (next : SendPhase) (later : Progress Service) : Prop :=
  ∀ entered skipped, ∃ entered' skipped', Path pipeline policy prompt
    (scene others caller request entered skipped phase progress)
    (scene others caller request entered' skipped' next later)

variable {others : List Sending}

theorem Leads.trans
    (first : Leads pipeline policy prompt others caller request phase progress next later)
    (second : Leads pipeline policy prompt others caller request next later last final) :
    Leads pipeline policy prompt others caller request phase progress last final := by
  intro entered skipped
  obtain ⟨_, _, path⟩ := first entered skipped
  obtain ⟨entered', skipped', path'⟩ := second _ _
  exact ⟨entered', skipped', path.trans path'⟩

theorem leads_of_step
    (step : policy.Step pipeline.lastMile caller request phase progress next later) :
    Leads pipeline policy prompt others caller request phase progress next later := by
  intro entered skipped
  let sending : Sending := { caller, request, phase, trace := progress.trace, entered, skipped }
  have moved := @Step.move _ pipeline policy prompt (progress.traffic (others ++ [sending])) others
    sending [] next later rfl step
  exact ⟨_, _, .step .stay moved⟩

theorem leads_of_wait {timeline : Timeline}
    (paused : prompt → (∀ sending ∈ others, sending.phase.isReady = false) ∧
      phase.isReady = false)
    (precedes : progress.timeline.Precedes timeline) :
    Leads pipeline policy prompt others caller request phase progress phase
      { progress with timeline } := by
  intro entered skipped
  refine ⟨entered, skipped, .step .stay (.elapse precedes rfl fun prompt => .inr ?_)⟩
  obtain ⟨waiting, own⟩ := paused prompt
  intro sending member
  rcases List.mem_append.mp member with other | same
  · exact waiting sending other
  · rw [List.mem_singleton.mp same]
    exact own

section Wait

variable (turn : Turn) {state : RetryState} {left : Nat} {delay : Duration} {reason : ScopeEnd}
  {timeline : Timeline}
  (waiting : prompt → ∀ sending ∈ others, sending.phase.isReady = false)

include waiting

theorem leads_of_sendWithin
    (sent : pipeline.lastMile.sendWithin progress caller scope prepared = .ok (outcome, later)) :
    Leads pipeline policy prompt others caller request (.ready turn scope prepared) progress
      (.judging turn scope outcome) later := by
  cases going : progress.timeline.end? scope with
  | some reason =>
      simp only [LastMile.sendWithin, going, Except.ok.injEq, Prod.mk.injEq] at sent
      obtain ⟨rfl, rfl⟩ := sent
      exact leads_of_step (.skip going)
  | none =>
      obtain ⟨log, entries, begins⟩ := pipeline.lastMile.start_eq progress scope prepared
      rcases begun : pipeline.lastMile.start progress scope prepared with ⟨attempt, started⟩
      rw [begun, Prod.mk.injEq] at begins
      obtain ⟨begins, starts⟩ := begins
      have startedAt : attempt.startedAt = started.timeline.now := by rw [begins, starts]
      have enters : policy.Step pipeline.lastMile caller request (.ready turn scope prepared)
          progress (.trying turn scope attempt) started := .enter going begun
      simp only [LastMile.sendWithin, going, begun] at sent
      cases ran : started.timeline.run scope
          (attempt.reply.delay.map (started.timeline.now + ·)) with
      | none => simp [ran] at sent
      | some ending =>
          rcases ending with ⟨waited, timeline⟩
          have waits := Timeline.waits_of_run ran
          have passes := waits.passes.toPrecedes
          refine (leads_of_step enters).trans
            ((leads_of_wait (fun prompt => ⟨waiting prompt, rfl⟩) passes).trans ?_)
          simp only [ran] at sent
          cases waited with
          | ended reason =>
              obtain ⟨rfl, rfl⟩ := Prod.mk.inj (Except.ok.inj sent)
              exact leads_of_step (.abandon waits.end?_eq)
          | finished =>
              cases waits with
              | finished _ due _ =>
                  obtain ⟨delay, replies, rfl⟩ := Option.map_eq_some_iff.mp due
                  refine leads_of_step (.answer replies ?_ (Except.ok.inj sent))
                  rw [startedAt]
                  exact Nat.le_max_right _ _

theorem leads_of_rest (drawn : policy.delay state (policy.jitter progress.draws) = some delay)
    (going : progress.timeline.end? caller = none)
    (precedes : progress.timeline.Precedes timeline) :
    Leads pipeline policy prompt others caller request (.idle state (left + 1)) progress
      (.resting ⟨state, left, delay⟩ (progress.timeline.wake delay))
      { progress with draws := progress.draws + 1, timeline } :=
  (leads_of_step (.rest drawn going)).trans
    (leads_of_wait (fun prompt => ⟨waiting prompt, rfl⟩) precedes)

theorem leads_of_interrupted
    (drawn : policy.delay state (policy.jitter progress.draws) = some delay)
    (waited : progress.timeline.sleep caller delay = some (.ended reason, timeline)) :
    Leads pipeline policy prompt others caller request (.idle state (left + 1)) progress
      (.returned (.error reason.error))
      { progress with draws := progress.draws + 1, timeline } := by
  have waits := Timeline.waits_of_run waited
  have spent := waits.end?_eq
  cases waits with
  | unbegun ended => exact leads_of_step (.decline drawn ended)
  | ended going ends =>
      exact (leads_of_rest waiting drawn going ends.passes.toPrecedes).trans
        (leads_of_step (.interrupt spent))

theorem leads_of_rested
    (drawn : policy.delay state (policy.jitter progress.draws) = some delay)
    (waited : progress.timeline.sleep caller delay = some (.finished, timeline)) :
    ∃ wake ≤ timeline.now, Leads pipeline policy prompt others caller request
      (.idle state (left + 1)) progress (.resting ⟨state, left, delay⟩ wake)
      { progress with draws := progress.draws + 1, timeline } := by
  have waits := Timeline.waits_of_run waited
  refine ⟨_, ?_, leads_of_rest waiting drawn waits.live waits.passes.toPrecedes⟩
  cases waits with
  | finished _ due _ =>
      rw [Option.some.inj due]
      exact Nat.le_max_right _ _

end Wait

theorem conclude_round (round : Round Service) (caller : Scope) :
    (⟨round.state, round.left, round.delay⟩ : Turn).conclude caller round.scope round.outcome
        round.answered =
      (if round.willRetry caller then
          .idle (round.state.next (round.decision caller)) round.left
        else .returned round.result, round.settled caller) := by
  unfold Turn.conclude
  dsimp only
  cases again : round.willRetry caller with
  | true =>
      rw [Round.settled_of_retried round caller again, if_pos rfl]
      exact if_pos again
  | false =>
      have handed := Round.settled_of_told round caller again
      refine (if_neg (Bool.eq_false_iff.mp again)).trans ?_
      rw [if_neg Bool.false_ne_true]
      exact congrArg
        (fun handed : Except TransferError Response × Progress Service =>
          (SendPhase.returned handed.1, handed.2)) handed

section Course

variable (waiting : prompt → ∀ sending ∈ others, sending.phase.isReady = false)

include waiting

theorem leads_of_made {round : Round Service}
    (made : round.MadeBy caller policy pipeline.lastMile request) :
    Leads pipeline policy prompt others caller request (.idle round.state (round.left + 1))
      round.before
      (if round.willRetry caller then
          .idle (round.state.next (round.decision caller)) round.left
        else .returned round.result)
      (round.settled caller) := by
  have ready := made.prepared
  have short := made.short
  have nested := made.nested
  rw [made.timeout] at ready short nested
  let turn : Turn := ⟨round.state, round.left, round.delay⟩
  let rested : Progress Service :=
    { round.before with draws := round.before.draws + 1, timeline := round.rested }
  obtain ⟨wake, woken, rests⟩ : ∃ wake ≤ round.rested.now,
      Leads pipeline policy prompt others caller request
        (.idle round.state (round.left + 1)) round.before (.resting turn wake) rested :=
    leads_of_rested waiting made.drawn made.waited
  have begins : policy.Step pipeline.lastMile caller request (.resting turn wake) rested
      (.ready turn round.scope round.request) round.started := .begin woken ready short nested
  refine rests.trans ((leads_of_step begins).trans ?_)
  exact (leads_of_sendWithin turn waiting made.sent).trans
    (leads_of_step (.judge (conclude_round round caller)))

/-- A request sent with retries gets to its result step by step. -/
theorem leads_of_tryFrom {result : Except TransferError Response} (left : Nat) {state : RetryState}
    (sent : policy.tryFrom pipeline.lastMile caller request state left progress =
      .ok (result, final)) :
    Leads pipeline policy prompt others caller request (.idle state left) progress
      (.returned result) final := by
  induction left generalizing state progress with
  | zero =>
      obtain ⟨rfl, rfl⟩ := Prod.mk.inj (Except.ok.inj sent)
      exact leads_of_step .exhaust
  | succ left ih =>
      have round := RetryPolicy.tryFrom_next policy pipeline.lastMile caller request state left
        progress
      rw [sent] at round
      generalize value : Except.ok (result, final) = value at round
      cases round with
      | undrawn | overlong => contradiction
      | interrupted drawn waited =>
          obtain ⟨rfl, rfl⟩ := Prod.mk.inj (Except.ok.inj value)
          exact leads_of_interrupted waiting drawn waited
      | refused drawn waited refusal =>
          obtain ⟨rfl, rfl⟩ := Prod.mk.inj (Except.ok.inj value)
          obtain ⟨wake, woken, rests⟩ := leads_of_rested waiting drawn waited
          exact rests.trans (leads_of_step (.refuse woken refusal))
      | @made round made =>
          have leads := leads_of_made waiting made
          cases again : round.willRetry caller with
          | true =>
              rw [again, if_pos rfl] at leads value
              exact leads.trans (ih value.symm)
          | false =>
              rw [again, if_neg Bool.false_ne_true] at leads value
              obtain ⟨rfl, rfl⟩ := Prod.mk.inj (Except.ok.inj value)
              exact leads

end Course

end Traffic

namespace Pipeline

variable {pipeline : Pipeline Service}

def retryPolicy (pipeline : Pipeline Service) (retry : RetryOptions) : RetryPolicy :=
  ⟨retry, pipeline.chance.jitter⟩

section Path

variable {prompt : Prop} {retry : RetryOptions} {traffic : Traffic Service} {caller : Scope}
  {request named : Request} {progress final : Progress Service}

theorem path_of_leads {phase : SendPhase}
    (stamped : pipeline.withRequestId (traffic.progress {}) (pipeline.withUserAgent request) =
      (named, progress))
    (leads : Traffic.Leads pipeline (pipeline.retryPolicy retry) prompt traffic.sendings caller
      named (.idle ((pipeline.retryPolicy retry).firstState named) retry.maxTries.toNat) progress
      phase final) :
    ∃ sending : Sending, sending.caller = caller ∧ sending.phase = phase ∧
      sending.trace = final.trace ∧
      Traffic.Path pipeline (pipeline.retryPolicy retry) prompt traffic
        (final.traffic (traffic.sendings ++ [sending])) := by
  have fresh : progress.trace = {} := by
    obtain ⟨ids, rfl⟩ := progress_of_withRequestId stamped
    rfl
  have begins : Traffic.Step pipeline (pipeline.retryPolicy retry) prompt traffic
      (progress.traffic (traffic.sendings ++ [{
        caller, request := named
        phase := .idle ((pipeline.retryPolicy retry).firstState named) retry.maxTries.toNat }])) :=
    .send stamped
  obtain ⟨_, _, path⟩ := leads [] []
  rw [Traffic.scene, fresh] at path
  exact ⟨_, rfl, rfl, rfl, (Traffic.Path.stay.step begins).trans path⟩

theorem path_of_send (retries : pipeline.parts.retry = some retry)
    {result : Except TransferError Response}
    (waiting : prompt → ∀ sending ∈ traffic.sendings, sending.phase.isReady = false)
    (sent : pipeline.send (traffic.progress {}) caller request = .ok (result, final)) :
    ∃ sending : Sending, sending.caller = caller ∧ sending.phase = .returned result ∧
      sending.trace = final.trace ∧
      Traffic.Path pipeline (pipeline.retryPolicy retry) prompt traffic
        (final.traffic (traffic.sendings ++ [sending])) := by
  rcases stamped : pipeline.withRequestId (traffic.progress {}) (pipeline.withUserAgent request)
    with ⟨named, progress⟩
  have started : pipeline.withRequestId { traffic.progress {} with log := {} }
      (pipeline.withUserAgent request) = (named, progress) := stamped
  simp only [send, started, retries] at sent
  exact path_of_leads stamped (Traffic.leads_of_tryFrom waiting _ sent)

end Path

end Pipeline

end BlobTransfer
