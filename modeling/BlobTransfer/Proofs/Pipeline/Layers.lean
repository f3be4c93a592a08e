import BlobTransfer.Proofs.Fallible
import BlobTransfer.Proofs.Pipeline.Sightings
import BlobTransfer.Proofs.Retry.Attempt
import BlobTransfer.Proofs.Scope.Reasons

/-!
Pipelines whose custom policies are layers: what such a pipeline does is what comes of the chain of
its policies.
-/

namespace BlobTransfer

variable {Service : Type}

namespace Activity

variable {Mark Result Next Last : Type}

def plain : Activity Service Mark Result → Activity Service Empty Result
  | .done result progress => .done result progress
  | .halted reason => .halted reason
  | .mark _ rest => rest.plain
  | .wait progress woken resume giveUp =>
      .wait progress woken (fun progress => (resume progress).plain) giveUp

theorem run_plain (activity : Activity Service Mark Result) :
    activity.plain.run = activity.run := by
  induction activity with
  | done result progress => rfl
  | halted reason => rfl
  | mark note rest ih => exact ih
  | wait progress woken resume giveUp ih =>
      cases woken with
      | none => rfl
      | some timeline => exact ih _

theorem plain_bind (activity : Activity Service Mark Result)
    (next : Result → Progress Service → Activity Service Mark Next) :
    (activity.bind next).plain =
      activity.plain.bind fun result progress => (next result progress).plain := by
  induction activity with
  | done result progress => rfl
  | halted reason => rfl
  | mark note rest ih => exact ih
  | wait progress woken resume giveUp ih => simp only [bind, plain, ih]

theorem plain_guard (scope : Scope)
    (activity : Activity Service Mark (Except TransferError Result)) :
    (activity.guard scope).plain = activity.plain.guard scope := by
  induction activity with
  | done result progress => rfl
  | halted reason => rfl
  | mark note rest ih => exact ih
  | wait progress woken resume giveUp ih =>
      simp only [guard, plain]
      cases progress.timeline.awaitEnd scope with
      | none => simp only [plain, ih]
      | some ending =>
          simp only
          split
          · simp only [plain, ih]
          · rfl

theorem plain_within (scope : Scope)
    (activity : Progress Service → Activity Service Mark (Except TransferError Result))
    (progress : Progress Service) :
    (within scope activity progress).plain =
      within scope (fun progress => (activity progress).plain) progress := by
  unfold within
  cases progress.timeline.end? scope with
  | some reason => rfl
  | none => exact plain_guard scope _

theorem releasing_id (activity : Activity Service Mark Result) :
    activity.releasing id = activity := by
  induction activity with
  | done result progress => rfl
  | halted reason => rfl
  | mark note rest ih => simp only [releasing, ih]
  | wait progress woken resume giveUp ih => simp only [releasing, ih, id]

theorem bind_assoc (activity : Activity Service Mark Result)
    (next : Result → Progress Service → Activity Service Mark Next)
    (last : Next → Progress Service → Activity Service Mark Last) :
    (activity.bind next).bind last =
      activity.bind fun result progress => (next result progress).bind last := by
  induction activity with
  | done result progress => rfl
  | halted reason => rfl
  | mark note rest ih => simp only [bind, ih]
  | wait progress woken resume giveUp ih => simp only [bind, ih]

theorem bind_done (activity : Activity Service Mark Result) : activity.bind .done = activity := by
  induction activity with
  | done result progress => rfl
  | halted reason => rfl
  | mark note rest ih => simp only [bind, ih]
  | wait progress woken resume giveUp ih => simp only [bind, ih]

theorem run_guard_wait {scope : Scope} {progress : Progress Service}
    (going : progress.timeline.end? scope = none) (readyAt : Option Nat)
    (resume : Progress Service → Activity Service Mark (Except TransferError Result))
    (giveUp : Progress Service → Progress Service) :
    (guard scope (.wait progress (readyAt.map progress.timeline.advanceTo) resume giveUp)).run =
      match progress.timeline.run scope readyAt with
      | none => .error .forever
      | some (.ended reason, timeline) =>
          .ok (.error reason.error, giveUp { progress with timeline })
      | some (.finished, timeline) => ((resume { progress with timeline }).guard scope).run := by
  have waits : progress.timeline.awaitEnd scope = progress.timeline.endAhead? scope := by
    rw [Timeline.awaitEnd, Timeline.race_eq_none.mpr going]
  simp only [guard, waits, Timeline.run, going]
  cases ahead : progress.timeline.endAhead? scope with
  | none => cases readyAt <;> rfl
  | some ending =>
      rcases ending with ⟨reason, later⟩
      have passed : progress.timeline.now ≤ later.now :=
        (Timeline.endsAhead_of_endAhead? ahead).passes.toPrecedes.now
      cases readyAt with
      | none => rfl
      | some ready =>
          have soon : (progress.timeline.advanceTo ready).now ≤ later.now ↔ ready ≤ later.now := by
            simp only [Timeline.advanceTo]
            omega
          by_cases timely : ready ≤ later.now
          · simp only [Option.map_some, Option.any_some, soon, timely, decide_true, if_true]
            rfl
          · simp only [Option.map_some, Option.any_some, soon, timely, decide_false,
              Bool.false_eq_true, if_false]
            rfl

theorem run_sleep (scope : Scope) (duration : Duration) (progress : Progress Service) :
    (sleep scope duration progress : Activity Service Mark _).run =
      match progress.timeline.sleep scope duration with
      | none => .error .forever
      | some (.ended reason, timeline) => .ok (.error reason.error, { progress with timeline })
      | some (.finished, timeline) => .ok (.ok (), { progress with timeline }) := by
  unfold sleep within Timeline.sleep
  cases going : progress.timeline.end? scope with
  | some reason =>
      simp only [Timeline.run, going]
      rfl
  | none =>
      simp only
      exact run_guard_wait going (some _) _ id

end Activity

theorem plain_link (layer : Layer) (next : Policy Service) (start : Progress Service)
    (scope : Scope) (request : Request) (progress : Progress Service) :
    ((layer.link.factory next start).1 scope request progress).plain =
      (next scope (layer.onRequest request) progress).plain.bind
        fun outcome progress => .done (outcome.map layer.onResponse) progress := by
  simp only [Link.factory, Layer.link, Link.policy, Activity.unmarked, Activity.bind,
    Activity.plain, Activity.releasing_id, Activity.plain_bind]

theorem plain_layers (layers : List Layer) (transport : Policy Service) (start : Progress Service)
    (scope : Scope) (request : Request) (progress : Progress Service) :
    ((assemble (layers.map (·.link.factory)) transport start).1 scope request progress).plain =
      (transport scope (Layer.outbound layers request) progress).plain.bind
        fun outcome progress => .done (outcome.map (Layer.inbound layers)) progress := by
  induction layers generalizing request with
  | nil =>
      have whole : (fun (outcome : Except TransferError Response) (progress : Progress Service) =>
          (Activity.done (outcome.map (Layer.inbound [])) progress :
            Activity Service Empty (Except TransferError Response))) = .done := by
        funext outcome progress
        cases outcome <;> rfl
      rw [whole, Activity.bind_done]
      rfl
  | cons layer layers ih =>
      have composed (outcome : Except TransferError Response) :
          (outcome.map (Layer.inbound layers)).map layer.onResponse =
            outcome.map (Layer.inbound (layer :: layers)) := by
        cases outcome <;> rfl
      rw [List.map_cons, assemble_cons, plain_link, ih, Activity.bind_assoc]
      simp only [Activity.bind, composed]
      rfl

namespace LastMile

variable (lastMile : LastMile Service) (caller : Scope)

def factories : List (PolicyFactory Service) :=
  (lastMile.requestLog.map PolicyFactory.requestLog).toList ++
    lastMile.layers.map (·.link.factory)

def first (start : Progress Service) : Policy Service :=
  (assemble lastMile.factories (lastMile.transport.policy caller) start).1

theorem plain_first (start : Progress Service) (scope : Scope) (request : Request)
    (progress : Progress Service) {attempt : Attempt} {started : Progress Service}
    (begun : lastMile.start progress scope request = (attempt, started)) :
    ∃ next, (lastMile.first caller start scope request progress).plain =
        .wait started ((attempt.reply.delay.map (started.timeline.now + ·)).map
          started.timeline.advanceTo) next id ∧
      ∀ timeline,
        let finished := lastMile.finish { started with timeline } caller scope attempt
        next { started with timeline } = .done finished.1 finished.2 := by
  cases logged : lastMile.requestLog with
  | none =>
      simp only [LastMile.start, logged, Prod.mk.injEq] at begun
      obtain ⟨rfl, rfl⟩ := begun
      simp only [first, factories, logged, Option.map_none, Option.toList_none, List.nil_append,
        plain_layers, Option.map_map]
      refine ⟨_, rfl, ?_⟩
      intro timeline
      simp only [LastMile.finish, logged]
      rfl
  | some options =>
      simp only [LastMile.start, logged, Prod.mk.injEq] at begun
      obtain ⟨rfl, rfl⟩ := begun
      simp only [first, factories, logged, Option.map_some, Option.toList_some,
        List.singleton_append, assemble_cons, PolicyFactory.requestLog, RequestLogOptions.policy,
        Activity.plain_bind, plain_layers, Option.map_map]
      refine ⟨_, rfl, ?_⟩
      intro timeline
      simp only [LastMile.finish, logged]
      rfl

theorem run_within_first (start : Progress Service) (scope : Scope) (request : Request)
    (progress : Progress Service) :
    (Activity.within scope (lastMile.first caller start scope request) progress).run =
      lastMile.sendWithin progress caller scope request := by
  rcases begun : lastMile.start progress scope request with ⟨attempt, started⟩
  obtain ⟨next, waits, settles⟩ := lastMile.plain_first caller start scope request progress begun
  have still : started.timeline = progress.timeline := by
    rw [LastMile.start_spec] at begun
    exact (congrArg (·.2.timeline) begun).symm
  rw [← Activity.run_plain, Activity.plain_within]
  unfold Activity.within LastMile.sendWithin
  cases going : progress.timeline.end? scope with
  | some reason => rfl
  | none =>
      rw [← still] at going
      simp only [waits, begun]
      rw [Activity.run_guard_wait going]
      cases waited : started.timeline.run scope
          (attempt.reply.delay.map (started.timeline.now + ·)) with
      | none => rfl
      | some ending =>
          rcases ending with ⟨_ | reason, later⟩
          · exact congrArg (fun activity => (Activity.guard scope activity).run) (settles later)
          · rfl

theorem run_first (start : Progress Service) (request : Request) (progress : Progress Service) :
    (lastMile.first caller start caller request progress).run =
      lastMile.send progress caller request := by
  rcases begun : lastMile.start progress caller request with ⟨attempt, started⟩
  obtain ⟨next, waits, settles⟩ := lastMile.plain_first caller start caller request progress begun
  rw [← Activity.run_plain, waits]
  simp only [LastMile.send, begun]
  cases attempt.reply.delay with
  | none => rfl
  | some delay => exact congrArg Activity.run (settles _)

end LastMile

theorem run_attempts {next : Policy Service} {lastMile : LastMile Service} {caller : Scope}
    (policy : RetryPolicy) (request : Request)
    (same : ∀ scope request progress, (Activity.within scope (next scope request) progress).run =
      lastMile.sendWithin progress caller scope request)
    (left : Nat) (state : RetryState) (progress : Progress Service) :
    (policy.attempts (fun _ progress => progress) next caller request state left progress).run =
      policy.tryFrom lastMile caller request state left progress := by
  induction left generalizing state progress with
  | zero => rfl
  | succ left ih =>
      unfold RetryPolicy.attempts RetryPolicy.tryFrom
      cases policy.delay state (policy.jitter progress.draws) with
      | none => rfl
      | some delay =>
          simp only [Activity.run_bind, Activity.run_sleep, bind, Except.bind]
          cases progress.timeline.sleep caller delay with
          | none => rfl
          | some ending =>
              rcases ending with ⟨_ | reason, rested⟩
              · simp only
                cases RetryPolicy.prepare state request (policy.timeout rested caller) with
                | error error => rfl
                | ok prepared =>
                    simp only
                    split
                    · rfl
                    · simp only [Activity.run_bind, same]
                      cases lastMile.sendWithin _ caller _ prepared with
                      | error reason => rfl
                      | ok answer =>
                          rcases answer with ⟨outcome, answered⟩
                          let scope := (rested.childFor caller (policy.timeout rested caller)).1
                          let event :=
                            RetryPolicy.judge caller state left delay scope outcome answered
                          by_cases again : event.willRetry = true
                          · refine (congrArg Activity.run (if_pos again)).trans ?_
                            exact (ih _ _).trans (if_pos again).symm
                          · refine (congrArg Activity.run (if_neg again)).trans ?_
                            refine Eq.trans ?_ (if_neg again).symm
                            cases outcome <;> rfl
              · rfl

theorem ChainBuilder.eq_of_slots {left right : ChainBuilder Service}
    (userAgent : left.held .userAgent = right.held .userAgent)
    (requestId : left.held .requestId = right.held .requestId)
    (retry : left.held .retry = right.held .retry)
    (requestLog : left.held .requestLog = right.held .requestLog)
    (custom : left.custom = right.custom) : left = right := by
  apply ChainBuilder.ext (funext fun slot => ?_) custom
  cases slot with
  | userAgent => exact userAgent
  | requestId => exact requestId
  | retry => exact retry
  | requestLog => exact requestLog

theorem ChainBuilder.factories_eq (builder : ChainBuilder Service) : builder.factories =
    (builder.held .userAgent).toList ++ ((builder.held .requestId).toList ++
      ((builder.held .retry).toList ++
        ((builder.held .requestLog).toList ++ builder.custom))) := by
  simp only [factories, Slot.all, List.filterMap_cons, List.filterMap_nil]
  cases builder.held .userAgent <;> cases builder.held .requestId <;>
    cases builder.held .retry <;> cases builder.held .requestLog <;> rfl

namespace PipelineBuilder

def chain (parts : PipelineBuilder) (chance : Chance) : ChainBuilder Service where
  held
    | .userAgent => parts.userAgent.map .userAgent
    | .requestId => if parts.addsRequestId then some (.requestId chance.entropy) else none
    | .retry => parts.retry.map fun options => .retry chance.jitter { options }
    | .requestLog => parts.requestLog.map .requestLog
  custom := parts.layers.map (·.link.factory)

theorem chain_perform (parts : PipelineBuilder) {call : BuilderCall} {other : ChainCall Service}
    (chance : Chance) (translated : call.chainCall = .ok other) :
    ∃ changed, parts.perform call = .ok changed ∧
      changed.chain chance = (parts.chain chance).perform chance other := by
  cases call with
  | userAgent value =>
      obtain rfl := Except.ok.inj translated
      exact ⟨_, rfl, ChainBuilder.eq_of_slots rfl rfl rfl rfl rfl⟩
  | requestId =>
      obtain rfl := Except.ok.inj translated
      exact ⟨_, rfl, ChainBuilder.eq_of_slots rfl rfl rfl rfl rfl⟩
  | retry options =>
      obtain ⟨complete, valid, rfl⟩ : ∃ complete, options.validated = .ok complete ∧
          .retry { options := complete } = other := by
        simpa only [BuilderCall.chainCall, bind_eq_ok, pure_eq_ok] using translated
      refine ⟨{ parts with retry := some complete }, ?_,
        ChainBuilder.eq_of_slots rfl rfl rfl rfl rfl⟩
      rw [perform, withRetry, valid]
      rfl
  | requestLog options =>
      obtain rfl := Except.ok.inj translated
      exact ⟨_, rfl, ChainBuilder.eq_of_slots rfl rfl rfl rfl rfl⟩
  | layer layer =>
      obtain rfl := Except.ok.inj translated
      exact ⟨_, rfl, ChainBuilder.ext rfl List.map_append⟩

theorem chain_foldl (calls : List BuilderCall) (first : PipelineBuilder)
    {others : List (ChainCall Service)} (chance : Chance)
    (translated : calls.mapM BuilderCall.chainCall = .ok others) :
    ∃ parts, calls.foldlM perform first = .ok parts ∧
      parts.chain chance = others.foldl (ChainBuilder.perform chance) (first.chain chance) := by
  induction calls generalizing first others with
  | nil =>
      obtain rfl := Except.ok.inj translated
      exact ⟨first, rfl, rfl⟩
  | cons call calls ih =>
      obtain ⟨other, one, later, rest, rfl⟩ := mapM_cons_eq_ok.mp translated
      obtain ⟨next, performed, same⟩ := chain_perform first chance one
      obtain ⟨parts, made, chain⟩ := ih next rest
      refine ⟨parts, foldlM_cons_eq_ok.mpr ⟨next, performed, made⟩, ?_⟩
      rw [List.foldl_cons, ← same]
      exact chain

theorem chain_ofCalls {calls : List BuilderCall} {others : List (ChainCall Service)}
    (chance : Chance) (translated : calls.mapM BuilderCall.chainCall = .ok others) :
    ∃ parts, ofCalls calls = .ok parts ∧
      parts.chain chance = ChainBuilder.ofCalls chance others := by
  have empty : (({} : PipelineBuilder).chain chance : ChainBuilder Service) = {} :=
    ChainBuilder.eq_of_slots rfl rfl rfl rfl rfl
  obtain ⟨parts, made, chain⟩ := chain_foldl calls {} chance translated
  rw [empty] at chain
  exact ⟨parts, made, chain⟩

end PipelineBuilder

theorem assemble_lastMile (lastMile : LastMile Service) (caller : Scope) {start : Progress Service}
    (fresh : start.log = {}) :
    assemble lastMile.factories (lastMile.transport.policy caller) start =
      (lastMile.first caller start, start) := by
  have layers : ∀ layers : List Layer, (assemble (layers.map (·.link.factory))
      (lastMile.transport.policy caller) start).2 = start := by
    intro layers
    induction layers with
    | nil => rfl
    | cons layer layers ih =>
        rw [List.map_cons, assemble_cons]
        exact ih
  apply Prod.ext
  · rfl
  · cases logged : lastMile.requestLog with
    | none =>
        simp only [LastMile.factories, logged, Option.map_none, Option.toList_none,
          List.nil_append, layers]
    | some options =>
        simp only [LastMile.factories, logged, Option.map_some, Option.toList_some,
          List.singleton_append, assemble_cons, PolicyFactory.requestLog, layers]
        rw [← fresh]

namespace Pipeline

variable (pipeline : Pipeline Service) {factories : List (PolicyFactory Service)}
  {transport behind : Policy Service} {start : Progress Service}

theorem assemble_userAgent (made : assemble factories transport start = (behind, start)) :
    ∃ policy, assemble ((pipeline.parts.userAgent.map PolicyFactory.userAgent).toList ++ factories)
        transport start = (policy, start) ∧
      ∀ caller request progress, policy caller request progress =
        behind caller (pipeline.withUserAgent request) progress := by
  cases named : pipeline.parts.userAgent with
  | none => exact ⟨behind, made, fun _ _ _ => by simp only [withUserAgent, named]⟩
  | some value =>
      refine ⟨(PolicyFactory.userAgent value behind start).1, ?_, ?_⟩
      · rw [Option.map_some, Option.toList_some, List.singleton_append, assemble_cons, made]
        rfl
      · intro caller request progress
        simp only [withUserAgent, named]
        rfl

theorem assemble_requestId (made : assemble factories transport start = (behind, start)) :
    ∃ policy, assemble ((if pipeline.parts.addsRequestId then
          some (PolicyFactory.requestId pipeline.chance.entropy) else none).toList ++ factories)
        transport start = (policy, start) ∧
      ∀ caller request progress, policy caller request progress =
        behind caller (pipeline.withRequestId progress request).1
          (pipeline.withRequestId progress request).2 := by
  cases adds : pipeline.parts.addsRequestId with
  | false => exact ⟨behind, made, fun _ _ _ => by simp only [withRequestId, adds]; rfl⟩
  | true =>
      refine ⟨(PolicyFactory.requestId pipeline.chance.entropy behind start).1, ?_, ?_⟩
      · rw [if_pos rfl, Option.toList_some, List.singleton_append, assemble_cons, made]
        rfl
      · intro caller request progress
        by_cases nameless : (request.headers.get? .clientRequestId).isNone = true
        · have named : (pipeline.parts.addsRequestId &&
              (request.headers.get? .clientRequestId).isNone) = true := by
            rw [adds, nameless, Bool.and_self]
          refine (if_pos nameless).trans (Eq.trans ?_ (congrArg
            (fun given : Request × Progress Service => behind caller given.1 given.2)
            (if_pos named).symm))
          rfl
        · simp only [PolicyFactory.requestId, withRequestId, adds, nameless, Bool.true_and,
            Bool.false_eq_true, if_false]

theorem assemble_retry (caller : Scope) (start : Progress Service) (fresh : start.log = {}) :
    ∃ policy, assemble ((pipeline.parts.retry.map fun options =>
          PolicyFactory.retry pipeline.chance.jitter { options }).toList ++
            pipeline.lastMile.factories)
        (pipeline.transport.policy caller) start = (policy, start) ∧
      ∀ request progress, (policy caller request progress).run =
        match pipeline.parts.retry with
        | none => pipeline.lastMile.send progress caller request
        | some options =>
            RetryPolicy.send ⟨options, pipeline.chance.jitter⟩ pipeline.lastMile progress caller
              request := by
  have made := assemble_lastMile pipeline.lastMile caller fresh
  cases retried : pipeline.parts.retry with
  | none =>
      refine ⟨_, made, ?_⟩
      intro request progress
      exact pipeline.lastMile.run_first caller start request progress
  | some options =>
      let behind := pipeline.lastMile.first caller start
      refine ⟨(PolicyFactory.retry pipeline.chance.jitter { options } behind start).1, ?_, ?_⟩
      · rw [Option.map_some, Option.toList_some, List.singleton_append, assemble_cons]
        simp only [lastMile] at made ⊢
        rw [made]
        rfl
      · intro request progress
        exact run_attempts ⟨options, pipeline.chance.jitter⟩ request
          (pipeline.lastMile.run_within_first caller start) _ _ progress

/-- A pipeline does what comes of its chain, made for the operation. -/
theorem send_eq_run (progress : Progress Service) (caller : Scope) (request : Request) :
    pipeline.send progress caller request =
      (sendThrough (pipeline.parts.chain pipeline.chance).factories
        (pipeline.transport.policy caller) { progress with log := {} } caller request).run := by
  obtain ⟨retries, made, retried⟩ :=
    pipeline.assemble_retry caller { progress with log := {} } rfl
  obtain ⟨names, named, naming⟩ := pipeline.assemble_requestId made
  obtain ⟨first, assembled, firsts⟩ := pipeline.assemble_userAgent named
  have shape : assemble (pipeline.parts.chain pipeline.chance).factories
      (pipeline.transport.policy caller) { progress with log := {} } =
        (first, { progress with log := {} }) := by
    rw [ChainBuilder.factories_eq]
    exact assembled
  simp only [sendThrough, shape, firsts, naming, retried]
  rfl

end Pipeline

end BlobTransfer
