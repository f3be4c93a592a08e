import BlobTransfer.Proofs.Pipeline.Layers
import BlobTransfer.Proofs.Retry.Law
import Mathlib.Data.List.Induction

/-!
The chain that a builder makes of its calls: the policies that were set last, each in its place, and
behind them all that were added. Nothing else of the calls shows in what a request meets.
-/

namespace BlobTransfer

variable {Service : Type} {chance : Chance} {calls : List (ChainCall Service)}

namespace ChainCall

def lastSet (chance : Chance) (calls : List (ChainCall Service)) (slot : Slot) :
    Option (PolicyFactory Service) :=
  (calls.filter (·.slot? = some slot)).getLast?.map (·.factory chance)

def added (chance : Chance) (calls : List (ChainCall Service)) : List (PolicyFactory Service) :=
  (calls.filter (·.slot? = none)).map (·.factory chance)

end ChainCall

open ChainCall RetryPolicy

namespace ChainBuilder

theorem held_ofCalls (slot : Slot) :
    (ofCalls chance calls).held slot = lastSet chance calls slot := by
  induction calls using List.reverseRecOn with
  | nil => rfl
  | append_singleton calls call ih =>
      simp only [ofCalls, List.foldl_append, List.foldl_cons, List.foldl_nil] at ih ⊢
      cases place : call.slot? with
      | none => simp [perform, place, ih, lastSet, List.filter_append]
      | some other =>
          by_cases same : slot = other
          · simp [perform, place, same, lastSet, List.filter_append]
          · simp [perform, place, same, Ne.symm same, ih, lastSet, List.filter_append]

theorem custom_ofCalls : (ofCalls chance calls).custom = added chance calls := by
  induction calls using List.reverseRecOn with
  | nil => rfl
  | append_singleton calls call ih =>
      simp only [ofCalls, List.foldl_append, List.foldl_cons, List.foldl_nil] at ih ⊢
      cases place : call.slot? with
      | none => simp [perform, place, ih, added, List.filter_append]
      | some other => simp [perform, place, ih, added, List.filter_append]

theorem factories_ofCalls : (ofCalls chance calls).factories =
    Slot.all.filterMap (lastSet chance calls) ++ added chance calls := by
  have held : (ofCalls chance calls).held = lastSet chance calls := funext held_ofCalls
  rw [factories, held, custom_ofCalls]

end ChainBuilder

/-- What a place of a chain may hold. -/
def Slot.Holds (chance : Chance) (factory : PolicyFactory Service) : Slot → Prop
  | .userAgent => ∃ value, factory = .userAgent value
  | .requestId => factory = .requestId chance.entropy
  | .retry => ∃ given, factory = .retry chance.jitter given
  | .requestLog => ∃ options, factory = .requestLog options

theorem holds_of_lastSet {slot : Slot} {factory : PolicyFactory Service}
    (set : lastSet chance calls slot = some factory) : slot.Holds chance factory := by
  obtain ⟨call, last, rfl⟩ := Option.map_eq_some_iff.mp set
  have own : call.slot? = some slot :=
    of_decide_eq_true (List.mem_filter.mp (List.mem_of_getLast? last)).2
  cases call with
  | userAgent value =>
      obtain rfl := Option.some.inj own
      exact ⟨value, rfl⟩
  | requestId =>
      obtain rfl := Option.some.inj own
      exact rfl
  | retry given =>
      obtain rfl := Option.some.inj own
      exact ⟨given, rfl⟩
  | requestLog options =>
      obtain rfl := Option.some.inj own
      exact ⟨options, rfl⟩
  | policy factory => contradiction

section

variable {returned : List Sighting → Except TransferError Response → Prop}
  {stopped : List Sighting → Prop} {next transport : Policy Service}
  {answers : Except TransferError Response → Prop} {names : List String}

theorem always_userAgent (always : next.Always returned stopped) (value : HeaderValue)
    (start : Progress Service) :
    (PolicyFactory.userAgent value next start).1.Always returned stopped :=
  fun scope _ progress => always scope _ progress

theorem always_requestId (always : next.Always returned stopped) (entropy : Nat → Nat → UInt8)
    (start : Progress Service) :
    (PolicyFactory.requestId entropy next start).1.Always returned stopped := by
  intro scope request progress
  by_cases nameless : (request.headers.get? .clientRequestId).isNone = true
  · simp only [PolicyFactory.requestId, nameless, if_true]
    exact always scope _ _
  · simp only [PolicyFactory.requestId, nameless, Bool.false_eq_true, if_false]
    exact always scope _ _

theorem always_retry (leads : next.Leads answers names) (jitter : Nat → Rat)
    (given : RetryFactory Service) (start : Progress Service) :
    (PolicyFactory.retry jitter given next start).1.Always
      (fun sightings result => Journeys answers names (some result) 1 sightings)
      (fun sightings => Journeys answers names none 1 sightings) :=
  fun scope request progress => ends_attempts _ _ scope request leads _ _ progress

theorem always_optional {held : Option (PolicyFactory Service)}
    {factories : List (PolicyFactory Service)} {start : Progress Service}
    (always : (assemble factories transport start).1.Always returned stopped)
    (keeps : ∀ factory, held = some factory → ∀ {next : Policy Service} {start},
      next.Always returned stopped → (factory next start).1.Always returned stopped) :
    (assemble (held.toList ++ factories) transport start).1.Always returned stopped := by
  cases held with
  | none => exact always
  | some factory =>
      rw [Option.toList_some, List.singleton_append, assemble_cons]
      exact keeps factory rfl always

end

namespace ChainBuilder

theorem always_front {returned : List Sighting → Except TransferError Response → Prop}
    {stopped : List Sighting → Prop} {transport : Policy Service} {start : Progress Service}
    {factories : List (PolicyFactory Service)}
    (always : (assemble factories transport start).1.Always returned stopped) :
    (assemble ((lastSet chance calls .userAgent).toList ++
      ((lastSet chance calls .requestId).toList ++ factories)) transport start).1.Always returned
        stopped := by
  apply always_optional
  · apply always_optional always
    intro factory set next start always
    have held := holds_of_lastSet set
    obtain rfl := held
    exact always_requestId always _ _
  · intro factory set next start always
    obtain ⟨value, rfl⟩ := holds_of_lastSet set
    exact always_userAgent always value _

theorem leads_back {transport : Policy Service} {start : Progress Service}
    {answers : Except TransferError Response → Prop} (links : List (Link Service))
    (leads : transport.Leads answers []) :
    (assemble ((lastSet chance calls .requestLog).toList ++ links.map (·.factory)) transport
      start).1.Leads answers (links.map (·.name)) := by
  apply always_optional (leads_assemble links leads start)
  intro factory set next start leads
  obtain ⟨options, rfl⟩ := holds_of_lastSet set
  exact leads_requestLog options leads

/-- The calls decide the chain: whatever was last set, each in its own place, then what was added,
in the order in which it was, and last the transport. If the policies that were added hand no
request on twice, all that hand one on see the outcome in the reverse order, once for each try. -/
theorem last_calls_make_the_chain (chance : Chance) (calls : List (ChainCall Service)) :
    ((ofCalls chance calls).factories =
      [Slot.userAgent, .requestId, .retry, .requestLog].filterMap (lastSet chance calls) ++
        added chance calls) ∧
    (∀ (transport : Policy Service) start caller request,
      sendThrough (ofCalls chance calls).factories transport start caller request =
        let made := (ofCalls chance calls).factories.foldr
          (fun factory behind => factory behind.1 behind.2) (transport, start)
        made.1 caller request made.2) ∧
    (∀ others : List (ChainCall Service),
      (∀ slot, lastSet chance others slot = lastSet chance calls slot) →
      added chance others = added chance calls →
      ∀ (transport : Policy Service) start caller request,
        sendThrough (ofCalls chance others).factories transport start caller request =
          sendThrough (ofCalls chance calls).factories transport start caller request) ∧
    (∀ (links : List (Link Service))
      (transport : Scope → Request → Progress Service →
        Activity Service Empty (Except TransferError Response)),
      added chance calls = links.map (·.factory) → ∀ start caller request,
        let names := links.map (·.name)
        let answers := Activity.Answers transport
        let sent := sendThrough (ofCalls chance calls).factories
          (fun scope request start => (transport scope request start).unmarked) start caller request
        (lastSet chance calls .retry = none →
          sent.Ends (Journey answers names) (Journey.Begun names)) ∧
        (lastSet chance calls .retry ≠ none →
          sent.Ends (fun sightings result => Journeys answers names (some result) 1 sightings)
            (fun sightings => Journeys answers names none 1 sightings))) ∧
    (∀ answers names sightings outcome, Journey answers names sightings outcome →
      sightings.filterMap (·.viewer?) = (sightings.filterMap (·.sender?)).reverse ∧
        (sightings.all (!·.isKept) = true → sightings.filterMap (·.sender?) = names)) ∧
    ∀ given : List BuilderCall, given.mapM BuilderCall.chainCall = .ok calls →
      ∃ parts, PipelineBuilder.ofCalls given = .ok parts ∧
        ∀ (transport : Transport Service) start caller request,
          Pipeline.send ⟨parts, transport, chance⟩ start caller request =
            (sendThrough (ofCalls chance calls).factories (transport.policy caller)
              { start with log := {} } caller request).run := by
  refine ⟨factories_ofCalls, ?_, ?_, ?_, ?_, ?_⟩
  · intro transport start caller request
    simp only [sendThrough, assemble, List.foldl_reverse]
  · intro others same alike transport start caller request
    rw [factories_ofCalls, factories_ofCalls, funext same, alike]
  · intro links transport watched start caller request
    have leads := leads_transport transport
    have factories : (ofCalls chance calls).factories =
        (lastSet chance calls .userAgent).toList ++ ((lastSet chance calls .requestId).toList ++
          ((lastSet chance calls .retry).toList ++ ((lastSet chance calls .requestLog).toList ++
            links.map (·.factory)))) := by
      rw [factories_eq, custom_ofCalls, watched]
      simp only [held_ofCalls]
    have back := @leads_back _ chance calls _ start _ links leads
    constructor
    · intro unset
      simp only [sendThrough, factories]
      apply always_front
      rw [unset]
      exact back
    · intro set
      obtain ⟨factory, held⟩ := Option.ne_none_iff_exists'.mp set
      obtain ⟨given, rfl⟩ := holds_of_lastSet held
      simp only [sendThrough, factories]
      apply always_front
      rw [held, Option.toList_some, List.singleton_append, assemble_cons]
      exact always_retry back _ given _
  · intro answers names sightings outcome journey
    exact ⟨journey.viewers, journey.senders⟩
  · intro given translated
    obtain ⟨parts, made, chain⟩ := PipelineBuilder.chain_ofCalls chance translated
    refine ⟨parts, made, ?_⟩
    intro transport start caller request
    rw [Pipeline.send_eq_run, chain]

def onlooker (name : String) : Link Service where
  name
  make := fun progress => (fun scope request progress =>
    .done (.pass scope request (fun outcome progress => .done outcome progress) id) progress,
    progress)

theorem both_tries_are_seen_by_both :
    ∃ (chance : Chance) (once often : RetryFactory Nat) (transport : Scope → Request →
        Progress Nat → Activity Nat Empty (Except TransferError Response)),
      let links : List (Link Nat) := [onlooker "first", onlooker "second"]
      let calls : List (ChainCall Nat) := [.policy (onlooker "first").factory, .retry once,
        .policy (onlooker "second").factory, .retry often]
      let others : List (ChainCall Nat) := [.retry often, .policy (onlooker "first").factory,
        .policy (onlooker "second").factory]
      let send (made : List (ChainCall Nat)) :=
        sendThrough (ofCalls chance made).factories
          (fun scope request start => (transport scope request start).unmarked) freshStart
          soleScope mainPage
      once.options.maxTries = 1 ∧ send others = send calls ∧
      (send calls).Ends
        (fun sightings result =>
          Journeys (Activity.Answers transport) (links.map (·.name)) (some result) 1 sightings)
        (fun sightings =>
          Journeys (Activity.Answers transport) (links.map (·.name)) none 1 sightings) ∧
      (send calls).marks.filterMap (·.viewer?) = ["second", "first", "second", "first"] := by
  let given : RetryOptions := {
    policy := .fixed, maxTries := 4, tryTimeout := .ofSeconds 30, retryDelay := .ofSeconds 1
    maxRetryDelay := .ofSeconds 1 }
  let chance : Chance := ⟨fun _ => 1, fun _ _ => 0⟩
  let transport (_ : Scope) (_ : Request) (progress : Progress Nat) :
      Activity Nat Empty (Except TransferError Response) :=
    .done (brokenThenMissing progress.service).outcome
      { progress with service := progress.service + 1 }
  refine ⟨chance, { options := { given with maxTries := 1 } }, { options := given }, transport,
    rfl, ?_, ?_, ?_⟩
  · obtain ⟨_, _, alike, _⟩ := @last_calls_make_the_chain Nat chance
      [.policy (onlooker "first").factory, .retry { options := { given with maxTries := 1 } },
        .policy (onlooker "second").factory, .retry { options := given }]
    apply alike
    · intro slot
      cases slot <;> rfl
    · rfl
  · obtain ⟨_, _, _, watched, _⟩ := @last_calls_make_the_chain Nat chance
      [.policy (onlooker "first").factory, .retry { options := { given with maxTries := 1 } },
        .policy (onlooker "second").factory, .retry { options := given }]
    exact (watched [onlooker "first", onlooker "second"] transport rfl freshStart soleScope
      mainPage).2 (Option.some_ne_none _)
  · decide +kernel

end ChainBuilder

end BlobTransfer
