import BlobTransfer.Proofs.Retry.Attempt
import BlobTransfer.Proofs.Scope.Waiting

/-!
What may become of a try within its scope, whatever the transport does: it is not begun, it is
given up, or its reply is there in time.
-/

namespace BlobTransfer

variable {Service : Type}

theorem TransportReply.mem_ended {reply : TransportReply} {caller scope ended : Scope} :
    ended ∈ reply.ended caller scope ↔
      reply.cancelsTry = true ∧ ended = scope ∨ reply.cancelsCaller = true ∧ ended = caller := by
  unfold TransportReply.ended
  cases reply.cancelsTry <;> cases reply.cancelsCaller <;> simp

namespace LastMile

variable (lastMile : LastMile Service) (caller scope : Scope) (request : Request)

structure Sends (started answered : Progress Service) : Prop where
  calls : answered.calls =
    started.calls ++ [⟨Layer.outbound lastMile.layers request, scope⟩]
  service : answered.service = (lastMile.answer started.service request).2
  events : answered.events = started.events
  draws : answered.draws = started.draws

/-- How a try goes: not at all in a scope that is over, else until the reply is there or the
scope ends. -/
inductive Tries (started : Progress Service) :
    Except TransferError Response → Progress Service → Prop
  | unbegun {reason : ScopeEnd} (spent : started.timeline.end? scope = some reason) :
      Tries started (.error reason.error) started
  | abandoned {reason : ScopeEnd} {answered : Progress Service}
      (going : started.timeline.end? scope = none)
      (sends : lastMile.Sends scope request started answered)
      (waits : started.timeline.Waits scope
        ((lastMile.answer started.service request).1.delay.map (started.timeline.now + ·))
        (.ended reason) answered.timeline) :
      Tries started (.error reason.error) answered
  | answered {later : Timeline} {answered : Progress Service}
      (going : started.timeline.end? scope = none)
      (sends : lastMile.Sends scope request started answered)
      (waits : started.timeline.Waits scope
        ((lastMile.answer started.service request).1.delay.map (started.timeline.now + ·))
        .finished later)
      (left : answered.timeline =
        later.cancelAll ((lastMile.answer started.service request).1.ended caller scope)) :
      Tries started ((lastMile.answer started.service request).1.outcome.map
        (Layer.inbound lastMile.layers)) answered

structure Answers (started : Progress Service) (outcome : Except TransferError Response)
    (answered : Progress Service) : Prop where
  going : started.timeline.end? scope = none
  outcome : outcome = (lastMile.answer started.service request).1.outcome.map
    (Layer.inbound lastMile.layers)
  ready : (lastMile.answer started.service request).1.delay =
    some (answered.timeline.now - started.timeline.now)

variable {lastMile caller scope request}

theorem tries_of_sendWithin {started answered : Progress Service}
    {outcome : Except TransferError Response}
    (sent : lastMile.sendWithin started caller scope request = .ok (outcome, answered)) :
    lastMile.Tries caller scope request started outcome answered := by
  obtain ⟨log, entries, begins⟩ := lastMile.start_eq started scope request
  cases going : started.timeline.end? scope with
  | some reason =>
      simp only [sendWithin, going, Except.ok.injEq, Prod.mk.injEq] at sent
      obtain ⟨rfl, rfl⟩ := sent
      exact .unbegun going
  | none =>
      simp only [sendWithin, going, begins] at sent
      cases ran : started.timeline.run scope
          ((lastMile.answer started.service request).1.delay.map (started.timeline.now + ·)) with
      | none => simp [ran] at sent
      | some ending =>
          rcases ending with ⟨waited, later⟩
          have waits := Timeline.waits_of_run ran
          simp only [ran] at sent
          cases waited with
          | ended reason =>
              obtain ⟨rfl, rfl⟩ := Prod.mk.inj (Except.ok.inj sent)
              exact .abandoned going ⟨rfl, rfl, Progress.events_of_requests rfl, rfl⟩ waits
          | finished =>
              obtain ⟨others, finished⟩ := lastMile.finish_ends
                { started with
                  timeline := later, log
                  service := (lastMile.answer started.service request).2
                  records := started.records ++ entries.map LogRecord.request
                  calls := started.calls ++ [⟨Layer.outbound lastMile.layers request, scope⟩] }
                caller scope
                { request, startedAt := started.timeline.now
                  reply := (lastMile.answer started.service request).1 }
              rw [List.append_assoc, ← List.map_append] at finished
              simp only [finished, Except.ok.injEq, Prod.mk.injEq] at sent
              obtain ⟨rfl, rfl⟩ := sent
              exact .answered going ⟨rfl, rfl, Progress.events_of_requests rfl, rfl⟩ waits rfl

theorem sendWithin_returns {started : Progress Service} (limited : scope.deadline ≠ none) :
    ∃ outcome answered,
      lastMile.sendWithin started caller scope request = .ok (outcome, answered) := by
  obtain ⟨log, entries, begins⟩ := lastMile.start_eq started scope request
  cases sent : lastMile.sendWithin started caller scope request with
  | ok result => exact ⟨_, _, rfl⟩
  | error halt =>
      exfalso
      cases going : started.timeline.end? scope with
      | some reason => simp [sendWithin, going] at sent
      | none =>
          simp only [sendWithin, going, begins] at sent
          split at sent
          · rename_i endless
            exact Timeline.run_ne_none (.inr limited) endless
          all_goals contradiction

theorem answers_of_waits {started answered : Progress Service} {later : Timeline}
    (going : started.timeline.end? scope = none)
    (waits : started.timeline.Waits scope
      ((lastMile.answer started.service request).1.delay.map (started.timeline.now + ·))
      .finished later)
    (left : answered.timeline =
      later.cancelAll ((lastMile.answer started.service request).1.ended caller scope)) :
    lastMile.Answers scope request started ((lastMile.answer started.service request).1.outcome.map
      (Layer.inbound lastMile.layers)) answered := by
  refine ⟨going, rfl, ?_⟩
  have clock : answered.timeline.now = later.now := by
    rw [left]
    rfl
  rw [clock]
  cases waits with
  | finished _ due _ =>
      obtain ⟨delay, asked, rfl⟩ := Option.map_eq_some_iff.mp due
      have later : (started.timeline.advanceTo (started.timeline.now + delay)).now =
          started.timeline.now + delay := Nat.max_eq_right (Nat.le_add_right _ _)
      rw [asked, later, Nat.add_sub_cancel_left]

namespace Tries

variable {started answered : Progress Service} {outcome : Except TransferError Response}

theorem precedes (tries : lastMile.Tries caller scope request started outcome answered) :
    started.timeline.Precedes answered.timeline := by
  cases tries with
  | unbegun => exact .refl _
  | abandoned _ _ waits => exact waits.passes.toPrecedes
  | answered _ _ waits left =>
      rw [left]
      exact waits.passes.toPrecedes.trans (Timeline.precedes_cancelAll _ _)

theorem answers_or_over
    (tries : lastMile.Tries caller scope request started outcome answered) :
    lastMile.Answers scope request started outcome answered ∨
      ∃ reason : ScopeEnd, outcome = .error reason.error ∧
        answered.timeline.end? scope = some reason := by
  cases tries with
  | unbegun spent => exact .inr ⟨_, rfl, spent⟩
  | abandoned _ _ waits => exact .inr ⟨_, rfl, waits.end?_eq⟩
  | answered going _ waits left => exact .inl (answers_of_waits going waits left)

theorem calls (tries : lastMile.Tries caller scope request started outcome answered) :
    answered.calls = started.calls ++ if started.timeline.isOver scope then []
      else [⟨Layer.outbound lastMile.layers request, scope⟩] := by
  cases tries with
  | unbegun spent => simp [Timeline.isOver, spent]
  | abandoned going sends => simp [Timeline.isOver, going, sends.calls]
  | answered going sends => simp [Timeline.isOver, going, sends.calls]

theorem doomed {mark : Nat}
    (tries : lastMile.Tries caller scope request started outcome answered)
    (doomed : answered.timeline.Doomed mark) :
    started.timeline.Doomed mark ∨ lastMile.Answers scope request started outcome answered ∧
      ((lastMile.answer started.service request).1.cancelsTry = true ∧
          scope.lineage.head? = some mark ∨
        (lastMile.answer started.service request).1.cancelsCaller = true ∧
          caller.lineage.head? = some mark) := by
  cases tries with
  | unbegun => exact .inl doomed
  | abandoned _ _ waits => exact .inl (waits.passes.doomed doomed)
  | answered going _ waits left =>
      have answers := answers_of_waits going waits left
      rw [left] at doomed
      rcases Timeline.doomed_cancelAll doomed with ⟨ended, member, own⟩ | before
      · rcases TransportReply.mem_ended.mp member with ⟨asked, rfl⟩ | ⟨asked, rfl⟩
        · exact .inr ⟨answers, .inl ⟨asked, own⟩⟩
        · exact .inr ⟨answers, .inr ⟨asked, own⟩⟩
      · exact .inl (waits.passes.doomed before)

theorem now_le {time : Nat}
    (tries : lastMile.Tries caller scope request started outcome answered)
    (endsBy : started.timeline.EndsBy scope time) (begun : started.timeline.now ≤ time) :
    answered.timeline.now ≤ time := by
  cases tries with
  | unbegun => exact begun
  | abandoned _ _ waits => exact waits.now_le endsBy begun
  | answered _ _ waits left =>
      rw [left]
      exact waits.now_le endsBy begun

theorem sound (tries : lastMile.Tries caller scope request started outcome answered)
    (sound : started.timeline.Sound) (knows : started.timeline.Knows caller)
    (own : started.timeline.Knows scope) : answered.timeline.Sound := by
  cases tries with
  | unbegun => exact sound
  | abandoned _ _ waits => exact sound.passes waits.passes
  | answered _ _ waits left =>
      have later := waits.passes.toPrecedes
      rw [left]
      apply (sound.passes waits.passes).cancelAll
      intro ended member mark head
      rcases TransportReply.mem_ended.mp member with ⟨_, rfl⟩ | ⟨_, rfl⟩
      · exact own.stays later mark (List.mem_of_mem_head? head)
      · exact knows.stays later mark (List.mem_of_mem_head? head)

end Tries

end LastMile

end BlobTransfer
