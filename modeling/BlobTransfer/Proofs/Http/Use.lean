import BlobTransfer.Http.Use
import BlobTransfer.Proofs.Scope.Later

/-!
Using up a response. Its items come in order, whatever stops between them, and the scopes that it
retains are cancelled when nothing of it is held any more, and not before.
-/

namespace BlobTransfer

def BodyEvent.item? : BodyEvent → Option BodyItem
  | .data bytes => some (.ok bytes)
  | .failure error => some (.error error)
  | .delay _ | .silence => none

structure Joined (items : List BodyItem) (result : BodyItem) : Prop where
  whole : ∀ pieces : List Bytes, items = pieces.map .ok → result = .ok pieces.flatten
  broken : ∀ (pieces : List Bytes) error later, items = pieces.map .ok ++ .error error :: later →
    result = .error error

namespace Body

variable {events : List BodyEvent} {now time : Nat} {wakeAt : Option Nat}

def items (body : Body) : List BodyItem := body.events.filterMap BodyEvent.item?

def Speaks (body : Body) : Prop := .silence ∉ body.events

theorem items_of_nextEvent {item : Option BodyItem} {rest : Body}
    (answered : nextEvent ResponseBody.passesOver now wakeAt events = some (item, rest, time)) :
    events.filterMap BodyEvent.item? = item.toList ++ rest.items ∧
      (item = none → rest.items = []) ∧ (.silence ∉ events → rest.Speaks) := by
  induction events generalizing now wakeAt with
  | nil =>
      obtain ⟨rfl, rfl, _⟩ : none = item ∧ ({} : Body) = rest ∧ now = time := by
        simpa [nextEvent] using answered
      exact ⟨rfl, fun _ => rfl, fun _ => by simp [Speaks]⟩
  | cons event later ih =>
      cases event with
      | data bytes =>
          obtain ⟨rfl, rfl, _⟩ : some (.ok bytes) = item ∧ { events := later } = rest ∧
              now = time := by
            simpa [nextEvent, ResponseBody.passesOver] using answered
          exact ⟨rfl, by simp, fun speaks => (List.not_mem_of_not_mem_cons speaks)⟩
      | failure error =>
          obtain ⟨rfl, rfl, _⟩ : some (.error error) = item ∧ { events := later } = rest ∧
              now = time := by
            simpa [nextEvent] using answered
          exact ⟨rfl, by simp, fun speaks => (List.not_mem_of_not_mem_cons speaks)⟩
      | silence => simp [nextEvent] at answered
      | delay millis =>
          obtain ⟨split, ended, speaks⟩ := ih answered
          exact ⟨split, ended, fun outer => speaks (List.not_mem_of_not_mem_cons outer)⟩

theorem nextEvent_of_speaks (speaks : .silence ∉ events) (skipped : Bytes → Bool) (now : Nat)
    (wakeAt : Option Nat) : ∃ answer, nextEvent skipped now wakeAt events = some answer := by
  induction events generalizing now wakeAt with
  | nil => exact ⟨_, rfl⟩
  | cons event later ih =>
      have onward := List.not_mem_of_not_mem_cons speaks
      cases event with
      | data bytes =>
          unfold nextEvent
          split
          · exact ih onward _ _
          · exact ⟨_, rfl⟩
      | failure error => exact ⟨_, rfl⟩
      | silence => simp at speaks
      | delay millis => exact ih onward _ _

theorem items_waitEvents {limit : Nat} :
    (waitEvents ResponseBody.passesOver now limit wakeAt events).items =
        events.filterMap BodyEvent.item? ∧
      (.silence ∉ events →
        (waitEvents ResponseBody.passesOver now limit wakeAt events).Speaks) := by
  induction events generalizing now wakeAt with
  | nil => exact ⟨rfl, id⟩
  | cons event later ih =>
      cases event with
      | data bytes => exact ⟨rfl, id⟩
      | failure error => exact ⟨rfl, id⟩
      | silence => exact ⟨rfl, id⟩
      | delay millis =>
          simp only [waitEvents]
          split
          · exact ⟨ih.1, fun speaks => ih.2 (List.not_mem_of_not_mem_cons speaks)⟩
          · exact ⟨rfl, id⟩

theorem items_of_drainEvents {items : List BodyItem}
    (drained : drainEvents now wakeAt events = some (items, time)) :
    items = events.filterMap BodyEvent.item? := by
  induction events generalizing now wakeAt items with
  | nil =>
      obtain ⟨rfl, _⟩ : [] = items ∧ now = time := by simpa [drainEvents] using drained
      rfl
  | cons event later ih =>
      cases event with
      | data bytes =>
          obtain ⟨⟨others, end'⟩, rest, same⟩ := Option.map_eq_some_iff.mp drained
          obtain ⟨rfl, rfl⟩ := Prod.mk.inj same
          exact congrArg _ (ih rest)
      | failure error =>
          obtain ⟨⟨others, end'⟩, rest, same⟩ := Option.map_eq_some_iff.mp drained
          obtain ⟨rfl, rfl⟩ := Prod.mk.inj same
          exact congrArg _ (ih rest)
      | silence => simp [drainEvents] at drained
      | delay millis => exact ih drained

theorem drainEvents_of_speaks (speaks : .silence ∉ events) (now : Nat) (wakeAt : Option Nat) :
    ∃ answer, drainEvents now wakeAt events = some answer := by
  induction events generalizing now wakeAt with
  | nil => exact ⟨_, rfl⟩
  | cons event later ih =>
      have onward := List.not_mem_of_not_mem_cons speaks
      cases event with
      | data bytes =>
          obtain ⟨answer, drained⟩ := ih onward now none
          exact ⟨_, congrArg _ drained⟩
      | failure error =>
          obtain ⟨answer, drained⟩ := ih onward now none
          exact ⟨_, congrArg _ drained⟩
      | silence => simp at speaks
      | delay millis => exact ih onward _ _

theorem joined_of_collectEvents {collected : Bytes} {result : BodyItem}
    (read : collectEvents now wakeAt collected events = some (result, time)) :
    (∀ pieces : List Bytes, events.filterMap BodyEvent.item? = pieces.map .ok →
      result = .ok (collected ++ pieces.flatten)) ∧
    ∀ (pieces : List Bytes) error later,
      events.filterMap BodyEvent.item? = pieces.map .ok ++ .error error :: later →
      result = .error error := by
  induction events generalizing now wakeAt collected with
  | nil =>
      obtain ⟨rfl, _⟩ : .ok collected = result ∧ now = time := by simpa [collectEvents] using read
      refine ⟨fun pieces all => ?_, fun pieces error later contrary => by simp at contrary⟩
      obtain rfl : pieces = [] := by simpa using all
      simp
  | cons event rest ih =>
      cases event with
      | data bytes =>
          obtain ⟨whole, broken⟩ := ih read
          constructor
          · intro pieces all
            cases pieces with
            | nil => simp [BodyEvent.item?] at all
            | cons first others =>
                obtain ⟨rfl, onward⟩ : bytes = first ∧
                    rest.filterMap BodyEvent.item? = others.map .ok := by
                  simpa [BodyEvent.item?] using all
                rw [whole others onward, List.flatten_cons, List.append_assoc]
          · intro pieces error later split
            cases pieces with
            | nil => simp [BodyEvent.item?] at split
            | cons first others =>
                refine broken others error later ?_
                simp only [BodyEvent.item?, List.filterMap_cons, List.map_cons, List.cons_append,
                  List.cons.injEq] at split
                exact split.2
      | failure failed =>
          obtain ⟨rfl, _⟩ : .error failed = result ∧ now = time := by
            simpa [collectEvents] using read
          constructor
          · intro pieces all
            cases pieces <;> simp [BodyEvent.item?] at all
          · intro pieces error later split
            cases pieces with
            | nil =>
                obtain ⟨rfl, _⟩ : failed = error ∧ _ := by simpa [BodyEvent.item?] using split
                rfl
            | cons first others => simp [BodyEvent.item?] at split
      | silence => simp [collectEvents] at read
      | delay millis => exact ih read

theorem collectEvents_of_speaks (speaks : .silence ∉ events) (now : Nat) (wakeAt : Option Nat)
    (collected : Bytes) : ∃ answer, collectEvents now wakeAt collected events = some answer := by
  induction events generalizing now wakeAt collected with
  | nil => exact ⟨_, rfl⟩
  | cons event later ih =>
      have onward := List.not_mem_of_not_mem_cons speaks
      cases event with
      | data bytes => exact ih onward _ _ _
      | failure error => exact ⟨_, rfl⟩
      | silence => simp at speaks
      | delay millis => exact ih onward _ _ _

end Body

namespace Timeline

variable {timeline middle later : Timeline} {released others : List Scope}

def Elapsed (timeline later : Timeline) (released : List Scope) : Prop :=
  ∃ times : List Nat, let waited := times.foldl advanceTo timeline
    later.now = waited.now ∧ later.planned = waited.planned ∧
    later.scopes.fresh = waited.scopes.fresh ∧
    ∀ mark, mark ∈ later.scopes.canceled ↔ mark ∈ waited.scopes.canceled ∨
      ∃ scope ∈ released, scope.lineage.head? = some mark

theorem Elapsed.refl (timeline : Timeline) : timeline.Elapsed timeline [] :=
  ⟨[], rfl, rfl, rfl, by simp⟩

theorem Elapsed.advanceTo (elapsed : timeline.Elapsed middle released) (time : Nat) :
    timeline.Elapsed (middle.advanceTo time) released := by
  obtain ⟨times, now, planned, fresh, canceled⟩ := elapsed
  refine ⟨times ++ [time], ?_, ?_, ?_, ?_⟩
  · simp only [List.foldl_append, List.foldl_cons, List.foldl_nil, Timeline.advanceTo, now]
  · simp only [List.foldl_append, List.foldl_cons, List.foldl_nil, Timeline.advanceTo,
      Timeline.carryOut, planned]
  · rw [List.foldl_append, List.foldl_cons, List.foldl_nil,
      (passes_advanceTo middle time).unmade, (passes_advanceTo _ time).unmade]
    exact fresh
  · intro mark
    rw [List.foldl_append, List.foldl_cons, List.foldl_nil, mem_canceled_advanceTo,
      mem_canceled_advanceTo, canceled, planned]
    exact or_right_comm

theorem Elapsed.cancelAll (elapsed : timeline.Elapsed middle []) (released : List Scope) :
    timeline.Elapsed (middle.cancelAll released) released := by
  obtain ⟨times, now, planned, fresh, canceled⟩ := elapsed
  refine ⟨times, now, planned, (fresh_cancelAll _ _).trans fresh, fun mark => ?_⟩
  have own := @mem_canceled_cancelAll middle.scopes released mark
  simp only [canceled, List.not_mem_nil, false_and, exists_false, or_false] at own
  exact own

theorem Elapsed.trans (first : timeline.Elapsed middle released)
    (second : middle.Elapsed later others) : timeline.Elapsed later (released ++ others) := by
  obtain ⟨times, now, planned, fresh, canceled⟩ := second
  have waited : timeline.Elapsed (times.foldl Timeline.advanceTo middle) released := by
    clear now planned fresh canceled
    induction times generalizing middle with
    | nil => exact first
    | cons time times ih => exact ih (first.advanceTo time)
  obtain ⟨times', now', planned', fresh', canceled'⟩ := waited
  refine ⟨times', now.trans now', planned.trans planned', fresh.trans fresh', fun mark => ?_⟩
  rw [canceled, canceled', or_assoc]
  simp only [List.mem_append, or_and_right, exists_or]

end Timeline

namespace ResponseAnswer

def items : ResponseAnswer → List BodyItem
  | .item next => [next]
  | .ended items => items
  | _ => []

def given (answers : List ResponseAnswer) : List BodyItem := answers.flatMap items

def isLast : ResponseAnswer → Bool
  | .refused _ | .ended _ | .collected _ | .dropped => true
  | .done | .item _ | .late => false

end ResponseAnswer

namespace ResponsePart

def items : ResponsePart → List BodyItem
  | .whole response => response.body.items
  | .stream body => body.body.items
  | .nothing => []

def retained : ResponsePart → List Scope
  | .whole response => response.retained
  | .stream body => body.retained
  | .nothing => []

def Speaks : ResponsePart → Prop
  | .whole response => response.body.Speaks
  | .stream body => body.body.Speaks
  | .nothing => True

/-- What a last answer tells of what was held, with the items that were given out up to it. -/
def EndsWith (part : ResponsePart) (given : List BodyItem) : ResponseAnswer → Prop
  | .refused error => ∃ response, part = .whole response ∧ response.status.isError = true ∧
      error = .status response.status response.requestId?
  | .ended _ => given = part.items
  | .collected result => ∃ response joined, part = .whole response ∧
      Joined response.body.items joined ∧ result = joined.mapError .io
  | _ => True

/-- What is held goes on after an answer. -/
structure GoesOn (part : ResponsePart) (answer : ResponseAnswer) (part' : ResponsePart) :
    Prop where
  held : part' = .nothing ↔ part = .nothing
  whole : ∀ response, part' = .whole response → part = .whole response
  retained : part'.retained = part.retained
  items : part.items = answer.items ++ part'.items
  more : answer.isLast = false
  speaks : part.Speaks → part'.Speaks

variable {part part' : ResponsePart} {timeline later : Timeline} {answer : ResponseAnswer}

theorem goesOn_refl (quiet : answer.items = []) (more : answer.isLast = false) :
    part.GoesOn answer part :=
  ⟨Iff.rfl, fun _ => id, rfl, by simp [quiet], more, id⟩

theorem next_cases {body : ResponseBody} {limit : Option Nat}
    (served : body.next limit timeline = some (answer, part', later)) :
    (part' ≠ .nothing ∧ (stream body).GoesOn answer part' ∧ timeline.Elapsed later []) ∨
    (part' = .nothing ∧ answer = .ended [] ∧ body.body.items = [] ∧
      timeline.Elapsed later body.retained) := by
  have elapsed := fun time => (Timeline.Elapsed.refl timeline).advanceTo time
  have late : ∀ limit, some (body.giveUp limit timeline) = some (answer, part', later) →
      part' ≠ .nothing ∧ (stream body).GoesOn answer part' ∧ timeline.Elapsed later [] := by
    intro limit gaveUp
    obtain ⟨rfl, rfl, rfl⟩ : _ = answer ∧ _ = part' ∧ _ = later := by
      simpa [ResponseBody.giveUp] using gaveUp
    have kept := @Body.items_waitEvents body.body.events timeline.now body.body.wakeAt limit
    exact ⟨by simp, ⟨by simp, by simp, rfl, kept.1.symm, rfl, kept.2⟩, elapsed limit⟩
  have served' : ∀ {item rest time}, body.body.next ResponseBody.passesOver timeline.now =
        some (item, rest, time) →
      some (body.serve item rest (timeline.advanceTo time)) = some (answer, part', later) →
      (part' ≠ .nothing ∧ (stream body).GoesOn answer part' ∧ timeline.Elapsed later []) ∨
      (part' = .nothing ∧ answer = .ended [] ∧ body.body.items = [] ∧
        timeline.Elapsed later body.retained) := by
    intro item rest time come same
    obtain ⟨split, ended, speaks⟩ := Body.items_of_nextEvent come
    cases item with
    | none =>
        obtain ⟨rfl, rfl, rfl⟩ : _ = answer ∧ _ = part' ∧ _ = later := by
          simpa [ResponseBody.serve] using same
        refine .inr ⟨rfl, rfl, ?_, (elapsed time).cancelAll _⟩
        rw [Body.items, split, ended rfl]
        rfl
    | some item =>
        obtain ⟨rfl, rfl, rfl⟩ : _ = answer ∧ _ = part' ∧ _ = later := by
          simpa [ResponseBody.serve] using same
        exact .inl ⟨by simp, ⟨by simp, by simp, rfl, split, rfl, speaks⟩, elapsed time⟩
  unfold ResponseBody.next at served
  split at served
  · rename_i come
    split at served
    · exact .inl (late _ served)
    · exact served' come served
  · rename_i come
    exact served' come served
  · exact .inl (late _ served)
  · simp at served

theorem use_cases {use : ResponseUse} (used : part.use timeline use = some (answer, part', later)) :
    (part.GoesOn answer part' ∧ timeline.Elapsed later []) ∨
    (part ≠ .nothing ∧ part' = .nothing ∧ answer.isLast = true ∧ answer.items <+: part.items ∧
      part.EndsWith answer.items answer ∧ timeline.Elapsed later part.retained) := by
  have still := Timeline.Elapsed.refl timeline
  have idle : some (.done, part, timeline) = some (answer, part', later) →
      part.GoesOn answer part' ∧ timeline.Elapsed later [] := by
    rintro ⟨⟩
    exact ⟨goesOn_refl rfl rfl, still⟩
  cases use with
  | check =>
      cases part with
      | whole response =>
          cases failed : response.status.isError with
          | false =>
              refine .inl (idle ?_)
              simpa [ResponsePart.use, Response.checked, failed] using used
          | true =>
              obtain ⟨rfl, rfl, rfl⟩ : _ = answer ∧ _ = part' ∧ _ = later := by
                simpa [ResponsePart.use, Response.checked, failed] using used
              exact .inr ⟨by simp, rfl, rfl, List.nil_prefix, ⟨response, rfl, failed, rfl⟩,
                still.cancelAll _⟩
      | stream body => exact .inl (idle used)
      | nothing => exact .inl (idle used)
  | takeBody =>
      cases part with
      | whole response =>
          obtain ⟨rfl, rfl, rfl⟩ : _ = answer ∧ _ = part' ∧ _ = later := by
            simpa [ResponsePart.use] using used
          exact .inl ⟨⟨by simp, by simp, rfl, rfl, rfl, id⟩, still⟩
      | stream body => exact .inl (idle used)
      | nothing => exact .inl (idle used)
  | next limit =>
      cases part with
      | whole response => exact .inl (idle used)
      | stream body =>
          obtain ⟨_, goesOn, elapsed⟩ | ⟨rfl, rfl, nothing, elapsed⟩ := next_cases used
          · exact .inl ⟨goesOn, elapsed⟩
          · exact .inr ⟨by simp, rfl, rfl, List.nil_prefix, nothing.symm, elapsed⟩
      | nothing => exact .inl (idle used)
  | drain =>
      cases part with
      | whole response => exact .inl (idle used)
      | stream body =>
          obtain ⟨⟨items, later'⟩, drained, same⟩ := Option.map_eq_some_iff.mp used
          obtain ⟨rfl, rfl, rfl⟩ : _ = answer ∧ _ = part' ∧ _ = later := by simpa using same
          obtain ⟨⟨items', time⟩, read, same⟩ := Option.map_eq_some_iff.mp drained
          obtain ⟨rfl, rfl⟩ := Prod.mk.inj same
          have all := Body.items_of_drainEvents read
          exact .inr ⟨by simp, rfl, rfl, all ▸ List.prefix_refl _, all,
            (still.advanceTo time).cancelAll _⟩
      | nothing => exact .inl (idle used)
  | collect =>
      cases part with
      | whole response =>
          obtain ⟨⟨result, later'⟩, collected, same⟩ := Option.map_eq_some_iff.mp used
          obtain ⟨rfl, rfl, rfl⟩ : _ = answer ∧ _ = part' ∧ _ = later := by simpa using same
          obtain ⟨⟨joined, time⟩, read, same⟩ := Option.map_eq_some_iff.mp collected
          obtain ⟨rfl, rfl⟩ := Prod.mk.inj same
          obtain ⟨whole, broken⟩ := Body.joined_of_collectEvents read
          exact .inr ⟨by simp, rfl, rfl, List.nil_prefix,
            ⟨response, joined, rfl, ⟨whole, broken⟩, rfl⟩, (still.advanceTo time).cancelAll _⟩
      | stream body => exact .inl (idle used)
      | nothing => exact .inl (idle used)
  | drop =>
      cases part with
      | whole response =>
          obtain ⟨rfl, rfl, rfl⟩ : _ = answer ∧ _ = part' ∧ _ = later := by
            simpa [ResponsePart.use] using used
          exact .inr ⟨by simp, rfl, rfl, List.nil_prefix, trivial, still.cancelAll _⟩
      | stream body =>
          obtain ⟨rfl, rfl, rfl⟩ : _ = answer ∧ _ = part' ∧ _ = later := by
            simpa [ResponsePart.use] using used
          exact .inr ⟨by simp, rfl, rfl, List.nil_prefix, trivial, still.cancelAll _⟩
      | nothing => exact .inl (idle used)
  | pause time =>
      obtain ⟨rfl, rfl, rfl⟩ : _ = answer ∧ _ = part' ∧ _ = later := by
        simpa [ResponsePart.use] using used
      exact .inl ⟨goesOn_refl rfl rfl, still.advanceTo time⟩

theorem use_of_speaks (speaks : part.Speaks) (timeline : Timeline) (use : ResponseUse) :
    ∃ answered, part.use timeline use = some answered := by
  cases use with
  | next limit =>
      cases part with
      | stream body =>
          obtain ⟨⟨item, rest, time⟩, come⟩ := Body.nextEvent_of_speaks speaks
            ResponseBody.passesOver timeline.now body.body.wakeAt
          have come' : body.body.next ResponseBody.passesOver timeline.now =
            some (item, rest, time) := come
          simp only [ResponsePart.use, ResponseBody.next, come']
          cases limit with
          | none => exact ⟨_, rfl⟩
          | some limit =>
              dsimp only
              split <;> exact ⟨_, rfl⟩
      | _ => exact ⟨_, rfl⟩
  | drain =>
      cases part with
      | stream body =>
          obtain ⟨⟨items, time⟩, drained⟩ := Body.drainEvents_of_speaks speaks timeline.now
            body.body.wakeAt
          have drained' : body.body.drain timeline.now = some (items, time) := drained
          simp [ResponsePart.use, ResponseBody.drain, drained']
      | _ => exact ⟨_, rfl⟩
  | collect =>
      cases part with
      | whole response =>
          obtain ⟨⟨joined, time⟩, read⟩ := Body.collectEvents_of_speaks speaks timeline.now
            response.body.wakeAt []
          have read' : response.body.collect timeline.now = some (joined, time) := read
          simp [ResponsePart.use, ResponseBody.collect, Response.intoBody, read']
      | _ => exact ⟨_, rfl⟩
  | check =>
      cases part with
      | whole response =>
          simp only [ResponsePart.use]
          split <;> exact ⟨_, rfl⟩
      | _ => exact ⟨_, rfl⟩
  | takeBody => cases part <;> exact ⟨_, rfl⟩
  | drop => cases part <;> exact ⟨_, rfl⟩
  | pause time => exact ⟨_, rfl⟩

structure Course (part : ResponsePart) (timeline : Timeline) (answers : List ResponseAnswer)
    (part' : ResponsePart) (later : Timeline) : Prop where
  spent : part' = .nothing ↔ part = .nothing ∨ ∃ answer ∈ answers, answer.isLast = true
  items : ResponseAnswer.given answers <+: part.items
  left : part' ≠ .nothing → part.items = ResponseAnswer.given answers ++ part'.items ∧
    part'.retained = part.retained
  elapsed : timeline.Elapsed later (if part' = .nothing then part.retained else [])
  ends : ∀ answer ∈ answers, answer.isLast = true →
    part ≠ .nothing ∧ part.EndsWith (ResponseAnswer.given answers) answer

theorem course_nil : Course part timeline [] part timeline := by
  refine ⟨by simp, List.nil_prefix, fun _ => ⟨rfl, rfl⟩, ?_, by simp⟩
  split
  · rename_i nothing
    subst nothing
    exact .refl timeline
  · exact .refl timeline

variable {middle : Timeline} {held : ResponsePart} {answers : List ResponseAnswer}

theorem EndsWith.before {given : List BodyItem} {last : ResponseAnswer}
    (goesOn : part.GoesOn answer held) (ends : held.EndsWith given last) :
    part.EndsWith (answer.items ++ given) last := by
  cases last with
  | refused error =>
      obtain ⟨response, whole, failed⟩ := ends
      exact ⟨response, goesOn.whole response whole, failed⟩
  | ended items => exact (congrArg _ ends).trans goesOn.items.symm
  | collected result =>
      obtain ⟨response, joined, whole, read⟩ := ends
      exact ⟨response, joined, goesOn.whole response whole, read⟩
  | _ => trivial

theorem Course.goesOn (goesOn : part.GoesOn answer held) (still : timeline.Elapsed middle [])
    (course : Course held middle answers part' later) :
    Course part timeline (answer :: answers) part' later where
  spent := by
    rw [course.spent, goesOn.held]
    simp [goesOn.more]
  items := by
    rw [goesOn.items]
    exact (List.prefix_append_right_inj _).mpr course.items
  left := by
    intro more
    obtain ⟨items, retained⟩ := course.left more
    refine ⟨?_, retained.trans goesOn.retained⟩
    rw [goesOn.items, items, ← List.append_assoc]
    rfl
  elapsed := by
    rw [← goesOn.retained]
    exact still.trans course.elapsed
  ends := by
    intro last member isLast
    obtain rfl | member := List.mem_cons.mp member
    · simp [goesOn.more] at isLast
    · obtain ⟨present, ends⟩ := course.ends last member isLast
      exact ⟨fun nothing => present (goesOn.held.mpr nothing), ends.before goesOn⟩

theorem Course.ended (present : part ≠ .nothing) (isLast : answer.isLast = true)
    (front : answer.items <+: part.items) (ends : part.EndsWith answer.items answer)
    (released : timeline.Elapsed middle part.retained)
    (course : Course .nothing middle answers part' later) :
    Course part timeline (answer :: answers) part' later := by
  obtain rfl : part' = .nothing := course.spent.mpr (.inl rfl)
  have silent : ResponseAnswer.given answers = [] := List.prefix_nil.mp course.items
  have given : ResponseAnswer.given (answer :: answers) = answer.items := by
    rw [ResponseAnswer.given, List.flatMap_cons]
    exact (congrArg _ silent).trans (List.append_nil _)
  refine ⟨by simp [isLast], given ▸ front, fun contrary => absurd rfl contrary, ?_, ?_⟩
  · simpa [retained] using released.trans course.elapsed
  · intro last member isLast
    rw [given]
    obtain rfl | member := List.mem_cons.mp member
    · exact ⟨present, ends⟩
    · exact absurd rfl (course.ends last member isLast).1

theorem uses_course {uses : List ResponseUse}
    (used : part.uses timeline uses = some (answers, part', later)) :
    Course part timeline answers part' later := by
  induction uses generalizing part timeline answers with
  | nil =>
      obtain ⟨rfl, rfl, rfl⟩ : [] = answers ∧ part = part' ∧ timeline = later := by
        simpa [uses] using used
      exact course_nil
  | cons use rest ih =>
      obtain ⟨⟨answer, held, middle⟩, began, continued⟩ := Option.bind_eq_some_iff.mp used
      obtain ⟨⟨others, part'', later'⟩, onward, same⟩ := Option.bind_eq_some_iff.mp continued
      obtain ⟨rfl, rfl, rfl⟩ : answer :: others = answers ∧ part'' = part' ∧ later' = later := by
        simpa using same
      obtain ⟨goesOn, still⟩ | ⟨present, rfl, isLast, front, ends, released⟩ := use_cases began
      · exact (ih onward).goesOn goesOn still
      · exact (ih onward).ended present isLast front ends released

theorem uses_of_speaks (speaks : part.Speaks) (timeline : Timeline) (uses : List ResponseUse) :
    ∃ answered, part.uses timeline uses = some answered := by
  induction uses generalizing part timeline with
  | nil => exact ⟨_, rfl⟩
  | cons use rest ih =>
      obtain ⟨⟨answer, held, middle⟩, began⟩ := use_of_speaks speaks timeline use
      have speaks' : held.Speaks := by
        obtain ⟨goesOn, _⟩ | ⟨_, rfl, _⟩ := use_cases began
        · exact goesOn.speaks speaks
        · trivial
      obtain ⟨⟨others, part', later⟩, onward⟩ := ih speaks' middle
      exact ⟨(answer :: others, part', later), by simp [ResponsePart.uses, began, onward]⟩

end ResponsePart

/-- However a response is used up, its items are given out in order, failures among them, up to
where the use of it stops. The scopes that it retains are not touched as long as something of it is
held; they are cancelled with the answer after which nothing is held, and that is its end, its drop,
the error made of its status, or the result of collecting it. -/
theorem Response.uses_release_scopes_at_end (response : Response) (timeline : Timeline)
    (uses : List ResponseUse) :
    (response.body.Speaks →
      ∃ answered, (ResponsePart.whole response).uses timeline uses = some answered) ∧
    ∀ answers part later,
      (ResponsePart.whole response).uses timeline uses = some (answers, part, later) →
      ResponseAnswer.given answers <+: response.body.items ∧
      (∀ body, part = .stream body →
        response.body.items = ResponseAnswer.given answers ++ body.body.items) ∧
      (∀ items, .ended items ∈ answers → ResponseAnswer.given answers = response.body.items) ∧
      (part = .nothing ↔ ∃ answer ∈ answers, answer.isLast = true) ∧
      (part ≠ .nothing → timeline.Elapsed later []) ∧
      (part = .nothing → timeline.Elapsed later response.retained ∧
        ∀ scope ∈ response.retained, scope.lineage ≠ [] →
          later.scopes.isCanceled scope = true) ∧
      (∀ error, .refused error ∈ answers → response.status.isError = true ∧
        error = .status response.status response.requestId?) ∧
      ∀ result, .collected result ∈ answers →
        (∀ pieces : List Bytes, response.body.items = pieces.map .ok →
          result = .ok pieces.flatten) ∧
        ∀ (pieces : List Bytes) error rest,
          response.body.items = pieces.map .ok ++ .error error :: rest →
          result = .error (.io error) := by
  have began : (ResponsePart.whole response).Speaks ↔ response.body.Speaks := Iff.rfl
  refine ⟨fun speaks => ResponsePart.uses_of_speaks (began.mpr speaks) timeline uses, ?_⟩
  intro answers part later used
  have course := ResponsePart.uses_course used
  refine ⟨course.items, ?_, ?_, by simpa using course.spent, ?_, ?_, ?_, ?_⟩
  · rintro body rfl
    exact (course.left (by simp)).1
  · exact fun items member => (course.ends _ member rfl).2
  · intro more
    simpa only [more, if_false] using course.elapsed
  · rintro rfl
    have elapsed : timeline.Elapsed later response.retained := course.elapsed
    refine ⟨elapsed, fun scope member marked => ?_⟩
    obtain ⟨mark, others, lineage⟩ := List.exists_cons_of_ne_nil marked
    obtain ⟨_, _, _, _, canceled⟩ := elapsed
    refine isCanceled_iff.mpr ⟨mark, by simp [lineage], ?_⟩
    exact (canceled mark).mpr (.inr ⟨scope, member, by simp [lineage]⟩)
  · intro error member
    obtain ⟨refused, whole, failed, rfl⟩ := (course.ends _ member rfl).2
    obtain rfl : response = refused := by simpa using whole
    exact ⟨failed, rfl⟩
  · intro result member
    obtain ⟨collected, joined, whole, read, rfl⟩ := (course.ends _ member rfl).2
    obtain rfl : response = collected := by simpa using whole
    exact ⟨fun pieces all => congrArg _ (read.whole pieces all),
      fun pieces error rest split => congrArg _ (read.broken pieces error rest split)⟩

theorem Response.partly_read_response_releases_scopes :
    let response : Response :=
      { status := ⟨200⟩, retained := [{ lineage := [1, 0] }, { lineage := [2, 0] }]
        body := ⟨[.data [1], .failure ⟨.connectionReset, .kindOnly⟩, .delay 3, .data [2]], none⟩ }
    let reading : List ResponseUse := [.check, .takeBody, .next none, .next none, .next (some 2)]
    ∃ part later later',
      (ResponsePart.whole response).uses {} reading = some ([.done, .done, .item (.ok [1]),
        .item (.error ⟨.connectionReset, .kindOnly⟩), .late], part, later) ∧
      Timeline.Elapsed {} later [] ∧
      (ResponsePart.whole response).uses {} (reading ++ [.drop]) = some ([.done, .done,
        .item (.ok [1]), .item (.error ⟨.connectionReset, .kindOnly⟩), .late, .dropped],
        .nothing, later') ∧
      ∀ scope ∈ response.retained, later'.scopes.isCanceled scope = true := by
  intro response reading
  obtain ⟨part, later, open', held⟩ : ∃ part later, (ResponsePart.whole response).uses {} reading =
      some ([.done, .done, .item (.ok [1]), .item (.error ⟨.connectionReset, .kindOnly⟩), .late],
        part, later) ∧ part ≠ .nothing := ⟨_, _, rfl, by simp⟩
  obtain ⟨later', closed⟩ : ∃ later', (ResponsePart.whole response).uses {} (reading ++ [.drop]) =
      some ([.done, .done, .item (.ok [1]), .item (.error ⟨.connectionReset, .kindOnly⟩), .late,
        .dropped], .nothing, later') := ⟨_, rfl⟩
  obtain ⟨_, _, _, _, kept, _⟩ :=
    (Response.uses_release_scopes_at_end response {} reading).2 _ _ _ open'
  obtain ⟨_, _, _, _, _, spent, _⟩ :=
    (Response.uses_release_scopes_at_end response {} (reading ++ [.drop])).2 _ _ _ closed
  have marked : ∀ scope ∈ response.retained, scope.lineage ≠ [] := by decide
  exact ⟨part, later, later', open', kept held, closed,
    fun scope member => (spent rfl).2 scope member (marked scope member)⟩

end BlobTransfer
