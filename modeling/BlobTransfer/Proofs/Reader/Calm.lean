import BlobTransfer.Proofs.Body.Abort
import BlobTransfer.Proofs.Scope.Endless
import BlobTransfer.Reader.Use

/-!
Reading in a scope that never ends, with no retry planned. A wait then comes to nothing but what
the body gives, and what a body gives at a time is fetched whole, however much of it is handed out.
-/

namespace BlobTransfer

namespace Timeline

def reach (timeline : Timeline) (through : Bool) (time : Nat) : Timeline :=
  if through then timeline.advanceThrough time else timeline.advanceTo time

def Settled (timeline : Timeline) (through : Bool) : Prop :=
  timeline.reach through timeline.now = timeline

theorem carryOut_carryOut (timeline : Timeline) (due : Nat → Bool) :
    (timeline.carryOut due).carryOut due = timeline.carryOut due := by
  have nothing : (timeline.planned.filter fun entry => !due entry.1).filter
      (fun entry => due entry.1) = [] := by
    rw [List.filter_filter, List.filter_eq_nil_iff]
    simp
  simp only [carryOut, nothing, List.map_nil, Scopes.cancelAll, List.foldl_nil,
    List.filter_filter, Bool.and_self]

theorem settled_reach {timeline : Timeline} {time : Nat} (later : timeline.now ≤ time)
    (through : Bool) : (timeline.reach through time).Settled through := by
  have now : ∀ due, { timeline.carryOut due with now := max timeline.now time } =
      { timeline.carryOut due with now := time } := by
    intro due
    rw [Nat.max_eq_right later]
  have again : ∀ due, ({ timeline.carryOut due with now := time } : Timeline).carryOut due =
      { timeline.carryOut due with now := time } := by
    intro due
    have kept := congrArg (fun later : Timeline => { later with now := time })
      (timeline.carryOut_carryOut due)
    exact kept
  cases through with
  | false =>
      simp only [Settled, reach, advanceTo, Bool.false_eq_true, if_false, now, again,
        Nat.max_self]
  | true => simp only [Settled, reach, advanceThrough, if_true, now, again, Nat.max_self]

theorem Endless.reach {timeline : Timeline} {scope : Scope} (endless : timeline.Endless scope)
    (through : Bool) (time : Nat) : (timeline.reach through time).Endless scope := by
  unfold Timeline.reach
  split
  · exact endless.advanceThrough time
  · exact endless.advanceTo time

end Timeline

namespace LiveBody

def fetch (body : LiveBody) (now : Nat) (abortAt : Option Nat) :
    Option (Except IoError Bytes × AbortableBody × Nat) :=
  if body.buffered.isEmpty then
    (body.source.next List.isEmpty now abortAt).map fun (item, source, time) =>
      (item.getD (.ok []), source, time)
  else some (.ok body.buffered, body.source, now)

def portion (limit : Nat) : Except IoError Bytes × AbortableBody × Nat →
    Except IoError Bytes × LiveBody × Nat
  | (.ok bytes, source, time) => (.ok (bytes.take limit), ⟨source, bytes.drop limit⟩, time)
  | (.error error, source, time) => (.error error, ⟨source, []⟩, time)

theorem read_eq_fetch (body : LiveBody) (limit now : Nat) (abortAt : Option Nat) :
    body.read limit now abortAt = (body.fetch now abortAt).map (portion limit) := by
  unfold read fetch
  split
  · rw [Option.map_map]
    congr 1
    funext ⟨item, source, time⟩
    cases item with
    | none => simp [portion]
    | some result => cases result <;> rfl
  · rfl

theorem le_of_fetch {body : LiveBody} {now time : Nat} {result : Except IoError Bytes}
    {source : AbortableBody} (fetched : body.fetch now none = some (result, source, time)) :
    now ≤ time := by
  unfold fetch at fetched
  split at fetched
  · obtain ⟨⟨item, source', time'⟩, answered, same⟩ := Option.map_eq_some_iff.mp fetched
    simp only [Prod.mk.injEq] at same
    obtain ⟨_, _, rfl⟩ := same
    exact AbortableBody.le_of_next answered
  · simp only [Option.some.injEq, Prod.mk.injEq] at fetched
    omega

end LiveBody

namespace ReadSession

variable {Service : Type} {session next : ReadSession Service} {scope : Scope}

/-- Nothing is going to end the scope, and no retry is going to be forced. -/
structure Calm (scope : Scope) (session : ReadSession Service) : Prop where
  endless : session.timeline.Endless scope
  unplanned : session.forces = []

theorem moveTo_of_unplanned (unplanned : session.forces = []) (timeline : Timeline)
    (through : Bool) : session.moveTo timeline through = { session with timeline } := by
  simp [moveTo, unplanned]

theorem Calm.await_eq (calm : session.Calm scope) (body : LiveBody) (size : Nat) :
    session.await scope body size =
      (body.read (session.reader.limit size) session.timeline.now none).map
        fun (result, rest, time) => (.read result rest,
          { session with timeline := session.timeline.reach rest.source.aborted time }) := by
  have nothing : session.nextForce? = none := by simp [nextForce?, calm.unplanned]
  simp only [await, calm.endless.race_eq, nothing, calm.endless.endAhead?_eq]
  split
  · rename_i contrary
    simp at contrary
  · rename_i given _
    simp only [given, take, moveTo_of_unplanned calm.unplanned, Option.map_some]
    rfl
  · rename_i contrary
    simp at contrary
  · rename_i given _
    simp only [given, Option.map_none]

theorem Calm.request {getter : Getter Service} {result : Except TransferError Unit}
    (calm : session.Calm scope) (requested : session.request getter scope = some (result, next)) :
    next.Calm scope := by
  simp only [ReadSession.request, calm.endless.end?_eq] at requested
  obtain ⟨⟨waited, timeline⟩, ran, settled⟩ := Option.bind_eq_some_iff.mp requested
  have endless : timeline.Endless scope := by
    simp only [Timeline.run, calm.endless.end?_eq, calm.endless.endAhead?_eq] at ran
    split at ran
    · rename_i contrary
      simp at contrary
    · simp only [Option.some.injEq, Prod.mk.injEq] at ran
      obtain ⟨_, rfl⟩ := ran
      exact calm.endless.advanceTo _
    · rename_i contrary
      simp at contrary
    · simp at ran
  have unplanned : (session.ask (getter session.service session.reader.span).2).forces = [] :=
    calm.unplanned
  rw [moveTo_of_unplanned unplanned] at settled
  dsimp only at settled
  split at settled <;>
    (simp only [pure, Option.some.injEq, Prod.mk.injEq] at settled
     obtain ⟨_, rfl⟩ := settled
     exact ⟨endless, calm.unplanned⟩)

inductive Fetched {Outcome : Type} (scope : Scope) (ok : Bytes → Outcome)
    (reads : Nat → Option (Outcome × ReadSession Service)) : Prop
  | never (stuck : ∀ size, reads size = none)
  | alike (outcome : Outcome) (next : ReadSession Service) (calm : next.Calm scope)
      (given : ∀ size, reads size = some (outcome, next))
  | fronts (waited : ReadSession Service) (source : AbortableBody) (bytes : Bytes)
      (calm : waited.Calm scope) (settled : waited.timeline.Settled source.aborted)
      (given : ∀ size, reads size =
        some (ok (bytes.take (waited.reader.limit size)),
          waited.deliver (bytes.take (waited.reader.limit size))
            ⟨source, bytes.drop (waited.reader.limit size)⟩))

theorem Calm.readHeld (calm : session.Calm scope) :
    Fetched scope (fun bytes => .done (.ok bytes)) fun size => session.readHeld scope size := by
  cases held : session.reader.body with
  | none => exact .alike _ _ calm fun size => by rw [ReadSession.readHeld, held]
  | some body =>
      cases fetched : body.fetch session.timeline.now none with
      | none =>
          refine .never fun size => ?_
          simp only [ReadSession.readHeld, held, calm.await_eq, body.read_eq_fetch, fetched,
            Option.map_none]
      | some given =>
          obtain ⟨result, source, time⟩ := given
          have waited : Calm scope { session with
              timeline := session.timeline.reach source.aborted time } :=
            ⟨calm.endless.reach _ _, calm.unplanned⟩
          cases result with
          | error error =>
              refine .alike (.failed error) _ waited fun size => ?_
              simp only [ReadSession.readHeld, held, calm.await_eq, body.read_eq_fetch, fetched,
                Option.map_some, LiveBody.portion]
          | ok bytes =>
              refine .fronts _ source bytes waited
                (Timeline.settled_reach (body.le_of_fetch fetched) _) fun size => ?_
              simp only [ReadSession.readHeld, held, calm.await_eq, body.read_eq_fetch, fetched,
                Option.map_some, LiveBody.portion]

theorem Calm.tryRead (calm : session.Calm scope) (getter : Getter Service) :
    Fetched scope (fun bytes => .done (.ok bytes))
      fun size => session.tryRead getter scope size := by
  cases exhausted : session.reader.isExhausted with
  | true => exact .alike _ _ calm fun size => by rw [ReadSession.tryRead, exhausted, if_pos rfl]
  | false =>
      cases held : session.reader.body with
      | some body =>
          simp only [ReadSession.tryRead, exhausted, held, Option.isSome_some, if_true,
            Bool.false_eq_true, if_false]
          exact calm.readHeld
      | none =>
          simp only [ReadSession.tryRead, exhausted, held, Option.isSome_none,
            Bool.false_eq_true, if_false]
          cases requested : session.request getter scope with
          | none => exact .never fun size => rfl
          | some answered =>
              obtain ⟨ready, asked⟩ := answered
              cases ready with
              | error error => exact .alike _ _ (calm.request requested) fun size => rfl
              | ok done => exact (calm.request requested).readHeld

theorem Calm.fail (calm : session.Calm scope) (failures left : Nat) (error : IoError) :
    (session.fail failures left error).Calm scope := ⟨calm.endless, calm.unplanned⟩

theorem Calm.readFrom (calm : session.Calm scope) (getter : Getter Service)
    (left failures : Nat) :
    Fetched scope .ok fun size => readFrom getter scope size left failures session := by
  induction left generalizing session failures with
  | zero =>
      simp only [ReadSession.readFrom]
      cases calm.tryRead getter with
      | never stuck => exact .never fun size => by rw [stuck, Option.map_none]
      | alike outcome next calm given =>
          cases outcome with
          | done result => exact .alike _ _ calm fun size => by rw [given]; rfl
          | failed error =>
              exact .alike _ _ (calm.fail failures 0 error) fun size => by rw [given]; rfl
      | fronts waited source bytes calm settled given =>
          exact .fronts waited source bytes calm settled fun size => by rw [given]; rfl
  | succ left ih =>
      simp only [ReadSession.readFrom]
      cases calm.tryRead getter with
      | never stuck => exact .never fun size => by rw [stuck, Option.bind_none]
      | alike outcome next calm given =>
          simp only [given, Option.bind_some]
          cases outcome with
          | done result => exact .alike _ _ calm fun size => rfl
          | failed error =>
              have failed := calm.fail failures (left + 1) error
              cases retried : next.reader.mayRetry error with
              | true =>
                  simp only [retried, if_true]
                  exact ih failed (failures + 1)
              | false =>
                  simp only [retried, Bool.false_eq_true, if_false]
                  exact .alike _ _ failed fun size => rfl
      | fronts waited source bytes calm settled given =>
          exact .fronts waited source bytes calm settled fun size => by
            rw [given, Option.bind_some]

end ReadSession

end BlobTransfer
