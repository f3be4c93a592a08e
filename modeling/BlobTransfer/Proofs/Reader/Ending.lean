import BlobTransfer.Proofs.Reader.Calm
import BlobTransfer.Proofs.Reader.Delivery
import BlobTransfer.Reader.Drain

/-!
Where a reader sees its end: when nothing more is wanted, or when the response that it holds has
come to an end of its own. How much is still wanted then does not matter, so a response that stops
too early without a failure passes for all that was asked for.
-/

namespace BlobTransfer

def BodyEvent.breaks : BodyEvent → Bool
  | .data _ | .delay _ => false
  | .failure _ | .silence => true

namespace Body

def isUnbroken (body : Body) : Bool := body.events.all (!·.breaks)

theorem unbroken_of_nextEvent {events : List BodyEvent} {now time : Nat} {wakeAt : Option Nat}
    {item : Option BodyItem} {rest : Body}
    (answered : nextEvent List.isEmpty now wakeAt events = some (item, rest, time)) :
    (item = none → events.all (!·.breaks) = true) ∧
      ∀ bytes, item = some (.ok bytes) → rest.isUnbroken = events.all (!·.breaks) := by
  induction events generalizing now wakeAt with
  | nil =>
      simp only [nextEvent, Option.some.injEq, Prod.mk.injEq] at answered
      obtain ⟨rfl, rfl, _⟩ := answered
      exact ⟨fun _ => rfl, fun bytes contrary => by simp at contrary⟩
  | cons event later ih =>
      cases event with
      | data bytes =>
          by_cases empty : bytes.isEmpty
          · simp only [nextEvent, empty, if_true] at answered
            exact ih answered
          · simp only [nextEvent, empty, Bool.false_eq_true, if_false, Option.some.injEq,
              Prod.mk.injEq] at answered
            obtain ⟨rfl, rfl, _⟩ := answered
            exact ⟨fun contrary => by simp at contrary, fun _ _ => rfl⟩
      | failure error =>
          simp only [nextEvent, Option.some.injEq, Prod.mk.injEq] at answered
          obtain ⟨rfl, _⟩ := answered
          simp
      | silence => simp [nextEvent] at answered
      | delay millis => exact ih answered

theorem unbroken_waitEvents (events : List BodyEvent) (now limit : Nat) (wakeAt : Option Nat) :
    (waitEvents List.isEmpty now limit wakeAt events).isUnbroken = events.all (!·.breaks) := by
  induction events generalizing now wakeAt with
  | nil => rfl
  | cons event later ih =>
      cases event with
      | data bytes =>
          unfold waitEvents
          split
          · exact ih _ _
          · rfl
      | failure error => rfl
      | silence => rfl
      | delay millis =>
          simp only [waitEvents]
          split
          · exact ih _ _
          · rfl

end Body

theorem AbortableBody.next_inversion {body rest : AbortableBody} {skipped : Bytes → Bool}
    {now time : Nat} {abortAt : Option Nat} {item : Option BodyItem}
    (answered : body.next skipped now abortAt = some (item, rest, time))
    (unfailed : ∀ error, item ≠ some (.error error)) :
    (body.inner = none ∧ item = none ∧ rest.inner = none) ∨
    ∃ inner rest', body.inner = some inner ∧ inner.next skipped now = some (item, rest', time) ∧
      rest.inner = item.map fun _ => rest' := by
  simp only [next] at answered
  split at answered
  · rename_i ended
    simp only [Option.some.injEq, Prod.mk.injEq] at answered
    obtain ⟨rfl, rfl, _⟩ := answered
    exact .inl ⟨ended, rfl, ended⟩
  · rename_i inner present
    have interrupted : ∀ moment : Nat, some (some (Except.error interruption : BodyItem),
        ({ inner := none, aborted := true } : AbortableBody), moment) ≠
          some (item, rest, time) := by
      intro moment same
      simp only [Option.some.injEq, Prod.mk.injEq] at same
      exact unfailed _ same.1.symm
    refine .inr ⟨inner, ?_⟩
    have inside : ∀ {item' : Option BodyItem} {rest' : Body} {time' : Nat},
        inner.next skipped now = some (item', rest', time') →
        some (item', { body with inner := item'.map fun _ => rest' }, time') =
          some (item, rest, time) →
        ∃ rest', body.inner = some inner ∧ inner.next skipped now = some (item, rest', time) ∧
          rest.inner = item.map fun _ => rest' := by
      intro item' rest' time' found same
      simp only [Option.some.injEq, Prod.mk.injEq] at same
      obtain ⟨rfl, rfl, rfl⟩ := same
      exact ⟨rest', present, found, rfl⟩
    split at answered
    · exact absurd answered (interrupted now)
    · split at answered
      · rename_i found
        split at answered
        · exact absurd answered (interrupted _)
        · exact inside found answered
      · rename_i found
        exact inside found answered
      · exact absurd answered (interrupted _)
      · simp at answered

namespace LiveBody

def hasEnded (body : LiveBody) : Bool := body.source.inner.isNone

/-- The body of a response of which so much was handed out. Its end is seen only when it is
unbroken and was handed out as a whole. -/
def Continues (response : LiveResponse) (given : Bytes) (body : LiveBody) : Prop :=
  match body.source.inner with
  | none => body.buffered = [] ∧ given = response.body.readable ∧
      response.body.isUnbroken = true
  | some inner => given ++ (body.buffered ++ inner.readable) = response.body.readable ∧
      inner.isUnbroken = response.body.isUnbroken

variable {response : LiveResponse} {given : Bytes} {body rest : LiveBody}

theorem continues_ofResponse (response : LiveResponse) :
    (ofResponse response).Continues response [] := ⟨rfl, rfl⟩

theorem Continues.waitUntil (continues : body.Continues response given) (now limit : Nat) :
    (body.waitUntil now limit).Continues response given := by
  unfold LiveBody.waitUntil
  split
  · cases present : body.source.inner with
    | none => simpa [Continues, AbortableBody.waitUntil, present] using continues
    | some inner =>
        simp only [Continues, present] at continues
        simp only [Continues, AbortableBody.waitUntil, present, Option.map_some, Body.waitUntil,
          Body.readable_waitEvents, Body.unbroken_waitEvents]
        exact continues
  · exact continues

theorem Continues.end_seen (continues : body.Continues response given)
    (drained : body.buffered = []) {now time : Nat} {abortAt : Option Nat}
    {source : AbortableBody}
    (found : body.source.next List.isEmpty now abortAt = some (none, source, time)) :
    Continues response given { source } ∧ source.inner = none := by
  obtain ⟨ended, -, ended'⟩ | ⟨inner, inner', present, next, left⟩ :=
    AbortableBody.next_inversion found (by simp)
  · simp only [Continues, ended, drained, true_and] at continues
    exact ⟨by simpa [Continues, ended'] using continues, ended'⟩
  · have nothing : inner.readable = [] := (Body.takes_of_nextEvent next).1
    have whole : inner.isUnbroken = true := (Body.unbroken_of_nextEvent next).1 rfl
    simp only [Continues, present, drained, nothing, List.append_nil] at continues
    refine ⟨?_, left⟩
    simp only [Continues, left, Option.map_none, true_and]
    exact ⟨continues.1, continues.2.symm.trans whole⟩

theorem Continues.refilled (continues : body.Continues response given)
    (drained : body.buffered = []) {now time : Nat} {abortAt : Option Nat} {piece : Bytes}
    {source : AbortableBody}
    (found : body.source.next List.isEmpty now abortAt = some (some (.ok piece), source, time)) :
    Continues response given ⟨source, piece⟩ ∧ piece ≠ [] := by
  obtain ⟨-, contrary, -⟩ | ⟨inner, inner', present, next, left⟩ :=
    AbortableBody.next_inversion found (by simp)
  · simp at contrary
  · have taken : inner.readable = piece ++ inner'.readable ∧ piece ≠ [] :=
      Body.takes_of_nextEvent next
    have kept : inner'.isUnbroken = inner.isUnbroken :=
      (Body.unbroken_of_nextEvent next).2 piece rfl
    simp only [Continues, present, drained, List.nil_append, taken.1] at continues
    simp only [Continues, left, Option.map_some]
    exact ⟨⟨continues.1, kept.trans continues.2⟩, taken.2⟩

theorem Continues.handedOut (continues : body.Continues response given) (limit : Nat) :
    Continues response (given ++ body.buffered.take limit)
      { body with buffered := body.buffered.drop limit } := by
  cases present : body.source.inner with
  | none =>
      simp only [Continues, present] at continues ⊢
      simpa [continues.1] using continues.2
  | some inner =>
      simp only [Continues, present] at continues ⊢
      refine ⟨?_, continues.2⟩
      rw [← continues.1, List.append_assoc, ← List.append_assoc (body.buffered.take limit),
        List.take_append_drop]

theorem Continues.read (continues : body.Continues response given) {limit now time : Nat}
    {abortAt : Option Nat} {bytes : Bytes}
    (answered : body.read limit now abortAt = some (.ok bytes, rest, time)) :
    rest.Continues response (given ++ bytes) ∧
      (0 < limit → bytes = [] → rest.hasEnded = true) := by
  have some_taken : ∀ {piece : Bytes}, piece ≠ [] → 0 < limit → piece.take limit ≠ [] := by
    intro piece filled positive nothing
    exact absurd (List.take_eq_nil_iff.mp nothing) (by simp [filled]; omega)
  unfold LiveBody.read at answered
  split at answered
  · rename_i empty
    have drained : body.buffered = [] := List.isEmpty_iff.mp empty
    obtain ⟨⟨item, source, time'⟩, found, same⟩ := Option.map_eq_some_iff.mp answered
    match item with
    | none =>
        obtain ⟨rfl, rfl, -⟩ := by simpa using same
        obtain ⟨onward, ended⟩ := continues.end_seen drained found
        exact ⟨by simpa using onward, fun _ _ => by simp [hasEnded, ended]⟩
    | some (.error error) => simp at same
    | some (.ok piece) =>
        obtain ⟨rfl, rfl, -⟩ := by simpa using same
        obtain ⟨onward, filled⟩ := continues.refilled drained found
        exact ⟨onward.handedOut limit, fun positive nothing =>
          absurd nothing (some_taken filled positive)⟩
  · rename_i filled
    obtain ⟨rfl, rfl, -⟩ := by simpa using answered
    exact ⟨continues.handedOut limit, fun positive nothing =>
      absurd nothing (some_taken (by simpa using filled) positive)⟩

end LiveBody

namespace ReadSession

variable {Service : Type} {session next : ReadSession Service} {getter : Getter Service}
  {scope : Scope} {size : Nat}

/-- The body that is held is the one of the last response, as far as it was handed out. -/
def HoldsLast (session : ReadSession Service) : Prop :=
  ∀ body, session.reader.body = some body → ∃ past response later,
    session.history = past ++ .answered response :: later ∧
    (∀ event ∈ later, ∃ bytes, event = .delivered bytes) ∧
    body.Continues response (ReadEvent.handedOut later)

def SeesEnd (session : ReadSession Service) : Prop :=
  session.reader.isExhausted = true ∨
    ∃ body, session.reader.body = some body ∧ body.hasEnded = true

theorem holdsLast_of_unheld (unheld : session.reader.body = none) : session.HoldsLast := by
  intro body held
  rw [unheld] at held
  simp at held

theorem HoldsLast.of_kept (last : session.HoldsLast) (history : next.history = session.history)
    (kept : ∀ body', next.reader.body = some body' → ∃ body, session.reader.body = some body ∧
      ∀ response given, body.Continues response given → body'.Continues response given) :
    next.HoldsLast := by
  intro body' held'
  obtain ⟨body, held, onward⟩ := kept body' held'
  obtain ⟨past, response, later, split, deliveries, continues⟩ := last body held
  exact ⟨past, response, later, history.trans split, deliveries, onward _ _ continues⟩

theorem HoldsLast.force (last : session.HoldsLast) :
    HoldsLast { session with reader := session.reader.force } := by
  refine last.of_kept rfl ?_
  intro body' held'
  unfold RangeReader.force at held'
  split at held'
  · obtain ⟨body, held, rfl⟩ := Option.map_eq_some_iff.mp held'
    exact ⟨body, held, fun _ _ continues => continues⟩
  · exact ⟨body', held', fun _ _ continues => continues⟩

theorem HoldsLast.moveTo (last : session.HoldsLast) (timeline : Timeline) (through : Bool) :
    (session.moveTo timeline through).HoldsLast := by
  unfold ReadSession.moveTo
  split
  · exact last.force
  · exact last

theorem HoldsLast.giveUp (last : session.HoldsLast) {body : LiveBody}
    (held : session.reader.body = some body) (reason : ScopeEnd) (later : Timeline) :
    (session.giveUp body reason later).2.HoldsLast := by
  have waiting : HoldsLast { session with reader := { session.reader with
      body := some (body.waitUntil session.timeline.now later.now) } } := by
    refine last.of_kept rfl ?_
    rintro _ ⟨⟩
    exact ⟨body, held, fun _ _ continues => continues.waitUntil _ _⟩
  exact waiting.moveTo later _

theorem HoldsLast.install (session : ReadSession Service) (response : LiveResponse) :
    (session.install response).HoldsLast := by
  rintro _ ⟨⟩
  exact ⟨session.history, response, [], rfl, by simp, LiveBody.continues_ofResponse response⟩

theorem HoldsLast.request (last : session.HoldsLast) (unheld : session.reader.body = none)
    {result : Except TransferError Unit}
    (requested : session.request getter scope = some (result, next)) :
    next.HoldsLast ∧ (result = .ok () → next.reader.body.isSome = true ∧
      next.reader.isExhausted = session.reader.isExhausted) := by
  have moved := session.askedUntil_undisturbed getter
  have waiting : ∀ timeline through, (session.askedUntil getter timeline through).HoldsLast :=
    fun timeline through => holdsLast_of_unheld ((moved timeline through).unheld unheld)
  obtain ⟨_, _, rfl, rfl⟩ | ⟨_, _, timeline, _, ⟨_, _, rfl, rfl⟩ | ⟨_, ⟨_, _, rfl, rfl⟩ |
    ⟨response, _, rfl, rfl⟩⟩⟩ := request_inversion requested
  · exact ⟨last, by simp⟩
  · exact ⟨waiting _ _, by simp⟩
  · exact ⟨waiting _ _, by simp⟩
  · refine ⟨.install _ response, fun _ => ⟨rfl, ?_⟩⟩
    have span := (moved timeline false).span
    have bounded := (moved timeline false).bounded
    simp only [RangeReader.isExhausted, ReadSession.install, RangeReader.install, span, bounded,
      ReadSession.ask]

theorem HoldsLast.readHeld (last : session.HoldsLast) (held : session.reader.body.isSome = true)
    (limit : 0 < session.reader.limit size) {outcome : ReadTry}
    (tried : session.readHeld scope size = some (outcome, next)) :
    next.HoldsLast ∧ (outcome = .done (.ok []) → next.SeesEnd) := by
  obtain ⟨unheld, _⟩ | ⟨body, given, waited, held, awaited, settled⟩ := readHeld_inversion tried
  · simp [unheld] at held
  · obtain ⟨_, rfl, rfl⟩ | ⟨_, later, rfl, rfl⟩ | ⟨result, rest, time, rfl, answered, rfl⟩ :=
      await_inversion awaited
    · obtain ⟨_, _, rfl, rfl⟩ | ⟨_, _, contrary, _⟩ | ⟨_, _, contrary, _⟩ := settled
      · exact ⟨last, by simp⟩
      · simp at contrary
      · simp at contrary
    · obtain ⟨_, _, rfl, rfl⟩ | ⟨_, _, contrary, _⟩ | ⟨_, _, contrary, _⟩ := settled
      · exact ⟨last.giveUp held _ later, by simp⟩
      · simp at contrary
      · simp at contrary
    · obtain ⟨_, contrary, _⟩ | ⟨_, _, _, rfl, rfl⟩ | ⟨bytes, _, same, rfl, rfl⟩ := settled
      · simp at contrary
      · exact ⟨last.moveTo _ _, by simp⟩
      · obtain ⟨rfl, rfl⟩ := BodyRead.read.inj same
        obtain ⟨past, response, later, split, deliveries, continues⟩ := last body held
        obtain ⟨continues', ended⟩ := continues.read answered
        have history : (session.take (.ok bytes) rest time).2.history = session.history :=
          (moveTo_undisturbed _ _ _).history
        refine ⟨?_, fun nothing => .inr ⟨rest, rfl, ended limit (by simpa using nothing)⟩⟩
        rintro _ ⟨⟩
        refine ⟨past, response, later ++ [.delivered bytes], ?_, ?_, ?_⟩
        · simp [ReadSession.deliver, history, split]
        · intro event member
          obtain before | now := List.mem_append.mp member
          · exact deliveries event before
          · exact ⟨bytes, List.mem_singleton.mp now⟩
        · rw [ReadEvent.handedOut_snoc]
          exact continues'

/-- A session that keeps its accounts, with the part that its reader was made for. -/
structure Accounted (initial : Span) (session : ReadSession Service) : Prop where
  tracked : session.Tracked initial
  last : session.HoldsLast

variable {initial : Span}

theorem Accounted.limit_pos (accounted : session.Accounted initial)
    (unexhausted : session.reader.isExhausted = false) (positive : 0 < size) :
    0 < session.reader.limit size := by
  refine RangeReader.limit_pos ?_ unexhausted positive
  rw [accounted.tracked.bounded, accounted.tracked.stands, Span.after, Option.isSome_map]

theorem Accounted.retimed (accounted : session.Accounted initial) (timeline : Timeline) :
    Accounted initial { session with timeline } :=
  ⟨accounted.tracked.retimed timeline, accounted.last⟩

theorem Accounted.tryRead (accounted : session.Accounted initial) (positive : 0 < size)
    {outcome : ReadTry} (tried : session.tryRead getter scope size = some (outcome, next)) :
    next.Accounted initial ∧ (outcome = .done (.ok []) → next.SeesEnd) := by
  have tracked := (tryRead_tracked accounted.tracked tried).1
  obtain ⟨exhausted, rfl, rfl⟩ | ⟨unexhausted, ⟨held, tried⟩ | ⟨unheld, ⟨error, requested, rfl⟩ |
    ⟨asked, requested, tried⟩⟩⟩ := tryRead_inversion tried
  · exact ⟨accounted, fun _ => .inl exhausted⟩
  · have limit := accounted.limit_pos unexhausted positive
    obtain ⟨last, ended⟩ := accounted.last.readHeld held limit tried
    exact ⟨⟨tracked, last⟩, ended⟩
  · exact ⟨⟨tracked, (accounted.last.request unheld requested).1⟩, by simp⟩
  · obtain ⟨last, answered⟩ := accounted.last.request unheld requested
    obtain ⟨held, same⟩ := answered rfl
    have accounted' : asked.Accounted initial :=
      ⟨(request_tracked accounted.tracked unheld unexhausted requested).1, last⟩
    have limit := accounted'.limit_pos (same.trans unexhausted) positive
    obtain ⟨last', ended⟩ := last.readHeld held limit tried
    exact ⟨⟨tracked, last'⟩, ended⟩

theorem Accounted.fail (accounted : session.Accounted initial) (failures left : Nat)
    (error : IoError) : (session.fail failures left error).Accounted initial :=
  ⟨(fail_tracked accounted.tracked failures left error).1, holdsLast_of_unheld rfl⟩

theorem Accounted.readFrom (accounted : session.Accounted initial) (positive : 0 < size)
    {left failures : Nat} {result : Except TransferError Bytes}
    (finished : readFrom getter scope size left failures session = some (result, next)) :
    next.Accounted initial ∧ (result = .ok [] → next.SeesEnd) := by
  induction left using Nat.strongRecOn generalizing session failures with
  | ind left ih =>
      obtain ⟨outcome, tried, attempt, ⟨rfl, rfl⟩ | ⟨error, rfl, settled⟩⟩ :=
        readFrom_inversion finished
      · obtain ⟨accounted', ended⟩ := accounted.tryRead positive attempt
        exact ⟨accounted', fun nothing => ended (congrArg _ nothing)⟩
      · obtain ⟨accounted', _⟩ := accounted.tryRead positive attempt
        obtain ⟨_, rfl, rfl⟩ | ⟨fewer, rfl, _, onward⟩ := settled
        · exact ⟨accounted'.fail _ _ _, by simp⟩
        · exact ih fewer (Nat.lt_succ_self fewer) (accounted'.fail _ _ _) onward

theorem Accounted.read (accounted : session.Accounted initial)
    {result : Except TransferError Bytes}
    (finished : session.read getter scope size = some (result, next)) :
    next.Accounted initial ∧
      ReadEvent.handedOut next.history =
        ReadEvent.handedOut session.history ++ result.toOption.getD [] ∧
      (0 < size → result = .ok [] → next.SeesEnd) := by
  unfold ReadSession.read at finished
  split at finished
  · rename_i nothing
    obtain ⟨rfl, rfl⟩ := Prod.mk.inj (Option.some.inj finished)
    exact ⟨accounted, by simp [Except.toOption],
      fun positive => absurd nothing (Nat.ne_of_gt positive)⟩
  · rename_i some_size
    obtain ⟨accounted', ended⟩ := accounted.readFrom (Nat.pos_of_ne_zero some_size) finished
    exact ⟨accounted', (readFrom_tracked accounted.tracked finished).2, fun _ => ended⟩

theorem Accounted.use (accounted : session.Accounted initial) {use : ReaderUse Service}
    {bytes : Bytes} (used : session.use getter scope use = some (bytes, next)) :
    next.Accounted initial := by
  have tracked := (use_tracked accounted.tracked used).1
  cases use with
  | read size abandonAt =>
      obtain ⟨timeline, within, result, _, finished, _⟩ := read_of_use used
      exact ((accounted.retimed timeline).read finished).1
  | close =>
      obtain ⟨rfl, rfl⟩ := Prod.mk.inj (Option.some.inj used)
      exact ⟨tracked, holdsLast_of_unheld rfl⟩
  | force =>
      obtain ⟨rfl, rfl⟩ := Prod.mk.inj (Option.some.inj used)
      exact ⟨tracked, accounted.last.force⟩
  | forceAt time =>
      obtain ⟨rfl, rfl⟩ := Prod.mk.inj (Option.some.inj used)
      exact ⟨tracked, accounted.last⟩
  | meanwhile timeline service =>
      obtain ⟨rfl, rfl⟩ := Prod.mk.inj (Option.some.inj used)
      exact ⟨tracked, accounted.last.moveTo timeline false⟩

theorem Accounted.uses (accounted : session.Accounted initial) {uses : List (ReaderUse Service)}
    {bytes : Bytes} (used : session.uses getter scope uses = some (bytes, next)) :
    next.Accounted initial := by
  induction uses generalizing session bytes with
  | nil =>
      obtain ⟨rfl, rfl⟩ := Prod.mk.inj (Option.some.inj used)
      exact accounted
  | cons use later ih =>
      obtain ⟨⟨first, middle⟩, began, continued⟩ := Option.bind_eq_some_iff.mp used
      obtain ⟨⟨others, last⟩, rest, given⟩ := Option.bind_eq_some_iff.mp continued
      obtain ⟨rfl, rfl⟩ := Prod.mk.inj (Option.some.inj given)
      exact ih (accounted.use began) rest

theorem accounted_start (timeline : Timeline) (service : Service)
    (response : Option LiveResponse) (initial : Span) (retries : Nat) :
    (start timeline service response initial retries).Accounted initial := by
  refine ⟨tracked_start timeline service response initial retries, ?_⟩
  cases response with
  | none => exact holdsLast_of_unheld rfl
  | some response =>
      exact HoldsLast.install (start timeline service none initial retries) response

/-- Whether the last response was shorter than what it was asked for, though it came to its end
without a failure, and everything it had was handed out. -/
def CutShort (initial : Span) (session : ReadSession Service) : Prop :=
  ∃ past response later asked, session.history = past ++ .answered response :: later ∧
    (initial.after past).count = some asked ∧ response.body.isUnbroken = true ∧
    ReadEvent.handedOut later = response.body.readable ∧
    response.body.readable.length < asked ∧
    session.reader.span.count = some (asked - response.body.readable.length)

theorem Accounted.cutShort (accounted : session.Accounted initial) {left : Nat}
    (counted : session.reader.span.count = some left) (ended : session.SeesEnd)
    (more : left ≠ 0) : session.CutShort initial := by
  obtain exhausted | ⟨body, held, ended⟩ := ended
  · simp [RangeReader.isExhausted, counted, more] at exhausted
  · obtain ⟨past, response, later, split, _, continues⟩ := accounted.last body held
    have seen : body.source.inner = none := by simpa [LiveBody.hasEnded] using ended
    simp only [LiveBody.Continues, seen] at continues
    obtain ⟨_, whole, unbroken⟩ := continues
    obtain ⟨wanted, bounded, rest⟩ : ∃ wanted, initial.count = some wanted ∧
        wanted - (ReadEvent.handedOut session.history).length = left := by
      rw [accounted.tracked.stands] at counted
      exact Option.map_eq_some_iff.mp counted
    have lengths : (ReadEvent.handedOut session.history).length =
        (ReadEvent.handedOut past).length + response.body.readable.length := by
      rw [← whole, split]
      simp [ReadEvent.handedOut, ReadEvent.bytes]
    refine ⟨past, response, later, wanted - (ReadEvent.handedOut past).length, split, ?_,
      unbroken, whole, by omega, ?_⟩
    · simp [Span.after, bounded]
    · rw [counted]
      congr 1
      omega

theorem Tracked.count_of_handedOut (tracked : session.Tracked initial)
    (tracked' : next.Tracked initial) {bytes : Bytes}
    (grown : ReadEvent.handedOut next.history = ReadEvent.handedOut session.history ++ bytes) :
    next.reader.span.count = session.reader.span.count.map (· - bytes.length) := by
  rw [tracked'.stands, tracked.stands]
  simp [Span.after, grown, Function.comp_def, Nat.sub_sub]

theorem Accounted.read_of_seesEnd (accounted : session.Accounted initial)
    (endless : session.timeline.Endless scope) (ended : session.SeesEnd) (getter : Getter Service)
    (size : Nat) :
    ∃ next, session.read getter scope size = some (.ok [], next) ∧
      next.requests = session.requests ∧ next.reader.span = session.reader.span := by
  by_cases nothing : size = 0
  · exact ⟨session, by rw [ReadSession.read, if_pos nothing], rfl, rfl⟩
  · cases exhausted : session.reader.isExhausted with
    | true =>
        refine ⟨session, ?_, rfl, rfl⟩
        rw [ReadSession.read, if_neg nothing]
        cases session.reader.retries <;> simp [ReadSession.readFrom, ReadSession.tryRead, exhausted]
    | false =>
        obtain ⟨body, held, ended⟩ := ended.resolve_left (by simp [exhausted])
        obtain ⟨_, _, _, _, _, continues⟩ := accounted.last body held
        have seen : body.source.inner = none := by simpa [LiveBody.hasEnded] using ended
        simp only [LiveBody.Continues, seen] at continues
        have given : ∀ limit abortAt, body.read limit session.timeline.now abortAt =
            some (.ok [], ⟨body.source, []⟩, session.timeline.now) := by
          intro limit abortAt
          simp [LiveBody.read, AbortableBody.next, continues.1, seen]
        let waited := (session.take (.ok []) ⟨body.source, []⟩ session.timeline.now).2
        have tried : session.tryRead getter scope size =
            some (.done (.ok []), waited.deliver [] ⟨body.source, []⟩) := by
          simp only [ReadSession.tryRead, exhausted, held, ReadSession.readHeld,
            ReadSession.await, endless.race_eq, endless.endAhead?_eq, given]
          rfl
        have kept : Undisturbed session waited := moveTo_undisturbed _ _ _
        refine ⟨waited.deliver [] ⟨body.source, []⟩, ?_, kept.requests, ?_⟩
        · rw [ReadSession.read, if_neg nothing]
          cases session.reader.retries <;> simp [ReadSession.readFrom, tried]
        · simp [ReadSession.deliver, RangeReader.advance, Span.advance, kept.span]

theorem Accounted.copy (accounted : session.Accounted initial) {destination filled : Destination}
    {total copied fuel : Nat}
    (finished : session.copy getter scope destination total fuel =
      some (.ok copied, filled, next)) :
    next.Accounted initial ∧ next.SeesEnd ∧ ∃ given,
      filled.data = destination.data ++ given ∧ copied = total + given.length ∧
      ReadEvent.handedOut next.history = ReadEvent.handedOut session.history ++ given := by
  induction fuel generalizing session destination total with
  | zero => simp [ReadSession.copy] at finished
  | succ fuel ih =>
      obtain ⟨⟨result, middle⟩, read, onward⟩ := Option.bind_eq_some_iff.mp finished
      obtain ⟨accounted', grown, ended⟩ := accounted.read read
      match result with
      | .error error => simp at onward
      | .ok [] =>
          obtain ⟨rfl, rfl, rfl⟩ : total = copied ∧ destination = filled ∧ middle = next := by
            simpa using onward
          exact ⟨accounted', ended (by decide) rfl, [], by simp, by simp, grown⟩
      | .ok (first :: others) =>
          dsimp only at onward
          split at onward
          · simp at onward
          · rename_i written wrote
            obtain ⟨accounted'', ended', later, data, sum, rest⟩ := ih accounted' onward
            refine ⟨accounted'', ended', first :: others ++ later, ?_, ?_, ?_⟩
            · rw [data, Destination.data_of_write wrote, List.append_assoc]
            · rw [sum, List.length_append, Nat.add_assoc]
            · rw [rest, grown, List.append_assoc]
              rfl

/-- A reader of a bounded part sees the end in two cases: nothing is wanted any more, or its last
response was cut short. Copying then comes to its end without a failure too, having copied less
than was wanted in the second case, and every later read says the same again without a request. -/
theorem end_is_count_or_cut_short {timeline : Timeline} {service : Service}
    {response : Option LiveResponse} {wanted retries : Nat} {uses : List (ReaderUse Service)}
    {bytes : Bytes} (bounded : initial.count = some wanted)
    (used : (start timeline service response initial retries).uses getter scope uses =
      some (bytes, session)) :
    ∃ left, session.reader.span.count = some left ∧ bytes.length + left = wanted ∧
      (∀ size next, 0 < size → session.read getter scope size = some (.ok [], next) →
        next.reader.span.count = some left ∧ (left = 0 ∨ next.CutShort initial)) ∧
      (∀ destination fuel copied filled next,
        session.copy getter scope destination 0 fuel = some (.ok copied, filled, next) →
        (∃ given, filled.data = destination.data ++ given ∧ given.length = copied) ∧
        copied ≤ left ∧ next.reader.span.count = some (left - copied) ∧
        (copied = left ∨ next.CutShort initial)) ∧
      (session.timeline.awaitEnd scope = none → session.SeesEnd → ∀ size,
        ∃ next, session.read getter scope size = some (.ok [], next) ∧
          next.requests = session.requests ∧ next.reader.span = session.reader.span) := by
  have began := accounted_start timeline service response initial retries
  have accounted := began.uses used
  have given : ReadEvent.handedOut session.history = bytes := by
    rw [(uses_tracked began.tracked used).2]
    cases response <;> rfl
  have counted : session.reader.span.count = some (wanted - bytes.length) := by
    rw [accounted.tracked.stands]
    simp [Span.after, bounded, given]
  have within : bytes.length ≤ wanted := given ▸ accounted.tracked.within wanted bounded
  refine ⟨wanted - bytes.length, counted, by omega, ?_, ?_,
    fun endless ended size => accounted.read_of_seesEnd endless ended getter size⟩
  · intro size next positive read
    obtain ⟨accounted', grown, ended⟩ := accounted.read read
    have left := accounted.tracked.count_of_handedOut accounted'.tracked grown
    simp only [counted, Except.toOption, Option.getD_some, List.length_nil, Option.map_some,
      Nat.sub_zero] at left
    exact ⟨left, Decidable.or_iff_not_imp_left.mpr
      (accounted'.cutShort left (ended positive rfl))⟩
  · intro destination fuel copied filled next finished
    obtain ⟨accounted', ended, given', data, sum, grown⟩ := accounted.copy finished
    have left := accounted.tracked.count_of_handedOut accounted'.tracked grown
    have within' := accounted'.tracked.within wanted bounded
    rw [counted, Option.map_some] at left
    rw [grown, given, List.length_append] at within'
    obtain rfl : given'.length = copied := by omega
    refine ⟨⟨given', data, rfl⟩, by omega, left, ?_⟩
    refine Decidable.or_iff_not_imp_left.mpr fun short => ?_
    exact accounted'.cutShort left ended (by omega)

def shortReply : ReplyScript where
  replies := [{ outcome := .ok { body := { events := [.data [97], .delay 5, .data [98]] } } }]

theorem cut_short_copy_passes_for_complete :
    Timeline.awaitEnd {} { lineage := [0] } = none ∧
    ∃ filled next,
      (start {} shortReply none { count := some 4 } 1).copy ReplyScript.getter { lineage := [0] }
        {} 0 5 = some (.ok 2, filled, next) ∧
      filled.data = [97, 98] ∧ next.reader.span.count = some 2 ∧
      ((next.read ReplyScript.getter { lineage := [0] } 8).map (·.1.toOption)) = some (some []) :=
  ⟨rfl, _, _, rfl, rfl, rfl, rfl⟩

theorem cut_short_reader_sees_end :
    ∃ session filled next,
      (start {} shortReply none { count := some 4 } 1).uses ReplyScript.getter { lineage := [0] }
        [.read 1 none] = some ([97], session) ∧
      session.copy ReplyScript.getter { lineage := [0] } {} 0 5 = some (.ok 1, filled, next) ∧
      next.CutShort { count := some 4 } := by
  have used : (start {} shortReply none { count := some 4 } 1).uses ReplyScript.getter
      { lineage := [0] } [.read 1 none] = some ([97], _) := rfl
  obtain ⟨left, counted, sum, _, copies, _⟩ := end_is_count_or_cut_short rfl used
  refine ⟨_, _, _, used, rfl, ?_⟩
  obtain ⟨_, _, _, short⟩ := copies {} 5 1 _ _ rfl
  exact short.resolve_left (by simp at sum; omega)

end ReadSession

end BlobTransfer
