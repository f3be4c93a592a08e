import BlobTransfer.Proofs.Reader.Basic
import BlobTransfer.Proofs.Reader.History
import BlobTransfer.Proofs.Reader.Inversion

/-!
What a session keeps true of its reader, whatever the reader is used for: it stands where its
history has brought it, and it holds what is unread of its response.
-/

namespace BlobTransfer

def Holds (body : Option LiveBody) (unread : Option Bytes) : Prop :=
  match body with
  | none => unread = none
  | some body => ∃ content, unread = some content ∧ body.readable <+: content

theorem holds_force {reader : RangeReader} {unread : Option Bytes}
    (holds : Holds reader.body unread) : Holds reader.force.body unread := by
  unfold RangeReader.force
  split
  · cases held : reader.body with
    | none => simpa [Holds, held] using holds
    | some body =>
        simp only [Holds, held] at holds
        obtain ⟨content, same, front⟩ := holds
        exact ⟨content, same, (LiveBody.readable_abort body).trans front⟩
  · exact holds

def ReadSession.ReadTry.bytes : ReadSession.ReadTry → Bytes
  | .done result => result.toOption.getD []
  | .failed _ => []

def ReaderUse.serviceLeft {Service : Type} (service : Service) : ReaderUse Service → Service
  | .meanwhile _ changed => changed
  | _ => service

namespace ReadSession

variable {Service : Type} {session next : ReadSession Service}

/-- What a session keeps true, with the span that its reader was made for. -/
structure Tracked (initial : Span) (session : ReadSession Service) : Prop where
  stands : session.reader.span = initial.after session.history
  bounded : session.reader.bounded = initial.count.isSome
  within : ∀ count, initial.count = some count →
    (ReadEvent.handedOut session.history).length ≤ count
  holds : Holds session.reader.body (ReadEvent.unread session.history)
  requests : session.requests = ReadEvent.requested session.history
  coherent : ReadEvent.Coherent initial session.history

structure Undisturbed (session next : ReadSession Service) : Prop where
  span : next.reader.span = session.reader.span
  bounded : next.reader.bounded = session.reader.bounded
  holds : ∀ unread, Holds session.reader.body unread → Holds next.reader.body unread
  requests : next.requests = session.requests
  history : next.history = session.history

theorem Undisturbed.trans {last : ReadSession Service} (first : Undisturbed session next)
    (second : Undisturbed next last) : Undisturbed session last where
  span := second.span.trans first.span
  bounded := second.bounded.trans first.bounded
  holds := fun unread holds => second.holds unread (first.holds unread holds)
  requests := second.requests.trans first.requests
  history := second.history.trans first.history

theorem Undisturbed.unheld (same : Undisturbed session next)
    (unheld : session.reader.body = none) : next.reader.body = none := by
  have holds := same.holds none (by simp [Holds, unheld])
  cases held : next.reader.body with
  | none => rfl
  | some body => simp [Holds, held] at holds

theorem Tracked.undisturbed {initial : Span} (tracked : session.Tracked initial)
    (same : Undisturbed session next) : next.Tracked initial where
  stands := by rw [same.span, same.history, tracked.stands]
  bounded := same.bounded.trans tracked.bounded
  within := by rw [same.history]; exact tracked.within
  holds := by rw [same.history]; exact same.holds _ tracked.holds
  requests := by rw [same.requests, same.history, tracked.requests]
  coherent := by rw [same.history]; exact tracked.coherent

theorem force_undisturbed (session : ReadSession Service) :
    Undisturbed session { session with reader := session.reader.force } :=
  ⟨session.reader.force_span, session.reader.force_bounded, fun _ => holds_force, rfl, rfl⟩

theorem moveTo_undisturbed (session : ReadSession Service) (timeline : Timeline)
    (through : Bool) : Undisturbed session (session.moveTo timeline through) := by
  unfold moveTo
  split
  · have forced := force_undisturbed session
    exact ⟨forced.span, forced.bounded, forced.holds, rfl, rfl⟩
  · exact ⟨rfl, rfl, fun _ holds => holds, rfl, rfl⟩

theorem giveUp_undisturbed {body : LiveBody} (held : session.reader.body = some body)
    (reason : ScopeEnd) (later : Timeline) :
    Undisturbed session (session.giveUp body reason later).2 := by
  have waiting : Undisturbed session { session with reader := { session.reader with
      body := some (body.waitUntil session.timeline.now later.now) } } := by
    refine ⟨rfl, rfl, ?_, rfl, rfl⟩
    intro unread holds
    simpa only [Holds, held, LiveBody.readable_waitUntil] using holds
  exact waiting.trans (moveTo_undisturbed _ _ _)

theorem await_undisturbed {scope : Scope} {body : LiveBody} {size : Nat} {outcome : BodyRead}
    (held : session.reader.body = some body)
    (awaited : session.await scope body size = some (outcome, next)) :
    Undisturbed session next ∧ ∀ bytes rest, outcome = .read (.ok bytes) rest →
      body.readable = bytes ++ rest.readable ∧ bytes.length ≤ session.reader.limit size := by
  obtain ⟨reason, rfl, rfl⟩ | ⟨reason, later, rfl, rfl⟩ |
    ⟨result, rest, time, rfl, answered, rfl⟩ := await_inversion awaited
  · exact ⟨⟨rfl, rfl, fun _ holds => holds, rfl, rfl⟩, by simp⟩
  · exact ⟨giveUp_undisturbed held reason later, by simp⟩
  · refine ⟨moveTo_undisturbed _ _ _, ?_⟩
    intro bytes rest' given
    obtain ⟨rfl, rfl⟩ := BodyRead.read.inj given
    obtain ⟨front, fits, _⟩ := LiveBody.readable_of_read answered
    exact ⟨front, fits⟩

theorem Tracked.retimed {initial : Span} (tracked : session.Tracked initial)
    (timeline : Timeline) : Tracked initial { session with timeline } :=
  tracked.undisturbed ⟨rfl, rfl, fun _ holds => holds, rfl, rfl⟩

theorem Tracked.close {initial : Span} (tracked : session.Tracked initial) :
    session.close.Tracked initial := by
  refine ⟨?_, tracked.bounded, ?_, ?_, ?_, tracked.coherent.snoc trivial⟩
  · exact tracked.stands.trans (ReadEvent.after_quiet _ _ rfl rfl).symm
  · simpa [ReadSession.close, ReadEvent.handedOut_snoc, ReadEvent.bytes] using tracked.within
  · exact ReadEvent.unread_snoc _ _
  · simpa [ReadSession.close, ReadEvent.requested_snoc, ReadEvent.span?] using tracked.requests

theorem Tracked.ask {initial : Span} (tracked : session.Tracked initial)
    (unheld : session.reader.body = none) (unexhausted : session.reader.isExhausted = false)
    (service : Service) : (session.ask service).Tracked initial := by
  have nothing : ReadEvent.unread session.history = none := by
    simpa [Holds, unheld] using tracked.holds
  have wanted : session.reader.span.count ≠ some 0 := by
    intro exhausted
    have bounded : initial.count.isSome = true := by
      rw [tracked.stands] at exhausted
      cases counted : initial.count <;> simp_all [Span.after]
    simp [RangeReader.isExhausted, tracked.bounded, bounded, exhausted] at unexhausted
  refine ⟨?_, tracked.bounded, ?_, ?_, ?_,
    tracked.coherent.snoc ⟨nothing, tracked.stands, wanted⟩⟩
  · exact tracked.stands.trans (ReadEvent.after_quiet _ _ rfl rfl).symm
  · simpa [ReadSession.ask, ReadEvent.handedOut_snoc, ReadEvent.bytes] using tracked.within
  · simpa [ReadSession.ask, ReadEvent.unread_snoc, ReadEvent.unreadAfter] using tracked.holds
  · simp [ReadSession.ask, ReadEvent.requested_snoc, ReadEvent.span?, tracked.requests]

theorem Tracked.install {initial : Span} (tracked : session.Tracked initial)
    (unheld : session.reader.body = none)
    (asked : session.history = [] ∨ ∃ past wanted, session.history = past ++ [.asked wanted])
    (response : LiveResponse) : (session.install response).Tracked initial := by
  have nothing : ReadEvent.unread session.history = none := by
    simpa [Holds, unheld] using tracked.holds
  refine ⟨?_, tracked.bounded, ?_, ?_, ?_, tracked.coherent.snoc ⟨nothing, asked⟩⟩
  · simp only [ReadSession.install, RangeReader.install, tracked.stands, ReadEvent.after_answered]
  · simpa [ReadSession.install, ReadEvent.handedOut_snoc, ReadEvent.bytes] using tracked.within
  · refine ⟨response.body.readable, ReadEvent.unread_snoc _ _, ?_⟩
    simp only [LiveBody.readable_ofResponse, List.prefix_refl]
  · simpa [ReadSession.install, ReadEvent.requested_snoc, ReadEvent.span?] using tracked.requests

theorem Tracked.deliver {initial : Span} {bytes content : Bytes} {rest : LiveBody}
    (tracked : session.Tracked initial)
    (unread : ReadEvent.unread session.history = some content)
    (front : bytes ++ rest.readable <+: content)
    (fits : ∀ count, session.reader.span.count = some count → bytes.length ≤ count) :
    (session.deliver bytes rest).Tracked initial := by
  have stands := tracked.stands
  obtain ⟨beyond, rfl⟩ := front
  refine ⟨?_, tracked.bounded, ?_, ?_, ?_, tracked.coherent.snoc ⟨_, unread, ?_⟩⟩
  · simp only [ReadSession.deliver, RangeReader.advance, stands, ReadEvent.after_delivered]
  · intro count counted
    have below := tracked.within count counted
    have here := fits (count - (ReadEvent.handedOut session.history).length) (by
      simp [stands, Span.after, counted])
    simp only [ReadSession.deliver, ReadEvent.handedOut_snoc, ReadEvent.bytes, List.length_append]
    omega
  · refine ⟨rest.readable ++ beyond, ?_, List.prefix_append _ _⟩
    simp [ReadSession.deliver, ReadEvent.unread_snoc, ReadEvent.unreadAfter, unread]
  · simpa [ReadSession.deliver, ReadEvent.requested_snoc, ReadEvent.span?] using tracked.requests
  · rw [List.append_assoc]
    exact List.prefix_append _ _

theorem askedUntil_undisturbed (session : ReadSession Service) (getter : Getter Service)
    (timeline : Timeline) (through : Bool) :
    Undisturbed (session.ask (getter session.service session.reader.span).2)
      (session.askedUntil getter timeline through) := moveTo_undisturbed _ _ _

theorem request_tracked {initial : Span} {getter : Getter Service} {scope : Scope}
    {result : Except TransferError Unit} (tracked : session.Tracked initial)
    (unheld : session.reader.body = none) (unexhausted : session.reader.isExhausted = false)
    (requested : session.request getter scope = some (result, next)) :
    next.Tracked initial ∧
      ReadEvent.handedOut next.history = ReadEvent.handedOut session.history := by
  have asked := tracked.ask unheld unexhausted (getter session.service session.reader.span).2
  have moved := session.askedUntil_undisturbed getter
  have silent : ∀ event : ReadEvent, event.bytes = [] → ∀ past : List ReadEvent,
      ReadEvent.handedOut (past ++ [event]) = ReadEvent.handedOut past := by
    intro event quiet past
    rw [ReadEvent.handedOut_snoc, quiet, List.append_nil]
  obtain ⟨_, _, _, rfl⟩ | ⟨_, waited, timeline, _, ⟨_, _, _, rfl⟩ | ⟨_, ⟨_, _, _, rfl⟩ |
    ⟨response, _, _, rfl⟩⟩⟩ := request_inversion requested
  · exact ⟨tracked, rfl⟩
  · exact ⟨asked.undisturbed (moved _ _), by rw [(moved _ _).history]; exact silent _ rfl _⟩
  · exact ⟨asked.undisturbed (moved _ _), by rw [(moved _ _).history]; exact silent _ rfl _⟩
  · refine ⟨(asked.undisturbed (moved _ _)).install ((moved _ _).unheld unheld) (.inr ?_) _, ?_⟩
    · exact ⟨session.history, session.reader.span, (moved _ _).history⟩
    · rw [ReadSession.install, silent _ rfl, (moved _ _).history]
      exact silent _ rfl _

theorem readHeld_tracked {initial : Span} {scope : Scope} {size : Nat} {outcome : ReadTry}
    (tracked : session.Tracked initial)
    (tried : session.readHeld scope size = some (outcome, next)) :
    next.Tracked initial ∧
      ReadEvent.handedOut next.history = ReadEvent.handedOut session.history ++ outcome.bytes := by
  obtain ⟨_, rfl, rfl⟩ | ⟨body, given, waited, held, awaited, settled⟩ := readHeld_inversion tried
  · exact ⟨tracked, by simp [ReadTry.bytes, Except.toOption]⟩
  · obtain ⟨undisturbed, taken⟩ := await_undisturbed held awaited
    have waiting := tracked.undisturbed undisturbed
    obtain ⟨reason, rfl, rfl, rfl⟩ | ⟨error, rest, rfl, rfl, rfl⟩ | ⟨bytes, rest, rfl, rfl, rfl⟩ :=
      settled
    · exact ⟨waiting, by simp [ReadTry.bytes, Except.toOption, undisturbed.history]⟩
    · exact ⟨waiting, by simp [ReadTry.bytes, undisturbed.history]⟩
    · obtain ⟨front, fits⟩ := taken bytes rest rfl
      have holds := tracked.holds
      simp only [Holds, held] at holds
      obtain ⟨content, unread, readable⟩ := holds
      refine ⟨waiting.deliver (undisturbed.history ▸ unread) (front ▸ readable) ?_, ?_⟩
      · intro count counted
        rw [undisturbed.span] at counted
        simp only [RangeReader.limit, counted] at fits
        omega
      · rw [← undisturbed.history]
        exact ReadEvent.handedOut_snoc waited.history (.delivered bytes)

theorem tryRead_tracked {initial : Span} {getter : Getter Service} {scope : Scope} {size : Nat}
    {outcome : ReadTry} (tracked : session.Tracked initial)
    (tried : session.tryRead getter scope size = some (outcome, next)) :
    next.Tracked initial ∧
      ReadEvent.handedOut next.history = ReadEvent.handedOut session.history ++ outcome.bytes := by
  obtain ⟨_, rfl, rfl⟩ | ⟨unexhausted, ⟨_, tried⟩ | ⟨unheld, ⟨error, requested, rfl⟩ |
    ⟨asked, requested, tried⟩⟩⟩ := tryRead_inversion tried
  · exact ⟨tracked, by simp [ReadTry.bytes, Except.toOption]⟩
  · exact readHeld_tracked tracked tried
  · obtain ⟨tracked', same⟩ := request_tracked tracked unheld unexhausted requested
    exact ⟨tracked', by simp [ReadTry.bytes, Except.toOption, same]⟩
  · obtain ⟨tracked', same⟩ := request_tracked tracked unheld unexhausted requested
    rw [← same]
    exact readHeld_tracked tracked' tried

theorem fail_tracked {initial : Span} (tracked : session.Tracked initial) (failures left : Nat)
    (error : IoError) :
    (session.fail failures left error).Tracked initial ∧
      ReadEvent.handedOut (session.fail failures left error).history =
        ReadEvent.handedOut session.history := by
  have closed := tracked.close
  refine ⟨closed.undisturbed ⟨rfl, rfl, fun _ holds => holds, rfl, rfl⟩, ?_⟩
  rw [ReadSession.fail, ReadSession.close, ReadEvent.handedOut_snoc]
  exact List.append_nil _

theorem readFrom_tracked {initial : Span} {getter : Getter Service} {scope : Scope}
    {size left failures : Nat} {result : Except TransferError Bytes}
    (tracked : session.Tracked initial)
    (finished : readFrom getter scope size left failures session = some (result, next)) :
    next.Tracked initial ∧ ReadEvent.handedOut next.history =
      ReadEvent.handedOut session.history ++ result.toOption.getD [] := by
  induction left using Nat.strongRecOn generalizing session failures with
  | ind left ih =>
      obtain ⟨outcome, tried, attempt, ⟨rfl, rfl⟩ | ⟨error, rfl, settled⟩⟩ :=
        readFrom_inversion finished
      · exact tryRead_tracked tracked attempt
      · obtain ⟨tracked', grown⟩ := tryRead_tracked tracked attempt
        obtain ⟨closed, same⟩ := fail_tracked tracked' failures left error
        rw [ReadTry.bytes, List.append_nil] at grown
        obtain ⟨_, rfl, rfl⟩ | ⟨fewer, rfl, _, onward⟩ := settled
        · exact ⟨closed, by simp [Except.toOption, same, grown]⟩
        · rw [← grown, ← same]
          exact ih fewer (Nat.lt_succ_self fewer) closed onward

theorem use_tracked {initial : Span} {getter : Getter Service} {scope : Scope}
    {use : ReaderUse Service} {bytes : Bytes} (tracked : session.Tracked initial)
    (finished : session.use getter scope use = some (bytes, next)) :
    next.Tracked initial ∧
      ReadEvent.handedOut next.history = ReadEvent.handedOut session.history ++ bytes := by
  cases use with
  | read size abandonAt =>
      obtain ⟨timeline, within, result, _, read, rfl⟩ := read_of_use finished
      unfold ReadSession.read at read
      split at read
      · obtain ⟨rfl, rfl⟩ := Prod.mk.inj (Option.some.inj read)
        exact ⟨tracked.retimed timeline, by simp [Except.toOption]⟩
      · have tracked' := readFrom_tracked (tracked.retimed timeline) read
        exact tracked'
  | close =>
      simp only [ReadSession.use, Option.some.injEq, Prod.mk.injEq] at finished
      obtain ⟨rfl, rfl⟩ := finished
      exact ⟨tracked.close, ReadEvent.handedOut_snoc _ _⟩
  | force =>
      simp only [ReadSession.use, Option.some.injEq, Prod.mk.injEq] at finished
      obtain ⟨rfl, rfl⟩ := finished
      exact ⟨tracked.undisturbed (force_undisturbed session), by simp⟩
  | forceAt time =>
      simp only [ReadSession.use, Option.some.injEq, Prod.mk.injEq] at finished
      obtain ⟨rfl, rfl⟩ := finished
      exact ⟨tracked.undisturbed ⟨rfl, rfl, fun _ holds => holds, rfl, rfl⟩, by simp⟩
  | meanwhile timeline service =>
      simp only [ReadSession.use, Option.some.injEq, Prod.mk.injEq] at finished
      obtain ⟨rfl, rfl⟩ := finished
      have moved := moveTo_undisturbed session timeline false
      refine ⟨tracked.undisturbed ⟨moved.span, moved.bounded, moved.holds, moved.requests,
        moved.history⟩, ?_⟩
      rw [moved.history, List.append_nil]

theorem uses_tracked {initial : Span} {getter : Getter Service} {scope : Scope}
    {uses : List (ReaderUse Service)} {bytes : Bytes} (tracked : session.Tracked initial)
    (finished : session.uses getter scope uses = some (bytes, next)) :
    next.Tracked initial ∧
      ReadEvent.handedOut next.history = ReadEvent.handedOut session.history ++ bytes := by
  induction uses generalizing session bytes with
  | nil =>
      simp only [ReadSession.uses, Option.some.injEq, Prod.mk.injEq] at finished
      obtain ⟨rfl, rfl⟩ := finished
      exact ⟨tracked, by simp⟩
  | cons use later ih =>
      obtain ⟨⟨first, middle⟩, used, continued⟩ := Option.bind_eq_some_iff.mp finished
      obtain ⟨⟨others, last⟩, rest, given⟩ := Option.bind_eq_some_iff.mp continued
      simp only [pure, Option.some.injEq, Prod.mk.injEq] at given
      obtain ⟨rfl, rfl⟩ := given
      obtain ⟨tracked', grown⟩ := use_tracked tracked used
      obtain ⟨tracked'', grown'⟩ := ih tracked' rest
      exact ⟨tracked'', by rw [grown', grown, List.append_assoc]⟩

section Exhausted

variable {getter : Getter Service} {scope : Scope} {reading following : ReadSession Service}

theorem exhausted_of_undisturbed (same : Undisturbed reading following)
    (exhausted : reading.reader.isExhausted = true) : following.reader.isExhausted = true := by
  simpa only [RangeReader.isExhausted, same.span, same.bounded] using exhausted

theorem read_of_exhausted {size : Nat} {result : Except TransferError Bytes}
    (finished : reading.read getter scope size = some (result, following))
    (exhausted : reading.reader.isExhausted = true) : result = .ok [] ∧ following = reading := by
  have nothing : reading.read getter scope size = some (.ok [], reading) := by
    unfold read
    split
    · rfl
    · cases reading.reader.retries <;> simp [readFrom, tryRead, exhausted]
  rw [nothing, Option.some.injEq, Prod.mk.injEq] at finished
  exact ⟨finished.1.symm, finished.2.symm⟩

theorem use_of_exhausted {use : ReaderUse Service} {bytes : Bytes}
    (exhausted : reading.reader.isExhausted = true)
    (used : reading.use getter scope use = some (bytes, following)) :
    bytes = [] ∧ following.reader.isExhausted = true ∧
      following.requests = reading.requests ∧
      following.service = use.serviceLeft reading.service := by
  cases use with
  | read size abandonAt =>
      obtain ⟨timeline, within, result, _, finished, rfl⟩ := read_of_use used
      obtain ⟨rfl, rfl⟩ := read_of_exhausted finished exhausted
      exact ⟨rfl, exhausted, rfl, rfl⟩
  | close =>
      obtain ⟨rfl, rfl⟩ := Prod.mk.inj (Option.some.inj used)
      exact ⟨rfl, exhausted, rfl, rfl⟩
  | force =>
      obtain ⟨rfl, rfl⟩ := Prod.mk.inj (Option.some.inj used)
      exact ⟨rfl, exhausted_of_undisturbed (force_undisturbed reading) exhausted, rfl, rfl⟩
  | forceAt time =>
      obtain ⟨rfl, rfl⟩ := Prod.mk.inj (Option.some.inj used)
      exact ⟨rfl, exhausted, rfl, rfl⟩
  | meanwhile timeline service =>
      obtain ⟨rfl, rfl⟩ := Prod.mk.inj (Option.some.inj used)
      have moved := moveTo_undisturbed reading timeline false
      have exhausted' := exhausted_of_undisturbed moved exhausted
      exact ⟨rfl, exhausted', moved.requests, rfl⟩

theorem uses_ask_nothing {uses : List (ReaderUse Service)} {bytes : Bytes}
    (exhausted : reading.reader.isExhausted = true)
    (used : reading.uses getter scope uses = some (bytes, following)) :
    bytes = [] ∧ following.requests = reading.requests := by
  induction uses generalizing reading bytes with
  | nil =>
      obtain ⟨rfl, rfl⟩ := Prod.mk.inj (Option.some.inj used)
      exact ⟨rfl, rfl⟩
  | cons use later ih =>
      obtain ⟨⟨first, middle⟩, began, continued⟩ := Option.bind_eq_some_iff.mp used
      obtain ⟨⟨others, last⟩, rest, given⟩ := Option.bind_eq_some_iff.mp continued
      obtain ⟨rfl, rfl⟩ := Prod.mk.inj (Option.some.inj given)
      obtain ⟨rfl, exhausted', kept, _⟩ := use_of_exhausted exhausted began
      obtain ⟨rfl, kept'⟩ := ih exhausted' rest
      exact ⟨rfl, kept'.trans kept⟩

end Exhausted

end ReadSession

end BlobTransfer
