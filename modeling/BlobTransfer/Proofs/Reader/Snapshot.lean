import BlobTransfer.Proofs.Reader.Delivery
import BlobTransfer.Proofs.Reader.Steps
import BlobTransfer.Proofs.Store.Version
import Mathlib.Data.List.Induction
import Mathlib.Data.List.Infix
import Mathlib.Data.List.Pairwise

/-!
A reader of a store that others write to. All that it hands out is of one version of the blob, that
of its first response; the store refuses its requests as soon as there is another one.
-/

namespace BlobTransfer

theorem Span.part_prefix (span : Span) (data : Bytes) :
    span.part data <+: data.drop span.offset := by
  unfold Span.part
  split
  · exact List.take_prefix _ _
  · exact List.prefix_refl _

namespace ReadEvent

/-- Every response had what was wanted then of the same data. -/
def Faithful (span : Span) (data : Bytes) (history : List ReadEvent) : Prop :=
  ∀ past response later, history = past ++ .answered response :: later →
    response.body.readable = (span.after past).part data

theorem Coherent.front {span : Span} {past later : List ReadEvent}
    (coherent : Coherent span (past ++ later)) : Coherent span past := by
  intro before event between split
  refine coherent before event (between ++ later) ?_
  rw [split, List.append_assoc, List.cons_append]

theorem Faithful.front {span : Span} {data : Bytes} {past later : List ReadEvent}
    (faithful : Faithful span data (past ++ later)) : Faithful span data past := by
  intro before response between split
  refine faithful before response (between ++ later) ?_
  rw [split, List.append_assoc, List.cons_append]

theorem Coherent.handedOut_prefix {span : Span} {data : Bytes} {history : List ReadEvent}
    (coherent : Coherent span history) (faithful : Faithful span data history) :
    handedOut history <+: data.drop span.offset ∧
      ∀ content, unread history = some content →
        content <+: data.drop (span.offset + (handedOut history).length) := by
  induction history using List.reverseRecOn with
  | nil => exact ⟨List.nil_prefix, by simp [unread]⟩
  | append_singleton past event ih =>
      obtain ⟨handed, held⟩ := ih coherent.front faithful.front
      have follows := coherent past event [] rfl
      rw [handedOut_snoc, unread_snoc]
      cases event with
      | asked wanted =>
          simp only [bytes, List.append_nil]
          exact ⟨handed, held⟩
      | answered response =>
          simp only [bytes, List.append_nil, unreadAfter, Option.some.injEq, forall_eq']
          refine ⟨handed, ?_⟩
          rw [faithful past response [] rfl]
          exact Span.part_prefix (span.after past) data
      | delivered given =>
          obtain ⟨content, unread, front⟩ := follows
          have ahead := held content unread
          simp only [bytes, unread, unreadAfter, Option.map_some, Option.some.injEq, forall_eq',
            List.length_append]
          constructor
          · obtain ⟨rest, whole⟩ := handed
            rw [← List.drop_drop, ← whole, List.drop_left] at ahead
            rw [← whole]
            exact (List.prefix_append_right_inj _).mpr (front.trans ahead)
          · rw [← Nat.add_assoc, ← List.drop_drop]
            exact ahead.drop _
      | discarded =>
          simpa [bytes, unreadAfter] using handed

end ReadEvent

structure SharedStore.Logged (shared : SharedStore) (pin : Option String) : Prop where
  sound : shared.store.Sound
  followed : ∀ get ∈ shared.gets, get.store.Sound ∧ shared.store.Follows get.store
  pinned : ∀ get ∈ shared.gets, get.outcome.isOk = true →
    pin = some (versionTag get.store.version)
  ordered : shared.gets.Pairwise fun get later => later.store.Follows get.store ∧
    (get.outcome.isOk = true → later.span.etag = some (versionTag get.store.version))

namespace SharedStore

variable {shared : SharedStore} {span : Span} {pin : Option String}

theorem current_follows (sound : shared.store.Sound) :
    shared.current.Sound ∧ shared.current.Follows shared.store :=
  BlobStore.performs_follow sound _

theorem Logged.get (logged : shared.Logged span.etag)
    (kept : ∀ tag, span.etag = some tag → pin = some tag)
    (pinned : (shared.current.read span).isOk = true →
      pin = some (versionTag shared.current.version)) : (getter shared span).2.Logged pin := by
  obtain ⟨sound, follows⟩ := current_follows logged.sound
  obtain ⟨sound', follows'⟩ : (shared.current.get none span).2.Sound ∧
      (shared.current.get none span).2.Follows shared.current :=
    BlobStore.follows_of_kept sound rfl rfl
  refine ⟨sound', ?_, ?_, ?_⟩
  · intro get member
    obtain old | new := List.mem_append.mp member
    · obtain ⟨stored, earlier⟩ := logged.followed get old
      exact ⟨stored, follows'.trans (follows.trans earlier)⟩
    · obtain rfl := List.mem_singleton.mp new
      exact ⟨sound, follows'⟩
  · intro get member served
    obtain old | new := List.mem_append.mp member
    · exact kept _ (logged.pinned get old served)
    · obtain rfl := List.mem_singleton.mp new
      exact pinned served
  · refine List.pairwise_append.mpr ⟨logged.ordered, List.pairwise_singleton _ _, ?_⟩
    intro get old later new
    obtain rfl := List.mem_singleton.mp new
    exact ⟨follows.trans (logged.followed get old).2, logged.pinned get old⟩

theorem Logged.answer {response : LiveResponse} (logged : shared.Logged span.etag)
    (answered : shared.current.read span = .ok response) :
    (getter shared span).2.Logged (span.etag.or response.etag) := by
  obtain ⟨blob, stored, tagged, pinned, _⟩ := BlobStore.of_read answered
  refine logged.get (fun tag wanted => by rw [wanted, Option.some_or]) ?_
  intro _
  have version := (current_follows logged.sound).1.tagged blob stored
  cases wanted : span.etag with
  | none => rw [Option.none_or, tagged, version]
  | some tag => rw [Option.some_or, pinned tag wanted, version]

theorem Logged.blob_eq (logged : shared.Logged pin) {get other : StoreGet}
    (member : get ∈ shared.gets) (served : get.outcome.isOk = true)
    (member' : other ∈ shared.gets) (served' : other.outcome.isOk = true) :
    get.store.blob = other.store.blob := by
  have symmetric : Std.Symm fun get other : StoreGet =>
      get.store.version = other.store.version → get.store.blob = other.store.blob :=
    ⟨fun _ _ agree same => (agree same.symm).symm⟩
  have ordered : shared.gets.Pairwise fun get other =>
      get.store.version = other.store.version → get.store.blob = other.store.blob := by
    refine logged.ordered.imp ?_
    rintro get later ⟨follows, _⟩ same
    exact (follows.same same.symm).symm
  refine ordered.forall_of_forall (fun _ _ _ => rfl) member member' (versionTag_inj ?_)
  rw [← Option.some.injEq, ← logged.pinned get member served,
    ← logged.pinned other member' served']

theorem Logged.refused (logged : shared.Logged pin) :
    shared.gets.Pairwise fun get later => get.outcome.isOk = true →
      (later.store.version = get.store.version → later.store.blob = get.store.blob) ∧
      (later.store.version ≠ get.store.version →
        later.outcome = .error (.status .preconditionFailed none)) := by
  refine logged.ordered.imp_of_mem ?_
  rintro get later member member' ⟨follows, pinned⟩ served
  refine ⟨follows.same, ?_⟩
  intro other
  have sound := (logged.followed get member).1
  have sound' := (logged.followed later member').1
  obtain ⟨response, answered⟩ : ∃ response, get.outcome = .ok response := by
    cases outcome : get.outcome with
    | ok response => exact ⟨response, rfl⟩
    | error error => simp [outcome, Except.isOk, Except.toBool] at served
  obtain ⟨blob, stored, _⟩ := BlobStore.of_read answered
  have begun := sound.written.mp (by rw [stored, Option.isSome_some])
  obtain ⟨current, stored'⟩ := Option.isSome_iff_exists.mp
    (sound'.written.mpr (Nat.lt_of_lt_of_le begun follows.version_le))
  refine BlobStore.read_of_other stored' (pinned served) ?_
  rw [sound'.tagged current stored']
  exact fun same => other (versionTag_inj same).symm

theorem logged_empty (size : Nat) (ahead : List (List StoreCall)) (pin : Option String) :
    Logged { store := ({} : BlobStore).withPieceSize size, ahead } pin :=
  ⟨BlobStore.sound_empty size, by simp, by simp, List.Pairwise.nil⟩

end SharedStore

namespace ReadEvent

def Quoted (initial : Span) (gets : List StoreGet) (history : List ReadEvent) : Prop :=
  ∀ past response later, history = past ++ .answered response :: later →
    ∃ get ∈ gets, get.outcome = .ok response ∧ get.span = initial.after past

theorem Quoted.more {initial : Span} {gets : List StoreGet} {history : List ReadEvent}
    (quoted : Quoted initial gets history) (others : List StoreGet) :
    Quoted initial (gets ++ others) history := by
  intro past response later split
  obtain ⟨get, member, found⟩ := quoted past response later split
  exact ⟨get, List.mem_append_left others member, found⟩

theorem Quoted.snoc {initial : Span} {gets : List StoreGet} {past : List ReadEvent}
    {event : ReadEvent} (quoted : Quoted initial gets past)
    (last : ∀ response, event = .answered response →
      ∃ get ∈ gets, get.outcome = .ok response ∧ get.span = initial.after past) :
    Quoted initial gets (past ++ [event]) := by
  intro before response later split
  obtain rfl | ⟨between, final, rfl⟩ := List.eq_nil_or_concat later
  · obtain ⟨rfl, same⟩ := List.append_inj' split rfl
    exact last response (List.singleton_inj.mp same)
  · rw [List.concat_eq_append, ← List.cons_append, ← List.append_assoc] at split
    exact quoted before response between (List.append_inj' split rfl).1

theorem Quoted.faithful {initial : Span} {shared : SharedStore} {pin : Option String}
    {history : List ReadEvent} (quoted : Quoted initial shared.gets history)
    (logged : shared.Logged pin) {get : StoreGet} (member : get ∈ shared.gets)
    (served : get.outcome.isOk = true) {blob : StoredBlob} (stored : get.store.blob = some blob) :
    Faithful initial blob.data history := by
  intro past response later split
  obtain ⟨other, member', answered, wanted⟩ := quoted past response later split
  obtain ⟨blob', stored', _, _, content⟩ := BlobStore.of_read answered
  have served' : other.outcome.isOk = true := by rw [answered]; rfl
  have same := logged.blob_eq member served member' served'
  rw [stored, stored', Option.some.injEq] at same
  rw [content, same, wanted]

end ReadEvent

namespace ReadSession

structure Anchored (initial : Span) (session : ReadSession SharedStore) : Prop where
  tracked : session.Tracked initial
  logged : session.service.Logged session.reader.span.etag
  quoted : ReadEvent.Quoted initial session.service.gets session.history

variable {initial : Span} {session next : ReadSession SharedStore}

theorem Anchored.undisturbed (anchored : session.Anchored initial)
    (same : Undisturbed session next) (kept : next.service = session.service) :
    next.Anchored initial := by
  refine ⟨anchored.tracked.undisturbed same, ?_, ?_⟩
  · rw [kept, same.span]
    exact anchored.logged
  · rw [kept, same.history]
    exact anchored.quoted

theorem Anchored.asked (anchored : session.Anchored initial)
    (same : Undisturbed (session.ask (SharedStore.getter session.service session.reader.span).2)
      next)
    (kept : next.service = (SharedStore.getter session.service session.reader.span).2) :
    ReadEvent.Quoted initial next.service.gets next.history := by
  rw [kept, same.history]
  exact (anchored.quoted.more _).snoc (by simp)

theorem Anchored.refuse {error : TransferError} (anchored : session.Anchored initial)
    (refused : Refused SharedStore.getter session error next) : next.Anchored initial := by
  have unserved := refused.cause.resolve_right (fun later => later rfl)
  refine ⟨?_, ?_, anchored.asked refused.same refused.kept⟩
  · exact (anchored.tracked.ask refused.unheld refused.unexhausted _).undisturbed refused.same
  · rw [refused.kept, refused.same.span]
    refine anchored.logged.get (fun _ pinned => pinned) ?_
    intro served
    have error : session.service.current.read session.reader.span = .error error := unserved
    simp [error, Except.isOk, Except.toBool] at served

theorem Anchored.answer {asked : ReadSession SharedStore} {response : LiveResponse}
    (anchored : session.Anchored initial) (unheld : session.reader.body = none)
    (unexhausted : session.reader.isExhausted = false)
    (answered : (SharedStore.getter session.service session.reader.span).1.outcome = .ok response)
    (same : Undisturbed (session.ask (SharedStore.getter session.service session.reader.span).2)
      asked)
    (kept : asked.service = (SharedStore.getter session.service session.reader.span).2) :
    (asked.install response).Anchored initial := by
  have tracked := (anchored.tracked.ask unheld unexhausted _).undisturbed same
  have history : asked.history = session.history ++ [.asked session.reader.span] := same.history
  have span : asked.reader.span = session.reader.span := same.span
  refine ⟨tracked.install (same.unheld unheld) (.inr ⟨_, _, history⟩) response, ?_, ?_⟩
  · change asked.service.Logged (asked.reader.span.etag.or response.etag)
    rw [kept, span]
    exact anchored.logged.answer answered
  · refine (anchored.asked same kept).snoc ?_
    rintro _ ⟨⟩
    refine ⟨⟨session.service.current, session.reader.span⟩, ?_, answered, ?_⟩
    · rw [kept]
      exact List.mem_append_right _ (List.mem_singleton_self _)
    · rw [history, ReadEvent.after_quiet _ _ rfl rfl]
      exact anchored.tracked.stands

theorem Anchored.step (anchored : session.Anchored initial)
    (step : Step SharedStore.getter session next) : next.Anchored initial := by
  cases step with
  | wait same kept => exact anchored.undisturbed same kept
  | answer unheld unexhausted answered same kept =>
      exact anchored.answer unheld unexhausted answered same kept
  | @deliver body bytes rest waited held same kept front fits =>
      have waiting := anchored.undisturbed same kept
      have holds := anchored.tracked.holds
      simp only [Holds, held] at holds
      obtain ⟨content, unread, readable⟩ := holds
      refine ⟨?_, waiting.logged, waiting.quoted.snoc (by simp)⟩
      refine waiting.tracked.deliver (same.history ▸ unread) (front ▸ readable) ?_
      rw [same.span]
      exact fits
  | close => exact ⟨anchored.tracked.close, anchored.logged, anchored.quoted.snoc (by simp)⟩

theorem Anchored.passage {refusal : Option TransferError} (anchored : session.Anchored initial)
    (passage : Passage SharedStore.getter session refusal next) : next.Anchored initial :=
  passage.preserve (Anchored initial) anchored .step .refuse

theorem Anchored.read {scope : Scope} {size : Nat} {result : Except TransferError Bytes}
    (anchored : session.Anchored initial)
    (finished : session.read SharedStore.getter scope size = some (result, next)) :
    next.Anchored initial := by
  obtain ⟨_, passage, _⟩ := read_passage finished
  exact anchored.passage passage

theorem Anchored.use {scope : Scope} {use : ReaderUse Unit} {bytes : Bytes}
    (anchored : session.Anchored initial)
    (used : session.use SharedStore.getter scope (use.sparing session.service) =
      some (bytes, next)) : next.Anchored initial := by
  cases use with
  | read size abandonAt =>
      obtain ⟨timeline, within, result, _, finished, rfl⟩ := read_of_use used
      have retimed : Anchored initial { session with timeline } :=
        anchored.undisturbed ⟨rfl, rfl, fun _ holds => holds, rfl, rfl⟩ rfl
      exact retimed.read finished
  | close =>
      obtain ⟨_, rfl⟩ := Prod.mk.inj (Option.some.inj used)
      exact anchored.step .close
  | force =>
      obtain ⟨_, rfl⟩ := Prod.mk.inj (Option.some.inj used)
      exact anchored.undisturbed (force_undisturbed session) rfl
  | forceAt time =>
      obtain ⟨_, rfl⟩ := Prod.mk.inj (Option.some.inj used)
      exact anchored.undisturbed ⟨rfl, rfl, fun _ holds => holds, rfl, rfl⟩ rfl
  | meanwhile timeline service =>
      obtain ⟨_, rfl⟩ := Prod.mk.inj (Option.some.inj used)
      have moved := moveTo_undisturbed session timeline false
      exact anchored.undisturbed ⟨moved.span, moved.bounded, moved.holds, moved.requests,
        moved.history⟩ rfl

theorem Anchored.uses {scope : Scope} {uses : List (ReaderUse Unit)} {bytes : Bytes}
    (anchored : session.Anchored initial)
    (used : session.usesSparing SharedStore.getter scope uses = some (bytes, next)) :
    next.Anchored initial ∧
      ReadEvent.handedOut next.history = ReadEvent.handedOut session.history ++ bytes := by
  induction uses generalizing session bytes with
  | nil =>
      obtain ⟨rfl, rfl⟩ := Prod.mk.inj (Option.some.inj used)
      exact ⟨anchored, (List.append_nil _).symm⟩
  | cons use later ih =>
      obtain ⟨⟨first, middle⟩, began, continued⟩ := Option.bind_eq_some_iff.mp used
      obtain ⟨⟨others, last⟩, rest, given⟩ := Option.bind_eq_some_iff.mp continued
      obtain ⟨rfl, rfl⟩ := Prod.mk.inj (Option.some.inj given)
      obtain ⟨_, grown⟩ := use_tracked anchored.tracked began
      obtain ⟨anchored', grown'⟩ := ih (anchored.use began) rest
      exact ⟨anchored', by rw [grown', grown, List.append_assoc]⟩

theorem anchored_start (timeline : Timeline) (size : Nat) (ahead : List (List StoreCall))
    (initial : Span) (retries : Nat) :
    (start timeline { store := ({} : BlobStore).withPieceSize size, ahead : SharedStore } none
      initial retries).Anchored initial :=
  ⟨tracked_start _ _ _ _ _, SharedStore.logged_empty _ _ _, by
    intro past response later split
    simp [start] at split⟩

theorem Anchored.handedOut_nil (anchored : session.Anchored initial)
    (unserved : ∀ get ∈ session.service.gets, get.outcome.isOk = false) :
    ReadEvent.handedOut session.history = [] := by
  have faithful : ReadEvent.Faithful initial [] session.history := by
    intro past response later split
    obtain ⟨get, member, answered, _⟩ := anchored.quoted past response later split
    have contrary := unserved get member
    simp [answered, Except.isOk, Except.toBool] at contrary
  have front := (anchored.tracked.coherent.handedOut_prefix faithful).1
  rwa [List.drop_nil, List.prefix_nil] at front

theorem Anchored.handedOut_prefix (anchored : session.Anchored initial) {get : StoreGet}
    (member : get ∈ session.service.gets) {blob : StoredBlob}
    (served : get.outcome.isOk = true) (stored : get.store.blob = some blob) :
    ReadEvent.handedOut session.history <+: blob.data.drop initial.offset :=
  (anchored.tracked.coherent.handedOut_prefix
    (anchored.quoted.faithful anchored.logged member served stored)).1

end ReadSession

end BlobTransfer
