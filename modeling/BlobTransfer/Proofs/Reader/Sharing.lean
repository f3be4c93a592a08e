import BlobTransfer.Proofs.Reader.Snapshot

/-!
What a reader of a shared store hands out, however others write to the store meanwhile, and what
becomes of its requests when the blob was replaced.
-/

namespace BlobTransfer

namespace ReadSession

variable {session next : ReadSession SharedStore}

theorem Step.gets (step : Step SharedStore.getter session next) :
    ∃ more, next.service.gets = session.service.gets ++ more ∧
      ∀ get ∈ more, get.outcome.isOk = true := by
  cases step with
  | wait same kept => exact ⟨[], by rw [kept, List.append_nil], by simp⟩
  | @answer response asked unheld unexhausted answered same kept =>
      refine ⟨[⟨session.service.current, session.reader.span⟩], congrArg SharedStore.gets kept, ?_⟩
      intro get member
      obtain rfl := List.mem_singleton.mp member
      have served : session.service.current.read session.reader.span = .ok response := answered
      rw [StoreGet.outcome, served]
      rfl
  | @deliver body bytes rest waited held same kept front fits =>
      exact ⟨[], by rw [List.append_nil]; exact congrArg SharedStore.gets kept, by simp⟩
  | close => exact ⟨[], (List.append_nil _).symm, by simp⟩

theorem gets_of_steps (steps : Steps SharedStore.getter session next) :
    ∃ more, next.service.gets = session.service.gets ++ more ∧
      ∀ get ∈ more, get.outcome.isOk = true := by
  induction steps with
  | refl => exact ⟨[], (List.append_nil _).symm, by simp⟩
  | tail _ step ih =>
      obtain ⟨more, grown, served⟩ := ih
      obtain ⟨more', grown', served'⟩ := step.gets
      refine ⟨more ++ more', by rw [grown', grown, List.append_assoc], ?_⟩
      intro get member
      exact (List.mem_append.mp member).elim (served get) (served' get)

theorem Passage.gets {refusal : Option TransferError}
    (passage : Passage SharedStore.getter session refusal next) :
    ∃ more, next.service.gets = session.service.gets ++ more ∧
      ∀ get ∈ more, ∀ error, get.outcome = .error error → refusal = some error := by
  have unrefused : ∀ {more : List StoreGet}, (∀ get ∈ more, get.outcome.isOk = true) →
      ∀ get ∈ more, ∀ error, get.outcome ≠ .error error := by
    intro more served get member error refused
    have contrary := served get member
    simp [refused, Except.isOk, Except.toBool] at contrary
  cases passage with
  | plain steps =>
      obtain ⟨more, grown, served⟩ := gets_of_steps steps
      exact ⟨more, grown, fun get member error refused =>
        absurd refused (unrefused served get member error)⟩
  | @refused asking error _ steps refused =>
      obtain ⟨more, grown, served⟩ := gets_of_steps steps
      refine ⟨more ++ [⟨asking.service.current, asking.reader.span⟩], ?_, ?_⟩
      · rw [← List.append_assoc, ← grown]
        exact congrArg SharedStore.gets refused.kept
      · intro get member other outcome
        obtain old | new := List.mem_append.mp member
        · exact absurd outcome (unrefused served get old other)
        · obtain rfl := List.mem_singleton.mp new
          have given : asking.service.current.read asking.reader.span = .error error :=
            refused.cause.resolve_right (fun later => later rfl)
          rw [StoreGet.outcome, given, Except.error.injEq] at outcome
          rw [outcome]

section Exhausted

variable {Service : Type} {getter : Getter Service} {scope : Scope}
  {reading following : ReadSession Service}

theorem uses_of_exhausted {uses : List (ReaderUse Unit)} {bytes : Bytes}
    (exhausted : reading.reader.isExhausted = true)
    (used : reading.usesSparing getter scope uses = some (bytes, following)) :
    bytes = [] ∧ following.reader.isExhausted = true ∧ following.service = reading.service := by
  induction uses generalizing reading bytes with
  | nil =>
      obtain ⟨rfl, rfl⟩ := Prod.mk.inj (Option.some.inj used)
      exact ⟨rfl, exhausted, rfl⟩
  | cons use later ih =>
      obtain ⟨⟨first, middle⟩, began, continued⟩ := Option.bind_eq_some_iff.mp used
      obtain ⟨⟨others, last⟩, rest, given⟩ := Option.bind_eq_some_iff.mp continued
      obtain ⟨rfl, rfl⟩ := Prod.mk.inj (Option.some.inj given)
      obtain ⟨rfl, exhausted', _, kept⟩ := use_of_exhausted exhausted began
      have spared : middle.service = reading.service := by
        rw [kept]
        cases use <;> rfl
      obtain ⟨rfl, exhausted'', kept'⟩ := ih exhausted' rest
      exact ⟨rfl, exhausted'', kept'.trans spared⟩

end Exhausted

theorem blob_of_served {get : StoreGet} (served : get.outcome.isOk = true) :
    ∃ blob, get.store.blob = some blob := by
  cases outcome : get.outcome with
  | ok response =>
      obtain ⟨blob, stored, _⟩ := BlobStore.of_read outcome
      exact ⟨blob, stored⟩
  | error error => simp [outcome, Except.isOk, Except.toBool] at served

theorem anchored_of_request {initial : Span} {scope : Scope} (anchored : session.Anchored initial)
    (unheld : session.reader.body = none) (unread : ReadEvent.handedOut session.history = [])
    (requested : session.request SharedStore.getter scope = some (.ok (), next)) :
    (next.Anchored initial ∧ ReadEvent.handedOut next.history = []) ∨
      (next.reader.isExhausted = true ∧ ∃ pin, next.service.Logged pin) := by
  cases exhausted : session.reader.isExhausted with
  | false =>
      obtain ⟨refusal, passage, _⟩ := request_passage unheld exhausted requested
      have same := (request_tracked anchored.tracked unheld exhausted requested).2
      exact .inl ⟨anchored.passage passage, same.trans unread⟩
  | true =>
      obtain ⟨_, _, ended, _⟩ |
        ⟨_, asked, same, kept, ⟨_, contrary, _⟩ | ⟨response, _, rfl, answered⟩⟩ :=
        request_cases requested
      · simp at ended
      · simp at contrary
      · have ended : asked.reader.isExhausted = true := exhausted_of_undisturbed same exhausted
        refine .inr ⟨ended, asked.reader.span.etag.or response.etag, ?_⟩
        change asked.service.Logged _
        rw [kept, same.span]
        exact anchored.logged.answer answered

/-- Whatever others do to the store, all that a reader hands out is in the front of one version of
the blob from the offset on, the version of any of its responses. Once there was a response, the
store refuses each request that comes to another version, and that is the result of the read. -/
theorem reader_keeps_to_one_version {size : Nat} {ahead : List (List StoreCall)}
    {timeline : Timeline} {opening scope : Scope} {initial : Span} {retries : Nat}
    {session final : ReadSession SharedStore} {uses : List (ReaderUse Unit)} {bytes : Bytes}
    (opened : session = start timeline { store := ({} : BlobStore).withPieceSize size, ahead } none
        initial retries ∨
      (start timeline { store := ({} : BlobStore).withPieceSize size, ahead } none initial
        retries).request SharedStore.getter opening = some (.ok (), session))
    (used : session.usesSparing SharedStore.getter scope uses = some (bytes, final)) :
    ((∀ get ∈ final.service.gets, get.outcome.isOk = false) → bytes = []) ∧
    (∀ get ∈ final.service.gets, get.outcome.isOk = true →
      ∃ blob, get.store.blob = some blob ∧ bytes <+: blob.data.drop initial.offset) ∧
    (final.service.gets.Pairwise fun get later => get.outcome.isOk = true →
      (later.store.version = get.store.version → later.store.blob = get.store.blob) ∧
      (later.store.version ≠ get.store.version →
        later.outcome = .error (.status .preconditionFailed none))) ∧
    ∀ attempt size result next,
      final.read SharedStore.getter attempt size = some (result, next) →
      ∃ more, next.service.gets = final.service.gets ++ more ∧
        ∀ get ∈ more, ∀ error, get.outcome = .error error → result = .error error := by
  have fresh := anchored_start timeline size ahead initial retries
  obtain ⟨anchored, unread⟩ | ⟨exhausted, pin, logged⟩ :
      (session.Anchored initial ∧ ReadEvent.handedOut session.history = []) ∨
        (session.reader.isExhausted = true ∧ ∃ pin, session.service.Logged pin) := by
    obtain rfl | requested := opened
    · exact .inl ⟨fresh, rfl⟩
    · exact anchored_of_request fresh rfl rfl requested
  · obtain ⟨anchored, grown⟩ := anchored.uses used
    rw [unread, List.nil_append] at grown
    refine ⟨fun unserved => grown ▸ anchored.handedOut_nil unserved, ?_,
      anchored.logged.refused, ?_⟩
    · intro get member served
      obtain ⟨blob, stored⟩ := blob_of_served served
      exact ⟨blob, stored, grown ▸ anchored.handedOut_prefix member served stored⟩
    · intro attempt size result next finished
      obtain ⟨refusal, passage, refused⟩ := read_passage finished
      obtain ⟨more, grown, last⟩ := passage.gets
      exact ⟨more, grown, fun get member error outcome =>
        refused error (last get member error outcome)⟩
  · obtain ⟨rfl, exhausted, kept⟩ := uses_of_exhausted exhausted used
    refine ⟨fun _ => rfl, ?_, kept ▸ logged.refused, ?_⟩
    · intro get member served
      obtain ⟨blob, stored⟩ := blob_of_served served
      exact ⟨blob, stored, List.nil_prefix⟩
    · intro attempt size result next finished
      obtain ⟨_, rfl⟩ := read_of_exhausted finished exhausted
      exact ⟨[], (List.append_nil _).symm, by simp⟩

def replacing : List (List StoreCall) := [[.put [1, 2, 3, 4]], [.put [5, 6, 7, 8]]]

theorem replaced_blob_is_refused :
    ∃ session final, (start { scopes := { fresh := 1 } }
        { store := ({} : BlobStore).withPieceSize 2, ahead := replacing } none { offset := 1 }
        3).request SharedStore.getter { lineage := [0] } = some (.ok (), session) ∧
      session.usesSparing SharedStore.getter { lineage := [0] }
        [.read 9 none, .force, .read 9 none] = some ([2, 3], final) ∧
      final.service.gets.map (fun get => (get.store.version, get.outcome.isOk)) =
        [(1, true), (2, false)] ∧
      ∃ get ∈ final.service.gets, ∃ blob, get.store.blob = some blob ∧
        [2, 3] <+: blob.data.drop 1 := by
  have ran : ((start { scopes := { fresh := 1 } }
      { store := ({} : BlobStore).withPieceSize 2, ahead := replacing } none { offset := 1 }
      3).request SharedStore.getter { lineage := [0] }).bind (fun (ready, session) =>
        (session.usesSparing SharedStore.getter { lineage := [0] }
          [.read 9 none, .force, .read 9 none]).map fun (bytes, final) =>
            (ready.isOk, bytes, final.service.gets.map fun get =>
              (get.store.version, get.outcome.isOk))) =
      some (true, [2, 3], [(1, true), (2, false)]) := by
    with_unfolding_all rfl
  obtain ⟨⟨ready, session⟩, opened, ran⟩ := Option.bind_eq_some_iff.mp ran
  obtain ⟨⟨bytes, final⟩, used, seen⟩ := Option.map_eq_some_iff.mp ran
  simp only [Prod.mk.injEq] at seen
  obtain ⟨succeeded, rfl, gets⟩ := seen
  cases ready with
  | error error => simp [Except.isOk, Except.toBool] at succeeded
  | ok done =>
      obtain ⟨_, kept, _⟩ := reader_keeps_to_one_version (.inr opened) used
      obtain ⟨get, member, seen⟩ := List.mem_map.mp (gets ▸ List.mem_cons_self)
      obtain ⟨blob, stored, front⟩ := kept get member (Prod.mk.inj seen).2
      exact ⟨session, final, opened, used, gets, get, member, blob, stored, front⟩

end ReadSession

end BlobTransfer
