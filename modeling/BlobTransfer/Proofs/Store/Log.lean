import BlobTransfer.Proofs.Store.Calls
import BlobTransfer.Proofs.Store.Version
import BlobTransfer.Store.Log

/-!
What a store does over any calls. A call that is refused changes nothing of the blob; one that
writes it gives it an entity tag that no version had before, so that of all commits that are made
for one version of the blob a single one comes through.
-/

namespace BlobTransfer

namespace BlobStore

variable {store : BlobStore} {requests : List StoreRequest}

/-- What an answered call has done: nothing to the blob, or a new version of it. -/
inductive Effect (store : BlobStore) (answer : StoreAnswer) (next : BlobStore) : Prop
  | kept (untagged : answer.tag? = none) (version : next.version = store.version)
      (blob : next.blob = store.blob)
  | wrote (blob : StoredBlob) (stored : next.blob = some blob)
      (tagged : answer.tag? = some blob.etag) (version : next.version = store.version + 1)
      (fresh : blob.etag = versionTag (store.version + 1))

theorem answer_effect (store : BlobStore) (request : StoreRequest) :
    Effect store (store.answer request).1 (store.answer request).2 := by
  cases request with
  | put data => exact .wrote _ rfl rfl rfl rfl
  | stage ended id data mark =>
      simp only [answer, stage]
      split
      · exact .kept rfl rfl rfl
      · split <;> exact .kept rfl rfl rfl
  | commit ended list mark =>
      by_cases commits : store.Commits ended list
      · simp only [answer, commits.commit]
        exact .wrote _ rfl rfl rfl rfl
      · obtain ⟨error, next, refused, _, blob, version⟩ := commit_of_not commits mark
        simp only [answer, refused]
        exact .kept rfl version blob
  | get ended span =>
      simp only [answer, get]
      split
      · exact .kept rfl rfl rfl
      · dsimp only
        cases store.read span <;> exact .kept rfl rfl rfl

theorem refused_kept {request : StoreRequest} {error : TransferError}
    (refused : (store.answer request).1 = .refused error) :
    (store.answer request).2.staged = store.staged ∧
      (store.answer request).2.blob = store.blob ∧
      (store.answer request).2.version = store.version := by
  cases request with
  | put data => simp [answer, put] at refused
  | stage ended id data mark =>
      simp only [answer, stage] at refused ⊢
      split
      · exact ⟨rfl, rfl, rfl⟩
      · rename_i live
        split
        · exact ⟨rfl, rfl, rfl⟩
        · rename_i named
          simp [named, StoreAnswer.ofResult] at refused
  | commit ended list mark =>
      by_cases commits : store.Commits ended list
      · simp [answer, commits.commit, StoreAnswer.ofResult] at refused
      · obtain ⟨error, next, same, kept⟩ := commit_of_not commits mark
        simp only [answer, same]
        exact kept
  | get ended span =>
      simp only [answer, get]
      split <;> exact ⟨rfl, rfl, rfl⟩

theorem answer_follows (sound : store.Sound) (request : StoreRequest) :
    (store.answer request).2.Sound ∧ (store.answer request).2.Follows store := by
  obtain ⟨_, version, blob⟩ | ⟨blob, stored, _, version, fresh⟩ := store.answer_effect request
  · exact follows_of_kept sound version blob
  · exact follows_of_write version stored fresh

theorem log_recorded {event : StoreEvent} (member : event ∈ store.log requests) :
    event.before.answer event.request = (event.answer, event.after) := by
  induction requests generalizing store with
  | nil => simp [log] at member
  | cons request later ih =>
      obtain rfl | member := List.mem_cons.mp member
      · rfl
      · exact ih member

theorem log_follows (sound : store.Sound) {event : StoreEvent}
    (member : event ∈ store.log requests) :
    event.before.Sound ∧ event.before.Follows store := by
  induction requests generalizing store with
  | nil => simp [log] at member
  | cons request later ih =>
      obtain rfl | member := List.mem_cons.mp member
      · exact ⟨sound, .refl store⟩
      · obtain ⟨sound', follows⟩ := answer_follows sound request
        obtain ⟨sound'', later⟩ := ih sound' member
        exact ⟨sound'', later.trans follows⟩

theorem log_ordered (sound : store.Sound) :
    (store.log requests).Pairwise fun earlier later => later.before.Follows earlier.after := by
  induction requests generalizing store with
  | nil => exact .nil
  | cons request later ih =>
      obtain ⟨sound', _⟩ := answer_follows sound request
      exact .cons (fun _ member => (log_follows sound' member).2) (ih sound')

end BlobStore

theorem StoreEvent.effect {store : BlobStore} {requests : List StoreRequest} {event : StoreEvent}
    (member : event ∈ store.log requests) :
    BlobStore.Effect event.before event.answer event.after := by
  have recorded := BlobStore.log_recorded member
  have effect := event.before.answer_effect event.request
  rwa [recorded] at effect

theorem StoreEvent.granted {store : BlobStore} {requests : List StoreRequest} {event : StoreEvent}
    (member : event ∈ store.log requests) {conditions : AccessConditions}
    (granted : event.granted? = some conditions) :
    conditions.allow (event.before.blob.map (·.etag)) = true ∧
      event.after.version = event.before.version + 1 := by
  have recorded := BlobStore.log_recorded member
  unfold granted? at granted
  split at granted
  · rename_i ended list mark receipt request answer
    obtain rfl := Option.some.inj granted
    rw [request, answer] at recorded
    by_cases commits : event.before.Commits ended list
    · simp only [BlobStore.answer, commits.commit, Prod.mk.injEq] at recorded
      exact ⟨commits.allowed, by rw [← recorded.2]⟩
    · obtain ⟨error, next, refused, _⟩ := BlobStore.commit_of_not commits mark
      simp [BlobStore.answer, refused, StoreAnswer.ofResult] at recorded
  · simp at granted

theorem AccessConditions.eq_of_ifMatch {conditions : AccessConditions} {etag : Option String}
    {wanted : String} (allowed : conditions.allow etag = true)
    (condition : conditions.ifMatch = some wanted) (named : wanted ≠ "*") : etag = some wanted := by
  cases etag with
  | none => simp [allow, condition] at allowed
  | some current =>
      simp only [allow, condition, named, decide_false, Bool.false_or, Bool.and_eq_true,
        decide_eq_true_eq] at allowed
      rw [allowed.1]

theorem AccessConditions.none_of_ifNoneMatch {conditions : AccessConditions}
    {etag : Option String} (allowed : conditions.allow etag = true)
    (condition : conditions.ifNoneMatch = some "*") : etag = none := by
  cases etag with
  | none => rfl
  | some current => simp [allow, condition] at allowed

theorem length_filter_le_one {events : List StoreEvent} {counted : StoreEvent → Bool}
    (exclusive : events.Pairwise fun earlier later =>
      counted earlier = true → counted later = true → False) :
    (events.filter counted).length ≤ 1 := by
  have pairs := List.pairwise_filter.mpr exclusive
  match events.filter counted, pairs with
  | [], _ | [_], _ => simp
  | _ :: second :: _, .cons apart _ => exact (apart second List.mem_cons_self).elim

namespace StoreEvent

variable {store : BlobStore} {requests : List StoreRequest} {earlier later event : StoreEvent}

theorem kept_of_refused (member : event ∈ store.log requests) {error : TransferError}
    (refused : event.answer = .refused error) :
    event.after.staged = event.before.staged ∧ event.after.blob = event.before.blob ∧
      event.after.version = event.before.version := by
  have recorded := BlobStore.log_recorded member
  have answered : (event.before.answer event.request).1 = .refused error := by
    rw [recorded]
    exact refused
  have kept := BlobStore.refused_kept answered
  rwa [recorded] at kept

theorem tagged_of_written (member : event ∈ store.log requests)
    (written : (∃ data, event.request = .put data) ∨ event.granted?.isSome) :
    ∃ blob, event.after.blob = some blob ∧ event.answer.tag? = some blob.etag := by
  obtain ⟨untagged, version, _⟩ | ⟨blob, stored, tagged, _, _⟩ := effect member
  · obtain ⟨data, put⟩ | through := written
    · have recorded := BlobStore.log_recorded member
      rw [put] at recorded
      have answered : event.answer = .written (event.before.put data).1 :=
        (congrArg Prod.fst recorded).symm
      simp [answered, StoreAnswer.tag?] at untagged
    · obtain ⟨conditions, came_through⟩ := Option.isSome_iff_exists.mp through
      have grown := (granted member came_through).2
      omega
  · exact ⟨blob, stored, tagged⟩

theorem tag_ne (earlier_member : earlier ∈ store.log requests)
    (later_member : later ∈ store.log requests) (follows : later.before.Follows earlier.after)
    {first second : String} (earlier_tag : earlier.answer.tag? = some first)
    (later_tag : later.answer.tag? = some second) : first ≠ second := by
  rintro rfl
  obtain ⟨untagged, _, _⟩ | ⟨blob, _, tagged, version, fresh⟩ := effect earlier_member
  · simp [untagged] at earlier_tag
  · obtain ⟨untagged, _, _⟩ | ⟨blob', _, tagged', _, fresh'⟩ := effect later_member
    · simp [untagged] at later_tag
    · rw [tagged, Option.some.injEq, fresh] at earlier_tag
      rw [tagged', Option.some.injEq, fresh'] at later_tag
      have same := versionTag_inj (earlier_tag.trans later_tag.symm)
      have reached := follows.version_le
      omega

theorem version_of_ifMatch (sound : store.Sound) (member : event ∈ store.log requests)
    {tag : String} (named : tag ≠ "*")
    (granted : event.granted?.any (·.ifMatch = some tag) = true) :
    tag = versionTag event.before.version ∧
      event.after.version = event.before.version + 1 := by
  obtain ⟨conditions, came_through, condition⟩ := (Option.any_eq_true _ _).mp granted
  obtain ⟨allowed, version⟩ := StoreEvent.granted member came_through
  have current := conditions.eq_of_ifMatch allowed (of_decide_eq_true condition) named
  obtain ⟨blob, stored, rfl⟩ := Option.map_eq_some_iff.mp current
  exact ⟨(BlobStore.log_follows sound member).1.tagged blob stored, version⟩

theorem version_of_ifNoneMatch (sound : store.Sound) (member : event ∈ store.log requests)
    (granted : event.granted?.any (·.ifNoneMatch = some "*") = true) :
    event.before.blob = none ∧ event.before.version = 0 ∧ event.after.version = 1 := by
  obtain ⟨conditions, came_through, condition⟩ := (Option.any_eq_true _ _).mp granted
  obtain ⟨allowed, version⟩ := StoreEvent.granted member came_through
  have nothing := conditions.none_of_ifNoneMatch allowed (of_decide_eq_true condition)
  rw [Option.map_eq_none_iff] at nothing
  have written := (BlobStore.log_follows sound member).1.written
  rw [nothing] at written
  have first : event.before.version = 0 := by simpa using written
  exact ⟨nothing, first, by omega⟩

end StoreEvent

/-- No update is lost: what fails changes nothing, a version has an entity tag of its own, and of
the commits that are made for one version, or for there being none, a single one comes through. -/
theorem store_loses_no_update (pieceSize : Nat) (requests : List StoreRequest) :
    let events := (({} : BlobStore).withPieceSize pieceSize).log requests
    (∀ event ∈ events, ∀ error, event.answer = .refused error →
      event.after.staged = event.before.staged ∧ event.after.blob = event.before.blob ∧
        event.after.version = event.before.version) ∧
    (∀ event ∈ events, (∃ data, event.request = .put data) ∨ event.granted?.isSome →
      ∃ blob, event.after.blob = some blob ∧ event.answer.tag? = some blob.etag) ∧
    (events.filterMap (·.answer.tag?)).Nodup ∧
    (∀ tag, tag ≠ "*" →
      (events.filter fun event => event.granted?.any (·.ifMatch = some tag)).length ≤ 1) ∧
    (events.filter fun event => event.granted?.any (·.ifNoneMatch = some "*")).length ≤ 1 ∧
    ∀ event ∈ events, event.granted?.any (·.ifNoneMatch = some "*") →
      event.before.blob = none := by
  intro events
  have sound := BlobStore.sound_empty pieceSize
  have ordered : events.Pairwise fun earlier later => later.before.Follows earlier.after :=
    BlobStore.log_ordered sound
  refine ⟨?_, ?_, ?_, ?_, ?_, ?_⟩
  · intro event member error refused
    exact StoreEvent.kept_of_refused member refused
  · intro event member written
    exact StoreEvent.tagged_of_written member written
  · refine List.pairwise_filterMap.mpr (ordered.imp_of_mem ?_)
    intro earlier later earlier_member later_member follows first issued second reissued
    exact StoreEvent.tag_ne earlier_member later_member follows issued reissued
  · intro tag named
    refine length_filter_le_one (ordered.imp_of_mem ?_)
    intro earlier later earlier_member later_member follows first second
    obtain ⟨rfl, grown⟩ := StoreEvent.version_of_ifMatch sound earlier_member named first
    obtain ⟨same, _⟩ := StoreEvent.version_of_ifMatch sound later_member named second
    have reached := follows.version_le
    have unchanged := versionTag_inj same
    omega
  · refine length_filter_le_one (ordered.imp_of_mem ?_)
    intro earlier later earlier_member later_member follows first second
    obtain ⟨_, _, written⟩ := StoreEvent.version_of_ifNoneMatch sound earlier_member first
    obtain ⟨_, unwritten, _⟩ := StoreEvent.version_of_ifNoneMatch sound later_member second
    have reached := follows.version_le
    omega
  · intro event member granted
    exact (StoreEvent.version_of_ifNoneMatch sound member granted).1

end BlobTransfer
