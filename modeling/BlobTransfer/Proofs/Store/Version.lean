import BlobTransfer.Proofs.Reader.Serving
import BlobTransfer.Reader.Sharing

/-!
Versions of a blob. Whatever is done to a store, its version never goes back, the blob of a version
stays the same, and the entity tag tells one version from all others.
-/

namespace BlobTransfer

def hexDigitValue (digit : Char) : Nat :=
  if digit.toNat ≤ 57 then digit.toNat - 48 else digit.toNat - 55

def hexValue (digits : List Char) : Nat :=
  digits.foldl (fun value digit => 16 * value + hexDigitValue digit) 0

theorem hexDigitValue_digitChar {digit : Nat} (small : digit < 16) :
    hexDigitValue (Nat.digitChar digit).toUpper = digit := by
  revert digit
  decide

theorem hexValue_toDigits (number : Nat) :
    hexValue ((Nat.toDigits 16 number).map Char.toUpper) = number := by
  induction number using Nat.strongRecOn with
  | ind number ih =>
      rw [Nat.toDigits_eq_if (by decide)]
      split
      · rename_i small
        simp [hexValue, hexDigitValue_digitChar small]
      · rename_i large
        have front := ih (number / 16) (by omega)
        have last := hexDigitValue_digitChar (Nat.mod_lt number (by decide : 0 < 16))
        simp only [hexValue] at front
        simp only [hexValue, List.map_append, List.map_cons, List.map_nil, List.foldl_append,
          List.foldl_cons, List.foldl_nil, front, last]
        omega

theorem hexValue_pad (count : Nat) (digits : List Char) :
    hexValue (List.replicate count '0' ++ digits) = hexValue digits := by
  induction count with
  | zero => rfl
  | succ count ih => exact ih

theorem versionTag_inj {left right : Nat} (same : versionTag left = versionTag right) :
    left = right := by
  simp only [versionTag, String.append_left_inj, String.append_right_inj] at same
  have value := congrArg hexValue (String.ofList_injective same)
  simpa only [hexValue_pad, hexValue_toDigits] using value

namespace BlobStore

/-- The store has a blob from its first version on, with the entity tag of its version. -/
structure Sound (store : BlobStore) : Prop where
  tagged : ∀ blob, store.blob = some blob → blob.etag = versionTag store.version
  written : store.blob.isSome = true ↔ 0 < store.version

structure Follows (next store : BlobStore) : Prop where
  version_le : store.version ≤ next.version
  same : next.version = store.version → next.blob = store.blob

theorem Follows.refl (store : BlobStore) : store.Follows store := ⟨Nat.le_refl _, fun _ => rfl⟩

theorem Follows.trans {store next last : BlobStore} (later : last.Follows next)
    (follows : next.Follows store) : last.Follows store := by
  have first := follows.version_le
  have second := later.version_le
  refine ⟨by omega, ?_⟩
  intro unchanged
  exact (later.same (by omega)).trans (follows.same (by omega))

theorem follows_of_write {store next : BlobStore} {blob : StoredBlob}
    (counted : next.version = store.version + 1) (stored : next.blob = some blob)
    (tagged : blob.etag = versionTag (store.version + 1)) :
    next.Sound ∧ next.Follows store := by
  refine ⟨⟨?_, ?_⟩, by omega, by omega⟩
  · intro other same
    rw [stored, Option.some.injEq] at same
    rw [← same, tagged, counted]
  · simp [stored, counted]

theorem follows_of_kept {store next : BlobStore} (sound : store.Sound)
    (version : next.version = store.version) (blob : next.blob = store.blob) :
    next.Sound ∧ next.Follows store := by
  refine ⟨⟨?_, ?_⟩, Nat.le_of_eq version.symm, fun _ => blob⟩
  · rw [version, blob]
    exact sound.tagged
  · rw [version, blob]
    exact sound.written

theorem stage_follows {store : BlobStore} (sound : store.Sound) (ended : Option ScopeEnd)
    (id : String) (data : Bytes) (mark : ServiceMark) :
    (store.stage ended id data mark).2.Sound ∧
      (store.stage ended id data mark).2.Follows store := by
  unfold stage
  split
  · exact follows_of_kept sound rfl rfl
  · split <;> exact follows_of_kept sound rfl rfl

theorem commit_follows {store : BlobStore} (sound : store.Sound) (ended : Option ScopeEnd)
    (list : BlockList) (mark : ServiceMark) :
    (store.commit ended list mark).2.Sound ∧ (store.commit ended list mark).2.Follows store := by
  unfold commit
  split
  · exact follows_of_kept sound rfl rfl
  · dsimp only
    split
    · split
      · exact follows_of_kept sound rfl rfl
      · exact follows_of_write rfl rfl rfl
    · exact follows_of_kept sound rfl rfl

theorem perform_follows {store : BlobStore} (sound : store.Sound) (call : StoreCall) :
    (store.perform call).Sound ∧ (store.perform call).Follows store := by
  cases call with
  | put data => exact follows_of_write rfl rfl rfl
  | stage ended id data mark => exact stage_follows sound ended id data mark
  | commit ended list mark => exact commit_follows sound ended list mark

theorem performs_follow {store : BlobStore} (sound : store.Sound) (calls : List StoreCall) :
    (calls.foldl perform store).Sound ∧ (calls.foldl perform store).Follows store := by
  induction calls generalizing store with
  | nil => exact ⟨sound, .refl store⟩
  | cons call later ih =>
      obtain ⟨sound', follows⟩ := perform_follows sound call
      obtain ⟨sound'', later⟩ := ih sound'
      exact ⟨sound'', later.trans follows⟩

theorem sound_empty (size : Nat) : (({} : BlobStore).withPieceSize size).Sound :=
  ⟨by simp [withPieceSize], by simp [withPieceSize]⟩

theorem of_read {store : BlobStore} {span : Span} {response : LiveResponse}
    (answered : store.read span = .ok response) :
    ∃ blob, store.blob = some blob ∧ response.etag = some blob.etag ∧
      (∀ tag, span.etag = some tag → tag = blob.etag) ∧
      response.body.readable = span.part blob.data := by
  cases stored : store.blob with
  | none => simp [read, stored] at answered
  | some blob =>
      have pinned : ∀ tag, span.etag = some tag → tag = blob.etag := by
        intro tag wanted
        by_cases same : tag = blob.etag
        · exact same
        · simp [read, stored, wanted, same] at answered
      rw [read_of_unchanged stored pinned] at answered
      split at answered
      · simp at answered
      · obtain rfl := Except.ok.inj answered
        exact ⟨blob, rfl, rfl, pinned, Body.readable_pieces _ _ _⟩

theorem read_of_other {store : BlobStore} {span : Span} {tag : String} {blob : StoredBlob}
    (stored : store.blob = some blob) (wanted : span.etag = some tag) (other : tag ≠ blob.etag) :
    store.read span = .error (.status .preconditionFailed none) := by
  simp [read, stored, wanted, other]

end BlobStore

end BlobTransfer
