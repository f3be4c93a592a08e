import BlobTransfer.Proofs.BlockId
import BlobTransfer.Store.Basic
import Std.Data.TreeMap.Lemmas

/-!
What the calls on a store do. A block is staged in a live scope under a name that can be one. A
commit comes through where its conditions allow it and all its blocks are staged, and then the blob
has these blocks in their order; else it leaves the blob as it was.
-/

namespace BlobTransfer.BlobStore

theorem stage_cases (store : BlobStore) (ended : Option ScopeEnd) (id : String) (data : Bytes)
    (mark : ServiceMark) :
    (∃ error, store.stage ended id data mark = (.error error, store)) ∨
      ∃ receipt, store.stage ended id data mark = (.ok receipt,
        { store with
          staged := store.staged.insert id data
          calls := { store.calls with stage := store.calls.stage + 1 } }) := by
  unfold stage
  split
  · exact .inl ⟨_, rfl⟩
  · split
    · exact .inl ⟨_, rfl⟩
    · exact .inr ⟨_, rfl⟩

theorem stage_of_live (store : BlobStore) (id : BlockId) (data : Bytes) (mark : ServiceMark) :
    store.stage none id.text data mark = (.ok { requestId := some mark.requestId.text },
      { store with
        staged := store.staged.insert id.text data
        calls := { store.calls with stage := store.calls.stage + 1 } }) := by
  simp only [stage, BlockId.ofText_text]

theorem staged_insert {store : BlobStore} {id other : String} {data found : Bytes}
    (member : (store.staged.insert id data)[other]? = some found) :
    (other = id ∧ found = data) ∨ store.staged[other]? = some found := by
  rw [Std.TreeMap.getElem?_insert] at member
  split at member
  · rename_i same
    exact .inl ⟨(Std.LawfulEqCmp.eq_of_compare same).symm, (Option.some.inj member).symm⟩
  · exact .inr member

def block (store : BlobStore) (id : String) : Bytes := store.staged[id]?.getD []

theorem assemble_cons (store : BlobStore) (id : String) (ids : List String) :
    store.assemble (id :: ids) =
      match store.staged[id]? with
      | some block => (store.assemble ids).map (block ++ ·)
      | none => .error (.invalid (.blockUnknown id)) := by
  simp only [assemble, List.mapM_cons]
  cases store.staged[id]? with
  | none => rfl
  | some block =>
      cases ids.mapM fun id =>
          match store.staged[id]? with
          | some block => Except.ok block
          | none => Except.error (TransferError.invalid (.blockUnknown id)) <;> rfl

theorem assemble_of_staged {store : BlobStore} {ids : List String}
    (staged : ∀ id ∈ ids, id ∈ store.staged) :
    store.assemble ids = .ok (ids.flatMap store.block) := by
  induction ids with
  | nil => rfl
  | cons id others ih =>
      obtain ⟨first, others_staged⟩ := List.forall_mem_cons.mp staged
      obtain ⟨found, same⟩ : ∃ found, store.staged[id]? = some found :=
        ⟨_, Std.TreeMap.getElem?_eq_some_getElem first⟩
      simp only [assemble_cons, same, ih others_staged, Except.map, List.flatMap_cons, block,
        Option.getD_some]

theorem assemble_of_missing {store : BlobStore} {ids : List String}
    (missing : ¬ ∀ id ∈ ids, id ∈ store.staged) :
    ∃ id ∈ ids, id ∉ store.staged ∧
      store.assemble ids = .error (.invalid (.blockUnknown id)) := by
  induction ids with
  | nil => simp at missing
  | cons id others ih =>
      cases same : store.staged[id]? with
      | none =>
          refine ⟨id, List.mem_cons_self, by simp [Std.TreeMap.mem_iff_isSome_getElem?, same], ?_⟩
          rw [assemble_cons, same]
      | some block =>
          have first : id ∈ store.staged := by
            rw [Std.TreeMap.mem_iff_isSome_getElem?, same]
            rfl
          obtain ⟨lost, member, unstaged, refused⟩ := ih fun staged =>
            missing (List.forall_mem_cons.mpr ⟨first, staged⟩)
          refine ⟨lost, List.mem_cons_of_mem _ member, unstaged, ?_⟩
          rw [assemble_cons, same, refused]
          rfl

section Commit

variable {store next : BlobStore} {ended : Option ScopeEnd} {list : BlockList} {mark : ServiceMark}

structure Commits (store : BlobStore) (ended : Option ScopeEnd) (list : BlockList) : Prop where
  live : ended = none
  allowed : list.conditions.allow (store.blob.map (·.etag)) = true
  staged : ∀ id ∈ list.ids, id ∈ store.staged

theorem Commits.commit (commits : store.Commits ended list) (mark : ServiceMark) :
    store.commit ended list mark =
      (.ok {
          etag := some (versionTag (store.version + 1))
          lastModified := some mark.time
          requestId := some mark.requestId.text
          blockCount := UInt32.ofNat list.ids.length },
        { store with
          staged := {}
          version := store.version + 1
          blob := some {
            data := list.ids.flatMap store.block
            etag := versionTag (store.version + 1)
            blockIds := list.ids
            headers := list.headers
            metadata := list.metadata }
          calls := { store.calls with commit := store.calls.commit + 1 } }) := by
  obtain ⟨rfl, allowed, staged⟩ := commits
  simp only [BlobStore.commit, allowed, if_true, assemble_of_staged staged]

theorem commit_of_not (uncommitted : ¬ store.Commits ended list) (mark : ServiceMark) :
    ∃ error next, store.commit ended list mark = (.error error, next) ∧
      next.staged = store.staged ∧ next.blob = store.blob ∧ next.version = store.version := by
  cases ended with
  | some reason => exact ⟨_, _, rfl, rfl, rfl, rfl⟩
  | none =>
      cases allowed : list.conditions.allow (store.blob.map (·.etag)) with
      | false =>
          refine ⟨.status .preconditionFailed none, { store with
            calls := { store.calls with commit := store.calls.commit + 1 } }, ?_, rfl, rfl, rfl⟩
          simp only [commit, allowed, Bool.false_eq_true, if_false]
      | true =>
          obtain ⟨id, _, _, refused⟩ := assemble_of_missing fun staged =>
            uncommitted ⟨rfl, allowed, staged⟩
          refine ⟨.invalid (.blockUnknown id), { store with
            calls := { store.calls with commit := store.calls.commit + 1 } }, ?_, rfl, rfl, rfl⟩
          simp only [commit, allowed, if_true, refused]

end Commit

end BlobTransfer.BlobStore
