import BlobTransfer.Proofs.Reader.Flow
import BlobTransfer.Proofs.Upload.Completion

/-!
What is uploaded into a store can be read out of it again, all of it and every part, whatever the
sizes of blocks, pieces and reads and the order in which things happened.
-/

namespace BlobTransfer

namespace TransferAdapter

/-- What is uploaded with valid options and in few enough blocks comes out of the store again. If
nothing gets in the way of an upload, every schedule of it ends after so many steps, in success, and
so it does on a clock; all the data can then be read, as a whole and in parts. -/
theorem download_undoes_upload {store : BlobStore} {job : UploadJob} (mark : ServiceMark)
    (valid : job.options.validate = .ok ())
    (few : job.options.blocksFor job.source.length ≤ mostBlocks)
    (allowed : job.options.conditions.allow (store.blob.map (·.etag)) = true)
    (live : job.ended = none) :
    (∀ schedule shared, (SharedUploads.start store [job]).steps schedule = some shared →
      (∀ step ∈ schedule, step.isSmooth = true) →
        schedule.length ≤ 9 * job.source.length + 4 * job.options.maxConcurrency + 4 ∧
        ∃ uploader, shared.uploaders = [uploader] ∧
          ((∃ receipt, uploader.upload.phase = .returned (.ok receipt) ∧
              shared.store.Yields job.source) ∨
            (∀ result, uploader.upload.phase ≠ .returned result) ∧
              ∃ step : SharedStep, step.isSmooth = true ∧ (shared.step step).isSome = true)) ∧
    ∀ (adapter : TransferAdapter BlobStore) (timeline : Timeline) (scope : Scope) (body : Body)
        (options : Option UploadOptions),
      adapter.writer = BlobStore.writer mark →
      options.getD adapter.uploadOptions = job.options →
      (timeline.child scope).2.awaitEnd (timeline.child scope).1 = none →
      Body.Steady body.events → body.readable = job.source →
        ∃ receipt run,
          adapter.upload timeline scope store job.transfer body options =
            some (.ok receipt, run) ∧
          run.service.Yields job.source := by
  refine ⟨?_, ?_⟩
  · intro schedule shared ran smooth
    have start := SharedUploads.alone_start valid few allowed live
    obtain ⟨uploader, alone, bound⟩ := start.steps smooth ran
    have rank := Upload.rank_start_le job.transfer valid job.source
    rw [← live] at rank
    refine ⟨Nat.le_trans (Nat.le_of_add_right_le bound) rank, uploader, alone.only, ?_⟩
    by_cases unreturned : ∀ result, uploader.upload.phase ≠ .returned result
    · exact .inr ⟨unreturned, alone.proceeds unreturned mark⟩
    · obtain ⟨result, returned⟩ : ∃ result, uploader.upload.phase = .returned result := by
        simpa using unreturned
      cases result with
      | error error => exact absurd returned (alone.flawless.smooth.unfailed error)
      | ok receipt =>
          have stored := alone.flawless.returned _ returned
          exact .inl ⟨receipt, returned, BlobStore.yields_of_blob stored⟩
  · intro adapter timeline scope body options written same endless steady readable
    obtain ⟨receipt, run, uploaded, stored⟩ := UploadRun.upload_completes mark job.transfer valid
      (readable ▸ few) allowed endless steady
    refine ⟨receipt, run, ?_, BlobStore.yields_of_blob (readable ▸ stored)⟩
    rw [upload, written, same]
    exact uploaded

def slowBody : Body := { events := [.data [1], .delay 5, .data [2, 3]] }

def slowJob : UploadJob where
  options := { blockSize := 2, maxConcurrency := 2 }
  transfer := .random fun _ => 0
  source := [1, 2, 3]

def anyMark : ServiceMark := ⟨.random fun _ => 1, ⟨0, 0, 0⟩⟩

theorem slow_upload_is_read_in_part :
    ∃ receipt run session destination after,
      (ofStore anyMark).upload {} { lineage := [0] } (({} : BlobStore).withPieceSize 1)
        slowJob.transfer slowBody (some slowJob.options) = some (.ok receipt, run) ∧
      (ofStore anyMark).openPart {} { lineage := [0] } run.service 1 (some 5) =
        some (.ok (), session) ∧
      session.copy BlobStore.getter { lineage := [0] } {} 0 3 =
        some (.ok 2, destination, after) ∧
      destination.data = [2, 3] := by
  have steady : Body.Steady slowBody.events := by simp [Body.Steady, slowBody]
  obtain ⟨_, clocked⟩ := download_undoes_upload anyMark (by decide)
    (by decide : slowJob.options.blocksFor slowJob.source.length ≤ mostBlocks)
    (by decide : slowJob.options.conditions.allow
      ((({} : BlobStore).withPieceSize 1).blob.map (·.etag)) = true) rfl
  obtain ⟨receipt, run, uploaded, yields⟩ := clocked (ofStore anyMark) {} { lineage := [0] }
    slowBody (some slowJob.options) rfl rfl rfl steady rfl
  obtain ⟨_, parts⟩ := yields (ofStore anyMark) {} { lineage := [0] } rfl rfl
  obtain ⟨session, opened, copies⟩ := parts 1 (some 5) (.inl (by decide))
  obtain ⟨destination, after, copied, content⟩ := copies 3 (by decide)
  exact ⟨receipt, run, session, destination, after, uploaded, opened, copied, content⟩

def oversized : UploadOptions := { blockSize := largestBlock + 1 }

/-- Blocks may be no larger than a service takes, also where the source is small. -/
theorem oversized_blocks_are_refused :
    0 < oversized.blockSize ∧ 0 < oversized.maxConcurrency ∧
    oversized.blocksFor [97].length ≤ mostBlocks ∧
    ∃ run session,
      (ofStore anyMark).upload {} { lineage := [0] } {} slowJob.transfer (.ofBytes [97])
          (some oversized) =
        some (.error (.invalid (.blockSize (largestBlock + 1) largestBlock)), run) ∧
      (ofStore anyMark).download {} { lineage := [0] } run.service 2 =
        some (.error (.status .notFound none), session) :=
  ⟨by decide, by decide, by decide, _, _, rfl, rfl⟩

end TransferAdapter

end BlobTransfer
