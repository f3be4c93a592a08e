import BlobTransfer.Proofs.Reader.Tracking
import BlobTransfer.Reader.Script

/-!
What a caller gets from a reader, however it is used: the bytes of one response after the other,
without a gap between the requests.
-/

namespace BlobTransfer

namespace ReadSession

variable {Service : Type}

theorem tracked_start (timeline : Timeline) (service : Service) (response : Option LiveResponse)
    (initial : Span) (retries : Nat) :
    (start timeline service response initial retries).Tracked initial := by
  have empty : (start timeline service none initial retries).Tracked initial := by
    refine ⟨?_, rfl, ?_, rfl, rfl, ?_⟩
    · cases initial with
      | mk offset count etag => cases count <;> cases etag <;> rfl
    · intro count counted
      exact Nat.zero_le count
    · intro past event later split
      simp [start] at split
  cases response with
  | none => exact empty
  | some response => exact empty.install rfl (.inl rfl) response

/-- Whatever a caller does with a reader, what it has got by then is what lies between the place
where the reader began and the place where it stands. Every request was made without a response
at hand, for just what was missing, and pinned to the first entity tag; and the bytes are, in
order, the parts that were read of each response, from its first byte on. -/
theorem reader_hands_out_consumed_prefixes {timeline : Timeline} {service : Service}
    {response : Option LiveResponse} {initial : Span} {retries : Nat} {getter : Getter Service}
    {scope : Scope} {uses : List (ReaderUse Service)} {bytes : Bytes}
    {final : ReadSession Service}
    (used : (start timeline service response initial retries).uses getter scope uses =
      some (bytes, final)) :
    final.reader.span =
      { offset := initial.offset + bytes.length
        count := initial.count.map (· - bytes.length)
        etag := initial.etag.or (final.history.findSome? ReadEvent.tag?) } ∧
    (∀ count, initial.count = some count → bytes.length ≤ count) ∧
    final.requests = ReadEvent.requested final.history ∧
    (final.reader.body = none ↔ ReadEvent.unread final.history = none) ∧
    (∀ past wanted later, final.history = past ++ .asked wanted :: later →
      ReadEvent.unread past = none ∧ wanted = initial.after past ∧ wanted.count ≠ some 0 ∧
      bytes = ReadEvent.handedOut past ++ ReadEvent.handedOut later) ∧
    (∀ past piece later, final.history = past ++ .delivered piece :: later →
      ∃ content, ReadEvent.unread past = some content ∧ piece <+: content) ∧
    ∃ shares : List (LiveResponse × Bytes),
      shares.map (·.1) = ReadEvent.responses final.history ∧
      (∀ share ∈ shares, share.2 <+: share.1.body.readable) ∧
      bytes = shares.flatMap (·.2) := by
  obtain ⟨tracked, grown⟩ := uses_tracked (tracked_start timeline service response initial retries)
    used
  have same : ReadEvent.handedOut final.history = bytes := by
    rw [grown]
    cases response <;> rfl
  refine ⟨?_, ?_, tracked.requests, ?_, ?_, ?_, ?_⟩
  · rw [tracked.stands, Span.after, same]
  · exact same ▸ tracked.within
  · have holds := tracked.holds
    cases held : final.reader.body with
    | none => simpa [Holds, held] using holds
    | some body =>
        simp only [Holds, held] at holds
        obtain ⟨content, unread, _⟩ := holds
        simp [unread]
  · intro past wanted later split
    obtain ⟨unheld, exactly, more⟩ := tracked.coherent past _ later split
    refine ⟨unheld, exactly, more, ?_⟩
    rw [← same, split]
    simp [ReadEvent.handedOut, ReadEvent.bytes]
  · intro past piece later split
    exact tracked.coherent past _ later split
  · have coherent : ReadEvent.Coherent initial ([] ++ final.history) := tracked.coherent
    obtain ⟨first, fronts⟩ := coherent.shares_prefix
    have nothing : ReadEvent.handedOutFirst final.history = [] := List.prefix_nil.mp first
    refine ⟨ReadEvent.shares final.history, ReadEvent.shares_responses _, fronts, ?_⟩
    rw [← same, ReadEvent.handedOut_eq_shares, nothing, List.nil_append]

def brokenReplies : ReplyScript where
  replies := [
    { outcome := .ok {
        body := { events := [.data [1, 2, 3], .data [], .failure ⟨.connectionReset, .kindOnly⟩] }
        etag := some "first" } },
    { outcome := .ok {
        body := { events := [.data [4], .delay 9, .data [5]] }
        etag := some "second"
        abortable := true } },
    { outcome := .ok { body := { events := [.data [5, 6, 7]] } } }]

theorem broken_reader_hands_out_consumed_prefixes :
    ∃ final,
      (start { scopes := { fresh := 1 } } brokenReplies none
          { offset := 10, count := some 6 } 1).uses ReplyScript.getter { lineage := [0] }
        [.read 2 none, .read 5 none, .read 5 none, .read 5 (some 3), .force, .read 5 none] =
          some ([1, 2, 3, 4, 5, 6], final) ∧
      final.reader.span = { offset := 16, count := some 0, etag := some "first" } ∧
      final.requests = ReadEvent.requested final.history := by
  have used : (start { scopes := { fresh := 1 } } brokenReplies none
      { offset := 10, count := some 6 } 1).uses ReplyScript.getter { lineage := [0] }
      [.read 2 none, .read 5 none, .read 5 none, .read 5 (some 3), .force, .read 5 none] =
        some ([1, 2, 3, 4, 5, 6], _) := rfl
  obtain ⟨stands, _, requests, _⟩ := reader_hands_out_consumed_prefixes used
  exact ⟨_, used, stands, requests⟩

end ReadSession

end BlobTransfer
