import BlobTransfer.Proofs.Reader.Delivery
import BlobTransfer.Proofs.Reader.Resumption
import BlobTransfer.Proofs.Reader.Steps

/-!
The ranges that the reader of a part asks for. Each begins where the reader stands and ends with
the part, and is open if the part has no end of its own. An empty part is asked for once, with a
range that is open though nothing is wanted.
-/

namespace BlobTransfer

namespace Span

variable {span : Span}

theorem range_of_unbounded (unbounded : span.count = none) : span.range = (span.offset, none) := by
  simp [range, unbounded]

theorem range_of_bounded {count : Nat} (bounded : span.count = some count) (more : 0 < count)
    (within : span.offset + count ≤ largestOffset) :
    span.range = (span.offset, some (span.offset + count - 1)) := by
  obtain ⟨others, rfl⟩ := Nat.exists_eq_succ_of_ne_zero (Nat.pos_iff_ne_zero.mp more)
  have uncut : span.offset + others ≤ largestOffset := by omega
  simp [range, bounded, Nat.min_eq_left uncut]

def rangeLeft (offset : Nat) (count : Option Nat) (given : Nat) : Nat × Option Nat :=
  (offset + given, count.map (offset + · - 1))

def headerLeft (offset : Nat) (count : Option Nat) (given : Nat) : String :=
  match count with
  | some total => s!"bytes={offset + given}-{offset + total - 1}"
  | none => s!"bytes={offset + given}-"

theorem given_lt_of_wanted {offset total : Nat} {past : List ReadEvent}
    (more : (Span.after { offset, count := some total } past).count ≠ some 0) :
    (ReadEvent.handedOut past).length < total := by
  apply Nat.lt_of_sub_ne_zero
  intro nothing
  exact more (congrArg some nothing)

theorem range_after {offset : Nat} {count : Option Nat} {past : List ReadEvent}
    (within : ∀ total, count = some total → offset + total ≤ largestOffset)
    (more : (Span.after { offset, count } past).count ≠ some 0) :
    (Span.after { offset, count } past).range =
      rangeLeft offset count (ReadEvent.handedOut past).length := by
  cases count with
  | none => exact range_of_unbounded rfl
  | some total =>
      have inside := within total rfl
      have given := given_lt_of_wanted more
      have left : 0 < total - (ReadEvent.handedOut past).length := by omega
      have ends : offset + (ReadEvent.handedOut past).length +
          (total - (ReadEvent.handedOut past).length) = offset + total := by omega
      rw [range_of_bounded rfl left (by simpa only [Span.after, ends] using inside)]
      simp only [Span.after, rangeLeft, ends, Option.map_some]

theorem header_of_rangeLeft {offset given : Nat} {count : Option Nat}
    (asked : span.range = rangeLeft offset count given) :
    span.header = headerLeft offset count given := by
  cases count <;> simp [header, asked, rangeLeft, headerLeft]

end Span

namespace ReadSession

variable {Service : Type} {session next : ReadSession Service} {getter : Getter Service}
  {scope : Scope}

theorem requests_of_request {result : Except TransferError Unit}
    (requested : session.request getter scope = some (result, next)) :
    next.requests = session.requests ++
        (if session.timeline.end? scope = none then [session.reader.span] else []) ∧
      (session.reader.isExhausted = true → next.reader.isExhausted = true) := by
  obtain ⟨reason, ended, _, rfl⟩ | ⟨live, asked, same, _, settled⟩ := request_cases requested
  · exact ⟨by simp [ended], id⟩
  · have kept : next.requests = asked.requests ∧
        (asked.reader.isExhausted = true → next.reader.isExhausted = true) := by
      obtain ⟨error, _, rfl, _⟩ | ⟨response, _, rfl, _⟩ := settled
      · exact ⟨rfl, id⟩
      · exact ⟨rfl, id⟩
    rw [if_pos live, kept.1, same.requests]
    exact ⟨rfl, fun exhausted => kept.2 (exhausted_of_undisturbed same exhausted)⟩

/-- However a part is read and however its requests are answered, each of them asks for just what
has not been handed out: up to the last byte of the part, or with an open range if the part goes
on to the end of the blob. For an empty part there is one request at most, when it is opened, and
its range is open too. -/
theorem opened_part_is_asked_for {adapter : TransferAdapter Service} {timeline : Timeline}
    {service : Service} {offset : Nat} {count : Option Nat} {result : Except TransferError Unit}
    {opened final : ReadSession Service} {uses : List (ReaderUse Service)} {bytes : Bytes}
    (within : ∀ total, count = some total → offset + total ≤ largestOffset)
    (opening : adapter.openPart timeline scope service offset count = some (result, opened))
    (used : opened.uses adapter.getter scope uses = some (bytes, final)) :
    (count ≠ some 0 →
      final.requests = ReadEvent.requested final.history ∧
      ∀ past wanted later, final.history = past ++ .asked wanted :: later →
        let given := (ReadEvent.handedOut past).length
        bytes = ReadEvent.handedOut past ++ ReadEvent.handedOut later ∧
        (∀ total, count = some total → given < total) ∧
        wanted.offset = offset + given ∧ wanted.count = count.map (· - given) ∧
        wanted.range = Span.rangeLeft offset count given ∧
        wanted.header = Span.headerLeft offset count given) ∧
    (count = some 0 →
      bytes = [] ∧
      final.requests = (if timeline.end? scope = none then [{ offset, count }] else []) ∧
      ({ offset, count } : Span).range = (offset, none) ∧
      ({ offset, count } : Span).header = s!"bytes={offset}-") := by
  have tracked := tracked_start timeline service none { offset, count }
    adapter.readerOptions.retries
  constructor
  · intro wanting
    have unexhausted : (start timeline service none { offset, count }
        adapter.readerOptions.retries).reader.isExhausted = false := by
      simp [start, RangeReader.new, RangeReader.isExhausted, wanting]
    obtain ⟨tracked', unread⟩ := request_tracked tracked rfl unexhausted opening
    obtain ⟨tracked'', grown⟩ := uses_tracked tracked' used
    have all : ReadEvent.handedOut final.history = bytes := by
      rw [grown, unread]
      rfl
    refine ⟨tracked''.requests, ?_⟩
    intro past wanted later split given
    obtain ⟨_, rfl, more⟩ := tracked''.coherent past _ later split
    have asked := Span.range_after within more
    refine ⟨?_, ?_, rfl, rfl, asked, Span.header_of_rangeLeft asked⟩
    · rw [← all, split]
      simp [ReadEvent.handedOut, ReadEvent.bytes]
    · rintro total rfl
      exact Span.given_lt_of_wanted more
  · rintro rfl
    obtain ⟨asked, exhausted⟩ := requests_of_request opening
    obtain ⟨rfl, kept⟩ := uses_ask_nothing (exhausted rfl) used
    exact ⟨rfl, kept.trans asked, rfl, rfl⟩

/-- Nothing is wanted, and the rest of the blob is asked for. -/
theorem empty_part_is_asked_for_to_the_end :
    ((TransferAdapter.ofStore ⟨.random fun _ => 0, ⟨0, 0, 0⟩⟩).openPart {} { lineage := [0] }
      threeBytes 1 (some 0)).map (fun (_, session) =>
        session.requests.map fun wanted => (wanted.count, wanted.range, wanted.header)) =
      some [(some 0, (1, none), "bytes=1-")] := by
  with_unfolding_all rfl

theorem closed_part_is_asked_for :
    ∃ opened final,
      (TransferAdapter.ofStore ⟨.random fun _ => 0, ⟨0, 0, 0⟩⟩).openPart {} { lineage := [0] }
        threeBytes 0 (some 2) = some (.ok (), opened) ∧
      opened.uses BlobStore.getter { lineage := [0] }
        [.read 1 none, .close, .read 5 none, .read 1 none] = some ([1, 2], final) ∧
      final.requests.map (·.header) = ["bytes=0-1", "bytes=1-1"] ∧
      ∀ past wanted later, final.history = past ++ .asked wanted :: later →
        wanted.header = Span.headerLeft 0 (some 2) (ReadEvent.handedOut past).length := by
  have within : ∀ total, some 2 = some total → 0 + total ≤ largestOffset := by
    rintro total ⟨⟩
    decide
  obtain ⟨opened, final, opening, used, headers⟩ : ∃ opened final,
      (TransferAdapter.ofStore ⟨.random fun _ => 0, ⟨0, 0, 0⟩⟩).openPart {} { lineage := [0] }
        threeBytes 0 (some 2) = some (.ok (), opened) ∧
      opened.uses BlobStore.getter { lineage := [0] }
        [.read 1 none, .close, .read 5 none, .read 1 none] = some ([1, 2], final) ∧
      final.requests.map (·.header) = ["bytes=0-1", "bytes=1-1"] :=
    ⟨_, _, rfl, by with_unfolding_all rfl, by with_unfolding_all rfl⟩
  have asked := (opened_part_is_asked_for within opening used).1 (by decide)
  refine ⟨opened, final, opening, used, headers, ?_⟩
  intro past wanted later split
  obtain ⟨_, _, _, _, _, header⟩ := asked.2 past wanted later split
  exact header

end ReadSession

end BlobTransfer
