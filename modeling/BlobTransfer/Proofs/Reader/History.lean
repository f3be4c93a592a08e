import BlobTransfer.Proofs.Reader.Content
import BlobTransfer.Reader.Use

/-!
What a reader may go through: each event follows from the ones before it. Requests ask for what
has not been handed out, and bytes come from the response that is held, in order.
-/

namespace BlobTransfer

namespace ReadEvent

def bytes : ReadEvent → Bytes
  | .delivered bytes => bytes
  | _ => []

def tag? : ReadEvent → Option String
  | .answered response => response.etag
  | _ => none

def span? : ReadEvent → Option Span
  | .asked span => some span
  | _ => none

def response? : ReadEvent → Option LiveResponse
  | .answered response => some response
  | _ => none

def unreadAfter (held : Option Bytes) : ReadEvent → Option Bytes
  | .asked _ => held
  | .answered response => some response.body.readable
  | .delivered bytes => held.map (·.drop bytes.length)
  | .discarded => none

def handedOut (history : List ReadEvent) : Bytes := history.flatMap bytes

def requested (history : List ReadEvent) : List Span := history.filterMap span?

def responses (history : List ReadEvent) : List LiveResponse := history.filterMap response?

def unread (history : List ReadEvent) : Option Bytes := history.foldl unreadAfter none

end ReadEvent

def Span.after (span : Span) (history : List ReadEvent) : Span where
  offset := span.offset + (ReadEvent.handedOut history).length
  count := span.count.map (· - (ReadEvent.handedOut history).length)
  etag := span.etag.or (history.findSome? ReadEvent.tag?)

def ReadEvent.Follows (span : Span) (past : List ReadEvent) : ReadEvent → Prop
  | .asked wanted => unread past = none ∧ wanted = span.after past ∧ wanted.count ≠ some 0
  | .answered _ =>
      unread past = none ∧ (past = [] ∨ ∃ earlier wanted, past = earlier ++ [.asked wanted])
  | .delivered bytes => ∃ content, unread past = some content ∧ bytes <+: content
  | .discarded => True

def ReadEvent.Coherent (span : Span) (history : List ReadEvent) : Prop :=
  ∀ past event later, history = past ++ event :: later → event.Follows span past

namespace ReadEvent

theorem handedOut_snoc (past : List ReadEvent) (event : ReadEvent) :
    handedOut (past ++ [event]) = handedOut past ++ event.bytes := by
  simp [handedOut]

theorem unread_snoc (past : List ReadEvent) (event : ReadEvent) :
    unread (past ++ [event]) = event.unreadAfter (unread past) := by
  simp [unread]

theorem requested_snoc (past : List ReadEvent) (event : ReadEvent) :
    requested (past ++ [event]) = requested past ++ event.span?.toList := by
  cases spanned : event.span? <;> simp [requested, spanned]

theorem after_quiet (span : Span) (past : List ReadEvent) {event : ReadEvent}
    (silent : event.bytes = []) (untagged : event.tag? = none) :
    span.after (past ++ [event]) = span.after past := by
  simp [Span.after, handedOut_snoc, silent, untagged]

theorem after_answered (span : Span) (past : List ReadEvent) (response : LiveResponse) :
    span.after (past ++ [.answered response]) =
      { span.after past with etag := (span.after past).etag.or response.etag } := by
  simp [Span.after, handedOut_snoc, bytes, tag?, Option.or_assoc]

theorem after_delivered (span : Span) (past : List ReadEvent) (given : Bytes) :
    span.after (past ++ [.delivered given]) = (span.after past).advance given.length := by
  simp [Span.after, Span.advance, handedOut_snoc, bytes, tag?, Nat.add_assoc, Nat.sub_sub,
    Function.comp_def]

theorem Coherent.snoc {span : Span} {past : List ReadEvent} {event : ReadEvent}
    (coherent : Coherent span past) (follows : event.Follows span past) :
    Coherent span (past ++ [event]) := by
  intro before next later split
  obtain ⟨middle, before_eq, rest⟩ | ⟨middle, past_eq, rest⟩ := List.append_eq_append_iff.mp split
  · cases middle with
    | nil =>
        simp only [List.nil_append, List.cons.injEq] at rest
        obtain ⟨rfl, _⟩ := rest
        rw [before_eq, List.append_nil]
        exact follows
    | cons first others => simp at rest
  · cases middle with
    | nil =>
        simp only [List.nil_append, List.cons.injEq] at rest
        obtain ⟨rfl, _⟩ := rest
        rw [List.append_nil] at past_eq
        exact past_eq ▸ follows
    | cons first others =>
        simp only [List.cons_append, List.cons.injEq] at rest
        obtain ⟨rfl, _⟩ := rest
        exact coherent before next others past_eq

def handedOutFirst : List ReadEvent → Bytes
  | [] => []
  | .answered _ :: _ => []
  | event :: later => event.bytes ++ handedOutFirst later

def shares : List ReadEvent → List (LiveResponse × Bytes)
  | [] => []
  | .answered response :: later => (response, handedOutFirst later) :: shares later
  | _ :: later => shares later

theorem shares_responses (history : List ReadEvent) :
    (shares history).map (·.1) = responses history := by
  induction history with
  | nil => rfl
  | cons event later ih =>
      cases event <;> simp [shares, responses, response?] <;> exact ih

theorem handedOut_eq_shares (history : List ReadEvent) :
    handedOut history = handedOutFirst history ++ (shares history).flatMap (·.2) := by
  induction history with
  | nil => rfl
  | cons event later ih =>
      cases event <;> simp [shares, handedOut, handedOutFirst, bytes] <;> exact ih

theorem Coherent.shares_prefix {span : Span} {past later : List ReadEvent}
    (coherent : Coherent span (past ++ later)) :
    handedOutFirst later <+: (unread past).getD [] ∧
      ∀ share ∈ shares later, share.2 <+: share.1.body.readable := by
  induction later generalizing past with
  | nil => simp [handedOutFirst, shares]
  | cons event later ih =>
      have follows := coherent past event later rfl
      rw [List.append_cons] at coherent
      obtain ⟨first, others⟩ := ih coherent
      rw [unread_snoc] at first
      cases event with
      | asked span =>
          exact ⟨first, others⟩
      | answered response =>
          refine ⟨List.nil_prefix, ?_⟩
          intro share member
          rcases List.mem_cons.mp member with rfl | old
          · exact first
          · exact others share old
      | delivered bytes =>
          refine ⟨?_, others⟩
          obtain ⟨content, held, front⟩ := follows
          obtain ⟨rest, rfl⟩ := front
          simp only [unreadAfter, held, Option.map_some, Option.getD_some, List.drop_left]
            at first ⊢
          exact (List.prefix_append_right_inj bytes).mpr first
      | discarded =>
          refine ⟨?_, others⟩
          have none_left : handedOutFirst later = [] := List.prefix_nil.mp first
          simp only [handedOutFirst, bytes, none_left, List.nil_append]
          exact List.nil_prefix

end ReadEvent

end BlobTransfer
