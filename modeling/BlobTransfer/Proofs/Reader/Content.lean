import BlobTransfer.Reader.Basic

/-!
The bytes that can still be read of a body: those in front of its first failure. Reading takes
them from the front; waiting takes none, and an abort leaves at most those that are buffered.
-/

namespace BlobTransfer

def Takes (before after : Bytes) : Option BodyItem → Prop
  | some (.ok bytes) => before = bytes ++ after ∧ bytes ≠ []
  | some (.error _) => True
  | none => before = [] ∧ after = []

namespace Body

def readableEvents : List BodyEvent → Bytes
  | [] => []
  | .data bytes :: rest => bytes ++ readableEvents rest
  | .delay _ :: rest => readableEvents rest
  | .failure _ :: _ => []
  | .silence :: _ => []

def readable (body : Body) : Bytes := readableEvents body.events

theorem takes_of_nextEvent {events : List BodyEvent} {now time : Nat} {wakeAt : Option Nat}
    {item : Option BodyItem} {rest : Body}
    (answered : nextEvent List.isEmpty now wakeAt events = some (item, rest, time)) :
    Takes (readableEvents events) rest.readable item := by
  induction events generalizing now wakeAt with
  | nil =>
      simp only [nextEvent, Option.some.injEq, Prod.mk.injEq] at answered
      obtain ⟨rfl, rfl, _⟩ := answered
      exact ⟨rfl, rfl⟩
  | cons event later ih =>
      cases event with
      | data bytes =>
          by_cases empty : bytes.isEmpty
          · simp only [nextEvent, empty, if_true] at answered
            have same : readableEvents (.data bytes :: later) = readableEvents later := by
              simp only [readableEvents, List.isEmpty_iff.mp empty, List.nil_append]
            rw [same]
            exact ih answered
          · simp only [nextEvent, empty, Bool.false_eq_true, if_false, Option.some.injEq,
              Prod.mk.injEq] at answered
            obtain ⟨rfl, rfl, _⟩ := answered
            exact ⟨rfl, by simpa using empty⟩
      | failure error =>
          simp only [nextEvent, Option.some.injEq, Prod.mk.injEq] at answered
          obtain ⟨rfl, _⟩ := answered
          trivial
      | silence => simp [nextEvent] at answered
      | delay millis => exact ih answered

theorem readable_waitEvents (events : List BodyEvent) (now limit : Nat) (wakeAt : Option Nat) :
    (waitEvents List.isEmpty now limit wakeAt events).readable = readableEvents events := by
  induction events generalizing now wakeAt with
  | nil => rfl
  | cons event later ih =>
      cases event with
      | data bytes =>
          unfold waitEvents
          split
          · rename_i empty
            rw [ih, readableEvents, List.isEmpty_iff.mp empty, List.nil_append]
          · rfl
      | failure error => rfl
      | silence => rfl
      | delay millis =>
          simp only [waitEvents]
          split
          · exact ih _ _
          · rfl

end Body

namespace AbortableBody

def readable (body : AbortableBody) : Bytes :=
  if body.aborted then [] else (body.inner.map Body.readable).getD []

theorem takes_of_next {body rest : AbortableBody} {now time : Nat} {abortAt : Option Nat}
    {item : Option BodyItem}
    (answered : body.next List.isEmpty now abortAt = some (item, rest, time)) :
    Takes body.readable rest.readable item := by
  simp only [next] at answered
  split at answered
  · rename_i ended
    simp only [Option.some.injEq, Prod.mk.injEq] at answered
    obtain ⟨rfl, rfl, _⟩ := answered
    simp [Takes, readable, ended]
  · rename_i inner present
    split at answered
    · simp only [Option.some.injEq, Prod.mk.injEq] at answered
      obtain ⟨rfl, _⟩ := answered
      trivial
    · rename_i unaborted
      have before : body.readable = inner.readable := by
        simp [readable, unaborted, present]
      have inside : ∀ {item' : Option BodyItem} {rest' : Body} {time' : Nat},
          inner.next List.isEmpty now = some (item', rest', time') →
          some (item', { body with inner := item'.map fun _ => rest' }, time') =
            some (item, rest, time) →
          Takes body.readable rest.readable item := by
        intro item' rest' time' found same
        simp only [Option.some.injEq, Prod.mk.injEq] at same
        obtain ⟨rfl, rfl, rfl⟩ := same
        have taken := Body.takes_of_nextEvent found
        rw [before]
        cases item' with
        | none => exact ⟨taken.1, by simp [readable]⟩
        | some result =>
            cases result with
            | error error => trivial
            | ok bytes => simpa [Takes, readable, unaborted, Body.readable] using taken
      split at answered
      · rename_i found
        split at answered
        · simp only [Option.some.injEq, Prod.mk.injEq] at answered
          obtain ⟨rfl, _⟩ := answered
          trivial
        · exact inside found answered
      · rename_i found
        exact inside found answered
      · simp only [Option.some.injEq, Prod.mk.injEq] at answered
        obtain ⟨rfl, _⟩ := answered
        trivial
      · simp at answered

theorem readable_waitUntil (body : AbortableBody) (now limit : Nat) :
    (body.waitUntil List.isEmpty now limit).readable = body.readable := by
  cases inner : body.inner with
  | none => simp [readable, waitUntil, inner]
  | some source =>
      simp only [readable, waitUntil, inner, Option.map_some, Option.getD_some, Body.waitUntil,
        Body.readable_waitEvents]
      rfl

end AbortableBody

namespace LiveBody

def readable (body : LiveBody) : Bytes := body.buffered ++ body.source.readable

theorem readable_ofResponse (response : LiveResponse) :
    (ofResponse response).readable = response.body.readable := rfl

theorem readable_of_read {body rest : LiveBody} {limit now time : Nat} {abortAt : Option Nat}
    {bytes : Bytes} (answered : body.read limit now abortAt = some (.ok bytes, rest, time)) :
    body.readable = bytes ++ rest.readable ∧ bytes.length ≤ limit ∧
      (0 < limit → bytes = [] → body.readable = []) := by
  unfold read at answered
  split at answered
  · rename_i empty
    have before : body.readable = body.source.readable := by
      rw [readable, List.isEmpty_iff.mp empty, List.nil_append]
    obtain ⟨⟨item, source, time'⟩, found, same⟩ := Option.map_eq_some_iff.mp answered
    have taken := AbortableBody.takes_of_next found
    rw [before]
    cases item with
    | none =>
        simp only [Prod.mk.injEq, Except.ok.injEq] at same
        obtain ⟨rfl, rfl, _⟩ := same
        simp [readable, taken.1, taken.2]
    | some result =>
        cases result with
        | error error => simp at same
        | ok item =>
            simp only [Prod.mk.injEq, Except.ok.injEq] at same
            obtain ⟨rfl, rfl, _⟩ := same
            refine ⟨?_, List.length_take_le limit item, ?_⟩
            · rw [readable, ← List.append_assoc, List.take_append_drop]
              exact taken.1
            · intro positive nothing
              exact absurd (List.take_eq_nil_iff.mp nothing) (by simp [taken.2]; omega)
  · rename_i filled
    simp only [Option.some.injEq, Prod.mk.injEq, Except.ok.injEq] at answered
    obtain ⟨rfl, rfl, _⟩ := answered
    refine ⟨?_, List.length_take_le limit body.buffered, ?_⟩
    · simp only [readable, ← List.append_assoc, List.take_append_drop]
    · intro positive nothing
      rw [List.isEmpty_iff] at filled
      exact absurd (List.take_eq_nil_iff.mp nothing) (by simp [filled]; omega)

theorem readable_waitUntil (body : LiveBody) (now limit : Nat) :
    (body.waitUntil now limit).readable = body.readable := by
  unfold waitUntil
  split
  · simp only [readable, AbortableBody.readable_waitUntil]
  · rfl

theorem readable_abort (body : LiveBody) : body.abort.readable <+: body.readable := by
  simp [readable, abort, AbortableBody.readable, AbortableBody.abort]

end LiveBody

end BlobTransfer
