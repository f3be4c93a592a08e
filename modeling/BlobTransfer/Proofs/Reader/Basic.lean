import BlobTransfer.Reader.Basic

/-!
Small facts about a reader: how much it takes at once, and what a forced retry changes of it.
-/

namespace BlobTransfer

theorem Span.advance_advance (span : Span) (read more : Nat) :
    (span.advance read).advance more = span.advance (read + more) := by
  simp only [advance, Option.map_map, Nat.add_assoc, Span.mk.injEq, true_and, and_true]
  congr 1
  funext count
  exact Nat.sub_sub count read more

namespace RangeReader

theorem limit_add (reader : RangeReader) (rest : LiveBody) (size more : Nat) :
    reader.limit (size + more) =
      reader.limit size + (reader.advance rest (reader.limit size)).limit more := by
  cases counted : reader.span.count with
  | none => simp only [limit, advance, Span.advance, counted, Option.map_none]
  | some count =>
      simp only [limit, advance, Span.advance, counted, Option.map_some]
      omega

theorem limit_pos_of_wider {reader : RangeReader} {size more : Nat}
    (positive : 0 < size) (wider : reader.limit size < reader.limit (size + more)) :
    0 < reader.limit size := by
  cases counted : reader.span.count with
  | none => simpa [limit, counted] using positive
  | some count =>
      simp only [limit, counted] at wider ⊢
      omega

theorem unexhausted_of_limit {reader : RangeReader} {size : Nat}
    (positive : 0 < reader.limit size) : reader.isExhausted = false := by
  cases counted : reader.span.count with
  | none => simp [isExhausted, counted]
  | some count =>
      simp only [limit, counted] at positive
      have more : count ≠ 0 := by omega
      simp [isExhausted, counted, more]

theorem limit_pos {reader : RangeReader} {size : Nat}
    (bounded : reader.bounded = reader.span.count.isSome)
    (unexhausted : reader.isExhausted = false) (positive : 0 < size) :
    0 < reader.limit size := by
  cases counted : reader.span.count with
  | none => simpa [limit, counted] using positive
  | some count =>
      have more : count ≠ 0 := by
        rintro rfl
        simp [isExhausted, bounded, counted] at unexhausted
      simp only [limit, counted]
      omega

section Force

variable (reader : RangeReader)

@[simp] theorem force_span : reader.force.span = reader.span := by
  unfold force
  split <;> rfl

@[simp] theorem force_bounded : reader.force.bounded = reader.bounded := by
  unfold force
  split <;> rfl

@[simp] theorem force_canForce : reader.force.canForce = reader.canForce := by
  unfold force
  split <;> rfl

@[simp] theorem force_retries : reader.force.retries = reader.retries := by
  unfold force
  split <;> rfl

@[simp] theorem force_forced : reader.force.forced = (reader.canForce || reader.forced) := by
  unfold force
  split
  · rename_i abortable
    simp [abortable]
  · rename_i unabortable
    simp [unabortable]

theorem force_of_held {body : LiveBody} (held : reader.body = some body)
    (abortable : reader.canForce = true) : reader.force.body = some body.abort := by
  simp [force, held, abortable]

theorem force_of_unheld (unheld : reader.body = none) :
    reader.force = { reader with forced := reader.canForce || reader.forced } := by
  obtain ⟨span, bounded, body, canForce, forced, retries⟩ := reader
  obtain rfl : body = none := unheld
  cases canForce <;> rfl

end Force

end RangeReader

end BlobTransfer
