import BlobTransfer.Scope.Timeline

/-!
Scopes that never end: those without a deadline that are not cancelled and of which no lineage is
planned to be. They stay so as time goes by, and all work in them is finished.
-/

namespace BlobTransfer

theorem isCanceled_cancel {scopes : Scopes} {scope ended : Scope}
    (apart : ended.lineage.head?.any scope.lineage.contains = false) :
    (scopes.cancel ended).isCanceled scope = scopes.isCanceled scope := by
  cases lineage : ended.lineage with
  | nil => simp [Scopes.cancel, Scopes.isCanceled, lineage]
  | cons mark others =>
      have foreign : mark ∉ scope.lineage := by
        simpa [lineage] using apart
      simp only [Scopes.isCanceled, Scopes.cancel, lineage, List.take_succ_cons, List.take_zero,
        List.cons_append, List.nil_append]
      rw [Bool.eq_iff_iff, List.any_eq_true, List.any_eq_true]
      constructor
      · rintro ⟨own, member, canceled⟩
        have different : own ≠ mark := fun same => foreign (same ▸ member)
        exact ⟨own, member, by simpa [different] using canceled⟩
      · rintro ⟨own, member, canceled⟩
        exact ⟨own, member, by simpa using .inr (by simpa using canceled)⟩

theorem isCanceled_cancelAll {scopes : Scopes} {scope : Scope} {ended : List Scope}
    (apart : ∀ other ∈ ended, other.lineage.head?.any scope.lineage.contains = false) :
    (scopes.cancelAll ended).isCanceled scope = scopes.isCanceled scope := by
  induction ended generalizing scopes with
  | nil => rfl
  | cons first others ih =>
      have rest : ((scopes.cancel first).cancelAll others).isCanceled scope =
          (scopes.cancel first).isCanceled scope :=
        ih (fun other member => apart other (List.mem_cons_of_mem first member))
      exact rest.trans (isCanceled_cancel (apart first List.mem_cons_self))

theorem earliest_isSome (times : List (Nat × Scope)) (now earliest : Nat) :
    (times.foldl (fun earliest entry => earlier? earliest (some (max now entry.1)))
      (some earliest)).isSome = true := by
  induction times generalizing earliest with
  | nil => rfl
  | cons first others ih => exact ih _

namespace Timeline

def Endless (timeline : Timeline) (scope : Scope) : Prop := timeline.awaitEnd scope = none

theorem race_eq_none {timeline : Timeline} {scope : Scope} :
    timeline.race scope = none ↔ timeline.end? scope = none := by
  unfold race end? Scopes.end?
  cases timeline.firstSeen <;> cases timeline.scopes.isCanceled scope <;>
    cases scope.hasExpired timeline.instant <;> simp

theorem endAhead?_eq_none {timeline : Timeline} {scope : Scope} :
    timeline.endAhead? scope = none ↔
      timeline.cancellation? scope = none ∧ scope.deadline = none := by
  cases canceled : timeline.cancellation? scope with
  | none => cases deadline : scope.deadline <;> simp [endAhead?, canceled, deadline]
  | some time =>
      cases deadline : scope.deadline with
      | none => simp [endAhead?, canceled, deadline]
      | some limit =>
          simp only [endAhead?, canceled, deadline, Option.map_some]
          split <;> simp

theorem cancellation?_eq_none {timeline : Timeline} {scope : Scope} :
    timeline.cancellation? scope = none ↔ timeline.scopes.isCanceled scope = false ∧
      ∀ entry ∈ timeline.planned, entry.2.lineage.head?.any scope.lineage.contains = false := by
  unfold cancellation?
  split
  · rename_i canceled
    simp [canceled]
  · rename_i going
    rw [Bool.not_eq_true] at going
    cases planned : timeline.planned.filter
        (fun entry => entry.2.lineage.head?.any scope.lineage.contains) with
    | nil => simpa [going, List.filter_eq_nil_iff] using planned
    | cons first others =>
        have kept : first ∈ timeline.planned.filter
            (fun entry => entry.2.lineage.head?.any scope.lineage.contains) := by
          rw [planned]
          exact List.mem_cons_self
        have member := List.mem_filter.mp kept
        have found : (first :: others).foldl (fun earliest entry =>
            earlier? earliest (some (max timeline.now entry.1))) none ≠ none := by
          have found := earliest_isSome others timeline.now (max timeline.now first.1)
          exact Option.isSome_iff_ne_none.mp found
        refine iff_of_false found ?_
        rintro ⟨_, apart⟩
        have related := member.2
        rw [apart first member.1] at related
        contradiction

theorem endless_iff {timeline : Timeline} {scope : Scope} :
    timeline.Endless scope ↔ scope.deadline = none ∧
      timeline.scopes.isCanceled scope = false ∧
      ∀ entry ∈ timeline.planned, entry.2.lineage.head?.any scope.lineage.contains = false := by
  unfold Endless awaitEnd
  cases told : timeline.race scope with
  | none =>
      simp only [endAhead?_eq_none, cancellation?_eq_none]
      exact and_comm
  | some reason =>
      refine iff_of_false (by simp) ?_
      rintro ⟨deadline, canceled, _⟩
      have going : timeline.end? scope = none := by
        simp [end?, Scopes.end?, canceled, Scope.hasExpired, deadline]
      rw [race_eq_none.mpr going] at told
      contradiction

variable {timeline : Timeline} {scope : Scope}

theorem Endless.race_eq (endless : timeline.Endless scope) : timeline.race scope = none := by
  cases told : timeline.race scope with
  | none => rfl
  | some reason => simp [Endless, awaitEnd, told] at endless

theorem Endless.end?_eq (endless : timeline.Endless scope) : timeline.end? scope = none :=
  race_eq_none.mp endless.race_eq

theorem Endless.endAhead?_eq (endless : timeline.Endless scope) :
    timeline.endAhead? scope = none := by
  simpa [Endless, awaitEnd, endless.race_eq] using endless

theorem Endless.carryOut (endless : timeline.Endless scope) (due : Nat → Bool) (now : Nat) :
    Timeline.Endless { timeline.carryOut due with now } scope := by
  obtain ⟨deadline, canceled, apart⟩ := endless_iff.mp endless
  refine endless_iff.mpr ⟨deadline, ?_, ?_⟩
  · refine (isCanceled_cancelAll ?_).trans canceled
    intro other member
    obtain ⟨entry, listed, rfl⟩ := List.mem_map.mp member
    exact apart entry (List.mem_filter.mp listed).1
  · intro entry member
    exact apart entry (List.mem_filter.mp member).1

theorem Endless.advanceTo (endless : timeline.Endless scope) (time : Nat) :
    (timeline.advanceTo time).Endless scope := endless.carryOut _ _

theorem Endless.advanceThrough (endless : timeline.Endless scope) (time : Nat) :
    (timeline.advanceThrough time).Endless scope := endless.carryOut _ _

theorem Endless.run_eq (endless : timeline.Endless scope) (ready : Nat) :
    timeline.run scope (some ready) = some (.finished, timeline.advanceTo ready) := by
  simp only [Timeline.run, endless.end?_eq, endless.endAhead?_eq]

end Timeline

end BlobTransfer
