import BlobTransfer.Proofs.Scope.Later

/-!
Waiting in a scope. Work is finished if it is ready while the scope lasts, and given up when the
scope ends; a scope made out of another one for a while lasts no longer than either.
-/

namespace BlobTransfer

theorem millisAtOrAfter_le {sooner later : Nat} (ordered : sooner ≤ later) :
    millisAtOrAfter sooner ≤ millisAtOrAfter later := by
  simp only [millisAtOrAfter]
  exact Nat.div_le_div_right (by omega)

namespace Timeline

variable {timeline later : Timeline} {scope caller : Scope} {reason : ScopeEnd} {mark : Nat}

theorem le_millis_of_instant {limit : Nat} (reached : timeline.instant ≤ limit) :
    timeline.now ≤ millisAtOrAfter limit := by
  simp only [instant, millisAtOrAfter, nanosPerMilli] at reached ⊢
  omega

/-! The next cancellation. -/

def Concerns (entry : Nat × Scope) (scope : Scope) : Prop :=
  ∃ mark ∈ scope.lineage, entry.2.lineage.head? = some mark

theorem concerns_iff {entry : Nat × Scope} :
    entry.2.lineage.head?.any scope.lineage.contains = true ↔ Concerns entry scope := by
  cases head : entry.2.lineage.head? with
  | none => simp [Concerns, head]
  | some mark => simp [Concerns, head, eq_comm]

theorem earliest_cases {Entry : Type} {entries : List Entry} {moment : Entry → Nat} {time : Nat}
    {first : Option Nat}
    (found : entries.foldl (fun earliest entry => earlier? earliest (some (moment entry)))
      first = some time) :
    first = some time ∨ ∃ entry ∈ entries, time = moment entry := by
  induction entries generalizing first with
  | nil => exact .inl found
  | cons entry others ih =>
      rcases ih found with same | ⟨other, member, same⟩
      · cases first with
        | none => exact .inr ⟨entry, List.mem_cons_self, (Option.some.inj same).symm⟩
        | some before =>
            have least : min before (moment entry) = time := Option.some.inj same
            by_cases sooner : before ≤ moment entry
            · exact .inl (by rw [← least, Nat.min_eq_left sooner])
            · exact .inr ⟨entry, List.mem_cons_self, by omega⟩
      · exact .inr ⟨other, List.mem_cons_of_mem _ member, same⟩

theorem earliest_le {Entry : Type} {entries : List Entry} {moment : Entry → Nat} {bound : Nat}
    {first : Option Nat}
    (some_le : (∃ time, first = some time ∧ time ≤ bound) ∨
      ∃ entry ∈ entries, moment entry ≤ bound) :
    ∃ time, entries.foldl (fun earliest entry =>
      earlier? earliest (some (moment entry))) first = some time ∧ time ≤ bound := by
  induction entries generalizing first with
  | nil =>
      rcases some_le with here | ⟨entry, member, _⟩
      · exact here
      · exact absurd member List.not_mem_nil
  | cons entry others ih =>
      apply ih
      rcases some_le with ⟨time, rfl, within⟩ | ⟨other, member, within⟩
      · exact .inl ⟨_, rfl, by omega⟩
      · rcases List.mem_cons.mp member with rfl | rest
        · cases first with
          | none => exact .inl ⟨_, rfl, within⟩
          | some before => exact .inl ⟨_, rfl, by omega⟩
        · exact .inr ⟨other, rest, within⟩

theorem cancellation?_eq_some {time : Nat}
    (going : timeline.scopes.isCanceled scope = false)
    (found : timeline.cancellation? scope = some time) :
    ∃ entry ∈ timeline.planned, Concerns entry scope ∧ time = max timeline.now entry.1 := by
  simp only [cancellation?, going, Bool.false_eq_true, if_false] at found
  rcases earliest_cases found with nothing | ⟨entry, member, same⟩
  · contradiction
  · obtain ⟨planned, related⟩ := List.mem_filter.mp member
    exact ⟨entry, planned, concerns_iff.mp related, same⟩

theorem cancellation?_le {entry : Nat × Scope}
    (going : timeline.scopes.isCanceled scope = false) (member : entry ∈ timeline.planned)
    (concerns : Concerns entry scope) :
    ∃ time, timeline.cancellation? scope = some time ∧ time ≤ max timeline.now entry.1 := by
  simp only [cancellation?, going, Bool.false_eq_true, if_false]
  apply earliest_le
  right
  exact ⟨entry, List.mem_filter.mpr ⟨member, concerns_iff.mpr concerns⟩, Nat.le_refl _⟩

/-- How a scope ends if nothing else happens: by a cancellation before its deadline, or by its
deadline. -/
inductive EndsAhead (timeline : Timeline) (scope : Scope) : ScopeEnd → Timeline → Prop
  | canceled {time : Nat} (found : timeline.cancellation? scope = some time)
      (sooner : ∀ limit, scope.deadline = some limit →
        time < max timeline.now (millisAtOrAfter limit)) :
      EndsAhead timeline scope .canceled (timeline.advanceThrough time)
  | expired {limit : Nat} (deadline : scope.deadline = some limit)
      (sooner : ∀ time, timeline.cancellation? scope = some time →
        max timeline.now (millisAtOrAfter limit) ≤ time) :
      EndsAhead timeline scope .deadlineExceeded
        (timeline.advanceTo (max timeline.now (millisAtOrAfter limit)))

theorem endsAhead_of_endAhead? (ahead : timeline.endAhead? scope = some (reason, later)) :
    timeline.EndsAhead scope reason later := by
  cases found : timeline.cancellation? scope with
  | none =>
      cases deadline : scope.deadline with
      | none => simp [endAhead?, found, deadline] at ahead
      | some limit =>
          simp only [endAhead?, found, deadline, Option.map_some, Option.some.injEq,
            Prod.mk.injEq] at ahead
          obtain ⟨rfl, rfl⟩ := ahead
          exact .expired deadline fun time other => by simp [found] at other
  | some time =>
      cases deadline : scope.deadline with
      | none =>
          simp only [endAhead?, found, deadline, Option.map_none, Option.some.injEq,
            Prod.mk.injEq] at ahead
          obtain ⟨rfl, rfl⟩ := ahead
          exact .canceled found fun limit other => by simp [deadline] at other
      | some limit =>
          simp only [endAhead?, found, deadline, Option.map_some] at ahead
          split at ahead
          · rename_i sooner
            obtain ⟨rfl, rfl⟩ := Prod.mk.inj (Option.some.inj ahead)
            refine .canceled found fun other same => ?_
            rw [deadline, Option.some.injEq] at same
            exact same ▸ sooner
          · rename_i later
            obtain ⟨rfl, rfl⟩ := Prod.mk.inj (Option.some.inj ahead)
            refine .expired deadline fun other same => ?_
            rw [found, Option.some.injEq] at same
            omega

theorem EndsAhead.passes (ends : timeline.EndsAhead scope reason later) :
    timeline.Passes later := by
  cases ends with
  | canceled => exact passes_advanceThrough _ _
  | expired => exact passes_advanceTo _ _

/-! Waiting. -/

/-- How a wait goes: not at all in a scope that is over, else until the work is ready or the
scope ends. -/
inductive Waits (timeline : Timeline) (scope : Scope) (readyAt : Option Nat) :
    Waited → Timeline → Prop
  | unbegun {reason : ScopeEnd} (ended : timeline.end? scope = some reason) :
      Waits timeline scope readyAt (.ended reason) timeline
  | finished {ready : Nat} (going : timeline.end? scope = none) (due : readyAt = some ready)
      (timely : ∀ reason later, timeline.endAhead? scope = some (reason, later) →
        ready ≤ later.now) :
      Waits timeline scope readyAt .finished (timeline.advanceTo ready)
  | ended {reason : ScopeEnd} {later : Timeline} (going : timeline.end? scope = none)
      (ends : timeline.EndsAhead scope reason later) :
      Waits timeline scope readyAt (.ended reason) later

theorem waits_of_run {readyAt : Option Nat} {waited : Waited}
    (ran : timeline.run scope readyAt = some (waited, later)) :
    timeline.Waits scope readyAt waited later := by
  cases going : timeline.end? scope with
  | some reason =>
      simp only [run, going, Option.some.injEq, Prod.mk.injEq] at ran
      obtain ⟨rfl, rfl⟩ := ran
      exact .unbegun going
  | none =>
      cases ahead : timeline.endAhead? scope with
      | none =>
          cases readyAt with
          | none => simp [run, going, ahead] at ran
          | some ready =>
              simp only [run, going, ahead, Option.some.injEq, Prod.mk.injEq] at ran
              obtain ⟨rfl, rfl⟩ := ran
              exact .finished going rfl fun reason later same => by simp [ahead] at same
      | some ending =>
          rcases ending with ⟨reason, last⟩
          have ends := endsAhead_of_endAhead? ahead
          cases readyAt with
          | none =>
              simp only [run, going, ahead, Option.some.injEq, Prod.mk.injEq] at ran
              obtain ⟨rfl, rfl⟩ := ran
              exact .ended going ends
          | some ready =>
              simp only [run, going, ahead] at ran
              split at ran
              · rename_i timely
                obtain ⟨rfl, rfl⟩ := Prod.mk.inj (Option.some.inj ran)
                refine .finished going rfl fun other others same => ?_
                rw [ahead, Option.some.injEq, Prod.mk.injEq] at same
                exact same.2 ▸ timely
              · obtain ⟨rfl, rfl⟩ := Prod.mk.inj (Option.some.inj ran)
                exact .ended going ends

theorem run_ne_none {readyAt : Option Nat} (ends : readyAt ≠ none ∨ scope.deadline ≠ none) :
    timeline.run scope readyAt ≠ none := by
  intro endless
  cases going : timeline.end? scope with
  | some reason => simp [run, going] at endless
  | none =>
      cases ahead : timeline.endAhead? scope with
      | none =>
          have unlimited := (endAhead?_eq_none.mp ahead).2
          cases readyAt with
          | none => simp [unlimited] at ends
          | some ready => simp [run, going, ahead] at endless
      | some ending =>
          cases readyAt with
          | none => simp [run, going, ahead] at endless
          | some ready =>
              simp only [run, going, ahead] at endless
              split at endless <;> contradiction

namespace Waits

variable {readyAt : Option Nat} {waited : Waited}

theorem passes (waits : timeline.Waits scope readyAt waited later) : timeline.Passes later := by
  cases waits with
  | unbegun => exact .refl _
  | finished => exact passes_advanceTo _ _
  | ended _ ends => exact ends.passes

theorem live (waits : timeline.Waits scope readyAt .finished later) :
    timeline.end? scope = none := by
  cases waits with
  | finished going => exact going

theorem end?_eq (waits : timeline.Waits scope readyAt (.ended reason) later) :
    later.end? scope = some reason := by
  cases waits with
  | unbegun ended => exact ended
  | ended going ends =>
      obtain ⟨uncanceled, unexpired⟩ := end?_eq_none.mp going
      cases ends with
      | @canceled time found sooner =>
          obtain ⟨entry, member, ⟨mark, own, head⟩, rfl⟩ :=
            cancellation?_eq_some uncanceled found
          apply end?_eq_canceled.mpr
          apply isCanceled_iff.mpr
          exact ⟨mark, own, mem_canceled_advanceThrough.mpr
            (.inr ⟨entry, member, Nat.le_max_right _ _, head⟩)⟩
      | @expired limit deadline sooner =>
          have ahead := lt_millisAtOrAfter (unexpired limit deadline)
          apply end?_eq_deadlineExceeded.mpr
          constructor
          · rw [← Bool.not_eq_true, isCanceled_iff]
            rintro ⟨mark, own, member⟩
            rcases mem_canceled_advanceTo.mp member with old | ⟨entry, planned, due, head⟩
            · rw [isCanceled_iff.mpr ⟨mark, own, old⟩] at uncanceled
              contradiction
            · obtain ⟨time, found, soon⟩ := cancellation?_le uncanceled planned ⟨mark, own, head⟩
              have reached := sooner time found
              omega
          · refine ⟨limit, deadline, le_instant_of_millis ?_⟩
            simp only [advanceTo]
            omega

theorem uncanceled (waits : timeline.Waits scope readyAt .finished later)
    (ahead : ∀ entry ∈ timeline.planned, timeline.now ≤ entry.1) :
    later.scopes.isCanceled scope = false := by
  cases waits with
  | @finished ready going due timely =>
      have uncanceled := (end?_eq_none.mp going).1
      rw [← Bool.not_eq_true, isCanceled_iff]
      rintro ⟨mark, own, member⟩
      rcases mem_canceled_advanceTo.mp member with old | ⟨entry, planned, isDue, head⟩
      · rw [isCanceled_iff.mpr ⟨mark, own, old⟩] at uncanceled
        contradiction
      · obtain ⟨time, found, soon⟩ := cancellation?_le uncanceled planned ⟨mark, own, head⟩
        have waiting := ahead entry planned
        cases ends : timeline.endAhead? scope with
        | none =>
            have nothing := (endAhead?_eq_none.mp ends).1
            simp [nothing] at found
        | some ending =>
            rcases ending with ⟨reason, last⟩
            have reached := timely reason last ends
            cases endsAhead_of_endAhead? ends with
            | canceled same sooner =>
                rw [found, Option.some.injEq] at same
                subst same
                simp only [advanceThrough] at reached
                omega
            | expired deadline sooner =>
                have before := sooner time found
                simp only [advanceTo] at reached
                omega

end Waits

/-! Scopes whose end is certain. -/

/-- The scope is over by a time, whatever happens: it is over now, its deadline passes, or one of
its lineage is cancelled by then. -/
def EndsBy (timeline : Timeline) (scope : Scope) (time : Nat) : Prop :=
  timeline.isOver scope = true ∨
    (∃ limit, scope.deadline = some limit ∧ millisAtOrAfter limit ≤ time) ∨
    ∃ entry ∈ timeline.planned, entry.1 ≤ time ∧ Concerns entry scope

theorem EndsBy.stays {time : Nat} (endsBy : timeline.EndsBy scope time)
    (precedes : timeline.Precedes later) : later.EndsBy scope time := by
  rcases endsBy with spent | expires | ⟨entry, member, soon, concerns⟩
  · exact .inl (isOver_later precedes spent)
  · exact .inr (.inl expires)
  · rcases precedes.carried entry member with kept | gone
    · exact .inr (.inr ⟨entry, kept, soon, concerns⟩)
    · left
      obtain ⟨mark, own, head⟩ := concerns
      have canceled := isCanceled_iff.mpr ⟨mark, own, gone mark head⟩
      rw [isOver_iff, end?_eq_canceled.mpr canceled]
      exact Option.some_ne_none _

theorem EndsAhead.now_le {time : Nat} (ends : timeline.EndsAhead scope reason later)
    (going : timeline.end? scope = none) (endsBy : timeline.EndsBy scope time)
    (started : timeline.now ≤ time) : later.now ≤ time := by
  obtain ⟨uncanceled, unexpired⟩ := end?_eq_none.mp going
  rcases endsBy with spent | ⟨limit, deadline, soon⟩ | ⟨entry, member, soon, concerns⟩
  · rw [isOver_iff, going] at spent
    contradiction
  · cases ends with
    | canceled found sooner =>
        have before := sooner limit deadline
        simp only [advanceThrough]
        omega
    | expired same sooner =>
        rw [deadline, Option.some.injEq] at same
        subst same
        simp only [advanceTo]
        omega
  · obtain ⟨first, found, before⟩ := cancellation?_le uncanceled member concerns
    cases ends with
    | canceled same sooner =>
        rw [found, Option.some.injEq] at same
        subst same
        simp only [advanceThrough]
        omega
    | expired deadline sooner =>
        have earlier := sooner first found
        simp only [advanceTo]
        omega

theorem endAhead?_isSome {time : Nat} (going : timeline.end? scope = none)
    (endsBy : timeline.EndsBy scope time) : timeline.endAhead? scope ≠ none := by
  intro endless
  obtain ⟨undone, unlimited⟩ := endAhead?_eq_none.mp endless
  rcases endsBy with spent | ⟨limit, deadline, _⟩ | ⟨entry, member, _, concerns⟩
  · rw [isOver_iff, going] at spent
    contradiction
  · simp [unlimited] at deadline
  · obtain ⟨first, found, _⟩ := cancellation?_le (end?_eq_none.mp going).1 member concerns
    simp [undone] at found

/-- No wait in a scope takes longer than the scope lasts. -/
theorem Waits.now_le {readyAt : Option Nat} {waited : Waited} {time : Nat}
    (waits : timeline.Waits scope readyAt waited later) (endsBy : timeline.EndsBy scope time)
    (started : timeline.now ≤ time) : later.now ≤ time := by
  cases waits with
  | unbegun => exact started
  | ended going ends => exact ends.now_le going endsBy started
  | @finished ready going due timely =>
      obtain ⟨⟨reason, last⟩, ends⟩ :=
        Option.ne_none_iff_exists'.mp (endAhead?_isSome going endsBy)
      have reached := timely reason last ends
      have bounded := (endsAhead_of_endAhead? ends).now_le going endsBy started
      simp only [advanceTo]
      omega

/-! Scopes made out of others. -/

/-- A scope made out of another one for a while has a new mark in front, and ends with the time
or with the other one. -/
structure MadeFor (timeline : Timeline) (caller : Scope) (timeout : Duration) (scope : Scope)
    (later : Timeline) : Prop where
  lineage : scope.lineage = timeline.scopes.fresh :: caller.lineage
  deadline : scope.deadline = some (match caller.deadline with
    | some limit => min limit (timeline.instant + timeout.nanos)
    | none => timeline.instant + timeout.nanos)
  made : later = { timeline with
    scopes := { timeline.scopes with fresh := timeline.scopes.fresh + 1 } }

theorem madeFor_of_childFor {timeout : Duration}
    (made : timeline.childFor caller timeout = (scope, later)) :
    timeline.MadeFor caller timeout scope later := by
  obtain ⟨rfl, rfl⟩ := Prod.mk.inj made
  exact ⟨rfl, rfl, rfl⟩

namespace MadeFor

variable {timeout : Duration}

theorem precedes (made : timeline.MadeFor caller timeout scope later) :
    timeline.Precedes later := by
  rw [made.made]
  exact ⟨rfl, Nat.le_refl _, Nat.le_succ _, fun _ member => member, fun _ member => .inl member⟩

theorem now (made : timeline.MadeFor caller timeout scope later) : later.now = timeline.now := by
  rw [made.made]

theorem doomed (made : timeline.MadeFor caller timeout scope later) (doomed : later.Doomed mark) :
    timeline.Doomed mark := by
  rw [made.made] at doomed
  exact doomed

theorem sound (made : timeline.MadeFor caller timeout scope later) (sound : timeline.Sound) :
    later.Sound where
  ahead := by
    rw [made.made]
    exact sound.ahead
  doomed := by
    intro mark doomed
    exact Nat.lt_of_lt_of_le (sound.doomed mark (made.doomed doomed)) made.precedes.fresh

theorem isOver (made : timeline.MadeFor caller timeout scope later) {last : Timeline}
    (spent : last.isOver caller = true) : last.isOver scope = true := by
  rw [isOver_iff] at spent ⊢
  intro going
  apply spent
  obtain ⟨uncanceled, unexpired⟩ := end?_eq_none.mp going
  apply end?_eq_none.mpr
  constructor
  · rw [← Bool.not_eq_true, isCanceled_iff] at uncanceled ⊢
    rintro ⟨mark, own, canceled⟩
    apply uncanceled
    refine ⟨mark, ?_, canceled⟩
    rw [made.lineage]
    exact List.mem_cons_of_mem _ own
  · intro limit deadline
    have live := unexpired _ made.deadline
    rw [deadline] at live
    simp only at live
    omega

theorem endsBy (made : timeline.MadeFor caller timeout scope later) {time : Nat}
    (endsBy : later.EndsBy caller time) : later.EndsBy scope time := by
  rcases endsBy with spent | ⟨limit, deadline, soon⟩ | ⟨entry, member, soon, mark, own, head⟩
  · exact .inl (made.isOver spent)
  · have earlier := made.deadline
    rw [deadline] at earlier
    exact .inr (.inl ⟨_, earlier, Nat.le_trans (millisAtOrAfter_le (Nat.min_le_left _ _)) soon⟩)
  · refine .inr (.inr ⟨entry, member, soon, mark, ?_, head⟩)
    rw [made.lineage]
    exact List.mem_cons_of_mem _ own

end MadeFor

end Timeline

end BlobTransfer
