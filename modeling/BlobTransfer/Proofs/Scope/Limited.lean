import BlobTransfer.Proofs.Scope.Endless

/-!
Scopes that end by their deadline and in no other way, such as those made for a while out of a
scope that never ends. Work in them is finished if it is ready before the deadline is noticed.
-/

namespace BlobTransfer

theorem millisAtOrAfter_add (millis nanos : Nat) :
    millisAtOrAfter (millis * nanosPerMilli + nanos) = millis + millisAtOrAfter nanos := by
  simp only [millisAtOrAfter, nanosPerMilli]
  omega

namespace Timeline

variable {timeline : Timeline} {scope caller : Scope} {limit : Nat}

theorem end?_of_limited (endless : timeline.Endless scope.withoutDeadline)
    (deadline : scope.deadline = some limit) :
    timeline.end? scope =
      if limit ≤ timeline.instant then some .deadlineExceeded else none := by
  have uncanceled : timeline.scopes.isCanceled scope = false := (endless_iff.mp endless).2.1
  simp only [end?, Scopes.end?, uncanceled, Bool.false_eq_true, if_false, Scope.hasExpired,
    deadline, Option.any_some, decide_eq_true_eq]

theorem endAhead?_of_limited (endless : timeline.Endless scope.withoutDeadline)
    (deadline : scope.deadline = some limit) :
    timeline.endAhead? scope =
      some (.deadlineExceeded, timeline.advanceTo (max timeline.now (millisAtOrAfter limit))) := by
  have uncanceled : timeline.cancellation? scope = none :=
    cancellation?_eq_none.mpr (endless_iff.mp endless).2
  simp only [endAhead?, uncanceled, deadline, Option.map_some]

theorem run_of_limited (endless : timeline.Endless scope.withoutDeadline)
    (deadline : scope.deadline = some limit) (live : timeline.instant < limit)
    (readyAt : Option Nat) :
    timeline.run scope readyAt = some (match readyAt with
      | some ready =>
          if ready ≤ millisAtOrAfter limit then (.finished, timeline.advanceTo ready)
          else (.ended .deadlineExceeded, timeline.advanceTo (millisAtOrAfter limit))
      | none => (.ended .deadlineExceeded, timeline.advanceTo (millisAtOrAfter limit))) := by
  have ahead : max timeline.now (millisAtOrAfter limit) = millisAtOrAfter limit := by
    simp only [instant, millisAtOrAfter, nanosPerMilli] at live ⊢
    omega
  have later : (timeline.advanceTo (millisAtOrAfter limit)).now = millisAtOrAfter limit := ahead
  have going : timeline.end? scope = none := by
    rw [end?_of_limited endless deadline, if_neg (by omega)]
  simp only [run, going, endAhead?_of_limited endless deadline, ahead]
  cases readyAt with
  | none => rfl
  | some ready => by_cases timely : ready ≤ millisAtOrAfter limit <;> simp [later, timely]

theorem now_le_wake (timeline : Timeline) (duration : Duration) :
    timeline.now ≤ timeline.wake duration := by
  rw [wake, instant, millisAtOrAfter_add]
  exact Nat.le_add_right _ _

theorem wake_of_spans {duration : Duration} (spans : timeline.spans duration = true) :
    timeline.wake duration = timeline.now + millisAtOrAfter duration.nanos := by
  rw [wake, if_pos spans, instant, millisAtOrAfter_add]

def showing (timeline : Timeline) (now : Nat) : Timeline := { timeline with now }

theorem spans_showing {later : Timeline} (origin : later.origin = timeline.origin)
    (duration : Duration) :
    (timeline.showing later.now).spans duration = later.spans duration := by
  rw [spans, spans, origin]
  rfl

theorem wake_showing {later : Timeline} (origin : later.origin = timeline.origin)
    (duration : Duration) :
    (timeline.showing later.now).wake duration = later.wake duration := by
  rw [wake, wake, spans_showing origin]
  rfl

theorem advanceTo_wake_now (timeline : Timeline) (duration : Duration) :
    (timeline.advanceTo (timeline.wake duration)).now = timeline.wake duration :=
  Nat.max_eq_right (timeline.now_le_wake duration)

theorem Endless.sleep_eq (endless : timeline.Endless caller) (duration : Duration) :
    timeline.sleep caller duration =
      some (.finished, timeline.advanceTo (timeline.wake duration)) :=
  endless.run_eq _

/-- A scope that never ends, on a timeline where no mark that is still to be given out has been
cancelled or is going to be. -/
structure Lasting (timeline : Timeline) (caller : Scope) : Prop where
  endless : timeline.Endless caller
  ancestry : ∀ mark ∈ caller.lineage, mark < timeline.scopes.fresh
  planned : ∀ entry ∈ timeline.planned, ∀ mark ∈ entry.2.lineage.head?,
    mark < timeline.scopes.fresh
  canceled : ∀ mark ∈ timeline.scopes.canceled, mark < timeline.scopes.fresh

theorem Lasting.childFor_eq (lasting : timeline.Lasting caller) (timeout : Duration) :
    timeline.childFor caller timeout = (
      { lineage := timeline.scopes.fresh :: caller.lineage
        deadline := some (timeline.instant + timeout.nanos) },
      { timeline with scopes := { timeline.scopes with fresh := timeline.scopes.fresh + 1 } }) := by
  have unlimited := (endless_iff.mp lasting.endless).1
  simp only [childFor, childUntil, Scopes.childUntil, Scopes.child, unlimited]

theorem Lasting.childFor_endless (lasting : timeline.Lasting caller) (timeout : Duration) :
    (timeline.childFor caller timeout).2.Endless
      (timeline.childFor caller timeout).1.withoutDeadline := by
  rw [lasting.childFor_eq]
  obtain ⟨_, going, apart⟩ := endless_iff.mp lasting.endless
  refine endless_iff.mpr ⟨rfl, ?_, ?_⟩
  · have unused : timeline.scopes.canceled.contains timeline.scopes.fresh = false := by
      simpa using fun member => Nat.lt_irrefl _ (lasting.canceled _ member)
    simp only [Scopes.isCanceled] at going
    simp only [Scopes.isCanceled, Scope.withoutDeadline, List.any_cons, unused, going,
      Bool.or_false]
  · intro entry member
    have foreign := apart entry member
    have older := lasting.planned entry member
    cases head : entry.2.lineage.head? with
    | none => rfl
    | some mark =>
        have different : mark ≠ timeline.scopes.fresh := Nat.ne_of_lt (older mark head)
        simp only [head, Option.any_some] at foreign
        simpa [Scope.withoutDeadline, different] using foreign

theorem Lasting.childFor (lasting : timeline.Lasting caller) (timeout : Duration) :
    (timeline.childFor caller timeout).2.Lasting caller := by
  rw [lasting.childFor_eq]
  obtain ⟨unlimited, going, apart⟩ := endless_iff.mp lasting.endless
  exact {
    endless := endless_iff.mpr ⟨unlimited, going, apart⟩
    ancestry := fun mark member => Nat.lt_succ_of_lt (lasting.ancestry mark member)
    planned := fun entry member mark head =>
      Nat.lt_succ_of_lt (lasting.planned entry member mark head)
    canceled := fun mark member => Nat.lt_succ_of_lt (lasting.canceled mark member) }

theorem canceled_cancel {scopes : Scopes} {ended : Scope} {mark : Nat}
    (member : mark ∈ (scopes.cancel ended).canceled) :
    ended.lineage.head? = some mark ∨ mark ∈ scopes.canceled := by
  obtain own | old := List.mem_append.mp member
  · cases lineage : ended.lineage with
    | nil => simp [lineage] at own
    | cons first others => exact .inl (by simpa [lineage, eq_comm] using own)
  · exact .inr old

def Apart (timeline : Timeline) (caller scope : Scope) : Prop :=
  ∀ mark ∈ scope.lineage.head?, mark < timeline.scopes.fresh ∧ mark ∉ caller.lineage

theorem Apart.later {later : Timeline} (apart : timeline.Apart caller scope)
    (grown : timeline.scopes.fresh ≤ later.scopes.fresh) : later.Apart caller scope :=
  fun mark own => ⟨Nat.lt_of_lt_of_le (apart mark own).1 grown, (apart mark own).2⟩

theorem Lasting.cancel (lasting : timeline.Lasting caller) {ended : Scope}
    (apart : timeline.Apart caller ended) : (timeline.cancel ended).Lasting caller := by
  obtain ⟨unlimited, going, foreign⟩ := endless_iff.mp lasting.endless
  have spared : ended.lineage.head?.any caller.lineage.contains = false := by
    cases head : ended.lineage.head? with
    | none => rfl
    | some mark => simpa using (apart mark head).2
  refine ⟨endless_iff.mpr ⟨unlimited, (isCanceled_cancel spared).trans going, foreign⟩,
    lasting.ancestry, lasting.planned, ?_⟩
  intro mark member
  exact (canceled_cancel member).elim (fun own => (apart mark own).1) (lasting.canceled mark)

theorem Lasting.cancelAll (lasting : timeline.Lasting caller) {ended : List Scope}
    (apart : ∀ scope ∈ ended, timeline.Apart caller scope) :
    (timeline.cancelAll ended).Lasting caller := by
  induction ended generalizing timeline with
  | nil => exact lasting
  | cons first others ih =>
      exact ih (lasting.cancel (apart first List.mem_cons_self))
        (fun scope member => apart scope (List.mem_cons_of_mem _ member))

theorem Lasting.apart_of_planned (lasting : timeline.Lasting caller) {entry : Nat × Scope}
    (member : entry ∈ timeline.planned) : timeline.Apart caller entry.2 := by
  intro mark own
  have foreign := (endless_iff.mp lasting.endless).2.2 entry member
  rw [Option.mem_def] at own
  exact ⟨lasting.planned entry member mark own, by simpa [own] using foreign⟩

theorem Lasting.advanceTo (lasting : timeline.Lasting caller) (time : Nat) :
    (timeline.advanceTo time).Lasting caller := by
  have carried : (timeline.cancelAll
      ((timeline.planned.filter fun entry => decide (entry.1 < time)).map (·.2))).Lasting
        caller := by
    refine lasting.cancelAll fun scope member => ?_
    obtain ⟨entry, due, rfl⟩ := List.mem_map.mp member
    exact lasting.apart_of_planned (List.mem_filter.mp due).1
  exact {
    endless := lasting.endless.advanceTo time
    ancestry := carried.ancestry
    planned := fun entry member => carried.planned entry (List.mem_filter.mp member).1
    canceled := carried.canceled }

theorem fresh_cancelAll (scopes : Scopes) (ended : List Scope) :
    (scopes.cancelAll ended).fresh = scopes.fresh := by
  induction ended generalizing scopes with
  | nil => rfl
  | cons first others ih => exact ih (scopes.cancel first)

theorem fresh_advanceTo (timeline : Timeline) (time : Nat) :
    (timeline.advanceTo time).scopes.fresh = timeline.scopes.fresh := fresh_cancelAll _ _

/-- A scope of its own for a while, made out of one that never ends and not cancelled so far. -/
structure Within (timeline : Timeline) (caller scope : Scope) (limit : Nat) : Prop where
  lasting : timeline.Lasting caller
  endless : timeline.Endless scope.withoutDeadline
  deadline : scope.deadline = some limit
  apart : timeline.Apart caller scope
  named : scope.lineage ≠ []

theorem Lasting.within (lasting : timeline.Lasting caller) (timeout : Duration) :
    (timeline.childFor caller timeout).2.Within caller (timeline.childFor caller timeout).1
      (timeline.instant + timeout.nanos) where
  lasting := lasting.childFor timeout
  endless := lasting.childFor_endless timeout
  deadline := by rw [lasting.childFor_eq]
  named := by simp [lasting.childFor_eq]
  apart := by
    rw [lasting.childFor_eq]
    rintro mark ⟨⟩
    exact ⟨Nat.lt_succ_self _, fun member => Nat.lt_irrefl _ (lasting.ancestry _ member)⟩

theorem Lasting.begins {begun : Timeline} {timeout : Duration} (lasting : timeline.Lasting caller)
    (made : timeline.childFor caller timeout = (scope, begun)) :
    begun.now = timeline.now ∧ begun.origin = timeline.origin ∧
      begun.scopes.fresh = timeline.scopes.fresh + 1 ∧
      begun.Within caller scope (begun.instant + timeout.nanos) := by
  have nested := lasting.within timeout
  have same := lasting.childFor_eq timeout
  rw [made] at nested same
  obtain ⟨rfl, rfl⟩ := Prod.mk.inj same
  exact ⟨rfl, rfl, rfl, nested⟩

theorem Within.advanceTo (nested : timeline.Within caller scope limit) (time : Nat) :
    (timeline.advanceTo time).Within caller scope limit where
  lasting := nested.lasting.advanceTo time
  endless := nested.endless.advanceTo time
  deadline := nested.deadline
  named := nested.named
  apart := nested.apart.later (Nat.le_of_eq (fresh_advanceTo _ _).symm)

theorem Within.end?_cancel (nested : timeline.Within caller scope limit) :
    (timeline.cancel scope).end? scope = some .canceled := by
  obtain ⟨mark, others, lineage⟩ := List.exists_cons_of_ne_nil nested.named
  simp [end?, Scopes.end?, Timeline.cancel, Scopes.isCanceled, Scopes.cancel, lineage]

end Timeline

end BlobTransfer
