import BlobTransfer.Proofs.Scope.Limited

/-!
What stays of a timeline as it goes on: the clock does not go back, no cancellation is taken back,
and what is planned is carried out in its time.
-/

namespace BlobTransfer

theorem canceled_of_cancel {scopes : Scopes} {ended : Scope} {mark : Nat}
    (own : ended.lineage.head? = some mark) : mark ∈ (scopes.cancel ended).canceled := by
  cases lineage : ended.lineage with
  | nil => simp [lineage] at own
  | cons first others =>
      rw [lineage, List.head?_cons, Option.some.injEq] at own
      subst own
      simp [Scopes.cancel, lineage]

theorem canceled_cancel_of_mem {scopes : Scopes} (ended : Scope) {mark : Nat}
    (member : mark ∈ scopes.canceled) : mark ∈ (scopes.cancel ended).canceled :=
  List.mem_append_right _ member

theorem mem_canceled_cancelAll {scopes : Scopes} {ended : List Scope} {mark : Nat} :
    mark ∈ (scopes.cancelAll ended).canceled ↔
      mark ∈ scopes.canceled ∨ ∃ scope ∈ ended, scope.lineage.head? = some mark := by
  induction ended generalizing scopes with
  | nil => simp [Scopes.cancelAll]
  | cons first others ih =>
      change mark ∈ ((scopes.cancel first).cancelAll others).canceled ↔ _
      rw [ih]
      constructor
      · rintro (member | ⟨scope, member, own⟩)
        · rcases Timeline.canceled_cancel member with own | old
          · exact .inr ⟨first, List.mem_cons_self, own⟩
          · exact .inl old
        · exact .inr ⟨scope, List.mem_cons_of_mem _ member, own⟩
      · rintro (old | ⟨scope, member, own⟩)
        · exact .inl (canceled_cancel_of_mem first old)
        · rcases List.mem_cons.mp member with rfl | rest
          · exact .inl (canceled_of_cancel own)
          · exact .inr ⟨scope, rest, own⟩

theorem isCanceled_iff {scopes : Scopes} {scope : Scope} :
    scopes.isCanceled scope = true ↔ ∃ mark ∈ scope.lineage, mark ∈ scopes.canceled := by
  simp [Scopes.isCanceled]

namespace Timeline

variable {timeline later : Timeline} {scope caller : Scope} {reason : ScopeEnd} {mark : Nat}

def Doomed (timeline : Timeline) (mark : Nat) : Prop :=
  mark ∈ timeline.scopes.canceled ∨ ∃ entry ∈ timeline.planned, entry.2.lineage.head? = some mark

/-- The second timeline may come after the first. -/
structure Precedes (timeline later : Timeline) : Prop where
  origin : later.origin = timeline.origin
  now : timeline.now ≤ later.now
  fresh : timeline.scopes.fresh ≤ later.scopes.fresh
  canceled : ∀ mark ∈ timeline.scopes.canceled, mark ∈ later.scopes.canceled
  carried : ∀ entry ∈ timeline.planned, entry ∈ later.planned ∨
    ∀ mark, entry.2.lineage.head? = some mark → mark ∈ later.scopes.canceled

/-- Only time has passed from the first timeline to the second. -/
structure Passes (timeline later : Timeline) : Prop extends Precedes timeline later where
  unmade : later.scopes.fresh = timeline.scopes.fresh
  planned : ∀ entry ∈ later.planned, entry ∈ timeline.planned
  ahead : ∀ entry ∈ later.planned, later.now ≤ max timeline.now entry.1
  canceledBy : ∀ mark ∈ later.scopes.canceled, timeline.Doomed mark

theorem Precedes.refl (timeline : Timeline) : timeline.Precedes timeline where
  origin := rfl
  now := Nat.le_refl _
  fresh := Nat.le_refl _
  canceled := fun _ member => member
  carried := fun _ member => .inl member

theorem Precedes.trans {last : Timeline} (first : timeline.Precedes later)
    (second : later.Precedes last) : timeline.Precedes last where
  origin := second.origin.trans first.origin
  now := Nat.le_trans first.now second.now
  fresh := Nat.le_trans first.fresh second.fresh
  canceled := fun mark member => second.canceled mark (first.canceled mark member)
  carried := by
    intro entry member
    rcases first.carried entry member with kept | gone
    · exact second.carried entry kept
    · exact .inr fun mark own => second.canceled mark (gone mark own)

theorem Passes.refl (timeline : Timeline) : timeline.Passes timeline where
  toPrecedes := .refl timeline
  unmade := rfl
  planned := fun _ member => member
  ahead := fun _ _ => Nat.le_max_left _ _
  canceledBy := fun _ member => .inl member

theorem Passes.doomed (passes : timeline.Passes later) (doomed : later.Doomed mark) :
    timeline.Doomed mark := by
  rcases doomed with member | ⟨entry, member, own⟩
  · exact passes.canceledBy mark member
  · exact .inr ⟨entry, passes.planned entry member, own⟩

theorem precedes_cancel (timeline : Timeline) (ended : Scope) :
    timeline.Precedes (timeline.cancel ended) where
  origin := rfl
  now := Nat.le_refl _
  fresh := Nat.le_refl _
  canceled := fun _ member => canceled_cancel_of_mem ended member
  carried := fun _ member => .inl member

theorem precedes_cancelAll (timeline : Timeline) (ended : List Scope) :
    timeline.Precedes (timeline.cancelAll ended) where
  origin := rfl
  now := Nat.le_refl _
  fresh := Nat.le_of_eq (fresh_cancelAll _ _).symm
  canceled := fun _ member => mem_canceled_cancelAll.mpr (.inl member)
  carried := fun _ member => .inl member

theorem mem_canceled_carryOut {due : Nat → Bool} :
    mark ∈ (timeline.carryOut due).scopes.canceled ↔ mark ∈ timeline.scopes.canceled ∨
      ∃ entry ∈ timeline.planned, due entry.1 = true ∧ entry.2.lineage.head? = some mark := by
  rw [carryOut, mem_canceled_cancelAll]
  apply or_congr_right
  constructor
  · rintro ⟨scope, listed, own⟩
    obtain ⟨entry, filtered, rfl⟩ := List.mem_map.mp listed
    obtain ⟨member, isDue⟩ := List.mem_filter.mp filtered
    exact ⟨entry, member, isDue, own⟩
  · rintro ⟨entry, member, isDue, own⟩
    exact ⟨entry.2, List.mem_map.mpr ⟨entry, List.mem_filter.mpr ⟨member, isDue⟩, rfl⟩, own⟩

theorem mem_canceled_advanceTo {time : Nat} :
    mark ∈ (timeline.advanceTo time).scopes.canceled ↔ mark ∈ timeline.scopes.canceled ∨
      ∃ entry ∈ timeline.planned, entry.1 < time ∧ entry.2.lineage.head? = some mark := by
  have carried := @mem_canceled_carryOut timeline mark (· < time)
  simp only [decide_eq_true_eq] at carried
  exact carried

theorem mem_canceled_advanceThrough {time : Nat} :
    mark ∈ (timeline.advanceThrough time).scopes.canceled ↔ mark ∈ timeline.scopes.canceled ∨
      ∃ entry ∈ timeline.planned, entry.1 ≤ time ∧ entry.2.lineage.head? = some mark := by
  have carried := @mem_canceled_carryOut timeline mark (· ≤ time)
  simp only [decide_eq_true_eq] at carried
  exact carried

theorem passes_carryOut (due : Nat → Bool) (time : Nat)
    (waits : ∀ planned, due planned = false → time ≤ max timeline.now planned) :
    timeline.Passes { timeline.carryOut due with now := max timeline.now time } where
  origin := rfl
  now := Nat.le_max_left _ _
  fresh := Nat.le_of_eq (fresh_cancelAll _ _).symm
  canceled := fun _ member => mem_canceled_carryOut.mpr (.inl member)
  carried := by
    intro entry member
    cases isDue : due entry.1 with
    | false => exact .inl (List.mem_filter.mpr ⟨member, by simp [isDue]⟩)
    | true =>
        right
        intro mark own
        exact mem_canceled_carryOut.mpr (.inr ⟨entry, member, isDue, own⟩)
  unmade := fresh_cancelAll _ _
  planned := fun _ member => (List.mem_filter.mp member).1
  ahead := by
    intro entry member
    have spared : due entry.1 = false := by simpa using (List.mem_filter.mp member).2
    exact Nat.max_le.mpr ⟨Nat.le_max_left _ _, waits entry.1 spared⟩
  canceledBy := by
    intro mark member
    rcases mem_canceled_carryOut.mp member with old | ⟨entry, planned, _, own⟩
    · exact .inl old
    · exact .inr ⟨entry, planned, own⟩

theorem passes_advanceTo (timeline : Timeline) (time : Nat) :
    timeline.Passes (timeline.advanceTo time) := by
  apply passes_carryOut
  intro planned later
  have reached : time ≤ planned := by simpa using later
  omega

theorem passes_advanceThrough (timeline : Timeline) (time : Nat) :
    timeline.Passes (timeline.advanceThrough time) := by
  apply passes_carryOut
  intro planned later
  have reached : time < planned := by simpa using later
  omega

theorem isCanceled_later (precedes : timeline.Precedes later)
    (canceled : timeline.scopes.isCanceled scope = true) :
    later.scopes.isCanceled scope = true := by
  obtain ⟨mark, member, canceled⟩ := isCanceled_iff.mp canceled
  exact isCanceled_iff.mpr ⟨mark, member, precedes.canceled mark canceled⟩

theorem end?_eq_none : timeline.end? scope = none ↔
    timeline.scopes.isCanceled scope = false ∧
      ∀ limit, scope.deadline = some limit → timeline.instant < limit := by
  cases canceled : timeline.scopes.isCanceled scope with
  | true => simp [end?, Scopes.end?, canceled]
  | false =>
      cases deadline : scope.deadline with
      | none => simp [end?, Scopes.end?, canceled, Scope.hasExpired, deadline]
      | some limit => simp [end?, Scopes.end?, canceled, Scope.hasExpired, deadline]

theorem end?_eq_canceled :
    timeline.end? scope = some .canceled ↔ timeline.scopes.isCanceled scope = true := by
  cases canceled : timeline.scopes.isCanceled scope with
  | true => simp [end?, Scopes.end?, canceled]
  | false =>
      simp only [end?, Scopes.end?, canceled, Bool.false_eq_true, if_false, iff_false]
      split <;> simp

theorem end?_eq_deadlineExceeded :
    timeline.end? scope = some .deadlineExceeded ↔ timeline.scopes.isCanceled scope = false ∧
      ∃ limit, scope.deadline = some limit ∧ limit ≤ timeline.instant := by
  cases canceled : timeline.scopes.isCanceled scope with
  | true => simp [end?, Scopes.end?, canceled]
  | false =>
      cases deadline : scope.deadline with
      | none => simp [end?, Scopes.end?, canceled, Scope.hasExpired, deadline]
      | some limit => simp [end?, Scopes.end?, canceled, Scope.hasExpired, deadline]

theorem instant_le (precedes : timeline.Precedes later) : timeline.instant ≤ later.instant :=
  Nat.mul_le_mul_right _ precedes.now

theorem isOver_iff : timeline.isOver scope = true ↔ timeline.end? scope ≠ none :=
  Option.isSome_iff_ne_none

theorem isOver_later (precedes : timeline.Precedes later)
    (spent : timeline.isOver scope = true) : later.isOver scope = true := by
  rw [isOver_iff] at spent ⊢
  intro going
  apply spent
  obtain ⟨uncanceled, unexpired⟩ := end?_eq_none.mp going
  apply end?_eq_none.mpr
  constructor
  · cases canceled : timeline.scopes.isCanceled scope with
    | false => rfl
    | true =>
        rw [isCanceled_later precedes canceled] at uncanceled
        contradiction
  · intro limit deadline
    exact Nat.lt_of_le_of_lt (instant_le precedes) (unexpired limit deadline)

theorem lt_millisAtOrAfter {limit : Nat} (live : timeline.instant < limit) :
    timeline.now < millisAtOrAfter limit := by
  simp only [instant, millisAtOrAfter, nanosPerMilli] at live ⊢
  omega

theorem le_instant_of_millis {limit : Nat} (reached : millisAtOrAfter limit ≤ timeline.now) :
    limit ≤ timeline.instant := by
  simp only [instant, millisAtOrAfter, nanosPerMilli] at reached ⊢
  omega

/-! Marks that are still to be given out. -/

/-- Nothing is planned for the past, and only marks that were given out are cancelled or going to
be. -/
structure Sound (timeline : Timeline) : Prop where
  ahead : ∀ entry ∈ timeline.planned, timeline.now ≤ entry.1
  doomed : ∀ mark, timeline.Doomed mark → mark < timeline.scopes.fresh

def Knows (timeline : Timeline) (scope : Scope) : Prop :=
  ∀ mark ∈ scope.lineage, mark < timeline.scopes.fresh

theorem Knows.stays (knows : timeline.Knows scope) (precedes : timeline.Precedes later) :
    later.Knows scope :=
  fun mark member => Nat.lt_of_lt_of_le (knows mark member) precedes.fresh

theorem Sound.passes (sound : timeline.Sound) (passes : timeline.Passes later) :
    later.Sound where
  ahead := by
    intro entry member
    have waiting := sound.ahead entry (passes.planned entry member)
    have bounded := passes.ahead entry member
    omega
  doomed := by
    intro mark doomed
    rw [passes.unmade]
    exact sound.doomed mark (passes.doomed doomed)

theorem doomed_cancel {ended : Scope} (doomed : (timeline.cancel ended).Doomed mark) :
    ended.lineage.head? = some mark ∨ timeline.Doomed mark := by
  rcases doomed with member | planned
  · rcases canceled_cancel member with own | old
    · exact .inl own
    · exact .inr (.inl old)
  · exact .inr (.inr planned)

theorem doomed_cancelAll {ended : List Scope} (doomed : (timeline.cancelAll ended).Doomed mark) :
    (∃ scope ∈ ended, scope.lineage.head? = some mark) ∨ timeline.Doomed mark := by
  rcases doomed with member | planned
  · rcases mem_canceled_cancelAll.mp member with old | own
    · exact .inr (.inl old)
    · exact .inl own
  · exact .inr (.inr planned)

theorem Sound.cancel (sound : timeline.Sound)
    (given : ∀ mark, scope.lineage.head? = some mark → mark < timeline.scopes.fresh) :
    (timeline.cancel scope).Sound where
  ahead := sound.ahead
  doomed := by
    intro mark doomed
    rcases doomed_cancel doomed with own | before
    · exact given mark own
    · exact sound.doomed mark before

theorem Sound.cancelAll (sound : timeline.Sound) {ended : List Scope}
    (given : ∀ scope ∈ ended, ∀ mark, scope.lineage.head? = some mark →
      mark < timeline.scopes.fresh) : (timeline.cancelAll ended).Sound where
  ahead := sound.ahead
  doomed := by
    intro mark doomed
    have same : (timeline.cancelAll ended).scopes.fresh = timeline.scopes.fresh :=
      fresh_cancelAll _ _
    rw [same]
    rcases doomed_cancelAll doomed with ⟨scope, member, own⟩ | before
    · exact given scope member mark own
    · exact sound.doomed mark before

end Timeline

end BlobTransfer
