import BlobTransfer.Proofs.Scope.Later
import BlobTransfer.Proofs.Scope.Lineage
import BlobTransfer.Scope.Forest

/-!
What a forest of scopes comes to, read off a record of what was done. A scope ends when its token
or one above it is cancelled, or else when the earliest deadline on its way has come; nothing else
ends it, and nothing brings it back.
-/

namespace BlobTransfer

namespace ScopeOrigin

variable {origins : List ScopeOrigin} {origin : ScopeOrigin} {number : Nat} {lineage : List Nat}
  {deadline : Option Nat}

def Descends (origins : List ScopeOrigin) (number : Nat) (lineage : List Nat) : Prop :=
  ∃ token, HasToken origins number token ∧ lineage.head? = some (mark origins token) ∧
    ∀ found, found ∈ lineage ↔ ∃ above, Under origins token above ∧ found = mark origins above

def Limits (origins : List ScopeOrigin) (number : Nat) : Option Nat → Prop
  | none => ∀ limit, ¬ LocalDeadline origins number limit
  | some limit => Earliest origins number limit

theorem mark_under {token above : Nat} (ordered : Ordered origins)
    (bound : token < origins.length) (under : Under origins token above) :
    mark (origins ++ [origin]) above = mark origins above :=
  mark_snoc (Nat.le_trans (under.le ordered) (Nat.le_of_lt bound))

theorem Descends.snoc (descends : Descends origins number lineage) (origin : ScopeOrigin)
    (ordered : Ordered origins) (bound : number < origins.length) :
    Descends (origins ++ [origin]) number lineage := by
  obtain ⟨token, has, first, marks⟩ := descends
  have inside : token < origins.length := Nat.lt_of_le_of_lt (has.le ordered) bound
  refine ⟨token, (hasToken_snoc ordered origin bound).mpr has, ?_, ?_⟩
  · rw [first, mark_snoc (Nat.le_of_lt inside)]
  · intro found
    rw [marks]
    apply exists_congr
    intro above
    rw [under_snoc ordered origin inside]
    exact and_congr_right fun under => by rw [mark_under ordered inside under]

theorem Limits.snoc (limits : Limits origins number deadline) (origin : ScopeOrigin)
    (ordered : Ordered origins) (bound : number < origins.length) :
    Limits (origins ++ [origin]) number deadline := by
  cases deadline with
  | none =>
      intro limit
      rw [localDeadline_snoc ordered origin bound]
      exact limits limit
  | some limit => exact (earliest_snoc ordered origin bound).mpr limits

/-! The scope made last. -/

theorem mark_last : mark (origins ++ [origin]) origins.length = origins.countP isOwner := by
  rw [mark, List.take_left]

theorem hasToken_last (origins : List ScopeOrigin) (unshared : origin.sharer? = none) :
    HasToken (origins ++ [origin]) origins.length origins.length :=
  .own List.getElem?_concat_length unshared

theorem Descends.shared (ordered : Ordered origins) (shares : origin.sharer? = some number)
    (bound : number < origins.length) (descends : Descends origins number lineage) :
    Descends (origins ++ [origin]) origins.length lineage := by
  obtain ⟨token, has, first, marks⟩ := descends.snoc origin ordered bound
  exact ⟨token, .shared List.getElem?_concat_length shares has, first, marks⟩

theorem Descends.root :
    Descends (origins ++ [.root]) origins.length [origins.countP isOwner] := by
  refine ⟨origins.length, hasToken_last origins rfl, by rw [mark_last, List.head?_cons], ?_⟩
  intro found
  rw [List.mem_singleton]
  constructor
  · rintro rfl
    exact ⟨origins.length, .refl, mark_last.symm⟩
  · rintro ⟨above, under, rfl⟩
    cases under with
    | refl => exact mark_last
    | step made below _ _ =>
        rw [List.getElem?_concat_length, Option.some.injEq] at made
        subst made
        simp [parent?] at below

theorem Descends.child (ordered : Ordered origins) (below : origin.parent? = some number)
    (bound : number < origins.length) (descends : Descends origins number lineage) :
    Descends (origins ++ [origin]) origins.length (origins.countP isOwner :: lineage) := by
  obtain ⟨token, has, _, marks⟩ := descends.snoc origin ordered bound
  have own := hasToken_last origins (unshared_of_parent below)
  refine ⟨origins.length, own, by rw [mark_last, List.head?_cons], ?_⟩
  intro found
  rw [List.mem_cons, marks]
  constructor
  · rintro (rfl | ⟨above, under, rfl⟩)
    · exact ⟨origins.length, .refl, mark_last.symm⟩
    · exact ⟨above, .step List.getElem?_concat_length below has under, rfl⟩
  · rintro ⟨above, under, rfl⟩
    cases under with
    | refl => exact .inl mark_last
    | step made below' has' further =>
        rw [List.getElem?_concat_length, Option.some.injEq] at made
        subst made
        obtain rfl := Option.some.inj (below.symm.trans below')
        obtain rfl := has.unique has'
        exact .inr ⟨above, further, rfl⟩

theorem localDeadline_last (ordered : Ordered origins) {limit : Nat}
    (earlier : ∀ source, origin.source? = some source → source < origins.length) :
    LocalDeadline (origins ++ [origin]) origins.length limit ↔
      (∃ number, origin = .limited number limit) ∨
        ∃ other, origin.limiter? = some other ∧ LocalDeadline origins other limit := by
  constructor
  · intro set
    cases set with
    | own made =>
        rw [List.getElem?_concat_length, Option.some.injEq] at made
        exact .inl ⟨_, made⟩
    | inherited made limits further =>
        rw [List.getElem?_concat_length, Option.some.injEq] at made
        subst made
        have inside := earlier _ (source_of_limiter limits)
        exact .inr ⟨_, limits, (localDeadline_snoc ordered _ inside).mp further⟩
  · rintro (⟨number, rfl⟩ | ⟨other, limits, further⟩)
    · exact .own List.getElem?_concat_length
    · have inside := earlier _ (source_of_limiter limits)
      exact .inherited List.getElem?_concat_length limits
        ((localDeadline_snoc ordered _ inside).mpr further)

theorem Limits.free (ordered : Ordered origins) (unlimited : origin.limiter? = none)
    (earlier : ∀ source, origin.source? = some source → source < origins.length) :
    Limits (origins ++ [origin]) origins.length none := by
  intro limit
  rw [localDeadline_last ordered earlier]
  rintro (⟨number, rfl⟩ | ⟨other, limits, _⟩)
  · simp [limiter?] at unlimited
  · simp [unlimited] at limits

theorem Limits.inherit (ordered : Ordered origins) (limited : origin.limiter? = some number)
    (unset : ∀ other limit, origin ≠ .limited other limit)
    (earlier : ∀ source, origin.source? = some source → source < origins.length)
    (limits : Limits origins number deadline) :
    Limits (origins ++ [origin]) origins.length deadline := by
  have same : ∀ limit, LocalDeadline (origins ++ [origin]) origins.length limit ↔
      LocalDeadline origins number limit := by
    intro limit
    rw [localDeadline_last ordered earlier]
    simp [unset, limited]
  cases deadline with
  | none => exact fun limit => (not_congr (same limit)).mpr (limits limit)
  | some limit =>
      simp only [Limits, Earliest, same]
      exact limits

theorem Limits.limited (ordered : Ordered origins) {limit : Nat} (bound : number < origins.length)
    (limits : Limits origins number deadline) :
    Limits (origins ++ [.limited number limit]) origins.length
      (some (deadline.elim limit (min · limit))) := by
  have same : ∀ other,
      LocalDeadline (origins ++ [.limited number limit]) origins.length other ↔
        limit = other ∨ LocalDeadline origins number other := by
    intro other
    rw [localDeadline_last ordered (by rintro source ⟨⟩; exact bound)]
    simp [limiter?]
  simp only [Limits, Earliest, same]
  cases deadline with
  | none =>
      refine ⟨.inl rfl, ?_⟩
      rintro other (rfl | earlier)
      · exact Nat.le_refl _
      · exact absurd earlier (limits other)
  | some current =>
      obtain ⟨set, least⟩ := limits
      rw [Option.elim_some]
      constructor
      · by_cases sooner : current ≤ limit
        · exact .inr (by rwa [Nat.min_eq_left sooner])
        · exact .inl (Nat.min_eq_right (by omega)).symm
      · rintro other (rfl | earlier)
        · exact Nat.min_le_right _ _
        · exact Nat.le_trans (Nat.min_le_left _ _) (least other earlier)

end ScopeOrigin

open ScopeOrigin

/-- What was done, and nothing of what it has come to. -/
structure ScopeRecord where
  now : Nat := 0
  origins : List ScopeOrigin := []
  guarded : List Nat := []
  ended : List Nat := []

namespace ScopeRecord

def add (record : ScopeRecord) (origin : ScopeOrigin) : ScopeRecord :=
  { record with origins := record.origins ++ [origin] }

def withNumber (record : ScopeRecord) (number : Nat) (noted : ScopeRecord) : ScopeRecord :=
  if number < record.origins.length then noted else record

def canceledBy? (record : ScopeRecord) : ScopeAct → Option Nat
  | .cancel number => if number < record.origins.length then some number else none
  | .dropGuard guard => record.guarded[guard]?
  | _ => none

def note (record : ScopeRecord) (act : ScopeAct) : ScopeRecord :=
  match act with
  | .root => record.add .root
  | .copy number => record.withNumber number (record.add (.copy number))
  | .bind number => record.withNumber number (record.add (.bound number))
  | .child number => record.withNumber number (record.add (.child number))
  | .childUntil number deadline =>
      record.withNumber number (record.add (.limited number deadline))
  | .childFor number timeout =>
      if !timeout.hasEnd record.now then record
      else record.withNumber number (record.add (.limited number (record.now + timeout.nanos)))
  | .guard number =>
      record.withNumber number { record with guarded := record.guarded ++ [number] }
  | .cancel _ | .dropGuard _ =>
      { record with ended := record.ended ++ (record.canceledBy? act).toList }
  | .wait nanos => { record with now := record.now + nanos }

def noteAll (record : ScopeRecord) (acts : List ScopeAct) : ScopeRecord := acts.foldl note record

/-- A scope was cancelled whose token is that of the given one or lies above it. -/
def Canceled (record : ScopeRecord) (number : Nat) : Prop :=
  ∃ cause ∈ record.ended, Reaches record.origins cause number

def Expired (record : ScopeRecord) (number : Nat) : Prop :=
  ∃ limit, Earliest record.origins number limit ∧ limit ≤ record.now

end ScopeRecord

theorem Scope.hasExpired_iff {scope : Scope} {now : Nat} :
    scope.hasExpired now = true ↔ ∃ limit, scope.deadline = some limit ∧ limit ≤ now := by
  simp [Scope.hasExpired, Option.any_eq_true]

namespace ScopeForest

variable {forest : ScopeForest} {record : ScopeRecord} {number : Nat} {scope : Scope}

/-- The forest is what the record tells. -/
structure Grown (forest : ScopeForest) (record : ScopeRecord) : Prop where
  now : forest.now = record.now
  size : forest.members.length = record.origins.length
  ordered : Ordered record.origins
  fresh : forest.scopes.fresh = record.origins.countP isOwner
  member : ∀ number scope, forest.members[number]? = some scope →
    Descends record.origins number scope.lineage ∧ Limits record.origins number scope.deadline
  guards : forest.guards.map some = record.guarded.map (forest.members[·]?)
  ended : ∀ cause ∈ record.ended, cause < record.origins.length
  canceled : ∀ found, found ∈ forest.scopes.canceled ↔ ∃ cause ∈ record.ended,
    ∃ token, HasToken record.origins cause token ∧ found = mark record.origins token

theorem grown_start (now : Nat) : Grown { now } { now } where
  now := rfl
  size := rfl
  ordered := by simp [Ordered]
  fresh := rfl
  member := by simp
  guards := rfl
  ended := by simp
  canceled := by simp

theorem Grown.bound (grown : Grown forest record) (member : forest.members[number]? = some scope) :
    number < record.origins.length := by
  rw [← grown.size]
  exact (List.getElem?_eq_some_iff.mp member).1

theorem Grown.guarded (grown : Grown forest record) (guard : Nat) :
    (record.guarded[guard]?).map (forest.members[·]?) = (forest.guards[guard]?).map some := by
  rw [← List.getElem?_map, ← List.getElem?_map, grown.guards]

theorem Grown.add (grown : Grown forest record) {origin : ScopeOrigin} {made : Scope × Scopes}
    (earlier : ∀ source, origin.source? = some source → source < record.origins.length)
    (fresh : made.2.fresh = (record.origins ++ [origin]).countP isOwner)
    (unended : made.2.canceled = forest.scopes.canceled)
    (descends : Descends (record.origins ++ [origin]) record.origins.length made.1.lineage)
    (limits : Limits (record.origins ++ [origin]) record.origins.length made.1.deadline) :
    Grown (forest.add made) (record.add origin) where
  now := grown.now
  size := by simp [ScopeForest.add, ScopeRecord.add, grown.size]
  ordered := grown.ordered.snoc earlier
  fresh := fresh
  member := by
    intro number scope member
    simp only [ScopeForest.add] at member
    by_cases old : number < forest.members.length
    · rw [List.getElem?_append_left old] at member
      have inside := grown.bound member
      obtain ⟨descends, limits⟩ := grown.member number scope member
      exact ⟨descends.snoc _ grown.ordered inside, limits.snoc _ grown.ordered inside⟩
    · have last : number = forest.members.length := by
        have bound := (List.getElem?_eq_some_iff.mp member).1
        rw [List.length_append, List.length_singleton] at bound
        omega
      subst last
      rw [List.getElem?_concat_length, Option.some.injEq] at member
      subst member
      rw [grown.size]
      exact ⟨descends, limits⟩
  guards := by
    change forest.guards.map some = record.guarded.map ((forest.members ++ [made.1])[·]?)
    rw [grown.guards]
    apply List.map_congr_left
    intro number guarded
    have there : forest.members[number]? ∈ forest.guards.map some := by
      rw [grown.guards]
      exact List.mem_map_of_mem guarded
    obtain ⟨scope, _, same⟩ := List.mem_map.mp there
    rw [List.getElem?_append_left (List.getElem?_eq_some_iff.mp same.symm).1]
  ended := by
    intro cause member
    have inside := grown.ended cause member
    simp only [ScopeRecord.add, List.length_append, List.length_singleton]
    omega
  canceled := by
    intro found
    change found ∈ made.2.canceled ↔ ∃ cause ∈ record.ended, ∃ token,
      HasToken (record.origins ++ [origin]) cause token ∧
        found = mark (record.origins ++ [origin]) token
    rw [unended, grown.canceled]
    apply exists_congr
    intro cause
    apply and_congr_right
    intro member
    have inside := grown.ended cause member
    apply exists_congr
    intro token
    rw [hasToken_snoc grown.ordered origin inside]
    apply and_congr_right
    intro has
    rw [mark_snoc (Nat.le_trans (has.le grown.ordered) (Nat.le_of_lt inside))]

theorem Grown.cancel (grown : Grown forest record)
    (member : forest.members[number]? = some scope) :
    Grown { forest with scopes := forest.scopes.cancel scope }
      { record with ended := record.ended ++ [number] } where
  now := grown.now
  size := grown.size
  ordered := grown.ordered
  fresh := grown.fresh
  member := grown.member
  guards := grown.guards
  ended := by
    intro cause listed
    rcases List.mem_append.mp listed with old | new
    · exact grown.ended cause old
    · obtain rfl := List.mem_singleton.mp new
      exact grown.bound member
  canceled := by
    intro found
    obtain ⟨⟨token, has, first, _⟩, _⟩ := grown.member number scope member
    constructor
    · intro canceled
      rcases Timeline.canceled_cancel canceled with own | old
      · refine ⟨number, List.mem_append_right _ (List.mem_singleton_self _), token, has, ?_⟩
        exact Option.some.inj (own.symm.trans first)
      · obtain ⟨cause, listed, given⟩ := (grown.canceled found).mp old
        exact ⟨cause, List.mem_append_left _ listed, given⟩
    · rintro ⟨cause, listed, token', has', rfl⟩
      rcases List.mem_append.mp listed with old | new
      · have before := (grown.canceled _).mpr ⟨cause, old, token', has', rfl⟩
        exact canceled_cancel_of_mem scope before
      · obtain rfl := List.mem_singleton.mp new
        obtain rfl := has.unique has'
        exact canceled_of_cancel first

theorem Grown.withMember (grown : Grown forest record) {use : Scope → ScopeForest}
    {noted : ScopeRecord} (given : ∀ scope, forest.members[number]? = some scope →
      Grown (use scope) noted) :
    Grown (forest.withMember number use) (record.withNumber number noted) := by
  unfold ScopeForest.withMember ScopeRecord.withNumber
  cases found : forest.members[number]? with
  | none =>
      rw [List.getElem?_eq_none_iff, grown.size] at found
      rw [if_neg (by omega)]
      exact grown
  | some scope =>
      rw [if_pos (grown.bound found)]
      exact given scope found

theorem Grown.childUntil (grown : Grown forest record) (deadline : Nat)
    (member : forest.members[number]? = some scope) :
    Grown (forest.add (forest.scopes.childUntil scope deadline))
      (record.add (.limited number deadline)) := by
  obtain ⟨descends, limits⟩ := grown.member number scope member
  have inside := grown.bound member
  apply grown.add
  · rintro source ⟨⟩
    exact inside
  · simp [Scopes.childUntil, Scopes.child, grown.fresh, isOwner, sharer?]
  · rfl
  · change Descends _ _ (forest.scopes.fresh :: scope.lineage)
    rw [grown.fresh]
    exact descends.child grown.ordered rfl inside
  · have same : (forest.scopes.childUntil scope deadline).1.deadline =
        some (scope.deadline.elim deadline (min · deadline)) := by
      cases found : scope.deadline <;> simp [Scopes.childUntil, found]
    rw [same]
    exact limits.limited grown.ordered inside

theorem Grown.perform (grown : Grown forest record) (act : ScopeAct) :
    Grown (forest.perform act) (record.note act) := by
  have ordered := grown.ordered
  cases act with
  | root =>
      apply grown.add
      · simp [source?]
      · simp [Scopes.root, grown.fresh, isOwner, sharer?]
      · rfl
      · change Descends _ _ [forest.scopes.fresh]
        rw [grown.fresh]
        exact Descends.root
      · exact Limits.free ordered rfl (by simp [source?])
  | copy number =>
      apply grown.withMember
      intro scope member
      obtain ⟨descends, limits⟩ := grown.member number scope member
      have inside := grown.bound member
      have earlier : ∀ source, (ScopeOrigin.copy number).source? = some source →
          source < record.origins.length := by
        rintro source ⟨⟩
        exact inside
      apply grown.add earlier
      · simp [grown.fresh, isOwner, sharer?]
      · rfl
      · exact descends.shared ordered rfl inside
      · exact limits.inherit ordered rfl (by simp) earlier
  | bind number =>
      apply grown.withMember
      intro scope member
      obtain ⟨descends, _⟩ := grown.member number scope member
      have inside := grown.bound member
      have earlier : ∀ source, (ScopeOrigin.bound number).source? = some source →
          source < record.origins.length := by
        rintro source ⟨⟩
        exact inside
      apply grown.add earlier
      · simp [grown.fresh, isOwner, sharer?]
      · rfl
      · exact descends.shared ordered rfl inside
      · exact Limits.free ordered rfl earlier
  | child number =>
      apply grown.withMember
      intro scope member
      obtain ⟨descends, limits⟩ := grown.member number scope member
      have inside := grown.bound member
      have earlier : ∀ source, (ScopeOrigin.child number).source? = some source →
          source < record.origins.length := by
        rintro source ⟨⟩
        exact inside
      apply grown.add earlier
      · simp [Scopes.child, grown.fresh, isOwner, sharer?]
      · rfl
      · change Descends _ _ (forest.scopes.fresh :: scope.lineage)
        rw [grown.fresh]
        exact descends.child ordered rfl inside
      · exact limits.inherit ordered rfl (by simp) earlier
  | childUntil number deadline =>
      apply grown.withMember
      intro scope member
      exact grown.childUntil deadline member
  | childFor number timeout =>
      simp only [ScopeForest.perform, ScopeRecord.note, ← grown.now]
      split
      · exact grown
      · apply grown.withMember
        intro scope member
        exact grown.childUntil _ member
  | cancel number =>
      simp only [ScopeForest.perform, ScopeForest.withMember, ScopeRecord.note,
        ScopeRecord.canceledBy?]
      cases found : forest.members[number]? with
      | none =>
          rw [List.getElem?_eq_none_iff, grown.size] at found
          rw [if_neg (by omega), Option.toList_none, List.append_nil]
          exact grown
      | some scope =>
          rw [if_pos (grown.bound found)]
          exact grown.cancel found
  | guard number =>
      apply grown.withMember
      intro scope member
      refine { grown with guards := ?_ }
      simp only [List.map_append, List.map_singleton, grown.guards, member]
  | dropGuard guard =>
      have same := grown.guarded guard
      simp only [ScopeForest.perform, ScopeRecord.note, ScopeRecord.canceledBy?]
      cases found : record.guarded[guard]? with
      | none =>
          rw [found] at same
          have nothing : forest.guards[guard]? = none := by simpa using same.symm
          rw [nothing, Option.toList_none, List.append_nil]
          exact grown
      | some number =>
          rw [found, Option.map_some] at same
          obtain ⟨scope, guarded, member⟩ := Option.map_eq_some_iff.mp same.symm
          rw [guarded]
          exact grown.cancel member.symm
  | wait nanos =>
      exact { grown with now := congrArg (· + nanos) grown.now }

theorem Grown.performAll (grown : Grown forest record) (acts : List ScopeAct) :
    Grown (forest.performAll acts) (record.noteAll acts) := by
  induction acts generalizing forest record with
  | nil => exact grown
  | cons act later ih => exact ih (grown.perform act)

/-! What the record says of the end of a scope. -/

theorem Grown.canceled_iff (grown : Grown forest record)
    (member : forest.members[number]? = some scope) :
    forest.scopes.isCanceled scope = true ↔ record.Canceled number := by
  obtain ⟨⟨token, has, _, marks⟩, _⟩ := grown.member number scope member
  rw [isCanceled_iff]
  constructor
  · rintro ⟨found, listed, canceled⟩
    obtain ⟨above, under, rfl⟩ := (marks found).mp listed
    obtain ⟨cause, ended, other, has', same⟩ := (grown.canceled _).mp canceled
    obtain rfl := mark_inj (under.owner has.owner) has'.owner same
    exact ⟨cause, ended, above, token, has', has, under⟩
  · rintro ⟨cause, ended, above, token', has', has'', under⟩
    obtain rfl := has.unique has''
    exact ⟨mark record.origins above, (marks _).mpr ⟨above, under, rfl⟩,
      (grown.canceled _).mpr ⟨cause, ended, above, has', rfl⟩⟩

theorem Grown.deadline_iff (grown : Grown forest record)
    (member : forest.members[number]? = some scope) (limit : Nat) :
    scope.deadline = some limit ↔ Earliest record.origins number limit := by
  have limits := (grown.member number scope member).2
  cases deadline : scope.deadline with
  | none =>
      rw [deadline] at limits
      exact iff_of_false (by simp) fun earliest => limits limit earliest.1
  | some current =>
      rw [deadline] at limits
      rw [Option.some.injEq]
      constructor
      · rintro rfl
        exact limits
      · intro earliest
        exact Nat.le_antisymm (limits.2 limit earliest.1) (earliest.2 current limits.1)

theorem Grown.hasExpired_iff (grown : Grown forest record)
    (member : forest.members[number]? = some scope) :
    scope.hasExpired forest.now = true ↔ record.Expired number := by
  simp only [Scope.hasExpired_iff, ScopeRecord.Expired, grown.deadline_iff member, grown.now]

theorem end?_eq_canceled : forest.end? scope = some .canceled ↔
    forest.scopes.isCanceled scope = true := by
  unfold ScopeForest.end? Scopes.end?
  split
  · simp [*]
  · split <;> simp [*]

theorem end?_eq_deadlineExceeded : forest.end? scope = some .deadlineExceeded ↔
    ¬ forest.scopes.isCanceled scope = true ∧ scope.hasExpired forest.now = true := by
  unfold ScopeForest.end? Scopes.end?
  split
  · simp [*]
  · split <;> simp [*]

theorem end?_eq_none : forest.end? scope = none ↔
    ¬ forest.scopes.isCanceled scope = true ∧ ¬ scope.hasExpired forest.now = true := by
  unfold ScopeForest.end? Scopes.end?
  split
  · simp [*]
  · split <;> simp [*]

theorem Grown.deadline_le (grown : Grown forest record) {parent limit : Nat}
    {origin : ScopeOrigin} {above : Scope} (made : record.origins[number]? = some origin)
    (limits : origin.limiter? = some parent) (member : forest.members[number]? = some scope)
    (member' : forest.members[parent]? = some above) (set : above.deadline = some limit) :
    ∃ deadline, scope.deadline = some deadline ∧ deadline ≤ limit := by
  have earliest := (grown.deadline_iff member' limit).mp set
  have further : LocalDeadline record.origins number limit := .inherited made limits earliest.1
  cases own : scope.deadline with
  | none =>
      have unlimited := (grown.member number scope member).2
      rw [own] at unlimited
      exact absurd further (unlimited limit)
  | some deadline =>
      exact ⟨deadline, rfl, ((grown.deadline_iff member deadline).mp own).2 limit further⟩

/-! What an act leaves as it was. -/

structure Continues (forest later : ScopeForest) : Prop where
  now : forest.now ≤ later.now
  canceled : ∀ mark ∈ forest.scopes.canceled, mark ∈ later.scopes.canceled
  members : forest.members <+: later.members

theorem Continues.refl (forest : ScopeForest) : forest.Continues forest where
  now := Nat.le_refl _
  canceled := fun _ member => member
  members := List.prefix_refl _

theorem Continues.trans {later last : ScopeForest} (first : forest.Continues later)
    (second : later.Continues last) : forest.Continues last where
  now := Nat.le_trans first.now second.now
  canceled := fun mark member => second.canceled mark (first.canceled mark member)
  members := first.members.trans second.members

theorem continues_add (made : Scope × Scopes)
    (unended : made.2.canceled = forest.scopes.canceled) :
    forest.Continues (forest.add made) where
  now := Nat.le_refl _
  canceled := fun _ member => by
    rw [ScopeForest.add, unended]
    exact member
  members := List.prefix_append _ _

theorem continues_cancel (scope : Scope) :
    forest.Continues { forest with scopes := forest.scopes.cancel scope } where
  now := Nat.le_refl _
  canceled := fun _ member => canceled_cancel_of_mem scope member
  members := List.prefix_refl _

theorem continues_withMember {use : Scope → ScopeForest}
    (given : ∀ scope, forest.Continues (use scope)) :
    forest.Continues (forest.withMember number use) := by
  unfold withMember
  cases forest.members[number]? with
  | none => exact .refl _
  | some scope => exact given scope

theorem continues_perform (forest : ScopeForest) (act : ScopeAct) :
    forest.Continues (forest.perform act) := by
  cases act with
  | root => exact continues_add _ rfl
  | copy number | bind number | child number | childUntil number deadline =>
      exact continues_withMember fun scope => continues_add _ rfl
  | childFor number timeout =>
      simp only [perform]
      split
      · exact .refl _
      · exact continues_withMember fun scope => continues_add _ rfl
  | cancel number => exact continues_withMember continues_cancel
  | guard number => exact continues_withMember fun scope => { Continues.refl _ with }
  | dropGuard guard =>
      simp only [perform]
      cases forest.guards[guard]? with
      | none => exact .refl _
      | some scope => exact continues_cancel scope
  | wait nanos => exact { Continues.refl _ with now := Nat.le_add_right _ _ }

theorem continues_performAll (forest : ScopeForest) (acts : List ScopeAct) :
    forest.Continues (forest.performAll acts) := by
  induction acts generalizing forest with
  | nil => exact .refl _
  | cons act later ih => exact (continues_perform forest act).trans (ih _)

theorem Continues.member {later : ScopeForest} (continues : forest.Continues later)
    (member : forest.members[number]? = some scope) : later.members[number]? = some scope := by
  obtain ⟨more, same⟩ := continues.members
  rw [← same, List.getElem?_append_left (List.getElem?_eq_some_iff.mp member).1]
  exact member

theorem Continues.done {later : ScopeForest} (continues : forest.Continues later)
    (done : forest.end? scope ≠ none) : later.end? scope ≠ none := by
  intro going
  apply done
  obtain ⟨uncanceled, ahead⟩ := end?_eq_none.mp going
  refine end?_eq_none.mpr ⟨?_, ?_⟩
  · intro canceled
    obtain ⟨mark, listed, canceled⟩ := isCanceled_iff.mp canceled
    exact uncanceled (isCanceled_iff.mpr ⟨mark, listed, continues.canceled mark canceled⟩)
  · intro expired
    obtain ⟨limit, set, reached⟩ := Scope.hasExpired_iff.mp expired
    exact ahead (Scope.hasExpired_iff.mpr ⟨limit, set, Nat.le_trans reached continues.now⟩)

theorem Grown.spared (grown : Grown forest record) {act : ScopeAct} {cause : Nat}
    (cancels : record.canceledBy? act = some cause)
    (member : forest.members[number]? = some scope)
    (unreached : ¬ Reaches record.origins cause number) :
    (forest.perform act).end? scope = forest.end? scope := by
  have noted : record.note act = { record with ended := record.ended ++ [cause] } := by
    cases act with
    | cancel | dropGuard => simp only [ScopeRecord.note, cancels, Option.toList_some]
    | _ => simp [ScopeRecord.canceledBy?] at cancels
  have next := grown.perform act
  have member' := (continues_perform forest act).member member
  rw [noted] at next
  have unchanged : ScopeRecord.Canceled { record with ended := record.ended ++ [cause] } number ↔
      record.Canceled number := by
    simp [ScopeRecord.Canceled, or_and_right, exists_or, unreached]
  apply Option.ext
  intro reason
  cases reason with
  | canceled =>
      rw [end?_eq_canceled, end?_eq_canceled, next.canceled_iff member',
        grown.canceled_iff member, unchanged]
  | deadlineExceeded =>
      rw [end?_eq_deadlineExceeded, end?_eq_deadlineExceeded, next.canceled_iff member',
        next.hasExpired_iff member', grown.canceled_iff member, grown.hasExpired_iff member,
        unchanged]
      rfl

/-- A scope is cancelled exactly if one whose token is its own or lies above it was cancelled, by
hand or by a guard; it has else passed its deadline exactly if the earliest of those on its way has
come. No deadline is later than that of the scope it was made out of, what has ended stays so, and
cancelling a scope changes nothing about those that are not below its token, which its parent and
its siblings are not. -/
theorem scopes_end_as_derived (start : Nat) (acts : List ScopeAct) :
    let forest := ({ now := start } : ScopeForest).performAll acts
    let record := ({ now := start } : ScopeRecord).noteAll acts
    forest.members.length = record.origins.length ∧
    (∀ number scope, forest.members[number]? = some scope →
      (forest.end? scope = some .canceled ↔ record.Canceled number) ∧
      (forest.end? scope = some .deadlineExceeded ↔
        ¬ record.Canceled number ∧ record.Expired number) ∧
      (forest.end? scope = none ↔ ¬ record.Canceled number ∧ ¬ record.Expired number) ∧
      (∀ limit, scope.deadline = some limit ↔ Earliest record.origins number limit) ∧
      ∀ later, (forest.performAll later).members[number]? = some scope ∧
        (forest.end? scope ≠ none → (forest.performAll later).end? scope ≠ none)) ∧
    (∀ (number parent limit : Nat) (origin : ScopeOrigin) (scope above : Scope),
      record.origins[number]? = some origin → origin.limiter? = some parent →
      forest.members[number]? = some scope → forest.members[parent]? = some above →
      above.deadline = some limit →
        ∃ deadline, scope.deadline = some deadline ∧ deadline ≤ limit) ∧
    (∀ (act : ScopeAct) (cause number : Nat) (scope : Scope),
      record.canceledBy? act = some cause → forest.members[number]? = some scope →
      ¬ Reaches record.origins cause number →
        (forest.perform act).end? scope = forest.end? scope) ∧
    ∀ cause number above, HasParent record.origins cause above →
      HasToken record.origins number above ∨
        HasParent record.origins number above ∧
          (∀ token, HasToken record.origins cause token → ¬ HasToken record.origins number token) →
      ¬ Reaches record.origins cause number := by
  intro forest record
  have grown : Grown forest record := (grown_start start).performAll acts
  refine ⟨grown.size, ?_, ?_, ?_, ?_⟩
  · intro number scope member
    rw [← grown.canceled_iff member, ← grown.hasExpired_iff member]
    refine ⟨end?_eq_canceled, end?_eq_deadlineExceeded, end?_eq_none,
      grown.deadline_iff member, ?_⟩
    intro later
    have continues := continues_performAll forest later
    exact ⟨continues.member member, continues.done⟩
  · intro number parent limit origin scope above made limits member member' set
    exact grown.deadline_le made limits member member' set
  · intro act cause number scope cancels member unreached
    exact grown.spared cancels member unreached
  · rintro cause number above parent (has | ⟨parent', apart⟩)
    · exact not_reaches_parent grown.ordered parent has
    · exact not_reaches_sibling grown.ordered parent parent' apart

end ScopeForest

end BlobTransfer
