/-!
Which scopes were made out of which: the tokens that they have, those that lie above these, and
the deadlines that were set on the way. Scopes that are made later change none of it.
-/

namespace BlobTransfer

/-- How a scope came to be, with the number of the one it was made out of. -/
inductive ScopeOrigin where
  | root
  | copy (number : Nat)
  | bound (number : Nat)
  | child (number : Nat)
  | limited (number deadline : Nat)

namespace ScopeOrigin

def source? : ScopeOrigin → Option Nat
  | .root => none
  | .copy number | .bound number | .child number | .limited number _ => some number

def sharer? : ScopeOrigin → Option Nat
  | .copy number | .bound number => some number
  | _ => none

def parent? : ScopeOrigin → Option Nat
  | .child number | .limited number _ => some number
  | _ => none

def limiter? : ScopeOrigin → Option Nat
  | .copy number | .child number | .limited number _ => some number
  | _ => none

def isOwner (origin : ScopeOrigin) : Bool := origin.sharer?.isNone

variable {origin : ScopeOrigin} {number : Nat}

theorem source_of_sharer (shares : origin.sharer? = some number) :
    origin.source? = some number := by
  cases origin <;> simp_all [sharer?, source?]

theorem source_of_parent (below : origin.parent? = some number) :
    origin.source? = some number := by
  cases origin <;> simp_all [parent?, source?]

theorem source_of_limiter (limits : origin.limiter? = some number) :
    origin.source? = some number := by
  cases origin <;> simp_all [limiter?, source?]

theorem unshared_of_parent (below : origin.parent? = some number) : origin.sharer? = none := by
  cases origin <;> simp_all [parent?, sharer?]

inductive HasToken (origins : List ScopeOrigin) : (scope token : Nat) → Prop
  | own {scope origin} (made : origins[scope]? = some origin)
      (unshared : origin.sharer? = none) : HasToken origins scope scope
  | shared {scope origin other token} (made : origins[scope]? = some origin)
      (shares : origin.sharer? = some other) (has : HasToken origins other token) :
      HasToken origins scope token

inductive Under (origins : List ScopeOrigin) : (token above : Nat) → Prop
  | refl {token} : Under origins token token
  | step {token origin other parent above} (made : origins[token]? = some origin)
      (below : origin.parent? = some other) (has : HasToken origins other parent)
      (further : Under origins parent above) : Under origins token above

/-- The token of the first scope is that of the second one or lies above it. -/
def Reaches (origins : List ScopeOrigin) (cause scope : Nat) : Prop :=
  ∃ above token, HasToken origins cause above ∧ HasToken origins scope token ∧
    Under origins token above

inductive LocalDeadline (origins : List ScopeOrigin) : (scope deadline : Nat) → Prop
  | own {scope number deadline} (made : origins[scope]? = some (.limited number deadline)) :
      LocalDeadline origins scope deadline
  | inherited {scope origin other deadline} (made : origins[scope]? = some origin)
      (limits : origin.limiter? = some other) (earlier : LocalDeadline origins other deadline) :
      LocalDeadline origins scope deadline

def Earliest (origins : List ScopeOrigin) (scope deadline : Nat) : Prop :=
  LocalDeadline origins scope deadline ∧
    ∀ other, LocalDeadline origins scope other → deadline ≤ other

def Ordered (origins : List ScopeOrigin) : Prop :=
  ∀ (number : Nat) (origin : ScopeOrigin) (source : Nat),
    origins[number]? = some origin → origin.source? = some source → source < number

variable {origins : List ScopeOrigin} {scope token above deadline : Nat}

theorem HasToken.bound (has : HasToken origins scope token) : scope < origins.length := by
  cases has with
  | own made _ => exact (List.getElem?_eq_some_iff.mp made).1
  | shared made _ _ => exact (List.getElem?_eq_some_iff.mp made).1

theorem HasToken.owner (has : HasToken origins scope token) :
    ∃ origin, origins[token]? = some origin ∧ origin.isOwner = true := by
  induction has with
  | own made unshared => exact ⟨_, made, by simp [isOwner, unshared]⟩
  | shared _ _ _ ih => exact ih

theorem HasToken.unique {other : Nat} (has : HasToken origins scope token)
    (has' : HasToken origins scope other) : token = other := by
  induction has with
  | own made unshared =>
      cases has' with
      | own _ _ => rfl
      | shared made' shares' _ =>
          obtain rfl := Option.some.inj (made.symm.trans made')
          simp [unshared] at shares'
  | shared made shares _ ih =>
      cases has' with
      | own made' unshared' =>
          obtain rfl := Option.some.inj (made.symm.trans made')
          simp [unshared'] at shares
      | shared made' shares' further =>
          obtain rfl := Option.some.inj (made.symm.trans made')
          obtain rfl := Option.some.inj (shares.symm.trans shares')
          exact ih further

theorem HasToken.le (ordered : Ordered origins) (has : HasToken origins scope token) :
    token ≤ scope := by
  induction has with
  | own _ _ => exact Nat.le_refl _
  | shared made shares _ ih =>
      exact Nat.le_trans ih (Nat.le_of_lt (ordered _ _ _ made (source_of_sharer shares)))

theorem Under.le (ordered : Ordered origins) (under : Under origins token above) :
    above ≤ token := by
  induction under with
  | refl => exact Nat.le_refl _
  | step made below has _ ih =>
      have earlier := ordered _ _ _ made (source_of_parent below)
      exact Nat.le_trans ih (Nat.le_trans (has.le ordered) (Nat.le_of_lt earlier))

theorem Under.owner (under : Under origins token above)
    (owner : ∃ origin, origins[token]? = some origin ∧ origin.isOwner = true) :
    ∃ origin, origins[above]? = some origin ∧ origin.isOwner = true := by
  induction under with
  | refl => exact owner
  | step _ _ has _ ih => exact ih has.owner

/-! A scope that is made later changes nothing about the earlier ones. -/

theorem getElem?_snoc {origin : ScopeOrigin} (bound : scope < origins.length) :
    (origins ++ [origin])[scope]? = origins[scope]? := List.getElem?_append_left bound

theorem Ordered.snoc (ordered : Ordered origins) {origin : ScopeOrigin}
    (earlier : ∀ source, origin.source? = some source → source < origins.length) :
    Ordered (origins ++ [origin]) := by
  intro number found source made from'
  by_cases old : number < origins.length
  · rw [getElem?_snoc old] at made
    exact ordered number found source made from'
  · have last : number = origins.length := by
      have bound := (List.getElem?_eq_some_iff.mp made).1
      rw [List.length_append, List.length_singleton] at bound
      omega
    subst last
    rw [List.getElem?_concat_length, Option.some.injEq] at made
    subst made
    exact earlier source from'

theorem hasToken_snoc (ordered : Ordered origins) (origin : ScopeOrigin)
    (bound : scope < origins.length) :
    HasToken (origins ++ [origin]) scope token ↔ HasToken origins scope token := by
  constructor
  · intro has
    induction has with
    | own made unshared =>
        rw [getElem?_snoc bound] at made
        exact .own made unshared
    | shared made shares _ ih =>
        rw [getElem?_snoc bound] at made
        have earlier := ordered _ _ _ made (source_of_sharer shares)
        exact .shared made shares (ih (Nat.lt_trans earlier bound))
  · intro has
    clear bound
    induction has with
    | own made unshared =>
        rw [← getElem?_snoc (List.getElem?_eq_some_iff.mp made).1] at made
        exact .own made unshared
    | shared made shares _ ih =>
        rw [← getElem?_snoc (List.getElem?_eq_some_iff.mp made).1] at made
        exact .shared made shares ih

theorem under_snoc (ordered : Ordered origins) (origin : ScopeOrigin)
    (bound : token < origins.length) :
    Under (origins ++ [origin]) token above ↔ Under origins token above := by
  constructor
  · intro under
    induction under with
    | refl => exact .refl
    | step made below has _ ih =>
        rw [getElem?_snoc bound] at made
        have earlier := Nat.lt_trans (ordered _ _ _ made (source_of_parent below)) bound
        rw [hasToken_snoc ordered origin earlier] at has
        exact .step made below has (ih (Nat.lt_of_le_of_lt (has.le ordered) earlier))
  · intro under
    clear bound
    induction under with
    | refl => exact .refl
    | step made below has _ ih =>
        rw [← getElem?_snoc (List.getElem?_eq_some_iff.mp made).1] at made
        exact .step made below ((hasToken_snoc ordered origin has.bound).mpr has) ih

theorem localDeadline_snoc (ordered : Ordered origins) (origin : ScopeOrigin)
    (bound : scope < origins.length) :
    LocalDeadline (origins ++ [origin]) scope deadline ↔
      LocalDeadline origins scope deadline := by
  constructor
  · intro set
    induction set with
    | own made =>
        rw [getElem?_snoc bound] at made
        exact .own made
    | inherited made limits _ ih =>
        rw [getElem?_snoc bound] at made
        have earlier := ordered _ _ _ made (source_of_limiter limits)
        exact .inherited made limits (ih (Nat.lt_trans earlier bound))
  · intro set
    clear bound
    induction set with
    | own made =>
        rw [← getElem?_snoc (List.getElem?_eq_some_iff.mp made).1] at made
        exact .own made
    | inherited made limits _ ih =>
        rw [← getElem?_snoc (List.getElem?_eq_some_iff.mp made).1] at made
        exact .inherited made limits ih

theorem earliest_snoc (ordered : Ordered origins) (origin : ScopeOrigin)
    (bound : scope < origins.length) :
    Earliest (origins ++ [origin]) scope deadline ↔ Earliest origins scope deadline := by
  simp only [Earliest, localDeadline_snoc ordered origin bound]

/-! A scope that is cancelled reaches neither those with the token above its own one nor those
with a sibling of it. -/

def HasParent (origins : List ScopeOrigin) (scope above : Nat) : Prop :=
  ∃ token origin parent, HasToken origins scope token ∧ origins[token]? = some origin ∧
    origin.parent? = some parent ∧ HasToken origins parent above

theorem HasParent.lt (ordered : Ordered origins) (parent : HasParent origins scope above)
    (has : HasToken origins scope token) : above < token := by
  obtain ⟨token', origin, other, has', made, below, above_has⟩ := parent
  obtain rfl := has.unique has'
  exact Nat.lt_of_le_of_lt (above_has.le ordered)
    (ordered _ _ _ made (source_of_parent below))

theorem not_reaches_parent (ordered : Ordered origins) {cause : Nat}
    (parent : HasParent origins cause above) (has : HasToken origins scope above) :
    ¬ Reaches origins cause scope := by
  rintro ⟨token, token', cause_has, scope_has, under⟩
  obtain rfl := has.unique scope_has
  have := parent.lt ordered cause_has
  have := under.le ordered
  omega

theorem not_reaches_sibling (ordered : Ordered origins) {cause : Nat}
    (parent : HasParent origins cause above) (parent' : HasParent origins scope above)
    (apart : ∀ token, HasToken origins cause token → ¬ HasToken origins scope token) :
    ¬ Reaches origins cause scope := by
  rintro ⟨token, token', cause_has, scope_has, under⟩
  cases under with
  | refl => exact apart _ cause_has scope_has
  | step made below has further =>
      obtain ⟨_, _, _, scope_has', made', below', above_has⟩ := parent'
      obtain rfl := scope_has.unique scope_has'
      obtain rfl := Option.some.inj (made.symm.trans made')
      obtain rfl := Option.some.inj (below.symm.trans below')
      obtain rfl := has.unique above_has
      have := parent.lt ordered cause_has
      have := further.le ordered
      omega

/-! Tokens are told apart by marks, which are given out in turn. -/

def mark (origins : List ScopeOrigin) (token : Nat) : Nat :=
  (origins.take token).countP isOwner

theorem mark_snoc {origin : ScopeOrigin} (bound : token ≤ origins.length) :
    mark (origins ++ [origin]) token = mark origins token := by
  rw [mark, List.take_append_of_le_length bound, mark]

theorem mark_lt {other : Nat} {origin : ScopeOrigin} (made : origins[token]? = some origin)
    (owner : origin.isOwner = true) (later : token < other) :
    mark origins token < (origins.take other).countP isOwner := by
  obtain ⟨bound, rfl⟩ := List.getElem?_eq_some_iff.mp made
  have next : (origins.take (token + 1)).countP isOwner = mark origins token + 1 := by
    rw [List.take_add_one, List.getElem?_eq_getElem bound, List.countP_append]
    simp [mark, owner]
  have more : (origins.take (token + 1)).countP isOwner ≤ (origins.take other).countP isOwner :=
    (List.take_sublist_take_left later).countP_le
  omega

theorem mark_inj {other : Nat}
    (owner : ∃ origin, origins[token]? = some origin ∧ origin.isOwner = true)
    (owner' : ∃ origin, origins[other]? = some origin ∧ origin.isOwner = true)
    (same : mark origins token = mark origins other) : token = other := by
  obtain ⟨origin, made, owns⟩ := owner
  obtain ⟨origin', made', owns'⟩ := owner'
  rcases Nat.lt_trichotomy token other with sooner | rfl | later
  · exact absurd (mark_lt made owns sooner) (by rw [← mark]; omega)
  · rfl
  · exact absurd (mark_lt made' owns' later) (by rw [← mark]; omega)

end ScopeOrigin

end BlobTransfer
