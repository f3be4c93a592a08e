import BlobTransfer.Proofs.Fallible
import BlobTransfer.Retry.Overrides

/-!
What retry options come to when they are set by variables. Every variable sets one field or none,
and whether it can be read is up to its value alone; so the order of variables with different names
does not matter, and of several with the same name the last one counts.
-/

namespace BlobTransfer

namespace RetrySetting

def Agrees (setting : RetrySetting) (left right : RetryOptions) : Prop :=
  match setting with
  | .maxTries => left.maxTries = right.maxTries
  | .tryTimeoutSeconds => left.tryTimeout = right.tryTimeout
  | .retryDelayMillis => left.retryDelay = right.retryDelay
  | .maxRetryDelayMillis => left.maxRetryDelay = right.maxRetryDelay
  | .policy => left.policy = right.policy
  | .secondaryHost => left.secondaryHost = right.secondaryHost

def take (setting : RetrySetting) (source options : RetryOptions) : RetryOptions :=
  match setting with
  | .maxTries => { options with maxTries := source.maxTries }
  | .tryTimeoutSeconds => { options with tryTimeout := source.tryTimeout }
  | .retryDelayMillis => { options with retryDelay := source.retryDelay }
  | .maxRetryDelayMillis => { options with maxRetryDelay := source.maxRetryDelay }
  | .policy => { options with policy := source.policy }
  | .secondaryHost => { options with secondaryHost := source.secondaryHost }

variable {setting other : RetrySetting} {source options : RetryOptions}

theorem Agrees.refl (setting : RetrySetting) (options : RetryOptions) :
    setting.Agrees options options := by
  cases setting <;> rfl

theorem Agrees.trans {third : RetryOptions} (first : setting.Agrees source options)
    (second : setting.Agrees options third) : setting.Agrees source third := by
  cases setting <;> exact Eq.trans first second

theorem Agrees.symm (same : setting.Agrees source options) : setting.Agrees options source := by
  cases setting <;> exact Eq.symm same

theorem eq_of_agrees (agree : ∀ setting : RetrySetting, setting.Agrees source options) :
    source = options := by
  obtain ⟨policy, maxTries, tryTimeout, retryDelay, maxRetryDelay, secondaryHost⟩ := source
  obtain rfl : policy = options.policy := agree .policy
  obtain rfl : maxTries = options.maxTries := agree .maxTries
  obtain rfl : tryTimeout = options.tryTimeout := agree .tryTimeoutSeconds
  obtain rfl : retryDelay = options.retryDelay := agree .retryDelayMillis
  obtain rfl : maxRetryDelay = options.maxRetryDelay := agree .maxRetryDelayMillis
  obtain rfl : secondaryHost = options.secondaryHost := agree .secondaryHost
  rfl

theorem agrees_take : setting.Agrees (setting.take source options) source := by
  cases setting <;> rfl

theorem agrees_take_of_ne (different : other ≠ setting) :
    other.Agrees (setting.take source options) options := by
  cases setting <;> cases other <;> first | rfl | contradiction

theorem apply_eq (setting : RetrySetting) (value : String) (options : RetryOptions) :
    setting.apply value options = (setting.apply value {}).map (setting.take · options) := by
  cases setting with
  | maxTries =>
      simp only [apply]
      cases number .maxTries UInt32.size value <;> rfl
  | tryTimeoutSeconds =>
      simp only [apply]
      cases number .tryTimeoutSeconds UInt64.size value <;> rfl
  | retryDelayMillis =>
      simp only [apply]
      cases number .retryDelayMillis UInt64.size value <;> rfl
  | maxRetryDelayMillis =>
      simp only [apply]
      cases number .maxRetryDelayMillis UInt64.size value <;> rfl
  | policy =>
      simp only [apply]
      cases RetryPolicyKind.ofText value <;> rfl
  | secondaryHost => rfl

theorem key_inj (same : setting.key = other.key) : setting = other := by
  revert same
  cases setting <;> cases other <;> decide

theorem mem_all (setting : RetrySetting) : setting ∈ all := by
  cases setting <;> decide

theorem ofVariable?_eq_some {start name : String} :
    ofVariable? start name = some setting ↔ name = start ++ setting.key := by
  constructor
  · intro found
    simpa using List.find?_some found
  · intro named
    cases found : ofVariable? start name with
    | none =>
        have missed := List.find?_eq_none.mp found setting setting.mem_all
        simp [named] at missed
    | some other =>
        have same : name = start ++ other.key := by simpa using List.find?_some found
        rw [named, String.append_right_inj] at same
        rw [key_inj same]

theorem ofVariable?_eq_none {start name : String} :
    ofVariable? start name = none ↔ ∀ setting : RetrySetting, name ≠ start ++ setting.key := by
  rw [Option.eq_none_iff_forall_ne_some]
  apply forall_congr'
  intro setting
  rw [ne_eq, ofVariable?_eq_some]

end RetrySetting

def Variable.isSetting (start : String) (assigned : Variable) : Bool :=
  RetrySetting.all.any fun setting => assigned.1 = start ++ setting.key

theorem Variable.isSetting_eq (start : String) (assigned : Variable) :
    assigned.isSetting start = (RetrySetting.ofVariable? start assigned.1).isSome := by
  rw [Bool.eq_iff_iff]
  simp [isSetting, RetrySetting.ofVariable?, List.find?_isSome]

namespace RetryOptions

variable {start : String} {options result : RetryOptions} {assigned : Variable}

/-- What a variable does to options of any kind. -/
inductive Sets (start : String) (assigned : Variable) : Prop
  | passes (unnamed : ∀ setting : RetrySetting, assigned.1 ≠ start ++ setting.key)
      (kept : ∀ options : RetryOptions, options.withVariable start assigned = .ok options)
  | refused (setting : RetrySetting) (named : assigned.1 = start ++ setting.key)
      (error : TransferError)
      (refuses : ∀ options : RetryOptions, options.withVariable start assigned = .error error)
  | takes (setting : RetrySetting) (named : assigned.1 = start ++ setting.key)
      (source : RetryOptions)
      (read : ∀ options : RetryOptions,
        options.withVariable start assigned = .ok (setting.take source options))

theorem sets (start : String) (assigned : Variable) : Sets start assigned := by
  cases found : RetrySetting.ofVariable? start assigned.1 with
  | none =>
      apply Sets.passes (RetrySetting.ofVariable?_eq_none.mp found)
      intro options
      simp only [withVariable, found]
  | some setting =>
      have named := RetrySetting.ofVariable?_eq_some.mp found
      have applied : ∀ options : RetryOptions, options.withVariable start assigned =
          (setting.apply (Blank.trim assigned.2) {}).map (setting.take · options) := by
        intro options
        simp only [withVariable, found]
        exact setting.apply_eq _ _
      cases read : setting.apply (Blank.trim assigned.2) {} with
      | error error =>
          apply Sets.refused setting named error
          intro options
          rw [applied, read]
          rfl
      | ok source =>
          apply Sets.takes setting named source
          intro options
          rw [applied, read]
          rfl

theorem withVariables_append_eq_ok {before after : List Variable} :
    options.withVariables start (before ++ after) = .ok result ↔
      ∃ middle, options.withVariables start before = .ok middle ∧
        middle.withVariables start after = .ok result :=
  foldlM_append_eq_ok

theorem withVariables_cons_eq_ok {later : List Variable} :
    options.withVariables start (assigned :: later) = .ok result ↔
      ∃ next, options.withVariable start assigned = .ok next ∧
        next.withVariables start later = .ok result :=
  foldlM_cons_eq_ok

theorem accepted_of_accepted (other : RetryOptions)
    (accepted : ∃ alone, options.withVariable start assigned = .ok alone) :
    ∃ alone, other.withVariable start assigned = .ok alone := by
  cases sets start assigned with
  | passes _ kept => exact ⟨other, kept other⟩
  | refused _ _ error refuses =>
      obtain ⟨alone, read⟩ := accepted
      rw [refuses] at read
      contradiction
  | takes setting _ source taken => exact ⟨setting.take source other, taken other⟩

theorem withVariables_succeeds {assignments : List Variable} :
    (∃ result, options.withVariables start assignments = .ok result) ↔
      ∀ assigned ∈ assignments, ∃ alone, options.withVariable start assigned = .ok alone := by
  induction assignments generalizing options with
  | nil => simp [withVariables, pure, Except.pure]
  | cons first later ih =>
      simp only [List.forall_mem_cons, withVariables_cons_eq_ok]
      constructor
      · rintro ⟨result, next, wrote, read⟩
        refine ⟨⟨next, wrote⟩, fun assigned member => ?_⟩
        exact accepted_of_accepted options (ih.mp ⟨result, read⟩ assigned member)
      · rintro ⟨⟨next, wrote⟩, accepted⟩
        have others : ∀ assigned ∈ later, ∃ alone, next.withVariable start assigned = .ok alone :=
          fun assigned member => accepted_of_accepted next (accepted assigned member)
        obtain ⟨result, read⟩ := ih.mpr others
        exact ⟨result, next, wrote, read⟩

theorem agrees_of_unnamed {setting : RetrySetting} {assignments : List Variable}
    (read : options.withVariables start assignments = .ok result)
    (unnamed : ∀ assigned ∈ assignments, assigned.1 ≠ start ++ setting.key) :
    setting.Agrees result options := by
  induction assignments generalizing options with
  | nil =>
      obtain rfl := Except.ok.inj read
      exact .refl _ _
  | cons first later ih =>
      obtain ⟨next, wrote, read⟩ := withVariables_cons_eq_ok.mp read
      obtain ⟨different, others⟩ := List.forall_mem_cons.mp unnamed
      have kept : setting.Agrees next options := by
        cases sets start first with
        | passes _ kept =>
            rw [kept] at wrote
            obtain rfl := Except.ok.inj wrote
            exact .refl _ _
        | refused _ _ error refuses =>
            rw [refuses] at wrote
            contradiction
        | takes other named source taken =>
            rw [taken] at wrote
            obtain rfl := Except.ok.inj wrote
            apply RetrySetting.agrees_take_of_ne
            rintro rfl
            exact different named
      exact (ih read others).trans kept

theorem agrees_of_last {setting : RetrySetting} {before after : List Variable} {value : String}
    (read : options.withVariables start
      (before ++ (start ++ setting.key, value) :: after) = .ok result)
    (last : ∀ assigned ∈ after, assigned.1 ≠ start ++ setting.key) :
    ∃ written, setting.apply (Blank.trim value) options = .ok written ∧
      setting.Agrees result written := by
  obtain ⟨middle, _, read⟩ := withVariables_append_eq_ok.mp read
  obtain ⟨next, wrote, read⟩ := withVariables_cons_eq_ok.mp read
  have applied : setting.apply (Blank.trim value) middle = .ok next := by
    rw [← wrote, withVariable, RetrySetting.ofVariable?_eq_some.mpr rfl]
  rw [RetrySetting.apply_eq] at applied ⊢
  cases source : setting.apply (Blank.trim value) {} with
  | error error =>
      rw [source] at applied
      contradiction
  | ok source =>
      rw [source] at applied
      obtain rfl := Except.ok.inj applied
      refine ⟨_, rfl, ?_⟩
      have kept := agrees_of_unnamed read last
      exact kept.trans (RetrySetting.agrees_take.trans RetrySetting.agrees_take.symm)

theorem withVariables_filter (start : String) (assignments : List Variable)
    (options : RetryOptions) :
    options.withVariables start (assignments.filter (·.isSetting start)) =
      options.withVariables start assignments := by
  induction assignments generalizing options with
  | nil => rfl
  | cons first later ih =>
      cases found : RetrySetting.ofVariable? start first.1 with
      | none =>
          have skipped : options.withVariable start first = .ok options := by
            simp only [withVariable, found]
          have unnamed : ¬(first.isSetting start = true) := by
            simp [Variable.isSetting_eq, found]
          rw [List.filter_cons_of_neg unnamed, ih]
          simp only [withVariables, List.foldlM_cons, skipped]
          rfl
      | some setting =>
          have named : first.isSetting start = true := by
            simp [Variable.isSetting_eq, found]
          rw [List.filter_cons_of_pos named]
          simp only [withVariables, List.foldlM_cons]
          cases options.withVariable start first with
          | error error => rfl
          | ok next => exact ih next

theorem agree_of_perm {first second : List Variable} {left right : RetryOptions}
    (distinct : (first.map (·.1)).Nodup) (reordered : first.Perm second)
    (readFirst : options.withVariables start first = .ok left)
    (readSecond : options.withVariables start second = .ok right) : left = right := by
  have once : ∀ {before assigned after}, first.Perm (before ++ assigned :: after) →
      ∀ other ∈ after, other.1 ≠ assigned.1 := by
    intro before assigned after split other member same
    have names := (split.map Prod.fst).nodup_iff.mp distinct
    rw [List.map_append, List.map_cons] at names
    have fresh := (List.nodup_cons.mp (List.nodup_append.mp names).2.1).1
    exact fresh (List.mem_map.mpr ⟨other, member, same⟩)
  apply RetrySetting.eq_of_agrees
  intro setting
  by_cases named : ∃ assigned ∈ first, assigned.1 = start ++ setting.key
  · obtain ⟨⟨name, value⟩, member, rfl⟩ := named
    obtain ⟨before, after, rfl⟩ := List.append_of_mem member
    obtain ⟨others, rest, rfl⟩ := List.append_of_mem (reordered.mem_iff.mp member)
    obtain ⟨written, applied, agrees⟩ := agrees_of_last readFirst (once (.refl _))
    obtain ⟨again, reapplied, reagrees⟩ := agrees_of_last readSecond (once reordered)
    obtain rfl : written = again := Except.ok.inj (applied.symm.trans reapplied)
    exact agrees.trans reagrees.symm
  · have unnamed : ∀ assigned ∈ first, assigned.1 ≠ start ++ setting.key :=
      fun assigned member same => named ⟨assigned, member, same⟩
    have leftKept := agrees_of_unnamed readFirst unnamed
    have rightKept := agrees_of_unnamed readSecond
      fun assigned member => unnamed assigned (reordered.mem_iff.mpr member)
    exact leftKept.trans rightKept.symm

/-- Variables are read in any order with the same result, or in none. Those that name no setting
do not count, of those that name the same one the last counts, and a field that is not named stays
as it was. -/
theorem variables_decide_their_fields (start : String) (options : RetryOptions) :
    (∀ first second : List Variable, (first.map (·.1)).Nodup → first.Perm second →
      (options.withVariables start first).toOption =
        (options.withVariables start second).toOption) ∧
    (∀ assignments, options.withVariables start (assignments.filter (·.isSetting start)) =
      options.withVariables start assignments) ∧
    (∀ assignments, (∃ result, options.withVariables start assignments = .ok result) ↔
      ∀ assigned ∈ assignments, ∃ alone, options.withVariable start assigned = .ok alone) ∧
    (∀ (setting : RetrySetting) (before after : List Variable) (value : String) result,
      options.withVariables start (before ++ (start ++ setting.key, value) :: after) = .ok result →
      (∀ assigned ∈ after, assigned.1 ≠ start ++ setting.key) →
      ∃ written, setting.apply (Blank.trim value) options = .ok written ∧
        setting.Agrees result written) ∧
    ∀ (setting : RetrySetting) assignments result,
      options.withVariables start assignments = .ok result →
      ¬setting.Agrees result options →
      ∃ assigned ∈ assignments, assigned.1 = start ++ setting.key := by
  refine ⟨?_, fun assignments => withVariables_filter start assignments options,
    fun _ => withVariables_succeeds, fun _ _ _ _ _ read last => agrees_of_last read last, ?_⟩
  · intro first second distinct reordered
    have alike : (∃ left, options.withVariables start first = .ok left) ↔
        ∃ right, options.withVariables start second = .ok right := by
      simp only [withVariables_succeeds, reordered.mem_iff]
    cases readFirst : options.withVariables start first with
    | error error =>
        cases readSecond : options.withVariables start second with
        | error other => rfl
        | ok right =>
            obtain ⟨left, read⟩ := alike.mpr ⟨right, readSecond⟩
            rw [readFirst] at read
            contradiction
    | ok left =>
        obtain ⟨right, readSecond⟩ := alike.mp ⟨left, readFirst⟩
        rw [readSecond, agree_of_perm distinct reordered readFirst readSecond]
  · intro setting assignments result read changed
    apply Classical.byContradiction
    intro unnamed
    apply changed
    apply agrees_of_unnamed read
    intro assigned member same
    exact unnamed ⟨assigned, member, same⟩

def shellVariables : List Variable :=
  [("R_POLICY", "Fixed"), ("HOME", "/root"), ("R_MAX_TRIES", " 6 "), ("R_RETRY_DELAY", "5"),
    ("R_SECONDARY_HOST", "copy.example")]

theorem later_number_of_tries_counts :
    (shellVariables.map (·.1)).Nodup ∧
    (withVariables "R_" shellVariables {}).toOption =
      (withVariables "R_" shellVariables.reverse {}).toOption ∧
    ∃ result written,
      withVariables "R_" (shellVariables ++ [("R_MAX_TRIES", "+2")]) {} = .ok result ∧
      RetrySetting.maxTries.apply (Blank.trim "+2") {} = .ok written ∧
      RetrySetting.maxTries.Agrees result written ∧
      RetrySetting.tryTimeoutSeconds.Agrees result {} ∧ result.maxTries = 2 := by
  have distinct : (shellVariables.map (·.1)).Nodup := by decide
  obtain ⟨reorder, _, _, last, changes⟩ := variables_decide_their_fields "R_" {}
  have read : withVariables "R_" (shellVariables ++ [("R_MAX_TRIES", "+2")]) {} =
      .ok { policy := .fixed, maxTries := 2, secondaryHost := some "copy.example" } := by
    apply toOption_eq_some.mp
    decide +kernel
  refine ⟨distinct, reorder _ _ distinct shellVariables.reverse_perm.symm, ?_⟩
  obtain ⟨written, applied, agrees⟩ := last .maxTries shellVariables [] "+2" _ read (by simp)
  refine ⟨_, written, read, applied, agrees, ?_, rfl⟩
  apply Classical.byContradiction
  intro changed
  obtain ⟨assigned, member, named⟩ := changes .tryTimeoutSeconds _ _ read changed
  revert named
  revert assigned
  decide

end RetryOptions

end BlobTransfer
