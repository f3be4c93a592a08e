import BlobTransfer.Proofs.Url.Form

/-!
Setting a parameter of a URL. Whatever the query was, only the parameter of that name is another
one afterwards: it is there once and last, and the other pairs and parts stay as they were.
-/

namespace BlobTransfer

namespace Form

theorem lookup_append_other {pairs : List Pair} {name other value : String}
    (different : other ≠ name) : (pairs ++ [(name, value)]).lookup other = pairs.lookup other := by
  rw [List.lookup_append, List.lookup_cons, beq_false_of_ne different]
  simp

theorem lookup_filter_same (pairs : List Pair) (name : String) :
    (pairs.filter fun pair => pair.1 ≠ name).lookup name = none := by
  rw [List.lookup_eq_none_iff]
  intro pair member
  have different := (List.mem_filter.mp member).2
  exact bne_iff_ne.mpr fun same => of_decide_eq_true different same.symm

theorem lookup_filter_other (pairs : List Pair) {name other : String} (different : other ≠ name) :
    (pairs.filter fun pair => pair.1 ≠ name).lookup other = pairs.lookup other := by
  induction pairs with
  | nil => rfl
  | cons pair rest ih =>
      by_cases named : pair.1 = name
      · rw [List.filter_cons_of_neg (by simp [named]), ih, List.lookup_cons,
          beq_false_of_ne (named ▸ different)]
      · rw [List.filter_cons_of_pos (by simp [named]), List.lookup_cons, List.lookup_cons, ih]

end Form

namespace Url

variable {name other : String}

theorem parameter?_setParameter (url : Url) (name value : String) :
    (url.setParameter name value).parameter? name = some value := by
  rw [parameter?, pairs_setParameter, List.lookup_append, Form.lookup_filter_same]
  simp

theorem parameter?_setParameter_other (url : Url) (value : String) (different : other ≠ name) :
    (url.setParameter name value).parameter? other = url.parameter? other := by
  rw [parameter?, pairs_setParameter, Form.lookup_append_other different,
    Form.lookup_filter_other _ different, parameter?]

theorem filter_pairs_setParameter (url : Url) (name value : String) :
    ((url.setParameter name value).pairs.filter fun pair => pair.1 ≠ name) =
      url.pairs.filter fun pair => pair.1 ≠ name := by
  rw [pairs_setParameter, List.filter_append, List.filter_filter]
  simp

theorem setParameter_setParameter (url : Url) (name value later : String) :
    (url.setParameter name value).setParameter name later = url.setParameter name later := by
  change (url.setParameter name value).withPairs
    (((url.setParameter name value).pairs.filter fun pair => pair.1 ≠ name) ++ [(name, later)]) = _
  rw [filter_pairs_setParameter]
  rfl

/-- A parameter that is set has its value, once and behind all others, and nothing else changes:
the other pairs, the other parts of the URL, and with them the values of all other parameters. To
set it again is to set it once. -/
theorem setting_parameter_changes_it_alone (url : Url) (name value : String) :
    let changed := url.setParameter name value
    changed.parameter? name = some value ∧
    (changed.pairs.filter fun pair => pair.1 = name) = [(name, value)] ∧
    changed.pairs.getLast? = some (name, value) ∧
    (changed.pairs.filter fun pair => pair.1 ≠ name) =
      (url.pairs.filter fun pair => pair.1 ≠ name) ∧
    { changed with query := url.query } = url ∧
    (∀ later, changed.setParameter name later = url.setParameter name later) ∧
    ∀ other given, other ≠ name →
      changed.parameter? other = url.parameter? other ∧
      (changed.setParameter other given).parameter? name = some value ∧
      (changed.setParameter other given).parameter? other = some given ∧
      ((url.setParameter other given).setParameter name value).parameter? name = some value ∧
      ((url.setParameter other given).setParameter name value).parameter? other = some given := by
  intro changed
  have present := url.parameter?_setParameter name value
  refine ⟨present, ?_, ?_, url.filter_pairs_setParameter name value, rfl,
    url.setParameter_setParameter name value, fun other given different => ⟨?_, ?_, ?_, ?_, ?_⟩⟩
  · rw [pairs_setParameter, List.filter_append, List.filter_filter]
    simp
  · rw [pairs_setParameter, List.getLast?_concat]
  · exact url.parameter?_setParameter_other value different
  · exact (changed.parameter?_setParameter_other given different.symm).trans present
  · exact changed.parameter?_setParameter other given
  · exact (url.setParameter other given).parameter?_setParameter name value
  · exact ((url.setParameter other given).parameter?_setParameter_other value different).trans
      (url.parameter?_setParameter other given)

theorem timeout_is_set_alone :
    let url : Url := {
      scheme := "https", authority := some { host := .name "main.example" }
      path := .segments ["blob"], query := some "timeout=1&a=%zz+b&&timeout=2"
      fragment := some "top" }
    let changed := url.setParameter "timeout" "a&b =é"
    changed.query = some "a=%25zz+b&timeout=a%26b+%3D%C3%A9" ∧
    "a" ≠ "timeout" ∧ changed.parameter? "a" = url.parameter? "a" ∧
    (changed.setParameter "a" "").parameter? "timeout" = some "a&b =é" := by
  intro url changed
  obtain ⟨_, _, _, _, _, _, others⟩ := setting_parameter_changes_it_alone url "timeout" "a&b =é"
  have different : "a" ≠ "timeout" := by decide
  obtain ⟨kept, intact, _⟩ := others "a" "" different
  exact ⟨by decide +kernel, different, kept, intact⟩

end Url

end BlobTransfer
