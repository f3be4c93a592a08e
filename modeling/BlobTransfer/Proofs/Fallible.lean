/-!
Steps that may fail, taken one after the other: all of them succeed, or there is no result.
-/

namespace BlobTransfer

variable {Error Value Result State : Type}

theorem bind_eq_ok {first : Except Error Value} {next : Value → Except Error Result}
    {result : Result} :
    (first >>= next) = .ok result ↔ ∃ value, first = .ok value ∧ next value = .ok result := by
  cases first <;> simp [bind, Except.bind]

@[simp] theorem pure_eq_ok {value other : Value} :
    (pure value : Except Error Value) = .ok other ↔ value = other := by
  simp [pure, Except.pure]

theorem throw_bind {error : Error} {next : Value → Except Error Result} :
    (throw error >>= next) = throw error := rfl

theorem map_throw {error : Error} {change : Value → Result} :
    change <$> (throw error : Except Error Value) = throw error := rfl

theorem mapM_cons_eq_ok {step : Value → Except Error Result} {head : Value} {tail : List Value}
    {results : List Result} :
    (head :: tail).mapM step = .ok results ↔ ∃ result, step head = .ok result ∧
      ∃ others, tail.mapM step = .ok others ∧ result :: others = results := by
  simp only [List.mapM_cons, bind_eq_ok, pure_eq_ok]

theorem foldlM_cons_eq_ok {step : State → Value → Except Error State} {start last : State}
    {head : Value} {tail : List Value} :
    (head :: tail).foldlM step start = .ok last ↔
      ∃ next, step start head = .ok next ∧ tail.foldlM step next = .ok last := by
  rw [List.foldlM_cons, bind_eq_ok]

theorem foldlM_append_eq_ok {step : State → Value → Except Error State} {start last : State}
    {front back : List Value} :
    (front ++ back).foldlM step start = .ok last ↔
      ∃ middle, front.foldlM step start = .ok middle ∧ back.foldlM step middle = .ok last := by
  rw [List.foldlM_append, bind_eq_ok]

theorem toOption_eq_some {outcome : Except Error Value} {value : Value} :
    outcome.toOption = some value ↔ outcome = .ok value := by
  cases outcome <;> simp [Except.toOption]

end BlobTransfer
