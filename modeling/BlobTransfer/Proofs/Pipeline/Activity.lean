import BlobTransfer.Pipeline.Activity

/-!
What comes of activities that are put together, and which marks they set: those of the parts, up to
where a part stops or is given up.
-/

namespace BlobTransfer.Activity

variable {Service Mark Result Next : Type}

theorem course_bind (activity : Activity Service Mark Result)
    (next : Result → Progress Service → Activity Service Mark Next) :
    (activity.bind next).course = match activity.run with
      | .ok (result, progress) =>
          (activity.marks ++ (next result progress).marks, (next result progress).run)
      | .error reason => (activity.marks, .error reason) := by
  induction activity with
  | done result progress => rfl
  | halted reason => rfl
  | mark note rest ih =>
      simp only [bind, course, ih, run, marks]
      cases rest.course.2 <;> rfl
  | wait progress woken resume giveUp ih =>
      cases woken with
      | none => rfl
      | some timeline => exact ih _

theorem run_bind (activity : Activity Service Mark Result)
    (next : Result → Progress Service → Activity Service Mark Next) :
    (activity.bind next).run = activity.run.bind fun ended => (next ended.1 ended.2).run := by
  simp only [run, course_bind]
  cases activity.course.2 <;> rfl

theorem course_unmarked (activity : Activity Service Empty Result) :
    (activity.unmarked : Activity Service Mark Result).course = ([], activity.run) := by
  induction activity with
  | done result progress => rfl
  | halted reason => rfl
  | mark note rest ih => exact note.elim
  | wait progress woken resume giveUp ih =>
      cases woken with
      | none => rfl
      | some timeline => exact ih _

theorem marks_unmarked (activity : Activity Service Empty Result) :
    (activity.unmarked : Activity Service Mark Result).marks = [] :=
  congrArg Prod.fst (course_unmarked activity)

theorem course_releasing (release : Progress Service → Progress Service)
    (activity : Activity Service Mark Result) :
    (activity.releasing release).course = activity.course := by
  induction activity with
  | done result progress => rfl
  | halted reason => rfl
  | mark note rest ih => simp only [releasing, course, ih]
  | wait progress woken resume giveUp ih =>
      cases woken with
      | none => rfl
      | some timeline => exact ih _

/-! Activities in scopes. -/

theorem guard_wait (scope : Scope) (progress : Progress Service) (woken : Option Timeline)
    (resume : Progress Service → Activity Service Mark (Except TransferError Result))
    (giveUp : Progress Service → Progress Service) :
    guard scope (.wait progress woken resume giveUp) =
        .wait progress woken (fun progress => (resume progress).guard scope) giveUp ∨
      ∃ (reason : ScopeEnd) (later : Timeline),
        guard scope (.wait progress woken resume giveUp) = .wait progress (some later)
          (fun progress => .done (.error reason.error) (giveUp progress)) giveUp := by
  cases ends : progress.timeline.awaitEnd scope with
  | none =>
      left
      simp only [guard, ends]
  | some ending =>
      rcases ending with ⟨reason, later⟩
      by_cases soon : woken.any (·.now ≤ later.now) = true
      · left
        simp only [guard, ends, soon, if_true]
      · right
        refine ⟨reason, later, ?_⟩
        simp only [guard, ends, soon, Bool.false_eq_true, if_false]

/-- A guarded activity goes as it would by itself, or it is given up on its way. -/
theorem guard_cases (scope : Scope)
    (activity : Activity Service Mark (Except TransferError Result)) :
    (activity.guard scope).course = activity.course ∨
      ∃ (reason : ScopeEnd) (final : Progress Service),
        (activity.guard scope).run = .ok (.error reason.error, final) ∧
          (activity.guard scope).marks <+: activity.marks := by
  induction activity with
  | done result progress => exact .inl rfl
  | halted reason => exact .inl rfl
  | mark note rest ih =>
      rcases ih with same | ⟨reason, final, ended, begun⟩
      · left
        simp only [guard, course, same]
      · right
        exact ⟨reason, final, ended, (List.prefix_cons_inj note).mpr begun⟩
  | wait progress woken resume giveUp ih =>
      rcases guard_wait scope progress woken resume giveUp with waits | ⟨reason, later, waits⟩
      · rw [waits]
        cases woken with
        | none => exact .inl rfl
        | some timeline => exact ih _
      · rw [waits]
        exact .inr ⟨reason, _, rfl, List.nil_prefix⟩

theorem within_cases (scope : Scope)
    (activity : Progress Service → Activity Service Mark (Except TransferError Result))
    (progress : Progress Service) :
    (within scope activity progress).course = (activity progress).course ∨
      ∃ (reason : ScopeEnd) (final : Progress Service),
        (within scope activity progress).run = .ok (.error reason.error, final) ∧
          (within scope activity progress).marks <+: (activity progress).marks := by
  cases going : progress.timeline.end? scope with
  | some reason =>
      simp only [within, going]
      exact .inr ⟨reason, progress, rfl, List.nil_prefix⟩
  | none =>
      simp only [within, going]
      exact guard_cases scope _

/-! What holds of the marks when an activity returns, or stops without a result. -/

structure Ends (activity : Activity Service Mark Result)
    (returned : List Mark → Result → Prop) (stopped : List Mark → Prop) : Prop where
  returned : ∀ {result final}, activity.run = .ok (result, final) → returned activity.marks result
  stopped : ∀ {reason}, activity.run = .error reason → stopped activity.marks

section

variable {activity : Activity Service Mark Result} {returned : List Mark → Result → Prop}
  {stopped : List Mark → Prop}

theorem ends_done {result : Result} {progress : Progress Service} (holds : returned [] result) :
    (done result progress : Activity Service Mark Result).Ends returned stopped where
  returned := by
    rintro _ _ ⟨⟩
    exact holds
  stopped := by
    rintro _ ⟨⟩

theorem ends_halted {reason : Halt} (holds : stopped []) :
    (halted reason : Activity Service Mark Result).Ends returned stopped where
  returned := by
    rintro _ _ ⟨⟩
  stopped := by
    rintro _ ⟨⟩
    exact holds

theorem ends_mark {note : Mark}
    (rest : activity.Ends (fun later result => returned (note :: later) result)
      (fun later => stopped (note :: later))) :
    (mark note activity).Ends returned stopped := ⟨rest.returned, rest.stopped⟩

theorem Ends.mono {others : List Mark → Result → Prop} {breaks : List Mark → Prop}
    (ends : activity.Ends returned stopped)
    (weaker : ∀ marks result, returned marks result → others marks result)
    (breaking : ∀ marks, stopped marks → breaks marks) : activity.Ends others breaks where
  returned := fun ended => weaker _ _ (ends.returned ended)
  stopped := fun halted => breaking _ (ends.stopped halted)

theorem ends_of_course {other : Activity Service Mark Result}
    (same : activity.course = other.course) (ends : other.Ends returned stopped) :
    activity.Ends returned stopped := by
  have runs : activity.run = other.run := congrArg Prod.snd same
  have marks : activity.marks = other.marks := congrArg Prod.fst same
  constructor
  · intro result final ended
    rw [marks]
    exact ends.returned (runs.symm.trans ended)
  · intro reason halted
    rw [marks]
    exact ends.stopped (runs.symm.trans halted)

theorem ends_of_marks {others : List Mark} (marks : activity.marks = others) :
    activity.Ends (fun later _ => later = others) (fun later => later = others) :=
  ⟨fun _ => marks, fun _ => marks⟩

theorem ends_unmarked {activity : Activity Service Empty Result}
    (holds : ∀ result final, activity.run = .ok (result, final) → returned [] result)
    (stops : stopped []) :
    (activity.unmarked : Activity Service Mark Result).Ends returned stopped := by
  have course := @course_unmarked _ Mark _ activity
  constructor
  · intro result final ended
    simp only [run, marks, course] at ended ⊢
    exact holds result final ended
  · intro reason halted
    simp only [marks, course]
    exact stops

theorem ends_bind {middle : List Mark → Result → Prop} {breaks : List Mark → Prop}
    {returned : List Mark → Next → Prop}
    {next : Result → Progress Service → Activity Service Mark Next}
    (first : activity.Ends middle breaks) (breaking : ∀ marks, breaks marks → stopped marks)
    (later : ∀ marks result progress, middle marks result →
      (next result progress).Ends (fun more result => returned (marks ++ more) result)
        (fun more => stopped (marks ++ more))) :
    (activity.bind next).Ends returned stopped := by
  have course := course_bind activity next
  cases ran : activity.run with
  | ok ending =>
      rcases ending with ⟨result, progress⟩
      rw [ran] at course
      have rest := later _ result progress (first.returned ran)
      constructor
      · intro other final ended
        simp only [run, marks, course] at ended ⊢
        exact rest.returned ended
      · intro reason halted
        simp only [run, marks, course] at halted ⊢
        exact rest.stopped halted
  | error reason =>
      rw [ran] at course
      constructor
      · intro other final ended
        simp only [run, course] at ended
        contradiction
      · intro other halted
        simp only [marks, course]
        exact breaking _ (first.stopped ran)

end

theorem marks_sleep (scope : Scope) (duration : Duration) (progress : Progress Service) :
    (sleep scope duration progress : Activity Service Mark _).marks = [] := by
  unfold sleep
  rcases @within_cases Service Mark _ scope _ progress with same | ⟨_, _, _, begun⟩
  · exact congrArg Prod.fst same
  · exact List.prefix_nil.mp begun

end BlobTransfer.Activity
