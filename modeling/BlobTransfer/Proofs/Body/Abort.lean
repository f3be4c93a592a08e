import BlobTransfer.Body.Look

/-!
What becomes of a body that is aborted. Up to the abort its items come as they are; then there is
one failure and the end, however much is ready behind it or silent in front of it. An abort that
comes after the end has been seen is too late.
-/

namespace BlobTransfer

/-! A wait for the next item, taken apart into looks. -/

namespace Body

variable {skipped : Bytes → Bool} {now : Nat}

/-- A body that shows nothing by now answers later as it would have, although it was looked at. -/
theorem next_waitEvents {events : List BodyEvent} {wakeAt : Option Nat}
    (silent : ∀ answer rest time,
      nextEvent skipped now wakeAt events = some (answer, rest, time) → now < time) :
    (waitEvents skipped now (now + 1) wakeAt events).next skipped (now + 1) =
      nextEvent skipped now wakeAt events := by
  induction events generalizing wakeAt with
  | nil => exact absurd (silent _ _ _ rfl) (Nat.lt_irrefl now)
  | cons event later ih =>
      cases event with
      | data bytes =>
          by_cases passed : skipped bytes = true
          · simp only [waitEvents, nextEvent, passed, if_true] at silent ⊢
            exact ih silent
          · simp only [nextEvent, passed, Bool.false_eq_true, if_false] at silent
            exact absurd (silent _ _ _ rfl) (Nat.lt_irrefl now)
      | failure error => exact absurd (silent _ _ _ rfl) (Nat.lt_irrefl now)
      | silence => rfl
      | delay millis =>
          simp only [waitEvents, nextEvent] at silent ⊢
          by_cases passed : wakeAt.getD (now + millis) < now + 1
          · have unmoved : max now (wakeAt.getD (now + millis)) = now := by omega
            rw [if_pos passed]
            rw [unmoved] at silent ⊢
            exact ih silent
          · have moved : max now (wakeAt.getD (now + millis)) = wakeAt.getD (now + millis) := by
              omega
            have moved' : max (now + 1) (wakeAt.getD (now + millis)) =
                wakeAt.getD (now + millis) := by omega
            rw [if_neg passed]
            simp only [next, nextEvent, Option.getD_some, moved, moved']

theorem le_of_nextEvent {events : List BodyEvent} {wakeAt : Option Nat} {time : Nat}
    {answer : Option BodyItem} {rest : Body}
    (answered : nextEvent skipped now wakeAt events = some (answer, rest, time)) :
    now ≤ time := by
  induction events generalizing now wakeAt with
  | nil =>
      obtain ⟨_, _, rfl⟩ : none = answer ∧ {} = rest ∧ now = time := by
        simpa [nextEvent] using answered
      exact Nat.le_refl now
  | cons event later ih =>
      cases event with
      | data bytes =>
          simp only [nextEvent] at answered
          split at answered
          · exact ih answered
          · simp only [Option.some.injEq, Prod.mk.injEq] at answered
            exact Nat.le_of_eq answered.2.2
      | failure error =>
          simp only [nextEvent, Option.some.injEq, Prod.mk.injEq] at answered
          exact Nat.le_of_eq answered.2.2
      | silence => simp [nextEvent] at answered
      | delay millis => exact Nat.le_trans (Nat.le_max_left _ _) (ih answered)

/-- What a look comes to: what is there by now, or nothing, and then a later look is as good. -/
inductive Looks (skipped : Bytes → Bool) (body : Body) (now : Nat) : Sight → Body → Prop
  | seen {answer : Option BodyItem} {rest : Body}
      (ready : body.next skipped now = some (answer, rest, now)) :
      Looks skipped body now (answer.elim .finish .item) rest
  | unseen {later : Body}
      (silent : ∀ answer rest time, body.next skipped now = some (answer, rest, time) → now < time)
      (onward : later.next skipped (now + 1) = body.next skipped now) :
      Looks skipped body now .nothing later

theorem looks_look (skipped : Bytes → Bool) (body : Body) (now : Nat) :
    Looks skipped body now (body.look skipped now).1 (body.look skipped now).2 := by
  unfold look
  cases answered : body.next skipped now with
  | none =>
      have silent : ∀ answer rest time,
          body.next skipped now = some (answer, rest, time) → now < time := by simp [answered]
      exact .unseen silent (next_waitEvents silent)
  | some given =>
      obtain ⟨answer, rest, time⟩ := given
      dsimp only
      split
      · rename_i reached
        obtain rfl : now = time := Nat.le_antisymm (le_of_nextEvent answered) reached
        exact .seen answered
      · rename_i ahead
        have silent : ∀ other later when,
            body.next skipped now = some (other, later, when) → now < when := by
          intro other later when same
          rw [answered, Option.some.injEq, Prod.mk.injEq, Prod.mk.injEq] at same
          omega
        exact .unseen silent (next_waitEvents silent)

end Body

namespace AbortableBody

variable {skipped : Bytes → Bool} {body : AbortableBody} {now : Nat} {abortAt : Option Nat}

theorem look_cases (skipped : Bytes → Bool) (body : AbortableBody) (now : Nat) :
    (∃ answer rest, body.look skipped now = (answer.elim .finish .item, rest) ∧
      ∀ abortAt, body.next skipped now abortAt = some (answer, rest, now)) ∨
    ∃ later : AbortableBody, body.look skipped now = (.nothing, later) ∧
      later.abort.look skipped now = (.item (.error interruption), ⟨none, true⟩) ∧
      ∀ abortAt, body.next skipped now abortAt =
        if abortAt.any (· ≤ now) then some (some (.error interruption), ⟨none, true⟩, now)
        else later.next skipped (now + 1) abortAt := by
  obtain ⟨inner, aborted⟩ := body
  cases inner with
  | none => exact .inl ⟨none, _, rfl, fun _ => rfl⟩
  | some inner =>
      cases aborted with
      | true => exact .inl ⟨some (.error interruption), _, rfl, fun _ => rfl⟩
      | false =>
          have looks := inner.looks_look skipped now
          simp only [look, asSource, AbortableSource.look, Bool.false_eq_true, if_false]
          generalize inner.look skipped now = glanced at looks
          obtain ⟨sight, later⟩ := glanced
          cases looks with
          | @seen answer rest ready =>
              left
              refine ⟨answer, ⟨answer.map fun _ => later, false⟩, ?_, fun abortAt => ?_⟩
              · cases answer <;> rfl
              · have unpassed : ∀ abort, ¬max now abort < now := by omega
                cases abortAt with
                | none => simp [next, ready]
                | some abort => simp [next, ready, unpassed]
          | unseen silent onward =>
              right
              refine ⟨⟨some later, false⟩, rfl, rfl, fun abortAt => ?_⟩
              simp only [next, onward, Bool.false_eq_true, if_false]
              generalize inner.next skipped now = given at silent
              cases given with
              | none =>
                  cases abortAt with
                  | none => rfl
                  | some abort =>
                      by_cases due : abort ≤ now
                      · simp [due]
                      · have ahead : max now abort = max (now + 1) abort := by omega
                        simp [due, ahead]
              | some given =>
                  obtain ⟨answer, rest, time⟩ := given
                  have ahead := silent answer rest time rfl
                  cases abortAt with
                  | none => rfl
                  | some abort =>
                      by_cases due : abort ≤ now
                      · simp [due, ahead]
                      · have ahead : max now abort = max (now + 1) abort := by omega
                        simp [due, ahead]

theorem lookFor_of_seen (answer : Option BodyItem) {rest : AbortableBody}
    (seen : body.look skipped now = (answer.elim .finish .item, rest)) (fuel : Nat) :
    body.lookFor skipped abortAt (fuel + 1) now = some (answer, rest, now) := by
  cases answer <;> simp only [lookFor, seen, Option.elim]

theorem le_of_next {answer : Option BodyItem} {rest : AbortableBody} {time : Nat}
    (awaited : body.next skipped now abortAt = some (answer, rest, time)) : now ≤ time := by
  obtain ⟨inner, aborted⟩ := body
  cases inner with
  | none =>
      simp only [next, Option.some.injEq, Prod.mk.injEq] at awaited
      omega
  | some inner =>
      simp only [next] at awaited
      split at awaited
      · simp only [Option.some.injEq, Prod.mk.injEq] at awaited
        omega
      · cases given : inner.next skipped now with
        | none =>
            cases abortAt with
            | none => simp [given] at awaited
            | some abort =>
                simp only [given, Option.some.injEq, Prod.mk.injEq] at awaited
                omega
        | some given' =>
            have reached := Body.le_of_nextEvent given
            cases abortAt with
            | none =>
                simp only [given, Option.some.injEq, Prod.mk.injEq] at awaited
                omega
            | some abort =>
                simp only [given] at awaited
                split at awaited <;>
                  (simp only [Option.some.injEq, Prod.mk.injEq] at awaited; omega)

theorem next_of_abort (skipped : Bytes → Bool) (body : AbortableBody) (now time : Nat) :
    body.next skipped now (some time) ≠ none := by
  unfold next
  split
  · simp
  · split
    · simp
    · split
      · split <;> simp
      · simp_all
      · simp
      · simp_all

/-- A wait for the next item comes to what looking again and again comes to: neither sees more,
and neither stays when the other leaves. -/
theorem next_eq_some_iff {answer : Option BodyItem × AbortableBody × Nat} :
    body.next skipped now abortAt = some answer ↔
      ∃ fuel, body.lookFor skipped abortAt fuel now = some answer := by
  constructor
  · intro found
    obtain ⟨ending, last, time⟩ := answer
    obtain ⟨gap, within⟩ : ∃ gap, time < now + gap := ⟨time + 1, by omega⟩
    induction gap generalizing body now with
    | zero => exact absurd (le_of_next found) (by omega)
    | succ gap ih =>
        obtain ⟨seen, rest, looked, awaited⟩ | ⟨later, looked, aborted, awaited⟩ :=
          body.look_cases skipped now
        · exact ⟨1, (lookFor_of_seen seen looked 0).trans ((awaited abortAt).symm.trans found)⟩
        · rw [awaited] at found
          split at found
          · rename_i due
            refine ⟨2, ?_⟩
            rw [lookFor, looked, ← found]
            dsimp only
            rw [if_pos due]
            exact lookFor_of_seen (some _) aborted 0
          · rename_i undue
            obtain ⟨fuel, again⟩ := ih found (by omega)
            refine ⟨fuel + 1, ?_⟩
            rw [lookFor, looked, ← again]
            dsimp only
            rw [if_neg undue]
  · rintro ⟨fuel, found⟩
    induction fuel generalizing body now with
    | zero => simp [lookFor] at found
    | succ fuel ih =>
        obtain ⟨seen, rest, looked, awaited⟩ | ⟨later, looked, aborted, awaited⟩ :=
          body.look_cases skipped now
        · rw [awaited, ← lookFor_of_seen seen looked fuel, found]
        · rw [lookFor, looked] at found
          rw [awaited]
          dsimp only at found
          split at found
          · rename_i due
            rw [if_pos due]
            cases fuel with
            | zero => simp [lookFor] at found
            | succ fuel => rw [← found, lookFor_of_seen (some _) aborted]
          · rename_i undue
            rw [if_neg undue]
            exact ih found

end AbortableBody

/-! What is seen of a source, look by look. -/

theorem fuse_cons {sight : Sight} (going : sight ≠ .finish) (later : List Sight) :
    fuse (sight :: later) = sight :: fuse later := by
  cases sight with
  | finish => exact absurd rfl going
  | nothing => rfl
  | item item => rfl

theorem fuse_of_going {sights : List Sight} (going : .finish ∉ sights) : fuse sights = sights := by
  induction sights with
  | nil => rfl
  | cons sight later ih =>
      rw [List.mem_cons, not_or] at going
      rw [fuse_cons (Ne.symm going.1), ih going.2]

theorem BodyAct.looks_waits (waits : List Nat) (acts : List BodyAct) :
    looks (waits.map .look ++ acts) = waits.length + looks acts := by
  have kept : (waits.map BodyAct.look).filter isLook = waits.map .look := by
    rw [List.filter_eq_self]
    intro act member
    obtain ⟨wait, _, rfl⟩ := List.mem_map.mp member
    rfl
  rw [looks, looks, List.filter_append, kept, List.length_append, List.length_map]

section Glances

variable {Source : Type} (glance : Glance Source)

theorem length_glances (source : Source) (now : Nat) (waits : List Nat) :
    (glances glance source now waits).length = waits.length := by
  induction waits generalizing source now with
  | nil => rfl
  | cons wait later ih => rw [glances, List.length_cons, List.length_cons, ih]

end Glances

namespace AbortableSource

variable {Source : Type} {glance : Glance Source}

theorem look_of_going {source rest : Source} {now : Nat} {sight : Sight}
    (seen : glance source now = (sight, rest)) (going : sight ≠ .finish) :
    (ofSource source).look glance now = (sight, ofSource rest) := by
  cases sight with
  | finish => exact absurd rfl going
  | nothing => simp [look, ofSource, seen]
  | item item => simp [look, ofSource, seen]

theorem look_of_finish {source rest : Source} {now : Nat}
    (seen : glance source now = (.finish, rest)) :
    (ofSource source).look glance now = (.finish, { inner := none }) := by
  simp [look, ofSource, seen]

theorem watch_of_ended {body : AbortableSource Source} (ended : body.inner = none) (now : Nat)
    (acts : List BodyAct) :
    body.watch glance now acts = List.replicate (BodyAct.looks acts) .finish := by
  induction acts generalizing body now with
  | nil => rfl
  | cons act later ih =>
      cases act with
      | abort =>
          have ended' : body.abort.inner = none := ended
          exact ih ended' now
      | look wait =>
          have looked : body.look glance (now + wait) = (.finish, body) := by simp [look, ended]
          rw [watch, looked, ih ended]
          rfl

theorem watch_of_aborted (source : Source) (now : Nat) (acts : List BodyAct) :
    (ofSource source).abort.watch glance now acts = interrupted (BodyAct.looks acts) := by
  induction acts generalizing now with
  | nil => rfl
  | cons act later ih =>
      cases act with
      | abort => exact ih now
      | look wait =>
          have looked : (ofSource source).abort.look glance (now + wait) =
              (.item (.error AbortableBody.interruption), ⟨none, true⟩) := rfl
          rw [watch, looked, watch_of_ended rfl]
          rfl

theorem watch_waits (glance : Glance Source) (source : Source) (now : Nat) (waits : List Nat)
    (acts : List BodyAct) :
    (.finish ∈ glances glance source now waits ∧
      (ofSource source).watch glance now (waits.map .look ++ acts) =
        fuse (glances glance source now waits) ++
          List.replicate (BodyAct.looks acts) .finish) ∨
    .finish ∉ glances glance source now waits ∧ ∃ rest time,
      (ofSource source).watch glance now (waits.map .look ++ acts) =
        glances glance source now waits ++ (ofSource rest).watch glance time acts := by
  induction waits generalizing source now with
  | nil => exact .inr ⟨List.not_mem_nil, source, now, rfl⟩
  | cons wait later ih =>
      rw [glances, List.map_cons, List.cons_append, watch]
      cases seen : glance source (now + wait) with
      | mk sight rest =>
          by_cases ended : sight = .finish
          · subst sight
            refine .inl ⟨List.mem_cons_self, ?_⟩
            rw [look_of_finish seen, watch_of_ended rfl, BodyAct.looks_waits, fuse,
              length_glances, List.cons_append, List.replicate_append_replicate]
          · rw [look_of_going seen ended]
            dsimp only
            obtain ⟨finished, shown⟩ | ⟨going, further, time, shown⟩ := ih rest (now + wait)
            · refine .inl ⟨List.mem_cons_of_mem _ finished, ?_⟩
              rw [shown, fuse_cons ended, List.cons_append]
            · refine .inr ⟨?_, further, time, ?_⟩
              · rw [List.mem_cons, not_or]
                exact ⟨Ne.symm ended, going⟩
              · rw [shown, List.cons_append]

theorem watch_looks (source : Source) (now : Nat) (waits : List Nat) :
    (ofSource source).watch glance now (waits.map .look) =
      fuse (glances glance source now waits) := by
  have shown := watch_waits glance source now waits []
  rw [List.append_nil] at shown
  obtain ⟨_, shown⟩ | ⟨going, rest, time, shown⟩ := shown
  · rw [shown]
    exact List.append_nil _
  · rw [shown, fuse_of_going going]
    exact List.append_nil _

end AbortableSource

namespace Body

theorem rest_of_end {skipped : Bytes → Bool} {now time : Nat} {wakeAt : Option Nat}
    {events : List BodyEvent} {rest : Body}
    (ended : nextEvent skipped now wakeAt events = some (none, rest, time)) : rest = {} := by
  induction events generalizing now wakeAt with
  | nil =>
      simp only [nextEvent, Option.some.injEq, Prod.mk.injEq] at ended
      exact ended.2.1.symm
  | cons event later ih =>
      cases event with
      | data bytes =>
          simp only [nextEvent] at ended
          split at ended
          · exact ih ended
          · simp at ended
      | failure error => simp [nextEvent] at ended
      | silence => simp [nextEvent] at ended
      | delay millis => exact ih ended

theorem look_of_ended (skipped : Bytes → Bool) (now : Nat) :
    Body.look skipped {} now = (.finish, {}) := by
  simp [look, next, nextEvent]

theorem fuse_glances (skipped : Bytes → Bool) (body : Body) (now : Nat) (waits : List Nat) :
    fuse (glances (Body.look skipped) body now waits) =
      glances (Body.look skipped) body now waits := by
  have stays : ∀ now waits, glances (Body.look skipped) {} now waits =
      List.replicate waits.length .finish := by
    intro now waits
    induction waits generalizing now with
    | nil => rfl
    | cons wait later ih => rw [glances, look_of_ended, ih, List.length_cons, List.replicate_succ]
  induction waits generalizing body now with
  | nil => rfl
  | cons wait later ih =>
      have looks := body.looks_look skipped (now + wait)
      rw [glances]
      generalize body.look skipped (now + wait) = glanced at looks
      obtain ⟨sight, rest⟩ := glanced
      cases looks with
      | unseen => rw [fuse_cons (by simp), ih]
      | @seen answer _ ready =>
          cases answer with
          | some item => rw [fuse_cons (by simp), ih]
          | none =>
              obtain rfl := rest_of_end ready
              dsimp only [Option.elim]
              rw [fuse, stays, List.length_replicate]

end Body

/-- Before it is aborted, an abortable source shows all that the source itself would show, item by
item. The first look after the abort, if the end has not been seen by then, shows one failure, and
all others the end, whatever the source had ready or would never have shown; how often and when it
is aborted again does not matter. After the end, an abort changes nothing. With bodies for sources,
to wait for the next item is to look again and again, so that who waits notices an abort too. -/
theorem abort_cuts_source_short {Source : Type} (glance : Glance Source) (source : Source)
    (now : Nat) (waits : List Nat) (later : List BodyAct) :
    let alone := glances glance source now waits
    let body := AbortableSource.ofSource source
    body.watch glance now (waits.map .look) = fuse alone ∧
    (.finish ∉ alone → body.watch glance now (waits.map .look ++ .abort :: later) =
      alone ++ interrupted (BodyAct.looks later)) ∧
    (.finish ∈ alone → body.watch glance now (waits.map .look ++ .abort :: later) =
      body.watch glance now (waits.map .look ++ later.filter BodyAct.isLook)) ∧
    body.watch glance now (waits.map .look ++ .abort :: later) =
      body.watch glance now (waits.map .look ++ .abort :: later.filter BodyAct.isLook) ∧
    (∀ (skipped : Bytes → Bool) (inner : Body),
      (AbortableSource.ofSource inner).watch (Body.look skipped) now (waits.map .look) =
        glances (Body.look skipped) inner now waits) ∧
    ∀ (skipped : Bytes → Bool) (awaited : AbortableBody),
      (∀ abortAt answer, awaited.next skipped now abortAt = some answer ↔
        ∃ fuel, awaited.lookFor skipped abortAt fuel now = some answer) ∧
      ∀ time, awaited.next skipped now (some time) ≠ none := by
  intro alone body
  have early : .finish ∉ alone → ∀ acts,
      body.watch glance now (waits.map .look ++ .abort :: acts) =
        alone ++ interrupted (BodyAct.looks acts) := by
    intro going acts
    obtain ⟨finished, _⟩ | ⟨_, rest, time, shown⟩ :=
      AbortableSource.watch_waits glance source now waits (.abort :: acts)
    · exact absurd finished going
    · rw [shown, AbortableSource.watch, AbortableSource.watch_of_aborted]
  have late : .finish ∈ alone → ∀ acts, body.watch glance now (waits.map .look ++ acts) =
      fuse alone ++ List.replicate (BodyAct.looks acts) .finish := by
    intro finished acts
    obtain ⟨_, shown⟩ | ⟨going, _⟩ :=
      AbortableSource.watch_waits glance source now waits acts
    · exact shown
    · exact absurd finished going
  have counted : BodyAct.looks (later.filter BodyAct.isLook) = BodyAct.looks later := by
    rw [BodyAct.looks, List.filter_filter]
    simp [BodyAct.looks]
  refine ⟨AbortableSource.watch_looks source now waits, fun going => early going later,
    fun finished => ?_, ?_, ?_, ?_⟩
  · rw [late finished, late finished, counted]
    rfl
  · by_cases finished : .finish ∈ alone
    · rw [late finished, late finished]
      exact congrArg (fuse alone ++ List.replicate · .finish) counted.symm
    · rw [early finished, early finished, counted]
  · intro skipped inner
    rw [AbortableSource.watch_looks, Body.fuse_glances]
  · exact fun skipped awaited => ⟨fun _ _ => AbortableBody.next_eq_some_iff,
      awaited.next_of_abort skipped now⟩

theorem silence_is_cut_short :
    let glance := Body.look fun _ => false
    let silent : Body := { events := [.data [1], .silence] }
    let short : Body := { events := [.data [1]] }
    (.finish ∉ glances glance silent 0 [0, 5] ∧
      (AbortableSource.ofSource silent).watch glance 0
          ([0, 5].map .look ++ .abort :: [.look 1, .abort, .look 1]) =
        [.item (.ok [1]), .nothing, .item (.error AbortableBody.interruption), .finish]) ∧
    .finish ∈ glances glance short 0 [0, 0] ∧
      (AbortableSource.ofSource short).watch glance 0 ([0, 0].map .look ++ .abort :: [.look 1]) =
        (AbortableSource.ofSource short).watch glance 0 ([0, 0].map .look ++ [.look 1]) := by
  intro glance silent short
  have going : .finish ∉ glances glance silent 0 [0, 5] := by
    have seen : glances glance silent 0 [0, 5] = [.item (.ok [1]), .nothing] := rfl
    simp [seen]
  have finished : .finish ∈ glances glance short 0 [0, 0] := by
    have seen : glances glance short 0 [0, 0] = [.item (.ok [1]), .finish] := rfl
    simp [seen]
  obtain ⟨_, early, _⟩ :=
    abort_cuts_source_short glance silent 0 [0, 5] [.look 1, .abort, .look 1]
  obtain ⟨_, _, late, _⟩ := abort_cuts_source_short glance short 0 [0, 0] [.look 1]
  exact ⟨⟨going, early going⟩, finished, late finished⟩

end BlobTransfer
