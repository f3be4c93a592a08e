import BlobTransfer.Reader.Items

/-!
A copy and a stream go abreast, one read at a time: what the one has written the other has given,
and they come to their ends together.
-/

namespace BlobTransfer

theorem readItems_append (parts : List Bytes) (items : List BodyItem) :
    readItems (parts.map .ok ++ items) =
      (parts.flatten ++ (readItems items).1, (readItems items).2) := by
  induction parts with
  | nil => rfl
  | cons part parts ih => simp [readItems, ih]

theorem readItems_ok (parts : List Bytes) :
    readItems (parts.map .ok) = (parts.flatten, none) := by
  simpa [readItems] using readItems_append parts []

variable {Service : Type} {getter : Getter Service} {scope : Scope}

namespace ItemStream

variable {stream later : ItemStream Service}

theorem next_of_ended (ended : stream.ended = true) :
    stream.next getter scope = some (none, stream) := by
  simp [next, ended]

theorem polls_of_ended (ended : stream.ended = true) (count : Nat) :
    stream.polls getter scope count = some ([], stream) := by
  induction count with
  | zero => rfl
  | succ count ih => simp [polls, next_of_ended ended, ih]

theorem polls_after {items : List BodyItem} {count : Nat} (ended : stream.ended = true)
    (polled : stream.polls getter scope count = some (items, later)) :
    items = [] ∧ later = stream := by
  rw [polls_of_ended ended, Option.some.injEq] at polled
  obtain ⟨rfl, rfl⟩ := Prod.mk.inj polled
  exact ⟨rfl, rfl⟩

theorem next_cases {item : Option BodyItem}
    (given : stream.next getter scope = some (item, later)) :
    (item = none ∧ later.ended = true) ∨
    (∃ error, item = some (.error error) ∧ later.ended = true) ∨
    ∃ bytes, item = some (.ok bytes) ∧ bytes ≠ [] := by
  by_cases ended : stream.ended = true
  · rw [next_of_ended ended, Option.some.injEq, Prod.mk.injEq] at given
    exact .inl ⟨given.1.symm, given.2 ▸ ended⟩
  · rw [next, if_neg ended] at given
    obtain ⟨⟨result, session⟩, _, given⟩ := Option.bind_eq_some_iff.mp given
    match result with
    | .error error =>
        obtain ⟨rfl, rfl⟩ := Prod.mk.inj (Option.some.inj given)
        exact .inr (.inl ⟨_, rfl, rfl⟩)
    | .ok [] =>
        obtain ⟨rfl, rfl⟩ := Prod.mk.inj (Option.some.inj given)
        exact .inl ⟨rfl, rfl⟩
    | .ok (first :: others) =>
        obtain ⟨rfl, rfl⟩ := Prod.mk.inj (Option.some.inj given)
        exact .inr (.inr ⟨_, rfl, by simp⟩)

theorem polls_succ {item : Option BodyItem} (given : stream.next getter scope = some (item, later))
    (count : Nat) :
    stream.polls getter scope (count + 1) =
      (later.polls getter scope count).map fun (items, last) => (item.toList ++ items, last) := by
  simp only [polls, given, Option.bind_eq_bind, Option.bind_some]
  cases later.polls getter scope count <;> rfl

theorem polls_cases {item : Option BodyItem} {items : List BodyItem} {last : ItemStream Service}
    {count : Nat} (given : stream.next getter scope = some (item, later))
    (polled : stream.polls getter scope count = some (items, last)) :
    (items = [] ∧ last = stream) ∨
    ∃ fewer others, later.polls getter scope fewer = some (others, last) ∧
      items = item.toList ++ others := by
  cases count with
  | zero =>
      obtain ⟨rfl, rfl⟩ := Prod.mk.inj (Option.some.inj polled)
      exact .inl ⟨rfl, rfl⟩
  | succ count =>
      rw [polls_succ given] at polled
      obtain ⟨⟨others, last⟩, onward, same⟩ := Option.map_eq_some_iff.mp polled
      obtain ⟨rfl, rfl⟩ := Prod.mk.inj same
      exact .inr ⟨count, others, onward, rfl⟩

theorem unended_of_waits (waits : stream.next getter scope = none) : stream.ended = false := by
  cases ended : stream.ended with
  | false => rfl
  | true => simp [next_of_ended ended] at waits

theorem unended_of_item {item : BodyItem}
    (given : stream.next getter scope = some (some item, later)) : stream.ended = false := by
  cases ended : stream.ended with
  | false => rfl
  | true => simp [next_of_ended ended] at given

theorem polls_succ_of_none (waits : stream.next getter scope = none) (count : Nat) :
    stream.polls getter scope (count + 1) = none := by
  simp [polls, waits]

end ItemStream

def SameEnd (result : Except TransferError Nat) (items : List BodyItem) : Prop :=
  ∃ parts : List Bytes,
    (items = parts.map .ok ∧ result = .ok (readItems items).1.length) ∨
    ∃ error, items = parts.map .ok ++ [.error error.toIo] ∧ result = .error error

/-- A copy and a stream that have read equally often. -/
structure Abreast (before : Bytes) (copying : Copying Service) (items : List BodyItem)
    (stream : ItemStream Service) : Prop where
  session : copying.session = stream.session
  space : copying.destination.space = none
  data : copying.destination.data = before ++ (readItems items).1
  going : copying.result = none → stream.ended = false ∧
    copying.total = (readItems items).1.length ∧ ∃ parts : List Bytes, items = parts.map .ok
  finished : ∀ result, copying.result = some result → stream.ended = true ∧ SameEnd result items

variable {before : Bytes} {copying : Copying Service} {items : List BodyItem}
  {stream : ItemStream Service}

theorem Abreast.turn (abreast : Abreast before copying items stream) (getter : Getter Service)
    (scope : Scope) :
    Option.Rel (fun copying polled => Abreast before copying (items ++ polled.1.toList) polled.2)
      (copying.turn getter scope) (stream.next getter scope) := by
  obtain ⟨same, space, data, going, finished⟩ := id abreast
  cases result : copying.result with
  | some verdict =>
      rw [Copying.turn, result, Option.isSome_some, if_pos rfl,
        ItemStream.next_of_ended (finished _ result).1]
      refine .some ?_
      rw [Option.toList_none, List.append_nil]
      exact abreast
  | none =>
      obtain ⟨unended, total, parts, rfl⟩ := going result
      rw [readItems_ok] at data total
      rw [Copying.turn, ItemStream.next, result, unended, same, if_neg nofun, if_neg nofun]
      cases stream.session.read getter scope drainSize with
      | none => exact .none
      | some outcome =>
          match outcome with
          | (.error error, session) =>
              refine .some ⟨rfl, space, ?_, nofun, ?_⟩
              · rw [data, Option.toList_some, readItems_append]
                simp [readItems]
              · rintro _ ⟨⟩
                exact ⟨rfl, parts, .inr ⟨error, rfl, rfl⟩⟩
          | (.ok [], session) =>
              refine .some ⟨rfl, space, ?_, nofun, ?_⟩
              · rw [data, Option.toList_none, List.append_nil, readItems_ok]
              · rintro _ ⟨⟩
                refine ⟨rfl, parts, .inl ⟨by simp, ?_⟩⟩
                rw [total, Option.toList_none, List.append_nil, readItems_ok]
          | (.ok (first :: others), session) =>
              obtain ⟨filled, wrote, space', content⟩ :=
                Destination.write_of_endless space (first :: others)
              have more : (parts.map .ok ++ [.ok (first :: others)] : List BodyItem) =
                  (parts ++ [first :: others]).map .ok := by simp
              simp only [Option.bind_eq_bind, Option.bind_some, wrote]
              refine .some ⟨rfl, space', ?_, ?_, ?_⟩
              · rw [content, data, Option.toList_some, more, readItems_ok]
                simp
              · intro _
                refine ⟨rfl, ?_, _, more⟩
                rw [total, Option.toList_some, more, readItems_ok]
                simp
              · intro other finished
                simp at finished

/-- Turn by turn, a copy and a stream stay abreast, and both wait for ever or neither does. -/
theorem Abreast.turns (abreast : Abreast before copying items stream) (getter : Getter Service)
    (scope : Scope) (count : Nat) :
    Option.Rel (fun copying polled => Abreast before copying (items ++ polled.1) polled.2)
      (copying.turns getter scope count) (stream.polls getter scope count) := by
  induction count generalizing copying items stream with
  | zero =>
      refine .some ?_
      rw [List.append_nil]
      exact abreast
  | succ count ih =>
      have stepped := abreast.turn getter scope
      rw [Copying.turns, ItemStream.polls]
      generalize copying.turn getter scope = turned at stepped ⊢
      generalize stream.next getter scope = polled at stepped ⊢
      cases stepped with
      | none => exact .none
      | @some copying polled kept =>
          have onward := ih kept
          simp only [Option.bind_eq_bind, Option.bind_some]
          generalize copying.turns getter scope count = turned at onward ⊢
          generalize polled.2.polls getter scope count = others at onward ⊢
          cases onward with
          | none => exact .none
          | some kept => exact .some (by rwa [← List.append_assoc])

theorem Copying.turns_of_result {result : Except TransferError Nat}
    (finished : copying.result = some result) (count : Nat) :
    copying.turns getter scope count = some copying := by
  induction count with
  | zero => rfl
  | succ count ih => simp [Copying.turns, Copying.turn, finished, ih]

def Copying.finished? (copying : Copying Service) :
    Option (Except TransferError Nat × Destination × ReadSession Service) :=
  copying.result.map fun result => (result, copying.destination, copying.session)

def ItemStream.finished? (items : List BodyItem) (stream : ItemStream Service) :
    Option (List BodyItem × ReadSession Service) :=
  if stream.ended then some (items, stream.session) else none

/-- A copy is as many turns as there is fuel for, if they suffice. -/
theorem ReadSession.copy_eq_turns (session : ReadSession Service) (destination : Destination)
    (total fuel : Nat) :
    session.copy getter scope destination total fuel =
      (({ session, destination, total } : Copying Service).turns getter scope fuel).bind
        (·.finished?) := by
  induction fuel generalizing session destination total with
  | zero => rfl
  | succ fuel ih =>
      rw [ReadSession.copy, Copying.turns, Copying.turn, if_neg nofun]
      cases session.read getter scope drainSize with
      | none => rfl
      | some outcome =>
          match outcome with
          | (.error error, next) =>
              simp [Copying.turns_of_result, Copying.finished?]
          | (.ok [], next) =>
              simp [Copying.turns_of_result, Copying.finished?]
          | (.ok (first :: others), next) =>
              rcases wrote : destination.write (first :: others) with ⟨_ | _, filled⟩
              · simp [wrote, Copying.turns_of_result, Copying.finished?]
              · simp only [Option.bind_eq_bind, Option.bind_some, wrote]
                exact ih _ _ _

theorem ReadSession.stream_eq_polls (session : ReadSession Service) (fuel : Nat) :
    session.stream getter scope fuel =
      (({ session } : ItemStream Service).polls getter scope fuel).bind fun (items, stream) =>
        stream.finished? items := by
  induction fuel generalizing session with
  | zero => rfl
  | succ fuel ih =>
      rw [ReadSession.stream, ItemStream.polls, ItemStream.next, if_neg nofun]
      cases session.read getter scope drainSize with
      | none => rfl
      | some outcome =>
          match outcome with
          | (.error error, next) =>
              simp [ItemStream.polls_of_ended, ItemStream.finished?]
          | (.ok [], next) =>
              simp [ItemStream.polls_of_ended, ItemStream.finished?]
          | (.ok (first :: others), next) =>
              simp only [Option.bind_eq_bind, Option.bind_some, ih, pure]
              rcases ItemStream.polls _ getter scope fuel with _ | ⟨items, ⟨last, ended⟩⟩
              · rfl
              · cases ended <;> rfl

theorem abreast_start (session : ReadSession Service) {destination : Destination}
    (endless : destination.space = none) :
    Abreast destination.data ({ session, destination } : Copying Service) [] { session } where
  session := rfl
  space := endless
  data := (List.append_nil _).symm
  going _ := ⟨rfl, rfl, [], rfl⟩
  finished := nofun

def DrainedAlike (before : Bytes)
    (copied : Except TransferError Nat × Destination × ReadSession Service)
    (streamed : List BodyItem × ReadSession Service) : Prop :=
  copied.2.2 = streamed.2 ∧ copied.2.1.data = before ++ (readItems streamed.1).1 ∧
    SameEnd copied.1 streamed.1

theorem ReadSession.copy_with_stream (session : ReadSession Service) {destination : Destination}
    (endless : destination.space = none) (getter : Getter Service) (scope : Scope) (fuel : Nat) :
    Option.Rel (DrainedAlike destination.data)
      (session.copy getter scope destination 0 fuel) (session.stream getter scope fuel) := by
  have abreast := (abreast_start session endless).turns getter scope fuel
  rw [copy_eq_turns, stream_eq_polls]
  generalize Copying.turns _ getter scope fuel = turned at abreast ⊢
  generalize ItemStream.polls _ getter scope fuel = polled at abreast ⊢
  cases abreast with
  | none => exact .none
  | @some copying polled kept =>
      rw [List.nil_append] at kept
      simp only [Option.bind_some, Copying.finished?, ItemStream.finished?]
      cases result : copying.result with
      | none =>
          rw [(kept.going result).1]
          exact .none
      | some verdict =>
          obtain ⟨ended, agree⟩ := kept.finished verdict result
          rw [ended]
          exact .some ⟨kept.session, kept.data, agree⟩

end BlobTransfer
