import BlobTransfer.Proofs.Reader.Copying
import BlobTransfer.Reader.Script

/-!
The three ways of reading all that is left agree: whoever reads the bytes of a stream gets what a
copy writes, whatever the buffers are.
-/

namespace BlobTransfer

variable {Service Reader : Type} {getter : Getter Service} {scope : Scope}

namespace ItemStream

/-- What was read with some buffers, the rest of an item first, is what the stream gives when it is
asked often enough: a part of it or, if the reader came to its end, all of it. -/
def Explains (getter : Getter Service) (scope : Scope) (chunk : Bytes)
    (stream : ItemStream Service) : Option (Bytes × Option (Option IoError)) → Prop
  | none => ∃ count, stream.polls getter scope count = none
  | some (data, ending) => ∃ count items later,
      stream.polls getter scope count = some (items, later) ∧
      data <+: chunk ++ (readItems items).1 ∧
      ∀ failure, ending = some failure → later.ended = true ∧
        data = chunk ++ (readItems items).1 ∧ failure = (readItems items).2

variable {part rest bytes : Bytes} {stream onward : ItemStream Service}
  {outcome : Option (Bytes × Option (Option IoError))}

theorem Explains.take (explains : stream.Explains getter scope rest outcome) :
    stream.Explains getter scope (part ++ rest)
      (outcome.map fun (others, ending) => (part ++ others, ending)) := by
  match outcome with
  | none => exact explains
  | some (others, ending) =>
      obtain ⟨count, items, later, polled, front, ends⟩ := explains
      refine ⟨count, items, later, polled, ?_, ?_⟩
      · rw [List.append_assoc]
        exact (List.prefix_append_right_inj part).mpr front
      · intro failure same
        obtain ⟨ended, rfl, shown⟩ := ends failure same
        exact ⟨ended, (List.append_assoc ..).symm, shown⟩

theorem Explains.item (given : stream.next getter scope = some (some (.ok bytes), onward))
    (explains : onward.Explains getter scope bytes outcome) :
    stream.Explains getter scope [] outcome := by
  match outcome with
  | none =>
      obtain ⟨count, waits⟩ := explains
      refine ⟨count + 1, ?_⟩
      rw [polls_succ given, waits]
      rfl
  | some (data, ending) =>
      obtain ⟨count, items, later, polled, front, ends⟩ := explains
      refine ⟨count + 1, .ok bytes :: items, later, ?_, front, ends⟩
      rw [polls_succ given, polled]
      rfl

def Reaches (getter : Getter Service) (scope : Scope) (given : Bytes × Option IoError)
    (stream : ItemStream Service) : Option (Bytes × Option (Option IoError)) → Prop
  | none => stream.ended = false
  | some (data, ending) => stream.next getter scope ≠ none ∧ given.1 <+: data ∧
      (stream.ended = true → data = given.1 ∧ ending = some given.2)

theorem Reaches.take {failure : Option IoError}
    (reaches : stream.Reaches getter scope (bytes, failure) outcome) :
    stream.Reaches getter scope (part ++ bytes, failure)
      (outcome.map fun (others, ending) => (part ++ others, ending)) := by
  match outcome with
  | none => exact reaches
  | some (others, ending) =>
      obtain ⟨moves, front, ends⟩ := reaches
      refine ⟨moves, (List.prefix_append_right_inj part).mpr front, ?_⟩
      intro ended
      obtain ⟨rfl, shown⟩ := ends ended
      exact ⟨rfl, shown⟩

theorem reaches_before {item : BodyItem}
    (given : stream.next getter scope = some (some item, onward)) :
    stream.Reaches getter scope (readItems []) outcome := by
  have unended := unended_of_item given
  match outcome with
  | none => exact unended
  | some (data, ending) =>
      refine ⟨by simp [given], List.nil_prefix, ?_⟩
      simp [unended]

theorem reaches_here (moves : stream.next getter scope ≠ none) (given : Bytes × Option IoError) :
    stream.Reaches getter scope given (some (given.1, some given.2)) :=
  ⟨moves, List.prefix_rfl, fun _ => ⟨rfl, rfl⟩⟩

end ItemStream

namespace StreamReader

variable {adapter : StreamReader (ItemStream Service) Reader}
  {holds : Reader → Bytes → ItemStream Service → Prop} {reader later : Reader}
  {chunk part : Bytes} {stream : ItemStream Service} {size : Nat}

theorem reads_of_part (read : adapter.read reader size = some (.ok part, later))
    (more : part ≠ []) (sizes : List Nat) :
    adapter.reads reader (size :: sizes) =
      (adapter.reads later sizes).map fun (others, ending) => (part ++ others, ending) := by
  cases part with
  | nil => contradiction
  | cons first others =>
      simp only [reads, read, Option.bind_eq_bind, Option.bind_some]
      cases adapter.reads later sizes <;> rfl

theorem reads_of_end (read : adapter.read reader size = some (.ok [], later)) (room : 0 < size)
    (sizes : List Nat) : adapter.reads reader (size :: sizes) = some ([], some none) := by
  simp [reads, read, Nat.pos_iff_ne_zero.mp room]

theorem reads_of_failure {error : IoError}
    (read : adapter.read reader size = some (.error error, later)) (sizes : List Nat) :
    adapter.reads reader (size :: sizes) = some ([], some (some error)) := by
  simp [reads, read]

theorem Buffers.reads_of_noRoom (buffers : adapter.Buffers (·.next getter scope) holds)
    (held : holds reader chunk stream) (sizes : List Nat) :
    adapter.reads reader (0 :: sizes) = adapter.reads reader sizes := by
  simp [reads, buffers.noRoom held]

theorem Buffers.read_cases (buffers : adapter.Buffers (·.next getter scope) holds)
    (held : holds reader chunk stream) (room : 0 < size) :
    (∃ part rest later onward, part ≠ [] ∧ adapter.read reader size = some (.ok part, later) ∧
      holds later rest onward ∧
      ((chunk = part ++ rest ∧ onward = stream) ∨
        (chunk = [] ∧ stream.next getter scope = some (some (.ok (part ++ rest)), onward)))) ∨
    (chunk = [] ∧
      ((stream.next getter scope = none ∧ adapter.read reader size = none) ∨
      (∃ onward later, stream.next getter scope = some (none, onward) ∧ onward.ended = true ∧
        adapter.read reader size = some (.ok [], later)) ∨
      ∃ error onward later, stream.next getter scope = some (some (.error error), onward) ∧
        onward.ended = true ∧ adapter.read reader size = some (.error error, later))) := by
  have front : ∀ bytes : Bytes, bytes ≠ [] → bytes.take size ≠ [] := by
    intro bytes more
    simp [List.take_eq_nil_iff, more, Nat.pos_iff_ne_zero.mp room]
  by_cases more : chunk = []
  · subst chunk
    cases given : stream.next getter scope with
    | none => exact .inr ⟨rfl, .inl ⟨rfl, buffers.waits held room given⟩⟩
    | some outcome =>
        obtain ⟨item, onward⟩ := outcome
        obtain ⟨rfl, ended⟩ | ⟨error, rfl, ended⟩ | ⟨bytes, rfl, more⟩ :=
          ItemStream.next_cases given
        · obtain ⟨later, read⟩ := buffers.ended held room given
          exact .inr ⟨rfl, .inr (.inl ⟨onward, later, rfl, ended, read⟩)⟩
        · obtain ⟨later, read⟩ := buffers.failure held room given
          exact .inr ⟨rfl, .inr (.inr ⟨error, onward, later, rfl, ended, read⟩)⟩
        · obtain ⟨later, read, held'⟩ := buffers.item held room given more
          refine .inl ⟨_, _, later, onward, front bytes more, read, held', .inr ⟨rfl, ?_⟩⟩
          rw [List.take_append_drop]
  · obtain ⟨later, read, held'⟩ := buffers.rest held more room
    exact .inl ⟨_, _, later, stream, front chunk more, read, held',
      .inl ⟨(List.take_append_drop size chunk).symm, rfl⟩⟩

theorem Buffers.explains (buffers : adapter.Buffers (·.next getter scope) holds)
    (held : holds reader chunk stream) (sizes : List Nat) :
    stream.Explains getter scope chunk (adapter.reads reader sizes) := by
  induction sizes generalizing reader chunk stream with
  | nil => exact ⟨0, [], stream, rfl, List.nil_prefix, nofun⟩
  | cons size sizes ih =>
      obtain rfl | room := Nat.eq_zero_or_pos size
      · rw [buffers.reads_of_noRoom held]
        exact ih held
      · obtain ⟨part, rest, later, onward, more, read, held', place⟩ | ⟨rfl, comes⟩ :=
          buffers.read_cases held room
        · rw [reads_of_part read more]
          have onwards : onward.Explains getter scope (part ++ rest) _ := (ih held').take
          obtain ⟨rfl, rfl⟩ | ⟨rfl, given⟩ := place
          · exact onwards
          · exact onwards.item given
        · obtain ⟨waits, read⟩ | ⟨onward, later, given, ended, read⟩ |
            ⟨error, onward, later, given, ended, read⟩ := comes
          · simp only [reads, read]
            exact ⟨1, ItemStream.polls_succ_of_none waits 0⟩
          · rw [reads_of_end read room]
            have polled := ItemStream.polls_succ given 0
            exact ⟨1, [], onward, polled, List.nil_prefix, fun _ same =>
              ⟨ended, rfl, (Option.some.inj same).symm⟩⟩
          · rw [reads_of_failure read]
            have polled := ItemStream.polls_succ given 0
            exact ⟨1, [.error error], onward, polled, List.nil_prefix, fun _ same =>
              ⟨ended, rfl, (Option.some.inj same).symm⟩⟩

theorem Buffers.reaches (buffers : adapter.Buffers (·.next getter scope) holds)
    (held : holds reader chunk stream) {count : Nat} {items : List BodyItem}
    {last : ItemStream Service} (polled : stream.polls getter scope count = some (items, last))
    {sizes : List Nat}
    (enough : (chunk ++ (readItems items).1).length < sizes.countP (0 < ·)) :
    last.Reaches getter scope (chunk ++ (readItems items).1, (readItems items).2)
      (adapter.reads reader sizes) := by
  induction sizes generalizing reader chunk stream count items with
  | nil => simp at enough
  | cons size sizes ih =>
      obtain rfl | room := Nat.eq_zero_or_pos size
      · rw [buffers.reads_of_noRoom held]
        exact ih held polled (by simpa using enough)
      · rw [List.countP_cons_of_pos (by simpa using room), List.length_append] at enough
        obtain ⟨part, rest, later, onward, more, read, held', place⟩ | ⟨rfl, comes⟩ :=
          buffers.read_cases held room
        · have positive : 0 < part.length := List.length_pos_iff.mpr more
          rw [reads_of_part read more]
          obtain ⟨rfl, rfl⟩ | ⟨rfl, given⟩ := place
          · rw [List.length_append] at enough
            rw [List.append_assoc]
            exact (ih held' polled (by rw [List.length_append]; omega)).take
          · obtain ⟨rfl, rfl⟩ | ⟨fewer, others, polled', rfl⟩ := ItemStream.polls_cases given polled
            · exact ItemStream.reaches_before given
            · simp only [Option.toList_some, List.singleton_append, readItems, List.nil_append,
                List.length_nil, List.length_append] at enough ⊢
              rw [List.append_assoc]
              exact (ih held' polled' (by rw [List.length_append]; omega)).take
        · obtain ⟨waits, read⟩ | ⟨onward, later, given, ended, read⟩ |
            ⟨error, onward, later, given, ended, read⟩ := comes
          · simp only [reads, read]
            cases count with
            | zero =>
                obtain ⟨rfl, rfl⟩ := Prod.mk.inj (Option.some.inj polled)
                exact ItemStream.unended_of_waits waits
            | succ count => simp [ItemStream.polls_succ_of_none waits] at polled
          · rw [reads_of_end read room]
            obtain ⟨rfl, rfl⟩ | ⟨fewer, others, polled', rfl⟩ := ItemStream.polls_cases given polled
            · exact ItemStream.reaches_here (by simp [given]) ([], none)
            · obtain ⟨rfl, rfl⟩ := ItemStream.polls_after ended polled'
              exact ItemStream.reaches_here (by simp [ItemStream.next_of_ended ended]) ([], none)
          · rw [reads_of_failure read]
            obtain ⟨rfl, rfl⟩ | ⟨fewer, others, polled', rfl⟩ := ItemStream.polls_cases given polled
            · exact ItemStream.reaches_before given
            · obtain ⟨rfl, rfl⟩ := ItemStream.polls_after ended polled'
              exact ItemStream.reaches_here (by simp [ItemStream.next_of_ended ended])
                ([], some error)

end StreamReader

/-- The three ways of reading all that is left agree, whatever is left and whatever comes in
between. Turn by turn, a copy to a destination with room for all has written what the stream has
given. Both come to their end with the same read, or wait for ever at the same one: a copy that
succeeds has copied the length of it, and one that fails does so with the failure that is the last
item. A reader of the stream's bytes gets them too, with buffers of any sizes: no others, as many
as the stream has given if the buffers suffice, and the same end. -/
theorem drains_agree (session : ReadSession Service) (getter : Getter Service) (scope : Scope)
    {destination : Destination} (endless : destination.space = none)
    {adapter : StreamReader (ItemStream Service) Reader}
    {holds : Reader → Bytes → ItemStream Service → Prop}
    (buffers : adapter.Buffers (·.next getter scope) holds) :
    (∀ count, Option.Rel
      (fun copying polled => Abreast destination.data copying polled.1 polled.2)
      (({ session, destination } : Copying Service).turns getter scope count)
      (({ session } : ItemStream Service).polls getter scope count)) ∧
    (∀ fuel, Option.Rel (DrainedAlike destination.data)
      (session.copy getter scope destination 0 fuel) (session.stream getter scope fuel)) ∧
    (∀ sizes, ({ session } : ItemStream Service).Explains getter scope []
      (adapter.reads (adapter.ofStream { session }) sizes)) ∧
    (∀ count items stream sizes,
      ({ session } : ItemStream Service).polls getter scope count = some (items, stream) →
      (readItems items).1.length < sizes.countP (0 < ·) →
      stream.Reaches getter scope (readItems items)
        (adapter.reads (adapter.ofStream { session }) sizes)) ∧
    (∀ fuel items last sizes, session.stream getter scope fuel = some (items, last) →
      (readItems items).1.length < sizes.countP (0 < ·) →
      adapter.reads (adapter.ofStream { session }) sizes =
        some ((readItems items).1, some (readItems items).2)) := by
  have begins := buffers.begins { session }
  refine ⟨fun count => ?_, session.copy_with_stream endless getter scope,
    buffers.explains begins, fun _ _ _ _ polled enough => buffers.reaches begins polled enough, ?_⟩
  · simpa only [List.nil_append] using (abreast_start session endless).turns getter scope count
  · intro fuel items last sizes streamed enough
    rw [ReadSession.stream_eq_polls] at streamed
    obtain ⟨⟨items', stream⟩, polled, finished⟩ := Option.bind_eq_some_iff.mp streamed
    simp only [ItemStream.finished?, Option.ite_none_right_eq_some, Option.some.injEq,
      Prod.mk.injEq] at finished
    obtain ⟨ended, rfl, rfl⟩ := finished
    have reaches := buffers.reaches begins polled enough
    cases read : adapter.reads (adapter.ofStream { session }) sizes with
    | none =>
        rw [read] at reaches
        simp [ItemStream.Reaches, ended] at reaches
    | some outcome =>
        rw [read] at reaches
        obtain ⟨data, ending⟩ := reaches.2.2 ended
        exact congrArg some (Prod.ext data ending)

def StreamReader.give {Stream : Type} (size : Nat) :
    Option BodyItem × Stream → Except IoError Bytes × Bytes × Stream
  | (none, stream) => (.ok [], [], stream)
  | (some (.error error), stream) => (.error error, [], stream)
  | (some (.ok bytes), stream) => (.ok (bytes.take size), bytes.drop size, stream)

/-- An adapter that keeps what is left of the last item. It takes an item without bytes for the
end, which is no item of a reader. -/
def StreamReader.keeping {Stream : Type} (next : Stream → Option (Option BodyItem × Stream)) :
    StreamReader Stream (Bytes × Stream) where
  ofStream stream := ([], stream)
  read := fun (chunk, stream) size =>
    if size = 0 then some (.ok [], chunk, stream)
    else if chunk ≠ [] then some (.ok (chunk.take size), chunk.drop size, stream)
    else (next stream).map (give size)

theorem StreamReader.keeping_read {Stream : Type}
    (next : Stream → Option (Option BodyItem × Stream)) (stream : Stream) {size : Nat}
    (room : 0 < size) :
    (keeping next).read ([], stream) size = (next stream).map (give size) := by
  simp [keeping, Nat.pos_iff_ne_zero.mp room]

theorem StreamReader.keeping_buffers {Stream : Type}
    (next : Stream → Option (Option BodyItem × Stream)) :
    (keeping next).Buffers next fun reader chunk stream => reader = (chunk, stream) where
  begins _ := rfl
  noRoom _ := rfl
  rest held more room := by
    subst held
    exact ⟨_, by simp [keeping, more, Nat.pos_iff_ne_zero.mp room], rfl⟩
  item held room given more := by
    rw [held, keeping_read next _ room, given]
    exact ⟨_, rfl, rfl⟩
  failure held room given := by
    rw [held, keeping_read next _ room, given]
    exact ⟨_, rfl⟩
  ended held room given := by
    rw [held, keeping_read next _ room, given]
    exact ⟨_, rfl⟩
  waits held room given := by
    rw [held, keeping_read next _ room, given]
    rfl

def brokenReplies : ReplyScript where
  replies := [
    { outcome := .ok { body := { events :=
      [.data [1, 2], .failure ⟨.connectionReset, .kindOnly⟩] } } },
    { outcome := .ok { body := { events := [.data [3], .failure ⟨.other, .text "disk"⟩] } } }]

theorem broken_drains_agree :
    ∃ items copied filled last,
      (ReadSession.start {} brokenReplies none {} 1).stream ReplyScript.getter { lineage := [0] }
        3 = some (items, last) ∧
      items = [.ok [1, 2], .ok [3], .error ⟨.other, .text "disk"⟩] ∧
      (ReadSession.start {} brokenReplies none {} 1).copy ReplyScript.getter { lineage := [0] }
        {} 0 3 = some (copied, filled, last) ∧
      filled.data = [1, 2, 3] ∧ SameEnd copied items ∧
      (StreamReader.keeping (ItemStream.next · ReplyScript.getter { lineage := [0] })).reads
        ([], { session := .start {} brokenReplies none {} 1 }) [1, 0, 4, 4, 4] =
        some ([1, 2, 3], some (some ⟨.other, .text "disk"⟩)) := by
  obtain ⟨_, drained, _, _, read⟩ := drains_agree (.start {} brokenReplies none {} 1)
    ReplyScript.getter { lineage := [0] } (show ({} : Destination).space = none from rfl)
    (StreamReader.keeping_buffers _)
  have streamed : (ReadSession.start {} brokenReplies none {} 1).stream ReplyScript.getter
      { lineage := [0] } 3 = some ([.ok [1, 2], .ok [3], .error ⟨.other, .text "disk"⟩], _) := rfl
  have copied : (ReadSession.start {} brokenReplies none {} 1).copy ReplyScript.getter
      { lineage := [0] } {} 0 3 = some (_, _, _) := rfl
  have both := drained 3
  rw [copied, streamed] at both
  cases both with
  | some kept =>
      obtain ⟨_, content, agree⟩ := kept
      exact ⟨_, _, _, _, streamed, rfl, copied, content, agree,
        read 3 _ _ [1, 0, 4, 4, 4] streamed (by decide)⟩

end BlobTransfer
