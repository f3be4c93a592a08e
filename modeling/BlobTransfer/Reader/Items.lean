import BlobTransfer.Reader.Drain

/-!
The ways of reading all that is left, one step at a time, so that one that does not come to its
end still shows what it has done. The bytes of a stream are read through an adapter that is not
part of this library.
-/

namespace BlobTransfer

structure Copying (Service : Type) where
  session : ReadSession Service
  destination : Destination := {}
  total : Nat := 0
  result : Option (Except TransferError Nat) := none

namespace Copying

variable {Service : Type}

def turn (copying : Copying Service) (getter : Getter Service) (scope : Scope) :
    Option (Copying Service) :=
  if copying.result.isSome then some copying
  else do
    match ← copying.session.read getter scope drainSize with
    | (.error error, session) => return { copying with session, result := some (.error error) }
    | (.ok [], session) => return { copying with session, result := some (.ok copying.total) }
    | (.ok bytes, session) =>
        match copying.destination.write bytes with
        | (.error error, destination) =>
            return { copying with session, destination, result := some (.error error) }
        | (.ok (), destination) =>
            return { copying with
              session, destination, total := copying.total + bytes.length }

def turns (copying : Copying Service) (getter : Getter Service) (scope : Scope) :
    (count : Nat) → Option (Copying Service)
  | 0 => some copying
  | count + 1 => do (← copying.turn getter scope).turns getter scope count

end Copying

structure ItemStream (Service : Type) where
  session : ReadSession Service
  ended : Bool := false

namespace ItemStream

variable {Service : Type}

def next (stream : ItemStream Service) (getter : Getter Service) (scope : Scope) :
    Option (Option BodyItem × ItemStream Service) :=
  if stream.ended then some (none, stream)
  else do
    match ← stream.session.read getter scope drainSize with
    | (.error error, session) => return (some (.error error.toIo), { session, ended := true })
    | (.ok [], session) => return (none, { session, ended := true })
    | (.ok bytes, session) => return (some (.ok bytes), { session })

def polls (stream : ItemStream Service) (getter : Getter Service) (scope : Scope) :
    (count : Nat) → Option (List BodyItem × ItemStream Service)
  | 0 => some ([], stream)
  | count + 1 => do
      let (item, stream) ← stream.next getter scope
      let (items, stream) ← stream.polls getter scope count
      return (item.toList ++ items, stream)

end ItemStream

/-- An adapter that makes a reader of a stream: a new reader, and a read of up to so many bytes. -/
structure StreamReader (Stream Reader : Type) where
  ofStream : Stream → Reader
  read : Reader → Nat → Option (Except IoError Bytes × Reader)

namespace StreamReader

variable {Stream Reader : Type}

/-- What an adapter is documented to do. It gives what it holds of an item, as far as there is
room, and asks the stream for the next one only when it holds nothing; a reader `holds` the rest of
an item and the stream behind it. -/
structure Buffers (adapter : StreamReader Stream Reader)
    (next : Stream → Option (Option BodyItem × Stream))
    (holds : Reader → Bytes → Stream → Prop) : Prop where
  begins (stream : Stream) : holds (adapter.ofStream stream) [] stream
  noRoom {reader chunk stream} (held : holds reader chunk stream) :
    adapter.read reader 0 = some (.ok [], reader)
  rest {reader chunk stream size} (held : holds reader chunk stream) (more : chunk ≠ [])
    (room : 0 < size) : ∃ later, adapter.read reader size = some (.ok (chunk.take size), later) ∧
      holds later (chunk.drop size) stream
  item {reader stream size bytes onward} (held : holds reader [] stream) (room : 0 < size)
    (given : next stream = some (some (.ok bytes), onward)) (more : bytes ≠ []) :
    ∃ later, adapter.read reader size = some (.ok (bytes.take size), later) ∧
      holds later (bytes.drop size) onward
  failure {reader stream size error onward} (held : holds reader [] stream) (room : 0 < size)
    (given : next stream = some (some (.error error), onward)) :
    ∃ later, adapter.read reader size = some (.error error, later)
  ended {reader stream size onward} (held : holds reader [] stream) (room : 0 < size)
    (given : next stream = some (none, onward)) :
    ∃ later, adapter.read reader size = some (.ok [], later)
  waits {reader stream size} (held : holds reader [] stream) (room : 0 < size)
    (given : next stream = none) : adapter.read reader size = none

/-- Reads with one buffer after the other up to the end or to a failure: all bytes and, if it came
to its end, with which failure. A buffer without room tells nothing about the end. -/
def reads (adapter : StreamReader Stream Reader) (reader : Reader) :
    (sizes : List Nat) → Option (Bytes × Option (Option IoError))
  | [] => some ([], none)
  | size :: later => do
      match ← adapter.read reader size with
      | (.error error, _) => return ([], some (some error))
      | (.ok [], reader) =>
          if size = 0 then adapter.reads reader later else return ([], some none)
      | (.ok bytes, reader) =>
          let (others, ending) ← adapter.reads reader later
          return (bytes ++ others, ending)

end StreamReader

end BlobTransfer
