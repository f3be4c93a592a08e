import BlobTransfer.Reader.Session

/-!
Three ways of reading all that is left: into a destination, as a stream of items, and as one run
of bytes. Each stops at the first failure. The number of reads is bounded by `fuel`, since a
service may answer for ever; without enough of it nothing comes back.
-/

namespace BlobTransfer

def drainSize : Nat := 65536

structure Destination where
  space : Option Nat := none
  written : List Bytes := []
  deriving DecidableEq, Repr

namespace Destination

def data (destination : Destination) : Bytes := destination.written.reverse.flatten

def write (destination : Destination) (bytes : Bytes) :
    Except TransferError Unit × Destination :=
  let written := fun (part : Bytes) =>
    { space := destination.space.map (· - part.length)
      written := part :: destination.written : Destination }
  match destination.space with
  | some space =>
      if space < bytes.length then
        (.error (.io ⟨.writeZero, .kindOnly⟩), written (bytes.take space))
      else (.ok (), written bytes)
  | none => (.ok (), written bytes)

theorem data_of_write {destination filled : Destination} {bytes : Bytes}
    (wrote : destination.write bytes = (.ok (), filled)) :
    filled.data = destination.data ++ bytes := by
  unfold write at wrote
  split at wrote
  · split at wrote
    · simp at wrote
    · obtain ⟨_, rfl⟩ := Prod.mk.inj wrote
      simp [data]
  · obtain ⟨_, rfl⟩ := Prod.mk.inj wrote
    simp [data]

theorem write_of_endless {destination : Destination}
    (endless : destination.space = none) (bytes : Bytes) :
    ∃ filled, destination.write bytes = (.ok (), filled) ∧ filled.space = none ∧
      filled.data = destination.data ++ bytes := by
  refine ⟨⟨none, bytes :: destination.written⟩, ?_, rfl, ?_⟩
  · simp only [write, endless, Option.map_none]
  · simp [data]

end Destination

namespace ReadSession

variable {Service : Type}

def copy (session : ReadSession Service) (getter : Getter Service) (scope : Scope)
    (destination : Destination) (total : Nat) :
    (fuel : Nat) → Option (Except TransferError Nat × Destination × ReadSession Service)
  | 0 => none
  | fuel + 1 => do
      match ← session.read getter scope drainSize with
      | (.error error, session) => return (.error error, destination, session)
      | (.ok [], session) => return (.ok total, destination, session)
      | (.ok bytes, session) =>
          match destination.write bytes with
          | (.error error, destination) => return (.error error, destination, session)
          | (.ok (), destination) =>
              session.copy getter scope destination (total + bytes.length) fuel

/-- The items of a stream over all that is left. A failure is the last item. -/
def stream (session : ReadSession Service) (getter : Getter Service) (scope : Scope) :
    (fuel : Nat) → Option (List BodyItem × ReadSession Service)
  | 0 => none
  | fuel + 1 => do
      match ← session.read getter scope drainSize with
      | (.error error, session) => return ([.error error.toIo], session)
      | (.ok [], session) => return ([], session)
      | (.ok bytes, session) =>
          let (items, session) ← session.stream getter scope fuel
          return (.ok bytes :: items, session)

end ReadSession

def readItems : List BodyItem → Bytes × Option IoError
  | [] => ([], none)
  | .error error :: _ => ([], some error)
  | .ok bytes :: rest =>
      let (data, failure) := readItems rest
      (bytes ++ data, failure)

end BlobTransfer
