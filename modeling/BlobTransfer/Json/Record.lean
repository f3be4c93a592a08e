import BlobTransfer.Json.Value

/-!
Reading records and plain values. A record is written as an object, in which unknown members are
passed over and a known one may not occur twice, or as an array of its fields in order.
-/

namespace BlobTransfer.Json

abbrev Fields := List (String × Json)

def knownMembers (names : List String) : List (Option String × Json) → Option Fields
  | [] => some []
  | (none, _) :: _ => none
  | (some name, value) :: rest => do
      let fields ← knownMembers names rest
      if !names.contains name then return fields
      if (fields.lookup name).isSome then none
      return (name, value) :: fields

/-- The fields of a record. Fields left out of an array are the last ones; `whole` allows none
to be left out there. -/
def fields? (names : List String) (whole : Bool) : Json → Option Fields
  | .object members => knownMembers names members
  | .array items =>
      if names.length < items.length then none
      else if whole && items.length < names.length then none
      else some (names.zip items)
  | _ => none

def hasOnly (names : List String) : Json → Bool
  | .object members => members.all fun member =>
      match member.1 with
      | some name => names.contains name
      | none => false
  | _ => true

def Fields.read {α : Type} (fields : Fields) (name : String) (decode : Json → Option α)
    (absent : Option α) : Option α :=
  match fields.lookup name with
  | some json => decode json
  | none => absent

def toNatural? (bound : Nat) : Json → Option Nat
  | .integer value => if 0 ≤ value ∧ value < (bound : Int) then some value.toNat else none
  | _ => none

def toText? : Json → Option String
  | .string text => some text
  | _ => none

def toBool? : Json → Option Bool
  | .bool value => some value
  | _ => none

def toOption? {α : Type} (decode : Json → Option α) : Json → Option (Option α)
  | .null => some none
  | json => (decode json).map some

def toList? {α : Type} (decode : Json → Option α) : Json → Option (List α)
  | .array items => items.mapM decode
  | _ => none

def toCase? {α : Type} (cases : List (String × α)) : Json → Option α
  | .string name => cases.lookup name
  | .object [(some name, .null)] => cases.lookup name
  | _ => none

class Codec (α : Type) where
  encode : α → Json
  decode? : Json → Option α

def usualForm? (α : Type) [Codec α] (json : Json) : Option Json :=
  (Codec.decode? json : Option α).map Codec.encode

end BlobTransfer.Json
