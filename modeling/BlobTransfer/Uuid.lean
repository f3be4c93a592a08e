import BlobTransfer.Bytes

/-!
Sixteen-byte identifiers, their hyphenated lower-case text, and random identifiers of version 4.
-/

namespace BlobTransfer

structure Uuid where
  bytes : Bytes
  length_eq : bytes.length = 16
  deriving DecidableEq, Repr

namespace Uuid

def ofBytes? (bytes : Bytes) : Option Uuid :=
  if size : bytes.length = 16 then some ⟨bytes, size⟩ else none

def random (entropy : Nat → UInt8) : Uuid where
  bytes := (List.range 16).map fun index =>
    if index = 6 then (entropy index &&& 0x0f) ||| 0x40
    else if index = 8 then (entropy index &&& 0x3f) ||| 0x80
    else entropy index
  length_eq := by simp

def text (uuid : Uuid) : String :=
  let digits := Bytes.toHex uuid.bytes
  let group := fun start size => (digits.drop start).take size
  String.ofList (group 0 8 ++ '-' :: group 8 4 ++ '-' :: group 12 4 ++ '-' :: group 16 4 ++
    '-' :: group 20 12)

def ofText? (text : String) : Option Uuid := do
  let chars := text.toList
  if chars.length ≠ 36 then none
  if [8, 13, 18, 23].any fun index => chars.getD index ' ' != '-' then none
  let bytes ← Bytes.ofHex? (chars.filter (· != '-'))
  ofBytes? bytes

end Uuid

end BlobTransfer
