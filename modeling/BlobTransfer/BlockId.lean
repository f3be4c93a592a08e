import BlobTransfer.Base64
import BlobTransfer.Error.Transfer
import BlobTransfer.Uuid

/-!
Names of staged blocks: twelve bytes shared by all blocks of one transfer, then the number of
the block, most significant byte first. Byte order is therefore block order within a transfer.
-/

namespace BlobTransfer

@[ext]
structure BlockId where
  bytes : Bytes
  length_eq : bytes.length = 16
  deriving Repr

namespace BlockId

instance : DecidableEq BlockId := fun _ _ => decidable_of_iff _ BlockId.ext_iff.symm

def new (transfer : Uuid) (number : UInt32) : BlockId where
  bytes := transfer.bytes.take 12 ++ Bytes.ofWord number
  length_eq := by simp [transfer.length_eq, Bytes.ofWord]

def transferBytes (id : BlockId) : Bytes := id.bytes.take 12

def number (id : BlockId) : UInt32 := Bytes.toWord (id.bytes.drop 12)

def withNumber (id : BlockId) (number : UInt32) : BlockId where
  bytes := id.transferBytes ++ Bytes.ofWord number
  length_eq := by simp [transferBytes, id.length_eq, Bytes.ofWord]

def text (id : BlockId) : String := Base64.encodeText id.bytes

def ofText (text : String) : Except TransferError BlockId :=
  match Base64.decode (Bytes.ofText text) with
  | .error error => .error (.invalid (.blockIdText text error))
  | .ok bytes =>
      if size : bytes.length = 16 then .ok ⟨bytes, size⟩
      else .error (.invalid (.blockIdLength text bytes.length))

def compare (left right : BlockId) : Ordering :=
  compareLex left.bytes right.bytes
where
  compareLex : Bytes → Bytes → Ordering
    | [], [] => .eq
    | [], _ :: _ => .lt
    | _ :: _, [] => .gt
    | first :: rest, other :: others => (Ord.compare first other).then (compareLex rest others)

def sort (ids : List BlockId) : List BlockId :=
  ids.mergeSort fun left right => (compare left right).isLE

end BlockId

end BlobTransfer
