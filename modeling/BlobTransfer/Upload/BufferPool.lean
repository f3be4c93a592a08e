import BlobTransfer.Bytes

/-!
Buffers that are used again. Whoever takes one finds only zeros in it, whatever was in it before.
-/

namespace BlobTransfer

structure Buffer where
  bytes : Bytes
  capacity : Nat
  length_le : bytes.length ≤ capacity
  deriving DecidableEq, Repr

namespace Buffer

def empty (capacity : Nat) : Buffer := ⟨[], capacity, Nat.zero_le _⟩

def clear (buffer : Buffer) : Buffer := .empty buffer.capacity

def resize (buffer : Buffer) (length : Nat) : Buffer where
  bytes := buffer.bytes.take length ++ List.replicate (length - buffer.bytes.length) 0
  capacity := max buffer.capacity length
  length_le := by
    have := buffer.length_le
    simp only [List.length_append, List.length_take, List.length_replicate]
    omega

def fill (buffer : Buffer) (byte : UInt8) : Buffer where
  bytes := buffer.bytes.map fun _ => byte
  capacity := buffer.capacity
  length_le := by simpa using buffer.length_le

def truncate (buffer : Buffer) (length : Nat) : Buffer where
  bytes := buffer.bytes.take length
  capacity := buffer.capacity
  length_le := by
    have := buffer.length_le
    simp only [List.length_take]
    omega

def dropFront (buffer : Buffer) (count : Nat) : Buffer where
  bytes := buffer.bytes.drop count
  capacity := buffer.capacity - count
  length_le := by
    have := buffer.length_le
    simp only [List.length_drop]
    omega

end Buffer

/-- What is done with a pool. The buffer that is put back may be any, also one from elsewhere. -/
inductive PoolUse where
  | take
  | put (buffer : Buffer)

structure BufferPool where
  bufferSize : Nat
  idle : List Buffer := []
  deriving DecidableEq, Repr

namespace BufferPool

/-- A buffer of zeros, an old one if there is any. -/
def take (pool : BufferPool) : Buffer × BufferPool :=
  match pool.idle with
  | buffer :: rest => (buffer.resize pool.bufferSize, { pool with idle := rest })
  | [] => ((Buffer.empty pool.bufferSize).resize pool.bufferSize, pool)

/-- Takes a buffer back, unless it has lost the space that is needed. -/
def put (pool : BufferPool) (buffer : Buffer) : BufferPool :=
  if pool.bufferSize ≤ buffer.capacity then { pool with idle := buffer.clear :: pool.idle }
  else pool

def use (pool : BufferPool) : PoolUse → BufferPool
  | .take => pool.take.2
  | .put buffer => pool.put buffer

def after (pool : BufferPool) (uses : List PoolUse) : BufferPool := uses.foldl use pool

end BufferPool

end BlobTransfer
