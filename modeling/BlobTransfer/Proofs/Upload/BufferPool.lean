import BlobTransfer.Upload.BufferPool

/-!
What a pool of buffers keeps, whatever is done with it. No bytes of an earlier holder are left in a
buffer that waits, so whoever takes one finds only zeros.
-/

namespace BlobTransfer

def PoolUse.emptied : PoolUse → PoolUse
  | .take => .take
  | .put buffer => .put buffer.clear

namespace BufferPool

/-- Buffers that wait are empty and have room for what a taker expects. -/
structure Sound (bufferSize : Nat) (pool : BufferPool) : Prop where
  size : pool.bufferSize = bufferSize
  clean : ∀ buffer ∈ pool.idle, buffer.bytes = []
  roomy : ∀ buffer ∈ pool.idle, bufferSize ≤ buffer.capacity

theorem bytes_resize_of_clean {buffer : Buffer} (clean : buffer.bytes = []) (length : Nat) :
    (buffer.resize length).bytes = List.replicate length 0 := by
  simp [Buffer.resize, clean]

theorem take_cases (pool : BufferPool) :
    (pool.idle = [] ∧ pool.take = ((Buffer.empty pool.bufferSize).resize pool.bufferSize, pool)) ∨
    ∃ buffer rest, pool.idle = buffer :: rest ∧
      pool.take = (buffer.resize pool.bufferSize, { pool with idle := rest }) := by
  unfold take
  cases pool.idle with
  | nil => exact .inl ⟨rfl, rfl⟩
  | cons buffer rest => exact .inr ⟨buffer, rest, rfl, rfl⟩

theorem put_of_roomy {pool : BufferPool} {buffer : Buffer}
    (roomy : pool.bufferSize ≤ buffer.capacity) :
    pool.put buffer = { pool with idle := buffer.clear :: pool.idle } :=
  if_pos roomy

theorem put_of_narrow {pool : BufferPool} {buffer : Buffer}
    (narrow : ¬ pool.bufferSize ≤ buffer.capacity) : pool.put buffer = pool :=
  if_neg narrow

theorem length_idle_take (pool : BufferPool) :
    pool.idle.length = pool.take.2.idle.length + if 0 < pool.idle.length then 1 else 0 := by
  obtain ⟨none, taken⟩ | ⟨buffer, rest, some, taken⟩ := pool.take_cases
  · simp [taken, none]
  · simp [taken, some]

theorem length_idle_put (pool : BufferPool) (buffer : Buffer) :
    (pool.put buffer).idle.length =
      pool.idle.length + if pool.bufferSize ≤ buffer.capacity then 1 else 0 := by
  by_cases roomy : pool.bufferSize ≤ buffer.capacity
  · rw [put_of_roomy roomy, if_pos roomy, List.length_cons]
  · rw [put_of_narrow roomy, if_neg roomy, Nat.add_zero]

namespace Sound

variable {bufferSize : Nat} {pool : BufferPool}

theorem start (bufferSize : Nat) : Sound bufferSize ⟨bufferSize, []⟩ where
  size := rfl
  clean := by simp
  roomy := by simp

theorem take (sound : Sound bufferSize pool) : Sound bufferSize pool.take.2 := by
  obtain ⟨_, taken⟩ | ⟨buffer, rest, waiting, taken⟩ := pool.take_cases
  · rwa [taken]
  · have kept : ∀ other ∈ rest, other ∈ pool.idle := fun other member =>
      waiting ▸ List.mem_cons_of_mem buffer member
    rw [taken]
    exact ⟨sound.size, fun other member => sound.clean other (kept other member),
      fun other member => sound.roomy other (kept other member)⟩

theorem put (sound : Sound bufferSize pool) (buffer : Buffer) :
    Sound bufferSize (pool.put buffer) := by
  by_cases roomy : pool.bufferSize ≤ buffer.capacity
  · rw [put_of_roomy roomy]
    exact ⟨sound.size, List.forall_mem_cons.mpr ⟨rfl, sound.clean⟩,
      List.forall_mem_cons.mpr ⟨sound.size ▸ roomy, sound.roomy⟩⟩
  · rwa [put_of_narrow roomy]

theorem use (sound : Sound bufferSize pool) (next : PoolUse) :
    Sound bufferSize (pool.use next) := by
  cases next with
  | take => exact sound.take
  | put buffer => exact sound.put buffer

theorem after (sound : Sound bufferSize pool) (uses : List PoolUse) :
    Sound bufferSize (pool.after uses) := by
  induction uses generalizing pool with
  | nil => exact sound
  | cons next later ih => exact ih (sound.use next)

theorem taken (sound : Sound bufferSize pool) :
    pool.take.1.bytes = List.replicate bufferSize 0 := by
  obtain ⟨_, taken⟩ | ⟨buffer, rest, waiting, taken⟩ := pool.take_cases
  · rw [taken, sound.size]
    exact bytes_resize_of_clean rfl bufferSize
  · have clean := sound.clean buffer (waiting ▸ List.mem_cons_self)
    rw [taken, sound.size]
    exact bytes_resize_of_clean clean bufferSize

end Sound

theorem use_emptied (pool : BufferPool) (next : PoolUse) :
    pool.use next.emptied = pool.use next := by
  cases next with
  | take => rfl
  | put buffer => rfl

theorem after_emptied (pool : BufferPool) (uses : List PoolUse) :
    pool.after (uses.map .emptied) = pool.after uses := by
  simp only [after, List.foldl_map, use_emptied]

/-- Whatever was done with a pool, and with its buffers in between: the idle ones are empty and
large enough, and as if nothing had ever been written. The next one taken is all zeros, and there is
one idle less if there was any; the next one put back waits if it is large enough. -/
theorem pool_hands_out_zeros (bufferSize : Nat) (uses : List PoolUse) :
    let pool := (BufferPool.mk bufferSize []).after uses
    (∀ buffer ∈ pool.idle, buffer.bytes = [] ∧ bufferSize ≤ buffer.capacity) ∧
    (BufferPool.mk bufferSize []).after (uses.map .emptied) = pool ∧
    pool.take.1.bytes = List.replicate bufferSize 0 ∧
    pool.idle.length = pool.take.2.idle.length + (if 0 < pool.idle.length then 1 else 0) ∧
    ∀ buffer, (pool.put buffer).idle.length =
      pool.idle.length + if bufferSize ≤ buffer.capacity then 1 else 0 := by
  intro pool
  have sound : Sound bufferSize pool := (Sound.start bufferSize).after uses
  refine ⟨?_, after_emptied _ uses, sound.taken, pool.length_idle_take, ?_⟩
  · intro buffer member
    exact ⟨sound.clean buffer member, sound.roomy buffer member⟩
  · intro buffer
    rw [pool.length_idle_put, sound.size]

theorem written_buffer_comes_back_as_zeros :
    let written := ((Buffer.empty 4).resize 4).fill 0xAB
    let pool := (BufferPool.mk 4 []).after
      [.take, .put (written.truncate 2), .put (written.dropFront 1), .put (.empty 3)]
    Buffer.empty 4 ∈ pool.idle ∧ (Buffer.empty 4).bytes = [] ∧ 4 ≤ (Buffer.empty 4).capacity ∧
      pool.take.1.bytes = [0, 0, 0, 0] := by
  intro written pool
  obtain ⟨idle, _, taken, _⟩ := pool_hands_out_zeros 4
    [.take, .put (written.truncate 2), .put (written.dropFront 1), .put (.empty 3)]
  have waits : Buffer.empty 4 ∈ pool.idle := by decide
  obtain ⟨clean, roomy⟩ := idle _ waits
  exact ⟨waits, clean, roomy, taken⟩

end BufferPool

end BlobTransfer
