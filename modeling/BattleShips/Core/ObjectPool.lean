import BattleShips.Core.AtomicQueue

/-!
# The object pool

`ObjectPool` of `core/object_pool.h`, call by call. An object that was never issued is a default
one; the memory manager never gets an index back from the pool, so it only counts.
-/

namespace BattleShips

structure ObjectPool (α : Type*) where
  object : ℕ → α
  counter : ℕ := 0
  lastNotIssuedIndex : ℕ := 0
  availableSlots : AtomicQueue ℕ := {}

namespace ObjectPool

variable {α : Type*}

/-- `MemoryManager::allocate` when nothing has been given back: the next index up to
`RING_BUFFER_SIZE`. -/
def allocate (pool : ObjectPool α) : Option (ℕ × ObjectPool α) :=
  if ringBufferSize < pool.lastNotIssuedIndex then none
  else some (pool.lastNotIssuedIndex,
    { pool with lastNotIssuedIndex := pool.lastNotIssuedIndex + 1 })

def setObject (pool : ObjectPool α) (slot : ℕ) (x : α) : ObjectPool α :=
  { pool with object := Function.update pool.object slot x }

/-- `push_to_pool`, with the move assignment of the pooled type. `none` stands for the
dereference of the empty allocation result. -/
def pushToPool (moveAssign : α → α → α) (pool : ObjectPool α) (x : α) :
    Option (ℕ × ObjectPool α) :=
  match pool.availableSlots.tryPop with
  | some (slot, q) =>
    some (slot,
      { pool with availableSlots := q }.setObject slot (moveAssign (pool.object slot) x))
  | none =>
    match pool.allocate with
    | some (index, pool) =>
      some (index, { pool.setObject index x with counter := pool.counter + 1 })
    | none => none

/-- A pool with nothing to hand out. -/
def Exhausted (pool : ObjectPool α) : Prop :=
  pool.availableSlots.items = [] ∧ ringBufferSize < pool.lastNotIssuedIndex

lemma pushToPool_eq_none {moveAssign : α → α → α} {pool : ObjectPool α} {x : α} :
    pool.pushToPool moveAssign x = none ↔ pool.Exhausted := by
  rw [pushToPool, Exhausted, ← AtomicQueue.tryPop_eq_none]
  cases hpop : pool.availableSlots.tryPop with
  | some popped => simp
  | none =>
    rw [allocate]
    split_ifs with hlast
    · simpa using hlast
    · simpa using hlast

/-- `release`. The result of `try_push` is ignored. -/
def release (pool : ObjectPool α) (slot : ℕ) : Option (ObjectPool α) :=
  match pool.availableSlots.tryPush slot with
  | .accepted q => some { pool with availableSlots := q }
  | .refused => some pool
  | .waiting => none

@[simp] lemma setObject_object (pool : ObjectPool α) (slot : ℕ) (x : α) :
    (pool.setObject slot x).object = Function.update pool.object slot x := rfl

@[simp] lemma setObject_counter (pool : ObjectPool α) (slot : ℕ) (x : α) :
    (pool.setObject slot x).counter = pool.counter := rfl

@[simp] lemma setObject_availableSlots (pool : ObjectPool α) (slot : ℕ) (x : α) :
    (pool.setObject slot x).availableSlots = pool.availableSlots := rfl

@[simp] lemma setObject_lastNotIssuedIndex (pool : ObjectPool α) (slot : ℕ) (x : α) :
    (pool.setObject slot x).lastNotIssuedIndex = pool.lastNotIssuedIndex := rfl

end ObjectPool

end BattleShips
