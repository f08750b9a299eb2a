import BattleShips.Core.RingBuffer

/-!
# The allocator, step by step

`AllocatorPool` of `core/memory_manager.h` under any number of threads that call `allocate` and
`deallocate`: the operations on its atomics and on its semaphore are single steps, and those of
`free_indexes_queue` are its own steps. A weak compare-exchange and an attempt to acquire the permit
may fail without a reason, and `mprotect` succeeds.

Addresses are relative to `virtual_pool_ptr_`. The code has no record of what its calls have
returned, and that of the memory that can be used is the kernel's.
-/

namespace BattleShips

open Function

/-- `PAGES_PER_NODE`. -/
abbrev pagesPerNode : ℕ := 256

/-- `chunk_size` and `page_size` of `AllocatorPoolMetaLayout`, which do not change after `init`. -/
structure AllocatorLayout where
  chunkSize : ℕ
  pageSize : ℕ

/-- `memory_amount` of `allocate_new_node`. -/
def AllocatorLayout.memoryAmount (layout : AllocatorLayout) : ℕ := layout.pageSize * pagesPerNode

/-- Where a thread is. -/
inductive AllocatorPc
  | idle
  /-- In `free_indexes_queue.try_pop()`. -/
  | inTryPop
  /-- `last_not_issued_index.load()`. -/
  | loadIndex
  /-- `actual_memory_end.load()`, and the test of it. -/
  | loadEnd (newIndex : ℕ)
  /-- `page_allocation_permit.try_acquire()`. -/
  | tryAcquire (newIndex currentMemoryEnd : ℕ)
  /-- `actual_memory_end.load()` in `allocate_new_node`. -/
  | loadNodeEnd (newIndex : ℕ)
  /-- `mprotect`. -/
  | protect (newIndex memoryEnd : ℕ)
  /-- `actual_memory_end.fetch_add`. -/
  | fetchAdd (newIndex : ℕ)
  /-- `page_allocation_permit.release()`. -/
  | release (newIndex : ℕ)
  /-- `actual_memory_end.wait(current_memory_end)`. -/
  | wait (newIndex currentMemoryEnd : ℕ)
  /-- `last_not_issued_index.compare_exchange_weak`. -/
  | exchange (newIndex : ℕ)
  | allocated (index : Option ℕ)
  /-- In `free_indexes_queue.try_push(index_to_free)`. -/
  | inTryPush (indexToFree : ℕ)
  | callPush (indexToFree : ℕ)
  /-- In `free_indexes_queue.push(index_to_free)`. -/
  | inPush
  deriving DecidableEq

/-- The pool and its threads. -/
structure AllocatorState where
  freeIndexesQueue : RingState := {}
  actualMemoryEnd : ℕ := 0
  pageAllocationPermit : Bool := true
  lastNotIssuedIndex : ℕ := 0
  thread : ℕ → AllocatorPc := fun _ => .idle
  /-- The indices that calls of `allocate` have returned. -/
  returned : List ℕ := []
  /-- The addresses that can be read and written. -/
  accessible : ℕ → Bool := fun _ => false

/-- A thread calls `allocate` or `deallocate`, takes a step in it, fails one that may fail, or
leaves `allocate` when it has returned. -/
inductive AllocatorAction
  | allocate
  | deallocate (indexToFree : ℕ)
  | next
  | fail
  | leave
  deriving DecidableEq

namespace AllocatorState

def goto (s : AllocatorState) (i : ℕ) (pc : AllocatorPc) : AllocatorState :=
  { s with thread := update s.thread i pc }

/-- A step in `free_indexes_queue`, with which the thread goes on. -/
def queueStep (s : AllocatorState) (i : ℕ) (a : RingAction) (pc : AllocatorPc) :
    Option AllocatorState :=
  (s.freeIndexesQueue.step (i, a)).map fun q => { s.goto i pc with freeIndexesQueue := q }

/-- The test of `allocate` on an index that it has loaded. -/
def tryIndex (newIndex : ℕ) : AllocatorPc :=
  if ringBufferSize < newIndex then .allocated none else .loadEnd newIndex

/-- The next step of a call. -/
def next (layout : AllocatorLayout) (s : AllocatorState) (i : ℕ) : Option AllocatorState :=
  match s.thread i with
  | .idle | .allocated _ => none
  | .inTryPop => match s.freeIndexesQueue.thread i with
    | .popped (some freeIndex) => s.queueStep i .leave (.allocated (some freeIndex))
    | .popped none => s.queueStep i .leave .loadIndex
    | _ => s.queueStep i .next .inTryPop
  | .loadIndex => some (s.goto i (tryIndex s.lastNotIssuedIndex))
  | .loadEnd newIndex =>
    if s.actualMemoryEnd ≤ (newIndex + 1) * layout.chunkSize then
      some (s.goto i (.tryAcquire newIndex s.actualMemoryEnd))
    else some (s.goto i (.exchange newIndex))
  | .tryAcquire newIndex currentMemoryEnd =>
    if s.pageAllocationPermit then
      some { s.goto i (.loadNodeEnd newIndex) with pageAllocationPermit := false }
    else some (s.goto i (.wait newIndex currentMemoryEnd))
  | .loadNodeEnd newIndex => some (s.goto i (.protect newIndex s.actualMemoryEnd))
  | .protect newIndex memoryEnd =>
    some { s.goto i (.fetchAdd newIndex) with
      accessible := fun address => s.accessible address ||
        (memoryEnd ≤ address ∧ address < memoryEnd + layout.memoryAmount) }
  | .fetchAdd newIndex =>
    some { s.goto i (.release newIndex) with
      actualMemoryEnd := s.actualMemoryEnd + layout.memoryAmount }
  | .release newIndex => some { s.goto i (.exchange newIndex) with pageAllocationPermit := true }
  | .wait newIndex currentMemoryEnd =>
    if s.actualMemoryEnd = currentMemoryEnd then none else some (s.goto i (.exchange newIndex))
  | .exchange newIndex =>
    -- the test keeps the index far from where its 32 bits would wrap around
    if newIndex = s.lastNotIssuedIndex then
      some { s.goto i (.allocated (some newIndex)) with
        lastNotIssuedIndex := s.lastNotIssuedIndex + 1 }
    else some (s.goto i (tryIndex s.lastNotIssuedIndex))
  | .inTryPush indexToFree => match s.freeIndexesQueue.thread i with
    | .pushed true => s.queueStep i .leave .idle
    | .pushed false => s.queueStep i .leave (.callPush indexToFree)
    | _ => s.queueStep i .next (.inTryPush indexToFree)
  | .callPush indexToFree => s.queueStep i (.push indexToFree) .inPush
  | .inPush => match s.freeIndexesQueue.thread i with
    | .pushed _ => s.queueStep i .leave .idle
    | _ => s.queueStep i .next .inPush

/-- One step of the thread `i`. -/
def step (layout : AllocatorLayout) (s : AllocatorState) :
    ℕ × AllocatorAction → Option AllocatorState
  | (i, .allocate) => match s.thread i with
    | .idle => s.queueStep i .tryPop .inTryPop
    | _ => none
  | (i, .deallocate indexToFree) => match s.thread i with
    | .idle => s.queueStep i (.tryPush indexToFree) (.inTryPush indexToFree)
    | _ => none
  | (i, .next) => s.next layout i
  | (i, .fail) => match s.thread i with
    | .inTryPop | .inTryPush _ | .inPush => s.queueStep i .fail (s.thread i)
    | .tryAcquire newIndex currentMemoryEnd =>
      some (s.goto i (.wait newIndex currentMemoryEnd))
    | .exchange _ => some (s.goto i (tryIndex s.lastNotIssuedIndex))
    | _ => none
  | (i, .leave) => match s.thread i with
    | .allocated none => some (s.goto i .idle)
    | .allocated (some index) =>
      some { s.goto i .idle with returned := s.returned ++ [index] }
    | _ => none

end AllocatorState

/-- The pool after `init`, and all the threads. -/
def allocatorSystem (layout : AllocatorLayout) :
    System AllocatorState (ℕ × AllocatorAction) where
  initial s := s = {}
  step := AllocatorState.step layout

end BattleShips
