import BattleShips.Core.AtomicQueue
import BattleShips.Lib.TicketRing

/-!
# The ring of freed indices, step by step

`RingBuffer` of `core/memory_manager.h` under any number of threads: every load, store, exchange and
compare-exchange of `try_pop`, `try_push` and `push` is one step. A weak compare-exchange may fail
without a reason, and a thread that waits for a value to change moves on once a load finds it
changed. Its size and `normilize_ring_slot` are those of `AtomicQueue`; new indices are claimed at
`head` here, and `tail` is where indices are taken.

The counters count on where the code's 64 bits wrap around. The code has no record of what has been
accepted and returned and of the turns of a slot.
-/

namespace BattleShips

open Function

/-- `std::numeric_limits<uint64_t>::max()`, which marks a slot without an index. -/
def maxValue : ℕ := 2 ^ 64 - 1

/-- A slot of the ring. -/
structure RingSlot where
  value : ℕ := maxValue
  /-- How often a thread has gone in or out. -/
  turn : ℕ := 0

/-- Where a thread is. `blocking` tells `push` from `try_push`. -/
inductive RingPc
  | idle
  /-- `tail.load()`. -/
  | popLoadTail
  /-- `last_busy_slot == head.load()`. -/
  | popLoadHead (lastBusySlot : ℕ)
  /-- `tail.compare_exchange_weak`. -/
  | popClaim (lastBusySlot : ℕ)
  /-- `if (ring_slot.load() != max_value)`. -/
  | popCheck (index : ℕ)
  /-- `ring_slot.wait(max_value)`. -/
  | popWait (index : ℕ)
  /-- `ring_slot.exchange(max_value)`. -/
  | popExchange (index : ℕ)
  | popped (result : Option ℕ)
  /-- `head.load()`. -/
  | pushLoadHead (blocking : Bool) (newFreeIndex : ℕ)
  /-- `last_free_slot + 1 == tail`. -/
  | pushLoadTail (blocking : Bool) (newFreeIndex lastFreeSlot : ℕ)
  /-- `head.wait(last_free_slot)`. -/
  | pushHeadWait (newFreeIndex lastFreeSlot : ℕ)
  /-- `head.compare_exchange_weak`. -/
  | pushClaim (blocking : Bool) (newFreeIndex lastFreeSlot : ℕ)
  /-- `previous_data == std::numeric_limits<uint64_t>::max()`. -/
  | pushCheck (newFreeIndex index : ℕ)
  /-- `ring_slot.wait(previous_data)`. -/
  | pushWait (newFreeIndex index previousData : ℕ)
  /-- `ring_slot.store(new_free_index)`. -/
  | pushStore (newFreeIndex index : ℕ)
  | pushed (accepted : Bool)
  deriving DecidableEq

/-- The ring and its threads. -/
structure RingState where
  head : ℕ := 0
  tail : ℕ := 0
  slot : ℕ → RingSlot := fun _ => {}
  thread : ℕ → RingPc := fun _ => .idle
  accepted : List ℕ := []
  /-- The indices that have been taken, with where they were in the ring. -/
  returned : List (ℕ × ℕ) := []

/-- A thread calls one of the three, takes a step in it, fails a weak compare-exchange without a
reason, or leaves the call when it has returned. -/
inductive RingAction
  | tryPop
  | tryPush (newFreeIndex : ℕ)
  | push (newFreeIndex : ℕ)
  | next
  | fail
  | leave
  deriving DecidableEq

namespace RingState

/-- The slot of an index. -/
def slotOf (s : RingState) (index : ℕ) : RingSlot := s.slot (normilizeRingSlot index)

def goto (s : RingState) (i : ℕ) (pc : RingPc) : RingState :=
  { s with thread := update s.thread i pc }

/-- The thread goes on, and what it does to the slot of an index. -/
def touch (s : RingState) (i : ℕ) (pc : RingPc) (index : ℕ) (slot : RingSlot) : RingState :=
  { s with
    thread := update s.thread i pc
    slot := update s.slot (normilizeRingSlot index) slot }

/-- A successful exchange on `head`. -/
def claimHead (s : RingState) (i : ℕ) (newFreeIndex : ℕ) : RingState :=
  { s with
    head := s.head + 1
    thread := update s.thread i (.pushCheck newFreeIndex s.head)
    accepted := s.accepted ++ [newFreeIndex] }

/-- A successful exchange on `tail`. -/
def claimTail (s : RingState) (i : ℕ) : RingState :=
  { s with
    tail := s.tail + 1
    thread := update s.thread i (.popCheck s.tail) }

/-- The next step of a call. -/
def next (s : RingState) (i : ℕ) : Option RingState :=
  match s.thread i with
  | .idle | .popped _ | .pushed _ => none
  | .popLoadTail => some (s.goto i (.popLoadHead s.tail))
  | .popLoadHead t =>
    if SameCounter t s.head then some (s.goto i (.popped none))
    else some (s.goto i (.popClaim t))
  | .popClaim t =>
    if SameCounter t s.tail then some (s.claimTail i)
    -- a failed exchange loads the value that it has found
    else some (s.goto i (.popLoadHead s.tail))
  | .popCheck t =>
    if (s.slotOf t).value = maxValue then some (s.goto i (.popWait t))
    else some (s.touch i (.popExchange t) t { s.slotOf t with turn := (s.slotOf t).turn + 1 })
  | .popWait t =>
    if (s.slotOf t).value = maxValue then none else some (s.goto i (.popCheck t))
  | .popExchange t =>
    some { s.touch i (.popped (some (s.slotOf t).value)) t
        { value := maxValue, turn := (s.slotOf t).turn + 1 } with
      returned := s.returned ++ [(t, (s.slotOf t).value)] }
  | .pushLoadHead blocking x => some (s.goto i (.pushLoadTail blocking x s.head))
  | .pushLoadTail blocking x h =>
    if SameCounter (h + 1) s.tail then
      some (s.goto i (if blocking then .pushHeadWait x h else .pushed false))
    else some (s.goto i (.pushClaim blocking x h))
  | .pushHeadWait x h =>
    if SameCounter h s.head then none else some (s.goto i (.pushLoadHead true x))
  | .pushClaim blocking x h =>
    if SameCounter h s.head then some (s.claimHead i x)
    else some (s.goto i (.pushLoadHead blocking x))
  | .pushCheck x h =>
    if (s.slotOf h).value = maxValue then
      some (s.touch i (.pushStore x h) h { s.slotOf h with turn := (s.slotOf h).turn + 1 })
    else some (s.goto i (.pushWait x h (s.slotOf h).value))
  | .pushWait x h previousData =>
    if (s.slotOf h).value = previousData then none else some (s.goto i (.pushCheck x h))
  | .pushStore x h =>
    some (s.touch i (.pushed true) h { value := x, turn := (s.slotOf h).turn + 1 })

/-- One step of the thread `i`. -/
def step (s : RingState) : ℕ × RingAction → Option RingState
  | (i, .tryPop) => match s.thread i with
    | .idle => some (s.goto i .popLoadTail)
    | _ => none
  | (i, .tryPush x) => match s.thread i with
    | .idle => some (s.goto i (.pushLoadHead false x))
    | _ => none
  | (i, .push x) => match s.thread i with
    | .idle => some (s.goto i (.pushLoadHead true x))
    | _ => none
  | (i, .next) => s.next i
  | (i, .fail) => match s.thread i with
    | .popClaim _ => some (s.goto i (.popLoadHead s.tail))
    | .pushClaim blocking x _ => some (s.goto i (.pushLoadHead blocking x))
    | _ => none
  | (i, .leave) => match s.thread i with
    | .popped _ | .pushed _ => some (s.goto i .idle)
    | _ => none

end RingState

/-- The ring after `init`, and all the threads. -/
def ringSystem : System RingState (ℕ × RingAction) where
  initial s := s = {}
  step := RingState.step

/-! ### Calls that nobody interferes with -/

namespace RingState

variable {s : RingState} {i : ℕ}

/-- The steps of a `try_push` that finds its slot empty, up to its store. -/
def tryPushSteps (i : ℕ) (x : ℕ) : List (ℕ × RingAction) :=
  (i, .tryPush x) :: List.replicate 4 (i, .next)

/-- The ring after these steps. -/
def inTryPush (s : RingState) (i : ℕ) (x : ℕ) : RingState :=
  { s.touch i (.pushStore x s.head) s.head
      { s.slotOf s.head with turn := (s.slotOf s.head).turn + 1 } with
    head := s.head + 1
    accepted := s.accepted ++ [x] }

lemma run_tryPush {x : ℕ} (hidle : s.thread i = .idle) (hfull : ¬ SameCounter (s.head + 1) s.tail)
    (hempty : (s.slotOf s.head).value = maxValue) :
    ringSystem.run s (tryPushSteps i x) = some (s.inTryPush i x) := by
  rw [slotOf] at hempty
  simp [System.run, tryPushSteps, ringSystem, step, next, hidle, hfull, hempty, goto, claimHead,
    slotOf, touch, inTryPush, List.replicate]

/-- The store of `try_push`, and the return. -/
def tryPushEnd (i : ℕ) : List (ℕ × RingAction) := [(i, .next), (i, .leave)]

/-- The ring after the call. -/
def afterTryPush (s : RingState) (i : ℕ) (x : ℕ) : RingState :=
  { s.touch i .idle s.head { value := x, turn := (s.slotOf s.head).turn + 2 } with
    head := s.head + 1
    accepted := s.accepted ++ [x] }

lemma run_tryPushEnd {x : ℕ} :
    ringSystem.run (s.inTryPush i x) (tryPushEnd i) = some (s.afterTryPush i x) := by
  simp [System.run, tryPushEnd, ringSystem, step, next, slotOf, touch, goto, inTryPush,
    afterTryPush]

/-- The steps of a `try_pop` that finds its slot full, up to its exchange. -/
def tryPopSteps (i : ℕ) : List (ℕ × RingAction) := (i, .tryPop) :: List.replicate 5 (i, .next)

end RingState

end BattleShips
