import BattleShips.Core.AtomicQueue
import BattleShips.Lib.TicketRing

/-!
# The queue, step by step

`AtomicQueue` of `core/atomic_queue.h` under any number of threads: every load, store and
compare-exchange of `try_push` and `try_pop`, and what they do with the object of a slot, is one
step. A thread that waits for a flag moves on once a load finds it changed.

The counters `head` and `tail` count on where the code's 64 bits wrap around; comparisons are of
what the code has of them, and ring slots are the same. The code has no record of what has been
accepted and returned, of the index under which an object was pushed, of whether it is still there
to be taken, and of the turns of a slot.
-/

namespace BattleShips

open Function

/-- `AtomicSlot`. -/
structure AtomicSlot (α : Type*) where
  isInitialized : Bool := false
  /-- The object, with the index claimed for it. -/
  object : Option (ℕ × α) := none
  untaken : Bool := false
  /-- How often a thread has gone in or out. -/
  turn : ℕ := 0

/-- Where a thread is. -/
inductive QueuePc (α : Type*)
  | idle
  /-- `tail.load()`. -/
  | pushLoadTail (x : α)
  /-- `head.load()`, and the test of the two. -/
  | pushLoadHead (x : α) (lastFreeIndex : ℕ)
  /-- `tail.compare_exchange_strong`. -/
  | pushClaim (x : α) (lastFreeIndex : ℕ)
  /-- `is_initialized_.wait(true)`. -/
  | pushWait (x : α) (index : ℕ)
  /-- `while (is_initialized_.load())`. -/
  | pushCheck (x : α) (index : ℕ)
  | pushEmplace (x : α) (index : ℕ)
  /-- `is_initialized_.store(true)`. -/
  | pushStore (x : α) (index : ℕ)
  | pushed (accepted : Bool)
  /-- `head.load()`. -/
  | popLoadHead
  /-- `last_busy_index == tail`. -/
  | popLoadTail (lastBusyIndex : ℕ)
  /-- `head.compare_exchange_strong`. -/
  | popClaim (lastBusyIndex : ℕ)
  /-- `is_initialized_.wait(false)`. -/
  | popWait (index : ℕ)
  /-- `if (is_initialized_.load())`. -/
  | popCheck (index : ℕ)
  /-- The object is moved out. -/
  | popTake (index : ℕ)
  /-- `is_initialized_.store(false)` in `take`. -/
  | popClear (index : ℕ) (data : ℕ × α)
  /-- `is_initialized_.store(false)` in `try_pop`. -/
  | popClearAgain (index : ℕ) (data : ℕ × α)
  | popped (result : Option (ℕ × α))
  deriving DecidableEq

/-- The queue and its threads. -/
structure QueueState (α : Type*) where
  head : ℕ := 0
  tail : ℕ := 0
  slot : ℕ → AtomicSlot α := fun _ => {}
  thread : ℕ → QueuePc α := fun _ => .idle
  accepted : List α := []
  returned : List (ℕ × α) := []

/-- A thread calls `try_push` or `try_pop`, takes a step in it, or leaves it when it has
returned. -/
inductive QueueAction (α : Type*)
  | push (x : α)
  | pop
  | next
  | leave
  deriving DecidableEq

namespace QueueState

variable {α : Type*}

/-- The slot of an index. -/
def slotOf (s : QueueState α) (index : ℕ) : AtomicSlot α := s.slot (normilizeRingSlot index)

def goto (s : QueueState α) (i : ℕ) (pc : QueuePc α) : QueueState α :=
  { s with thread := update s.thread i pc }

/-- The thread goes on, and what it does to the slot of an index. -/
def touch (s : QueueState α) (i : ℕ) (pc : QueuePc α) (index : ℕ) (slot : AtomicSlot α) :
    QueueState α :=
  { s with
    thread := update s.thread i pc
    slot := update s.slot (normilizeRingSlot index) slot }

/-- A successful exchange on `tail`: the value it had is the index of the thread. -/
def claimTail (s : QueueState α) (i : ℕ) (x : α) : QueueState α :=
  { s with
    tail := s.tail + 1
    thread := update s.thread i (.pushWait x s.tail)
    accepted := s.accepted ++ [x] }

/-- A successful exchange on `head`. -/
def claimHead (s : QueueState α) (i : ℕ) : QueueState α :=
  { s with
    head := s.head + 1
    thread := update s.thread i (.popWait s.head) }

/-- The next step of a call. -/
def next (s : QueueState α) (i : ℕ) : Option (QueueState α) :=
  match s.thread i with
  | .idle | .pushed _ | .popped _ => none
  | .pushLoadTail x => some (s.goto i (.pushLoadHead x s.tail))
  | .pushLoadHead x t =>
    if looksFull t s.head then some (s.goto i (.pushed false))
    else some (s.goto i (.pushClaim x t))
  | .pushClaim x t =>
    if SameCounter t s.tail then some (s.claimTail i x)
    else some (s.goto i (.pushLoadTail x))
  | .pushWait x t =>
    if (s.slotOf t).isInitialized then none else some (s.goto i (.pushCheck x t))
  | .pushCheck x t =>
    if (s.slotOf t).isInitialized then some (s.goto i (.pushWait x t))
    else some (s.touch i (.pushEmplace x t) t { s.slotOf t with turn := (s.slotOf t).turn + 1 })
  | .pushEmplace x t =>
    some (s.touch i (.pushStore x t) t { s.slotOf t with object := some (t, x), untaken := true })
  | .pushStore _ t =>
    some (s.touch i (.pushed true) t
      { s.slotOf t with isInitialized := true, turn := (s.slotOf t).turn + 1 })
  | .popLoadHead => some (s.goto i (.popLoadTail s.head))
  | .popLoadTail h =>
    if SameCounter h s.tail then some (s.goto i (.popped none))
    else some (s.goto i (.popClaim h))
  | .popClaim h =>
    if SameCounter h s.head then some (s.claimHead i)
    else some (s.goto i (.popped none))
  | .popWait h =>
    if (s.slotOf h).isInitialized then some (s.goto i (.popCheck h)) else none
  | .popCheck h =>
    if (s.slotOf h).isInitialized then
      some (s.touch i (.popTake h) h { s.slotOf h with turn := (s.slotOf h).turn + 1 })
    else some (s.goto i (.popWait h))
  | .popTake h =>
    match (s.slotOf h).object with
    | some data => some (s.touch i (.popClear h data) h { s.slotOf h with untaken := false })
    -- no flag is set before its slot has had an object
    | none => none
  | .popClear h data =>
    some (s.touch i (.popClearAgain h data) h { s.slotOf h with isInitialized := false })
  | .popClearAgain h data =>
    some { s.touch i (.popped (some data)) h
        { s.slotOf h with isInitialized := false, turn := (s.slotOf h).turn + 1 } with
      returned := s.returned ++ [data] }

/-- One step of the thread `i`. -/
def step (s : QueueState α) : ℕ × QueueAction α → Option (QueueState α)
  | (i, .push x) => match s.thread i with
    | .idle => some (s.goto i (.pushLoadTail x))
    | _ => none
  | (i, .pop) => match s.thread i with
    | .idle => some (s.goto i .popLoadHead)
    | _ => none
  | (i, .next) => s.next i
  | (i, .leave) => match s.thread i with
    | .pushed _ | .popped _ => some (s.goto i .idle)
    | _ => none

end QueueState

/-- The queue, empty at first, and all the threads. -/
def queueSystem (α : Type*) : System (QueueState α) (ℕ × QueueAction α) where
  initial s := s = {}
  step := QueueState.step

/-! ### Calls that nobody interferes with -/

namespace QueueState

variable {α : Type*} {s : QueueState α} {i : ℕ}

/-- The steps of a `try_push` that finds its slot empty, from the call to the return. -/
def pushSteps (i : ℕ) (x : α) : List (ℕ × QueueAction α) :=
  (i, .push x) :: List.replicate 7 (i, .next) ++ [(i, .leave)]

/-- The queue after such a call. -/
def afterPush (s : QueueState α) (i : ℕ) (x : α) : QueueState α :=
  { s.touch i .idle s.tail
      { isInitialized := true, object := some (s.tail, x), untaken := true
        turn := (s.slotOf s.tail).turn + 2 } with
    tail := s.tail + 1
    accepted := s.accepted ++ [x] }

lemma run_push {x : α} (hidle : s.thread i = .idle) (hfull : ¬ looksFull s.tail s.head)
    (hflag : (s.slotOf s.tail).isInitialized = false) :
    (queueSystem α).run s (pushSteps i x) = some (s.afterPush i x) := by
  rw [slotOf] at hflag
  simp [System.run, pushSteps, queueSystem, step, next, hidle, hfull, hflag, goto, claimTail,
    slotOf, touch, afterPush, List.replicate]

/-- The steps of a `try_pop` that finds its slot full, up to the last store. -/
def popSteps (i : ℕ) : List (ℕ × QueueAction α) := (i, .pop) :: List.replicate 7 (i, .next)

/-- The queue after these steps. -/
def inPop (s : QueueState α) (i : ℕ) (data : ℕ × α) : QueueState α :=
  { s.touch i (.popClearAgain s.head data) s.head
      { s.slotOf s.head with
        isInitialized := false, untaken := false, turn := (s.slotOf s.head).turn + 1 } with
    head := s.head + 1 }

lemma run_pop {y : ℕ × α} (hidle : s.thread i = .idle) (hne : ¬ SameCounter s.head s.tail)
    (hflag : (s.slotOf s.head).isInitialized = true)
    (hobject : (s.slotOf s.head).object = some y) :
    (queueSystem α).run s (popSteps i) = some (s.inPop i y) := by
  rw [slotOf] at hflag hobject
  simp [System.run, popSteps, queueSystem, step, next, hidle, hne, hflag, hobject, goto, claimHead,
    slotOf, touch, inPop, List.replicate]

/-- The last store of `try_pop`, and the return. -/
def popEnd (i : ℕ) : List (ℕ × QueueAction α) := [(i, .next), (i, .leave)]

lemma run_popEnd_next {t : ℕ} {data : ℕ × α} (hpc : s.thread i = .popClearAgain t data) :
    (queueSystem α).run s [(i, .next)] = some { s.touch i (.popped (some data)) t
        { s.slotOf t with isInitialized := false, turn := (s.slotOf t).turn + 1 } with
      returned := s.returned ++ [data] } := by
  simp [System.run, queueSystem, step, next, hpc]

/-- The queue after the call. -/
def afterPop (s : QueueState α) (i : ℕ) (data : ℕ × α) : QueueState α :=
  { s.touch i .idle s.head
      { s.slotOf s.head with
        isInitialized := false, untaken := false, turn := (s.slotOf s.head).turn + 2 } with
    head := s.head + 1
    returned := s.returned ++ [data] }

lemma run_popEnd {data : ℕ × α} :
    (queueSystem α).run (s.inPop i data) (popEnd i) = some (s.afterPop i data) := by
  simp [System.run, popEnd, queueSystem, step, next, slotOf, touch, goto, inPop, afterPop]

end QueueState

end BattleShips
