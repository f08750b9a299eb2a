import BattleShips.Core.AtomicQueueTurns

/-!
# The wait helpers of the queue

`wait_for_data` and `wait_for_space` of `core/atomic_queue.h`, step by step beside the calls of
`try_push` and `try_pop`. A wait on an atomic goes on once it finds the value changed, and what it
has found then may have changed again at the load that comes next. What a helper has returned is
kept until the call that it is made for: the next `try_pop` is over, or the next `try_push` begins.
-/

namespace BattleShips

open Function

/-- Where a thread is in the wait helpers. -/
inductive WaitPc
  | idle
  /-- `head.load()` in `wait_for_data`. -/
  | dataLoadHead
  /-- `is_initialized_.wait(false)`. -/
  | dataWait (lastBusyIndex : ℕ)
  /-- `while (!is_initialized_.load())`. -/
  | dataCheck (lastBusyIndex : ℕ)
  | dataReturned
  /-- `tail.load()` in `wait_for_space`. -/
  | spaceLoadTail
  /-- `head.load()`, and the test of the two. -/
  | spaceLoadHead (lastFreeIndex : ℕ)
  /-- `head.wait(last_busy_index)`. -/
  | spaceWait (lastBusyIndex : ℕ)
  /-- `while (head != last_busy_index)`. -/
  | spaceCheck (lastBusyIndex : ℕ)
  | spaceReturned
  deriving DecidableEq

/-- The thread is in none of the two. -/
def WaitPc.outside : WaitPc → Bool
  | .idle | .dataReturned | .spaceReturned => true
  | _ => false

/-- After a step of a call of the queue. -/
def WaitPc.after {α : Type*} : WaitPc → QueuePc α → QueueAction α → WaitPc
  | .dataReturned, .popped _, .leave => .idle
  | .spaceReturned, _, .push _ => .idle
  | pc, _, _ => pc

/-- The queue and its threads, which may be in a wait helper. -/
structure WaitState (α : Type*) where
  queue : QueueState α := {}
  wait : ℕ → WaitPc := fun _ => .idle

/-- A thread takes a step of the queue, calls one of the helpers, or takes a step in it. -/
inductive WaitAction (α : Type*)
  | queue (action : QueueAction α)
  | waitForData
  | waitForSpace
  | next
  deriving DecidableEq

namespace WaitState

variable {α : Type*}

def goto (s : WaitState α) (i : ℕ) (pc : WaitPc) : WaitState α :=
  { s with wait := update s.wait i pc }

def queueStep (s : WaitState α) (i : ℕ) (a : QueueAction α) : Option (WaitState α) :=
  if (s.wait i).outside then
    (s.queue.step (i, a)).map fun q =>
      { queue := q, wait := update s.wait i ((s.wait i).after (s.queue.thread i) a) }
  else none

/-- A call of a helper. -/
def call (s : WaitState α) (i : ℕ) (pc : WaitPc) : Option (WaitState α) :=
  match s.queue.thread i with
  | .idle => if (s.wait i).outside then some (s.goto i pc) else none
  | _ => none

/-- The next step in a helper. The copies in `uint16_t` have the ring slot of what is copied. -/
def next (s : WaitState α) (i : ℕ) : Option (WaitState α) :=
  match s.wait i with
  | .idle | .dataReturned | .spaceReturned => none
  | .dataLoadHead => some (s.goto i (.dataWait (s.queue.head % 2 ^ 16)))
  | .dataWait h =>
    if (s.queue.slotOf h).isInitialized then some (s.goto i (.dataCheck h)) else none
  | .dataCheck h =>
    if (s.queue.slotOf h).isInitialized then some (s.goto i .dataReturned)
    else some (s.goto i (.dataWait h))
  | .spaceLoadTail => some (s.goto i (.spaceLoadHead (s.queue.tail % 2 ^ 16)))
  | .spaceLoadHead t =>
    if looksFull t s.queue.head then some (s.goto i (.spaceWait s.queue.head))
    else some (s.goto i .spaceReturned)
  | .spaceWait h =>
    if SameCounter s.queue.head h then none else some (s.goto i (.spaceCheck h))
  | .spaceCheck h =>
    if SameCounter s.queue.head h then some (s.goto i .spaceReturned)
    else some (s.goto i (.spaceWait h))

/-- One step of the thread `i`. -/
def step (s : WaitState α) : ℕ × WaitAction α → Option (WaitState α)
  | (i, .queue a) => s.queueStep i a
  | (i, .waitForData) => s.call i .dataLoadHead
  | (i, .waitForSpace) => s.call i .spaceLoadTail
  | (i, .next) => s.next i

end WaitState

/-- The queue, empty at first, and all the threads. -/
def waitSystem (α : Type*) : System (WaitState α) (ℕ × WaitAction α) where
  initial s := s = {}
  step := WaitState.step

/-! ### What a step can do -/

@[simp] lemma WaitPc.outside_after {α : Type*} {pc : WaitPc} (h : pc.outside = true)
    (t : QueuePc α) (a : QueueAction α) : (pc.after t a).outside = true := by
  unfold after
  split
  · rfl
  · rfl
  · exact h

namespace WaitState

variable {α : Type*} {s s' : WaitState α} {i : ℕ}

/-- A thread takes a step in the queue, calls a helper, or goes on in one. -/
inductive Stepped (s : WaitState α) : ℕ × WaitAction α → WaitState α → Prop
  | queue {i : ℕ} {b : QueueAction α} {q : QueueState α} (houtside : (s.wait i).outside = true)
      (hstep : s.queue.step (i, b) = some q) :
      Stepped s (i, .queue b)
        { queue := q, wait := update s.wait i ((s.wait i).after (s.queue.thread i) b) }
  | call {i : ℕ} {b : WaitAction α} {pc : WaitPc} (hidle : s.queue.thread i = .idle)
      (hpc : pc = .dataLoadHead ∨ pc = .spaceLoadTail) : Stepped s (i, b) (s.goto i pc)
  | next {i : ℕ} {pc : WaitPc} (hinside : (s.wait i).outside = false)
      (hnext : s.next i = some (s.goto i pc)) : Stepped s (i, .next) (s.goto i pc)

lemma goto_inj {pc pc' : WaitPc} (h : s.goto i pc = s.goto i pc') : pc = pc' := by
  have hwait := congrFun (congrArg wait h) i
  simpa [goto] using hwait

lemma exists_goto (h : s.next i = some s') :
    (s.wait i).outside = false ∧ ∃ pc, s' = s.goto i pc := by
  cases hpc : s.wait i <;> simp only [next, hpc] at h <;> try split at h
  all_goals first
    | contradiction
    | exact ⟨rfl, _, (Option.some.inj h).symm⟩

lemma call_eq_some {pc : WaitPc} (h : s.call i pc = some s') :
    s.queue.thread i = .idle ∧ s' = s.goto i pc := by
  cases hpc : s.queue.thread i <;> simp only [call, hpc, reduceCtorEq] at h
  split_ifs at h
  exact ⟨rfl, (Option.some.inj h).symm⟩

lemma stepped {a : ℕ × WaitAction α} (h : s.step a = some s') : s.Stepped a s' := by
  obtain ⟨i, a⟩ := a
  cases a with
  | queue b =>
    simp only [step, queueStep] at h
    split_ifs at h with houtside
    obtain ⟨q, hq, rfl⟩ := Option.map_eq_some_iff.1 h
    exact .queue houtside hq
  | waitForData =>
    obtain ⟨hidle, rfl⟩ := call_eq_some h
    exact .call hidle (.inl rfl)
  | waitForSpace =>
    obtain ⟨hidle, rfl⟩ := call_eq_some h
    exact .call hidle (.inr rfl)
  | next =>
    obtain ⟨hinside, pc, rfl⟩ := exists_goto h
    exact .next hinside h

/-- A thread that is in a helper is in no call of the queue. -/
lemma thread_idle {a : ℕ × WaitAction α}
    (h : ∀ i, (s.wait i).outside = false → s.queue.thread i = .idle) (hstep : s.step a = some s') :
    ∀ i, (s'.wait i).outside = false → s'.queue.thread i = .idle := by
  intro i hi
  cases stepped hstep with
  | @queue j b q houtside hq =>
    rcases eq_or_ne i j with rfl | hne
    · simp [houtside] at hi
    · rw [QueueState.thread_of_ne hq hne]
      exact h i (by simpa [hne] using hi)
  | @call j b pc hidle hpc =>
    rcases eq_or_ne i j with rfl | hne
    · exact hidle
    · exact h i (by simpa [goto, hne] using hi)
  | @next j pc hinside hnext =>
    rcases eq_or_ne i j with rfl | hne
    · exact h i hinside
    · exact h i (by simpa [goto, hne] using hi)

end WaitState

end BattleShips
