import BattleShips.Core.AtomicQueueTurns
import BattleShips.Core.SchedulerSteps

/-!
# What the scheduler hands over

With one thread that pushes tasks and one worker, the permits of the two semaphores keep the
threads of `tasks_queue_` to their turns: a push that has a permit comes fewer than 4095 indices
after the last pop that has given its permit back, and a pop that has a permit comes before the
last push that has given its own.
-/

namespace BattleShips

open Function TicketRing

variable {α : Type*}

/-! ### Where the two threads are -/

/-- The thread is in a call that has no index yet. -/
def QueuePc.unclaimed : QueuePc α → Bool
  | .pushLoadTail _ | .pushLoadHead _ _ | .pushClaim _ _ => true
  | .popLoadHead | .popLoadTail _ | .popClaim _ => true
  | _ => false

/-- How the thread that pushes stands in the queue. -/
def ProducerPc.Fits (tail : ℕ) (pc : QueuePc α) : ProducerPc α → Prop
  | .inTryPush => match pc with
    | .pushLoadTail _ => True
    | .pushLoadHead _ t | .pushClaim _ t => t = tail
    | .pushWait _ t | .pushCheck _ t | .pushEmplace _ t | .pushStore _ t => t + 1 = tail
    | .pushed accepted => accepted = true
    | _ => False
  | _ => pc = .idle

/-- How the worker stands in the queue. -/
def WorkerPc.Fits (head : ℕ) (pc : QueuePc α) : WorkerPc α → Prop
  | .inTryPop => match pc with
    | .popLoadHead => True
    | .popLoadTail h | .popClaim h => h = head
    | .popWait h | .popCheck h | .popTake h | .popClear h _ | .popClearAgain h _ => h + 1 = head
    | .popped result => result.isSome = true
    | _ => False
  | .releasePop => False
  | _ => pc = .idle

namespace SchedulerState

/-- A push has its permit, but no index. -/
def unclaimedPush (s : SchedulerState α) : ℕ :=
  match s.producer with
  | .callTryPush _ => 1
  | .inTryPush => if (s.tasksQueue.thread 0).unclaimed then 1 else 0
  | _ => 0

/-- A push has its index, but has not released a permit to pop. -/
def unreleasedPush (s : SchedulerState α) : ℕ :=
  match s.producer with
  | .inTryPush => if (s.tasksQueue.thread 0).unclaimed then 0 else 1
  | .release => 1
  | _ => 0

/-- A pop has its permit, but no index. -/
def unclaimedPop (s : SchedulerState α) : ℕ :=
  match s.worker with
  | .callTryPop => 1
  | .inTryPop => if (s.tasksQueue.thread 1).unclaimed then 1 else 0
  | _ => 0

/-- A pop has its index, but has not released a permit to push. -/
def unreleasedPop (s : SchedulerState α) : ℕ :=
  match s.worker with
  | .inTryPop => if (s.tasksQueue.thread 1).unclaimed then 0 else 1
  | .releasePush _ => 1
  | _ => 0

/-- The tasks that have been pushed or are being pushed, and whose permits have not been given
back. -/
def inFlight (s : SchedulerState α) : ℕ :=
  s.unclaimedPush + (s.tasksQueue.tail - s.tasksQueue.head) + s.unreleasedPop

/-- A task that has been pushed and has no index yet. -/
def pending (s : SchedulerState α) : List α :=
  match s.producer with
  | .acquire task | .callTryPush task => [task]
  | .inTryPush => match s.tasksQueue.thread 0 with
    | .pushLoadTail task | .pushLoadHead task _ | .pushClaim task _ => [task]
    | _ => []
  | _ => []

/-- A task that has been popped and has not been executed. -/
def inHand (s : SchedulerState α) : List α :=
  match s.worker with
  | .releasePush task | .execute task => [task]
  | .inTryPop => match s.tasksQueue.thread 1 with
    | .popped (some data) => [data.2]
    | _ => []
  | _ => []

/-- What holds in every reachable state. -/
structure Scheduled (s : SchedulerState α) : Prop where
  queue : (queueSystem α).Reachable QueueState.InTurn s.tasksQueue
  others : ∀ i, 2 ≤ i → s.tasksQueue.thread i = .idle
  producer : s.producer.Fits s.tasksQueue.tail (s.tasksQueue.thread 0)
  worker : s.worker.Fits s.tasksQueue.head (s.tasksQueue.thread 1)
  popPermits :
    s.popPermits + s.unclaimedPop + s.tasksQueue.head + s.unreleasedPush = s.tasksQueue.tail
  pushPermits : s.pushPermits + s.unclaimedPush + s.tasksQueue.tail + s.unreleasedPop =
    maxTasks + s.tasksQueue.head
  pushed : s.pushed = s.tasksQueue.accepted ++ s.pending
  /-- The pops have their indices in order. -/
  returned : s.tasksQueue.returned.map Prod.fst = List.range s.tasksQueue.returned.length
  popped : s.tasksQueue.returned.length + (if (s.tasksQueue.thread 1).claim.isSome then 1 else 0) =
    s.tasksQueue.head
  executed : s.executed ++ s.inHand = s.tasksQueue.returned.map Prod.snd

namespace Scheduled

variable {s s' : SchedulerState α} {c : Claim}

lemma claim_zero (h : s.Scheduled) (hclaim : (s.tasksQueue.thread 0).claim = some c) :
    c.side = .put ∧ c.ticket + 1 = s.tasksQueue.tail ∧ s.unreleasedPush = 1 := by
  have hfits := h.producer
  cases hpc : s.tasksQueue.thread 0 <;> simp [hpc, QueuePc.claim] at hclaim <;> subst hclaim <;>
    cases hproducer : s.producer <;>
    simp_all [ProducerPc.Fits, unreleasedPush, QueuePc.unclaimed]

lemma claim_one (h : s.Scheduled) (hclaim : (s.tasksQueue.thread 1).claim = some c) :
    c.side = .get ∧ c.ticket + 1 = s.tasksQueue.head ∧ s.unreleasedPop = 1 := by
  have hfits := h.worker
  cases hpc : s.tasksQueue.thread 1 <;> simp [hpc, QueuePc.claim] at hclaim <;> subst hclaim <;>
    cases hworker : s.worker <;>
    simp_all [WorkerPc.Fits, unreleasedPop, QueuePc.unclaimed]

lemma claim_of_two_le (h : s.Scheduled) {i : ℕ} (hi : 2 ≤ i) :
    (s.tasksQueue.thread i).claim = none := by
  rw [h.others i hi]
  rfl

lemma sound (h : s.Scheduled) : s.tasksQueue.Sound := QueueState.sound_of_reachable h.queue

/-- It is the turn of a push that waits: the pop of the lap before has given its permit back. -/
lemma turn_put (h : s.Scheduled) {t : ℕ}
    (hclaim : (s.tasksQueue.thread 0).claim = some { side := .put, ticket := t }) :
    (s.tasksQueue.slotOf t).turn = 4 * (t / ringBufferSize) := by
  obtain ⟨-, htail, -⟩ := h.claim_zero hclaim
  have hpermits := h.pushPermits
  have hle : (s.tasksQueue.slotOf t).turn ≤ 4 * (t / ringBufferSize) := by
    have := h.sound.tickets.turn_le _ (.inl ⟨0, hclaim⟩)
    rwa [QueueState.tickets, ← normilizeRingSlot_eq] at this
  refine le_antisymm hle ?_
  rcases Nat.lt_or_ge t ringBufferSize with hlt | hge
  · simp [Nat.div_eq_of_lt hlt]
  -- the pop of the index a lap before is not the one that the worker may be in
  obtain ⟨t', rfl⟩ := Nat.exists_eq_add_of_le' hge
  simp only [ringBufferSize, maxTasks] at hpermits htail
  rcases h.sound.tickets.past .get t' (by change t' < s.tasksQueue.head; omega) with
    ⟨i, inside, hi⟩ | hpast
  · exfalso
    change (s.tasksQueue.thread i).claim = _ at hi
    obtain rfl | rfl | hi' : i = 0 ∨ i = 1 ∨ 2 ≤ i := by omega
    · rw [hclaim] at hi
      cases hi
    · obtain ⟨-, hhead, -⟩ := h.claim_one hi
      simp only at hhead
      omega
    · rw [h.claim_of_two_le hi'] at hi
      cases hi
  · rw [Claim.due_getting] at hpast
    have hslot : (t' + ringBufferSize) % ringBufferSize = t' % ringBufferSize := by simp
    have hlap : (t' + ringBufferSize) / ringBufferSize = t' / ringBufferSize + 1 := by simp
    rw [QueueState.slotOf, normilizeRingSlot_eq, hslot, hlap]
    exact hpast

/-- It is the turn of a pop that waits: the push of its index has released its permit. -/
lemma turn_get (h : s.Scheduled) {t : ℕ}
    (hclaim : (s.tasksQueue.thread 1).claim = some { side := .get, ticket := t }) :
    (s.tasksQueue.slotOf t).turn = 4 * (t / ringBufferSize) + 2 := by
  obtain ⟨-, hhead, -⟩ := h.claim_one hclaim
  have hpermits := h.popPermits
  have hle : (s.tasksQueue.slotOf t).turn ≤ 4 * (t / ringBufferSize) + 2 := by
    have := h.sound.tickets.turn_le _ (.inl ⟨1, hclaim⟩)
    rwa [QueueState.tickets, ← normilizeRingSlot_eq] at this
  refine le_antisymm hle ?_
  simp only at hhead
  rcases h.sound.tickets.past .put t (by change t < s.tasksQueue.tail; omega) with
    ⟨i, inside, hi⟩ | hpast
  · exfalso
    change (s.tasksQueue.thread i).claim = _ at hi
    obtain rfl | rfl | hi' : i = 0 ∨ i = 1 ∨ 2 ≤ i := by omega
    · obtain ⟨-, htail, hunreleased⟩ := h.claim_zero hi
      simp only at htail
      omega
    · rw [hclaim] at hi
      cases hi
    · rw [h.claim_of_two_le hi'] at hi
      cases hi
  · rw [Claim.due_putting] at hpast
    rw [QueueState.slotOf, normilizeRingSlot_eq]
    exact hpast

/-- The threads keep to their turns. -/
lemma inTurn (h : s.Scheduled) (a : ℕ × QueueAction α) : s.tasksQueue.InTurn a := by
  obtain ⟨i, a⟩ := a
  rintro ⟨side, t, inside⟩ hc
  obtain ⟨hclaim, rfl⟩ := QueueState.claim_of_enters hc
  simp only at hclaim
  obtain rfl | rfl | hi : i = 0 ∨ i = 1 ∨ 2 ≤ i := by omega
  · obtain ⟨rfl, -⟩ := h.claim_zero hclaim
    exact h.turn_put hclaim
  · obtain ⟨rfl, -⟩ := h.claim_one hclaim
    exact h.turn_get hclaim
  · rw [h.claim_of_two_le hi] at hclaim
    cases hclaim

lemma initial : ({} : SchedulerState α).Scheduled where
  queue := .of_initial rfl
  others _ _ := rfl
  producer := rfl
  worker := rfl
  popPermits := rfl
  pushPermits := rfl
  pushed := rfl
  returned := rfl
  popped := rfl
  executed := rfl

/-- A step of the thread that pushes, in the queue. -/
lemma producer_moves (h : s.Scheduled) {q : QueueState α} {producer : ProducerPc α}
    {a : QueueAction α} (hstep : s.tasksQueue.step (0, a) = some q)
    (hhead : q.head = s.tasksQueue.head) (hreturned : q.returned = s.tasksQueue.returned)
    (hfits : producer.Fits q.tail (q.thread 0))
    (hunreleased : { s with tasksQueue := q, producer := producer }.unreleasedPush +
      s.tasksQueue.tail = s.unreleasedPush + q.tail)
    (hunclaimed : { s with tasksQueue := q, producer := producer }.unclaimedPush + q.tail =
      s.unclaimedPush + s.tasksQueue.tail)
    (hpushed : q.accepted ++ { s with tasksQueue := q, producer := producer }.pending =
      s.tasksQueue.accepted ++ s.pending) :
    Scheduled { s with tasksQueue := q, producer := producer } := by
  have hthread : ∀ i, i ≠ 0 → q.thread i = s.tasksQueue.thread i := fun i hi =>
    QueueState.thread_of_ne hstep hi
  have hone := hthread 1 (by decide)
  have hunclaimedPop : { s with tasksQueue := q, producer := producer }.unclaimedPop =
      s.unclaimedPop := by simp only [unclaimedPop, hone]
  have hunreleasedPop : { s with tasksQueue := q, producer := producer }.unreleasedPop =
      s.unreleasedPop := by simp only [unreleasedPop, hone]
  have hinHand : { s with tasksQueue := q, producer := producer }.inHand = s.inHand := by
    simp only [inHand, hone]
  have hpop := h.popPermits
  have hpush := h.pushPermits
  constructor
  · exact h.queue.step (h.inTurn _) hstep
  · intro i hi
    rw [hthread i (by omega)]
    exact h.others i hi
  · exact hfits
  · simp only [hone, hhead]
    exact h.worker
  · simp only [hunclaimedPop, hhead]
    omega
  · simp only [hunreleasedPop, hhead]
    omega
  · rw [hpushed]
    exact h.pushed
  · simp only [hreturned]
    exact h.returned
  · simp only [hreturned, hone, hhead]
    exact h.popped
  · simp only [hinHand, hreturned]
    exact h.executed

/-- A step of the worker, in the queue. -/
lemma worker_moves (h : s.Scheduled) {q : QueueState α} {worker : WorkerPc α}
    {a : QueueAction α} (hstep : s.tasksQueue.step (1, a) = some q)
    (htail : q.tail = s.tasksQueue.tail) (haccepted : q.accepted = s.tasksQueue.accepted)
    (hfits : worker.Fits q.head (q.thread 1))
    (hunclaimed : { s with tasksQueue := q, worker := worker }.unclaimedPop + q.head =
      s.unclaimedPop + s.tasksQueue.head)
    (hunreleased : { s with tasksQueue := q, worker := worker }.unreleasedPop +
      s.tasksQueue.head = s.unreleasedPop + q.head)
    (hreturned : q.returned.map Prod.fst = List.range q.returned.length)
    (hpopped : q.returned.length + (if (q.thread 1).claim.isSome then 1 else 0) = q.head)
    (hexecuted : s.executed ++ { s with tasksQueue := q, worker := worker }.inHand =
      q.returned.map Prod.snd) :
    Scheduled { s with tasksQueue := q, worker := worker } := by
  have hthread : ∀ i, i ≠ 1 → q.thread i = s.tasksQueue.thread i := fun i hi =>
    QueueState.thread_of_ne hstep hi
  have hzero := hthread 0 (by decide)
  have hunclaimedPush : { s with tasksQueue := q, worker := worker }.unclaimedPush =
      s.unclaimedPush := by simp only [unclaimedPush, hzero]
  have hunreleasedPush : { s with tasksQueue := q, worker := worker }.unreleasedPush =
      s.unreleasedPush := by simp only [unreleasedPush, hzero]
  have hpending : { s with tasksQueue := q, worker := worker }.pending = s.pending := by
    simp only [pending, hzero]
  have hpop := h.popPermits
  have hpush := h.pushPermits
  constructor
  · exact h.queue.step (h.inTurn _) hstep
  · intro i hi
    rw [hthread i (by omega)]
    exact h.others i hi
  · simp only [hzero, htail]
    exact h.producer
  · exact hfits
  · simp only [hunreleasedPush, htail]
    omega
  · simp only [hunclaimedPush, htail]
    omega
  · simp only [hpending, haccepted]
    exact h.pushed
  · exact hreturned
  · exact hpopped
  · exact hexecuted

/-- A step of the thread that pushes, at its semaphores. -/
lemma producer_waits (h : s.Scheduled) {producer : ProducerPc α} {popPermits pushPermits : ℕ}
    {pushed : List α} (hidle : s.tasksQueue.thread 0 = .idle)
    (hfits : producer.Fits s.tasksQueue.tail .idle)
    (hpop : popPermits + { s with producer := producer }.unreleasedPush =
      s.popPermits + s.unreleasedPush)
    (hpush : pushPermits + { s with producer := producer }.unclaimedPush =
      s.pushPermits + s.unclaimedPush)
    (hpushed : pushed = s.tasksQueue.accepted ++ { s with producer := producer }.pending) :
    Scheduled { s with
      producer := producer, popPermits := popPermits, pushPermits := pushPermits
      pushed := pushed } where
  queue := h.queue
  others := h.others
  producer := by rw [hidle]; exact hfits
  worker := h.worker
  popPermits := by
    have := h.popPermits
    change popPermits + s.unclaimedPop + s.tasksQueue.head +
      { s with producer := producer }.unreleasedPush = s.tasksQueue.tail
    omega
  pushPermits := by
    have := h.pushPermits
    change pushPermits + { s with producer := producer }.unclaimedPush + s.tasksQueue.tail +
      s.unreleasedPop = maxTasks + s.tasksQueue.head
    omega
  pushed := hpushed
  returned := h.returned
  popped := h.popped
  executed := h.executed

/-- A step of the worker, outside the queue. -/
lemma worker_waits (h : s.Scheduled) {worker : WorkerPc α} {popPermits pushPermits : ℕ}
    {executed : List α} (hidle : s.tasksQueue.thread 1 = .idle)
    (hfits : worker.Fits s.tasksQueue.head .idle)
    (hpop : popPermits + { s with worker := worker }.unclaimedPop = s.popPermits + s.unclaimedPop)
    (hpush : pushPermits + { s with worker := worker }.unreleasedPop =
      s.pushPermits + s.unreleasedPop)
    (hexecuted : executed ++ { s with worker := worker }.inHand = s.executed ++ s.inHand) :
    Scheduled { s with
      worker := worker, popPermits := popPermits, pushPermits := pushPermits
      executed := executed } where
  queue := h.queue
  others := h.others
  producer := h.producer
  worker := by rw [hidle]; exact hfits
  popPermits := by
    have := h.popPermits
    change popPermits + { s with worker := worker }.unclaimedPop + s.tasksQueue.head +
      s.unreleasedPush = s.tasksQueue.tail
    omega
  pushPermits := by
    have := h.pushPermits
    change pushPermits + s.unclaimedPush + s.tasksQueue.tail +
      { s with worker := worker }.unreleasedPop = maxTasks + s.tasksQueue.head
    omega
  pushed := h.pushed
  returned := h.returned
  popped := h.popped
  executed := hexecuted.trans h.executed

/-- A step of `try_push`: it finds room, and its slot empty. -/
lemma inTryPush (h : s.Scheduled) (hproducer : s.producer = .inTryPush)
    (hstep : s.producerStep = some s') : s'.Scheduled := by
  obtain ⟨tasksQueue, popPermits, pushPermits, producer, worker, pushed, executed⟩ := s
  obtain rfl : producer = .inTryPush := hproducer
  have hfits := h.producer
  have hpop := h.popPermits
  have hpush := h.pushPermits
  cases hpc : tasksQueue.thread 0 <;> simp only [hpc, ProducerPc.Fits] at hfits <;>
    simp only [SchedulerState.producerStep, hpc, queueStep] at hstep <;>
    obtain ⟨q, hq, rfl⟩ := Option.map_eq_some_iff.1 hstep <;> have hq' := hq <;>
    simp only [QueueState.step, QueueState.next, hpc] at hq
  case pushLoadTail task =>
    obtain rfl := Option.some.inj hq
    refine h.producer_moves hq' rfl rfl ?_ ?_ ?_ ?_ <;>
      simp [QueueState.goto, ProducerPc.Fits, unreleasedPush, unclaimedPush, pending,
        QueuePc.unclaimed, hpc]
  case pushLoadHead task t =>
    subst hfits
    split_ifs at hq with hfull
    · -- with the permit that it holds there is room
      have hge := sub_ge_of_looksFull (by simp only at hpop; omega) hfull
      simp [unclaimedPush, unreleasedPush, hpc, QueuePc.unclaimed] at hpush hpop
      simp only [ringBufferSize, maxTasks] at hge hpush
      omega
    · obtain rfl := Option.some.inj hq
      refine h.producer_moves hq' rfl rfl ?_ ?_ ?_ ?_ <;>
        simp [QueueState.goto, ProducerPc.Fits, unreleasedPush, unclaimedPush, pending,
          QueuePc.unclaimed, hpc]
  case pushClaim task t =>
    subst hfits
    rw [if_pos (sameCounter_self _)] at hq
    obtain rfl := Option.some.inj hq
    refine h.producer_moves hq' rfl rfl ?_ ?_ ?_ ?_ <;>
      simp [QueueState.claimTail, ProducerPc.Fits, unreleasedPush, unclaimedPush, pending,
        QueuePc.unclaimed, hpc] <;> omega
  case pushWait task t =>
    split_ifs at hq with hflag
    obtain rfl := Option.some.inj hq
    refine h.producer_moves hq' rfl rfl ?_ ?_ ?_ ?_ <;>
      simp [QueueState.goto, ProducerPc.Fits, unreleasedPush, unclaimedPush, pending,
        QueuePc.unclaimed, hpc, hfits]
  case pushCheck task t =>
    split_ifs at hq with hflag
    all_goals
      obtain rfl := Option.some.inj hq
      refine h.producer_moves hq' rfl rfl ?_ ?_ ?_ ?_ <;>
        simp [QueueState.goto, QueueState.touch, ProducerPc.Fits, unreleasedPush, unclaimedPush,
          pending, QueuePc.unclaimed, hpc, hfits]
  case pushed accepted =>
    obtain rfl := Option.some.inj hq
    refine h.producer_moves hq' rfl rfl ?_ ?_ ?_ ?_ <;>
      simp [QueueState.goto, ProducerPc.Fits, unreleasedPush, unclaimedPush, pending,
        QueuePc.unclaimed, hpc]
  all_goals
    obtain rfl := Option.some.inj hq
    refine h.producer_moves hq' rfl rfl ?_ ?_ ?_ ?_ <;>
      simp [QueueState.touch, ProducerPc.Fits, unreleasedPush, unclaimedPush, pending,
        QueuePc.unclaimed, hpc, hfits]

lemma producerStep (h : s.Scheduled) (hstep : s.producerStep = some s') : s'.Scheduled := by
  have hfits := h.producer
  cases hproducer : s.producer with
  | idle => simp [SchedulerState.producerStep, hproducer] at hstep
  | acquire task =>
    simp only [SchedulerState.producerStep, hproducer] at hstep
    split_ifs at hstep with hpos
    obtain rfl := Option.some.inj hstep
    rw [hproducer] at hfits
    refine h.producer_waits hfits rfl ?_ ?_ ?_
    · simp [unreleasedPush, hproducer]
    · simp [unclaimedPush, hproducer]
      omega
    · simp [h.pushed, pending, hproducer]
  | callTryPush task =>
    simp only [SchedulerState.producerStep, hproducer] at hstep
    obtain ⟨q, hq, rfl⟩ := Option.map_eq_some_iff.1 hstep
    rw [hproducer] at hfits
    have hidle : s.tasksQueue.thread 0 = .idle := hfits
    obtain rfl : s.tasksQueue.goto 0 (.pushLoadTail task) = q := by
      simpa [QueueState.step, hidle] using hq
    refine h.producer_moves hq rfl rfl ?_ ?_ ?_ ?_
    · simp [QueueState.goto, ProducerPc.Fits]
    · simp [unreleasedPush, hproducer, QueueState.goto, QueuePc.unclaimed]
    · simp [unclaimedPush, hproducer, QueueState.goto, QueuePc.unclaimed]
    · simp [pending, hproducer, QueueState.goto]
  | inTryPush => exact h.inTryPush hproducer hstep
  | release =>
    simp only [SchedulerState.producerStep, hproducer] at hstep
    obtain rfl := Option.some.inj hstep
    rw [hproducer] at hfits
    refine h.producer_waits hfits rfl ?_ ?_ ?_
    · simp [unreleasedPush, hproducer]
    · simp [unclaimedPush, hproducer]
    · simp [h.pushed, pending, hproducer]

/-- A step of `try_pop`: it finds a task, and its slot full. -/
lemma inTryPop (h : s.Scheduled) (hworker : s.worker = .inTryPop)
    (hstep : s.workerStep = some s') : s'.Scheduled := by
  obtain ⟨tasksQueue, popPermits, pushPermits, producer, worker, pushed, executed⟩ := s
  obtain rfl : worker = .inTryPop := hworker
  have hfits := h.worker
  have hpop := h.popPermits
  have hpush := h.pushPermits
  have hreturned := h.returned
  have hpopped := h.popped
  have hexecuted := h.executed
  cases hpc : tasksQueue.thread 1 <;> simp only [hpc, WorkerPc.Fits] at hfits
  case popped result =>
    obtain ⟨data, rfl⟩ := Option.isSome_iff_exists.1 hfits
    simp only [SchedulerState.workerStep, hpc, queueStep] at hstep
    obtain ⟨q, hq, rfl⟩ := Option.map_eq_some_iff.1 hstep
    have hq' := hq
    simp only [QueueState.step, hpc] at hq
    obtain rfl := Option.some.inj hq
    simp only [hpc, QueuePc.claim, inHand] at hpopped hexecuted
    refine h.worker_moves hq' rfl rfl ?_ ?_ ?_ hreturned ?_ ?_ <;>
      simp [QueueState.goto, WorkerPc.Fits, unreleasedPop, unclaimedPop, inHand, QueuePc.claim,
        QueuePc.unclaimed, hpc]
    · simpa using hpopped
    · simpa using hexecuted
  all_goals
    simp only [SchedulerState.workerStep, hpc, queueStep] at hstep
    obtain ⟨q, hq, rfl⟩ := Option.map_eq_some_iff.1 hstep
    have hq' := hq
    simp only [QueueState.step, QueueState.next, hpc] at hq
  case popLoadTail t =>
    subst hfits
    split_ifs at hq with hsame
    · -- the permit that it holds is one for a task that is there
      simp [unclaimedPop, unreleasedPop, hpc, QueuePc.unclaimed] at hpush hpop
      simp only [SameCounter, maxTasks] at hsame hpush
      omega
    · obtain rfl := Option.some.inj hq
      simp only [hpc, QueuePc.claim, inHand] at hpopped hexecuted
      refine h.worker_moves hq' rfl rfl ?_ ?_ ?_ hreturned ?_ ?_ <;>
        simp [QueueState.goto, WorkerPc.Fits, unreleasedPop, unclaimedPop, inHand, QueuePc.claim,
          QueuePc.unclaimed, hpc]
      · simpa using hpopped
      · simpa using hexecuted
  case popClaim t =>
    subst hfits
    rw [if_pos (sameCounter_self _)] at hq
    obtain rfl := Option.some.inj hq
    simp only [hpc, QueuePc.claim, inHand] at hpopped hexecuted
    refine h.worker_moves hq' rfl rfl ?_ ?_ ?_ hreturned ?_ ?_ <;>
      simp [QueueState.claimHead, WorkerPc.Fits, unreleasedPop, unclaimedPop, inHand,
        QueuePc.claim, QueuePc.unclaimed, hpc]
    · omega
    · omega
    · simpa using hpopped
    · simpa using hexecuted
  case popClearAgain t data =>
    obtain rfl := Option.some.inj hq
    have hdata := h.sound.threads 1
    simp only [hpc, QueuePc.Fits] at hdata
    simp only [hpc, QueuePc.claim, inHand, Option.isSome_some, if_true, List.append_nil]
      at hpopped hexecuted
    have hnext : data.1 = tasksQueue.returned.length := by omega
    refine h.worker_moves hq' rfl rfl ?_ ?_ ?_ ?_ ?_ ?_
    · simp [QueueState.touch, WorkerPc.Fits]
    · simp [QueueState.touch, unclaimedPop, QueuePc.unclaimed, hpc]
    · simp [QueueState.touch, unreleasedPop, QueuePc.unclaimed, hpc]
    · simp [List.range_succ, hreturned, hnext]
    · simpa [QueueState.touch, QueuePc.claim] using hpopped
    · simp [QueueState.touch, inHand, hexecuted]
  case popLoadHead =>
    obtain rfl := Option.some.inj hq
    simp only [hpc, QueuePc.claim, inHand] at hpopped hexecuted
    refine h.worker_moves hq' rfl rfl ?_ ?_ ?_ hreturned ?_ ?_ <;>
      simp [QueueState.goto, WorkerPc.Fits, unreleasedPop, unclaimedPop, inHand,
        QueuePc.claim, QueuePc.unclaimed, hpc]
    · simpa using hpopped
    · simpa using hexecuted
  all_goals try split at hq
  all_goals first
    | contradiction
    | obtain rfl := Option.some.inj hq
      simp only [hpc, QueuePc.claim, inHand] at hpopped hexecuted
      refine h.worker_moves hq' rfl rfl ?_ ?_ ?_ hreturned ?_ ?_ <;>
        simp [QueueState.goto, QueueState.touch, WorkerPc.Fits, unreleasedPop, unclaimedPop,
          inHand, QueuePc.claim, QueuePc.unclaimed, hpc, hfits]
      · simpa using hpopped
      · simpa using hexecuted

lemma workerStep (h : s.Scheduled) (hstep : s.workerStep = some s') : s'.Scheduled := by
  have hfits := h.worker
  cases hworker : s.worker with
  | acquire =>
    simp only [SchedulerState.workerStep, hworker] at hstep
    split_ifs at hstep with hpos
    obtain rfl := Option.some.inj hstep
    rw [hworker] at hfits
    refine h.worker_waits hfits rfl ?_ ?_ ?_
    · simp [unclaimedPop, hworker]
      omega
    · simp [unreleasedPop, hworker]
    · simp [inHand, hworker]
  | callTryPop =>
    simp only [SchedulerState.workerStep, hworker] at hstep
    obtain ⟨q, hq, rfl⟩ := Option.map_eq_some_iff.1 hstep
    rw [hworker] at hfits
    have hidle : s.tasksQueue.thread 1 = .idle := hfits
    obtain rfl : s.tasksQueue.goto 1 .popLoadHead = q := by
      simpa [QueueState.step, hidle] using hq
    have hpopped := h.popped
    have hexecuted := h.executed
    simp only [hidle, QueuePc.claim, inHand, hworker] at hpopped hexecuted
    refine h.worker_moves hq rfl rfl ?_ ?_ ?_ h.returned ?_ ?_
    · simp [QueueState.goto, WorkerPc.Fits]
    · simp [unclaimedPop, hworker, QueueState.goto, QueuePc.unclaimed]
    · simp [unreleasedPop, hworker, QueueState.goto, QueuePc.unclaimed]
    · simpa [QueueState.goto, QueuePc.claim] using hpopped
    · simpa [inHand, QueueState.goto] using hexecuted
  | inTryPop => exact h.inTryPop hworker hstep
  | releasePush task =>
    simp only [SchedulerState.workerStep, hworker] at hstep
    obtain rfl := Option.some.inj hstep
    rw [hworker] at hfits
    refine h.worker_waits hfits rfl ?_ ?_ ?_
    · simp [unclaimedPop, hworker]
    · simp [unreleasedPop, hworker]
    · simp [inHand, hworker]
  | releasePop =>
    rw [hworker] at hfits
    exact hfits.elim
  | execute task =>
    simp only [SchedulerState.workerStep, hworker] at hstep
    obtain rfl := Option.some.inj hstep
    rw [hworker] at hfits
    refine h.worker_waits hfits rfl ?_ ?_ ?_
    · simp [unclaimedPop, hworker]
    · simp [unreleasedPop, hworker]
    · simp [inHand, hworker]

lemma step {a : SchedulerAction α} (h : s.Scheduled) (hstep : s.step a = some s') :
    s'.Scheduled := by
  cases a with
  | producer => exact h.producerStep hstep
  | worker => exact h.workerStep hstep
  | pushTask task =>
    have hfits := h.producer
    cases hproducer : s.producer <;>
      simp only [SchedulerState.step, hproducer, reduceCtorEq] at hstep
    obtain rfl := Option.some.inj hstep
    rw [hproducer] at hfits
    refine h.producer_waits hfits rfl ?_ ?_ ?_
    · simp [unreleasedPush, hproducer]
    · simp [unclaimedPush, hproducer]
    · simp [h.pushed, pending, hproducer]

end Scheduled

/-- In every state of every run. -/
lemma scheduled_of_reachable {s : SchedulerState α}
    (h : (schedulerSystem α).Reachable System.anyStep s) : s.Scheduled := by
  refine h.invariant (fun s hs => ?_) fun s a s' _ hs _ hstep => hs.step hstep
  obtain rfl := hs
  exact .initial

/-! ### The hand-off -/

/-- Values that are listed with their positions are listed from the start. -/
lemma prefix_of_positions {xs : List α} {ys : List (ℕ × α)}
    (hpositions : ys.map Prod.fst = List.range ys.length)
    (h : ∀ y ∈ ys, xs[y.1]? = some y.2) : ys.map Prod.snd <+: xs := by
  rw [List.prefix_iff_getElem?]
  intro n hn
  have hlt : n < ys.length := by simpa using hn
  have hposition : ys[n].1 = n := by
    have := congrArg (·[n]?) hpositions
    simpa [hlt] using this
  have hvalue := h ys[n] (List.getElem_mem hlt)
  simpa [hposition] using hvalue

/-- The worker has a permit and is on its way through `try_pop`. -/
def Obtaining (s : SchedulerState α) : Prop := s.worker = .callTryPop ∨ s.worker = .inTryPop

/-- A worker with a permit has something to do. -/
lemma Scheduled.worker_goes_on {s : SchedulerState α} (h : s.Scheduled) (hs : s.Obtaining) :
    (s.step .worker).isSome = true := by
  have hfits := h.worker
  rcases hs with hworker | hworker <;> rw [hworker] at hfits
  · have hidle : s.tasksQueue.thread 1 = .idle := hfits
    simp [SchedulerState.step, SchedulerState.workerStep, hworker, queueStep, QueueState.step,
      hidle]
  have hflag : ∀ t, (s.tasksQueue.thread 1).claim = some { side := .get, ticket := t } →
      (s.tasksQueue.slotOf t).isInitialized = true := fun t hclaim =>
    (h.sound.slot_full (h.turn_get hclaim)).1
  have hthread := h.sound.threads 1
  cases hpc : s.tasksQueue.thread 1 <;> simp only [hpc, WorkerPc.Fits] at hfits <;>
    simp only [SchedulerState.step, SchedulerState.workerStep, hworker, hpc, queueStep,
      QueueState.step, QueueState.next, Option.isSome_map]
  case popWait t =>
    rw [hflag t (by rw [hpc]; rfl)]
    rfl
  case popTake t =>
    rw [hpc] at hthread
    obtain ⟨-, -, x, hobject, -⟩ := hthread
    rw [QueueState.slotOf, hobject]
    rfl
  case popped result =>
    obtain ⟨data, rfl⟩ := Option.isSome_iff_exists.1 hfits
    simp
  all_goals first
    | rfl
    | split_ifs <;> rfl

/-- How many steps the worker has to take until it has only to leave `try_pop`. -/
def popSteps (s : SchedulerState α) : ℕ :=
  match s.worker with
  | .callTryPop => 9
  | .inTryPop => match s.tasksQueue.thread 1 with
    | .popLoadHead => 8
    | .popLoadTail _ => 7
    | .popClaim _ => 6
    | .popWait _ => 5
    | .popCheck _ => 4
    | .popTake _ => 3
    | .popClear _ _ => 2
    | .popClearAgain _ _ => 1
    | _ => 0
  | _ => 0

lemma popSteps_le (s : SchedulerState α) : s.popSteps ≤ 9 := by
  rw [popSteps]
  split
  · exact le_rfl
  · split <;> decide
  · decide

/-- The worker gets ahead with each of its steps, as it is never the turn of another pop. -/
lemma Scheduled.worker_advances {s s' : SchedulerState α} (h : s.Scheduled) (hs : s.Obtaining)
    (hstep : s.workerStep = some s') :
    (∃ task, s'.worker = .releasePush task) ∨ s'.Obtaining ∧ s'.popSteps + 1 ≤ s.popSteps := by
  have hfits := h.worker
  have hpop := h.popPermits
  have hpush := h.pushPermits
  rcases hs with hworker | hworker <;> rw [hworker] at hfits
  · have hidle : s.tasksQueue.thread 1 = .idle := hfits
    simp only [SchedulerState.workerStep, hworker, queueStep, QueueState.step, hidle,
      Option.map_some, Option.some.injEq] at hstep
    subst hstep
    exact .inr ⟨.inr rfl, by simp [popSteps, hworker, QueueState.goto]⟩
  have hflag : ∀ t, (s.tasksQueue.thread 1).claim = some { side := .get, ticket := t } →
      (s.tasksQueue.slotOf t).isInitialized = true := fun t hclaim =>
    (h.sound.slot_full (h.turn_get hclaim)).1
  cases hpc : s.tasksQueue.thread 1 <;> simp only [hpc, WorkerPc.Fits] at hfits
  case popped result =>
    obtain ⟨data, rfl⟩ := Option.isSome_iff_exists.1 hfits
    simp only [SchedulerState.workerStep, hworker, hpc, queueStep] at hstep
    obtain ⟨q, -, rfl⟩ := Option.map_eq_some_iff.1 hstep
    exact .inl ⟨data.2, rfl⟩
  all_goals
    right
    simp only [SchedulerState.workerStep, hworker, hpc, queueStep, QueueState.step,
      QueueState.next] at hstep
    obtain ⟨q, hq, rfl⟩ := Option.map_eq_some_iff.1 hstep
    refine ⟨.inr rfl, ?_⟩
  case popLoadTail t =>
    subst hfits
    split_ifs at hq with hsame
    · -- there is a task for the permit
      simp [unclaimedPop, unreleasedPop, hworker, hpc, QueuePc.unclaimed] at hpush hpop
      simp only [SameCounter, maxTasks] at hsame hpush
      omega
    · obtain rfl := Option.some.inj hq
      simp [popSteps, hworker, hpc, QueueState.goto]
  case popClaim t =>
    rw [if_pos (hfits ▸ sameCounter_self _)] at hq
    obtain rfl := Option.some.inj hq
    simp [popSteps, hworker, hpc, QueueState.claimHead]
  case popWait t =>
    rw [if_pos (hflag t (by rw [hpc]; rfl))] at hq
    obtain rfl := Option.some.inj hq
    simp [popSteps, hworker, hpc, QueueState.goto]
  case popCheck t =>
    rw [if_pos (hflag t (by rw [hpc]; rfl))] at hq
    obtain rfl := Option.some.inj hq
    simp [popSteps, hworker, hpc, QueueState.touch]
  case popTake t =>
    split at hq
    · obtain rfl := Option.some.inj hq
      simp [popSteps, hworker, hpc, QueueState.touch]
    · cases hq
  all_goals
    obtain rfl := Option.some.inj hq
    simp [popSteps, hworker, hpc, QueueState.goto, QueueState.touch]

/-- The other thread leaves the worker where it is. -/
lemma producerStep_worker {s s' : SchedulerState α} (hstep : s.producerStep = some s') :
    s'.worker = s.worker ∧ s'.tasksQueue.thread 1 = s.tasksQueue.thread 1 := by
  have hqueue : ∀ (t : SchedulerState α) (a : QueueAction α), t.worker = s.worker →
      t.tasksQueue = s.tasksQueue → t.queueStep (0, a) = some s' →
        s'.worker = s.worker ∧ s'.tasksQueue.thread 1 = s.tasksQueue.thread 1 := by
    intro t a hworker htasks ht
    obtain ⟨q, hq, rfl⟩ := Option.map_eq_some_iff.1 ht
    rw [htasks] at hq
    exact ⟨hworker, QueueState.thread_of_ne hq Nat.one_ne_zero⟩
  cases hproducer : s.producer with
  | idle => simp [SchedulerState.producerStep, hproducer] at hstep
  | acquire task =>
    simp only [SchedulerState.producerStep, hproducer] at hstep
    split_ifs at hstep
    obtain rfl := Option.some.inj hstep
    exact ⟨rfl, rfl⟩
  | callTryPush task =>
    simp only [SchedulerState.producerStep, hproducer] at hstep
    exact hqueue { s with producer := .inTryPush } _ rfl rfl hstep
  | inTryPush =>
    simp only [SchedulerState.producerStep, hproducer] at hstep
    split at hstep
    · exact hqueue { s with producer := .release } _ rfl rfl hstep
    · exact hqueue s _ rfl rfl hstep
  | release =>
    simp only [SchedulerState.producerStep, hproducer] at hstep
    obtain rfl := Option.some.inj hstep
    exact ⟨rfl, rfl⟩

lemma Obtaining.of_eq {s s' : SchedulerState α} (h : s.Obtaining) (hworker : s'.worker = s.worker)
    (hthread : s'.tasksQueue.thread 1 = s.tasksQueue.thread 1) :
    s'.Obtaining ∧ s'.popSteps = s.popSteps := by
  rw [Obtaining, popSteps, popSteps, hworker, hthread]
  exact ⟨h, rfl⟩

/-- The steps of the other thread do not set the worker back. -/
lemma Scheduled.approaches : (schedulerSystem α).Approaches System.anyStep SchedulerAction.isWorker
    (fun s => s.Scheduled ∧ s.Obtaining) popSteps
    fun s => ∃ task, s.worker = .releasePush task where
  step s a s' hs _ hstep := by
    obtain ⟨h, hobtaining⟩ := hs
    have hs' := h.step hstep
    cases a with
    | worker =>
      rcases h.worker_advances hobtaining hstep with hgoal | ⟨hobtaining', hle⟩
      · exact .inl hgoal
      · exact .inr ⟨⟨hs', hobtaining'⟩, hle⟩
    | pushTask task =>
      simp only [schedulerSystem, SchedulerState.step] at hstep
      split at hstep
      · obtain rfl := Option.some.inj hstep
        obtain ⟨hobtaining', heq⟩ := @Obtaining.of_eq _ s _ hobtaining rfl rfl
        exact .inr ⟨⟨hs', hobtaining'⟩, heq.le⟩
      · cases hstep
    | producer =>
      obtain ⟨hworker, hthread⟩ := producerStep_worker hstep
      obtain ⟨hobtaining', heq⟩ := hobtaining.of_eq hworker hthread
      exact .inr ⟨⟨hs', hobtaining'⟩, heq.le⟩

/-- The hand-off of tasks. -/
structure HandsOff (s : SchedulerState α) : Prop where
  /-- `try_push` does not refuse. -/
  accepts : s.tasksQueue.thread 0 ≠ .pushed false
  /-- Nor does it wait for its slot to be emptied. -/
  finds_empty : ∀ x t, s.tasksQueue.thread 0 = .pushWait x t ∨
    s.tasksQueue.thread 0 = .pushCheck x t → (s.tasksQueue.slotOf t).isInitialized = false
  /-- A worker with a permit is not kept from going on in `try_pop`, -/
  goes_on : s.Obtaining → (s.step .worker).isSome = true
  /-- it does not come out of it without a task, -/
  not_none : s.tasksQueue.thread 1 ≠ .popped none ∧ s.worker ≠ .releasePop
  /-- and with 10 steps of its own, whatever the other thread does between them, it comes out of it
  with one. -/
  obtains : s.Obtaining → ∀ as s', (schedulerSystem α).run s as = some s' →
    10 ≤ as.countP SchedulerAction.isWorker → ∃ as₁ as₂ s₁ task, as = as₁ ++ as₂ ∧
      (schedulerSystem α).run s as₁ = some s₁ ∧ s₁.worker = .releasePush task
  executed : s.executed <+: s.pushed
  permits : s.pushPermits + s.inFlight = maxTasks

/-- In every state that any order of the steps of the two threads leads to. -/
theorem scheduler_handsOff (s : SchedulerState α)
    (h : (schedulerSystem α).Reachable System.anyStep s) : s.HandsOff := by
  have hs := scheduled_of_reachable h
  have hproducer := hs.producer
  have hworker := hs.worker
  constructor
  · intro hpc
    rw [hpc] at hproducer
    cases hp : s.producer <;> simp [hp, ProducerPc.Fits] at hproducer
  · intro x t hpc
    have hclaim : (s.tasksQueue.thread 0).claim = some { side := .put, ticket := t } := by
      rcases hpc with hpc | hpc <;> rw [hpc] <;> rfl
    exact (hs.sound.slot_empty (hs.turn_put hclaim)).1
  · exact hs.worker_goes_on
  · constructor
    · intro hpc
      rw [hpc] at hworker
      cases hw : s.worker <;> simp [hw, WorkerPc.Fits] at hworker
    · intro hw
      rw [hw] at hworker
      exact hworker
  · intro hobtaining as s' hrun hmany
    have hmeets : (schedulerSystem α).Meets System.anyStep s as :=
      System.meets_of_labels (G := fun _ => True) fun _ _ => trivial
    have hlt : s.popSteps < as.countP SchedulerAction.isWorker := s.popSteps_le.trans_lt hmany
    obtain ⟨as₁, as₂, s₁, has, hrun₁, task, htask⟩ :=
      Scheduled.approaches.run ⟨hs, hobtaining⟩ hmeets hrun hlt
    exact ⟨as₁, as₂, s₁, task, has, hrun₁, htask⟩
  · have hpopped : s.tasksQueue.returned.map Prod.snd <+: s.tasksQueue.accepted :=
      prefix_of_positions hs.returned fun data hdata => (hs.sound.ledger.returned data hdata).1
    calc s.executed <+: s.executed ++ s.inHand := List.prefix_append _ _
      _ = s.tasksQueue.returned.map Prod.snd := hs.executed
      _ <+: s.tasksQueue.accepted := hpopped
      _ <+: s.tasksQueue.accepted ++ s.pending := List.prefix_append _ _
      _ = s.pushed := hs.pushed.symm
  · have hpush := hs.pushPermits
    have hpop := hs.popPermits
    rw [inFlight]
    omega

/-- One task has been executed, and the worker has a permit for another one, which is in its slot
already. -/
theorem scheduler_handsOff_one : ∃ s : SchedulerState ℕ,
    (schedulerSystem ℕ).Reachable System.anyStep s ∧ s.executed = [7] ∧ s.pushed = [7, 8] ∧
      s.worker = .callTryPop ∧ s.HandsOff := by
  let labels : List (SchedulerAction ℕ) :=
    .pushTask 7 :: List.replicate 11 .producer ++ List.replicate 13 .worker ++
      .pushTask 8 :: List.replicate 11 .producer ++ [.worker]
  obtain ⟨s, hrun, hexecuted, hpushed, hworker⟩ : ∃ s, (schedulerSystem ℕ).run {} labels = some s ∧
      s.executed = [7] ∧ s.pushed = [7, 8] ∧ s.worker = .callTryPop := ⟨_, rfl, rfl, rfl, rfl⟩
  have hreach : (schedulerSystem ℕ).Reachable System.anyStep s :=
    (System.Reachable.of_initial rfl).run
      (System.meets_of_labels (G := fun _ => True) fun _ _ => trivial) hrun
  exact ⟨s, hreach, hexecuted, hpushed, hworker, scheduler_handsOff s hreach⟩

end SchedulerState

end BattleShips
