import BattleShips.Core.AtomicQueueSteps

/-!
# The scheduler, step by step

`push_task` and `worker_loop` of `core/scheduler.h` and `core/scheduler.cpp`: one thread hands tasks
to one worker over `tasks_queue_`, between the two semaphores. The operations of the semaphores are
single steps, which wait for a permit where they acquire one, and those of the queue are its own
steps, with the one thread as its thread 0 and the worker as its thread 1.
-/

namespace BattleShips

/-- `push_task_semaphore_{4095}`. -/
abbrev maxTasks : ℕ := 4095

/-- Where the thread that pushes tasks is. -/
inductive ProducerPc (α : Type*)
  | idle
  /-- `push_task_semaphore_.acquire()`. -/
  | acquire (task : α)
  | callTryPush (task : α)
  | inTryPush
  /-- `pop_task_semaphore_.release()`. -/
  | release

/-- Where the worker is. -/
inductive WorkerPc (α : Type*)
  /-- `pop_task_semaphore_.acquire()`. -/
  | acquire
  | callTryPop
  | inTryPop
  /-- `push_task_semaphore_.release()`. -/
  | releasePush (task : α)
  /-- `pop_task_semaphore_.release()`, without a task. -/
  | releasePop
  | execute (task : α)

structure SchedulerState (α : Type*) where
  tasksQueue : QueueState α := {}
  popPermits : ℕ := 0
  pushPermits : ℕ := maxTasks
  producer : ProducerPc α := .idle
  worker : WorkerPc α := .acquire
  pushed : List α := []
  executed : List α := []

/-- A task is pushed, or one of the two threads takes a step. -/
inductive SchedulerAction (α : Type*)
  | pushTask (task : α)
  | producer
  | worker

/-- A step of the worker. -/
def SchedulerAction.isWorker {α : Type*} : SchedulerAction α → Bool
  | .worker => true
  | .pushTask _ | .producer => false

namespace SchedulerState

variable {α : Type*}

/-- A step in `tasks_queue_`, after which the rest of the state is that of `s`. -/
def queueStep (s : SchedulerState α) (a : ℕ × QueueAction α) : Option (SchedulerState α) :=
  (s.tasksQueue.step a).map fun q => { s with tasksQueue := q }

/-- `push_task`. What `try_push` returns is ignored. -/
def producerStep (s : SchedulerState α) : Option (SchedulerState α) :=
  match s.producer with
  | .idle => none
  | .acquire task =>
    if 0 < s.pushPermits then
      some { s with pushPermits := s.pushPermits - 1, producer := .callTryPush task }
    else none
  | .callTryPush task => { s with producer := .inTryPush }.queueStep (0, .push task)
  | .inTryPush => match s.tasksQueue.thread 0 with
    | .pushed _ => { s with producer := .release }.queueStep (0, .leave)
    | _ => s.queueStep (0, .next)
  | .release => some { s with popPermits := s.popPermits + 1, producer := .idle }

/-- `worker_loop`, with `try_get_task` in it. -/
def workerStep (s : SchedulerState α) : Option (SchedulerState α) :=
  match s.worker with
  | .acquire =>
    if 0 < s.popPermits then
      some { s with popPermits := s.popPermits - 1, worker := .callTryPop }
    else none
  | .callTryPop => { s with worker := .inTryPop }.queueStep (1, .pop)
  | .inTryPop => match s.tasksQueue.thread 1 with
    | .popped (some data) => { s with worker := .releasePush data.2 }.queueStep (1, .leave)
    | .popped none => { s with worker := .releasePop }.queueStep (1, .leave)
    | _ => s.queueStep (1, .next)
  | .releasePush task => some { s with pushPermits := s.pushPermits + 1, worker := .execute task }
  | .releasePop => some { s with popPermits := s.popPermits + 1, worker := .acquire }
  | .execute task => some { s with executed := s.executed ++ [task], worker := .acquire }

def step (s : SchedulerState α) : SchedulerAction α → Option (SchedulerState α)
  | .pushTask task => match s.producer with
    | .idle => some { s with pushed := s.pushed ++ [task], producer := .acquire task }
    | _ => none
  | .producer => s.producerStep
  | .worker => s.workerStep

end SchedulerState

/-- One thread that pushes tasks and one worker. -/
def schedulerSystem (α : Type*) : System (SchedulerState α) (SchedulerAction α) where
  initial s := s = {}
  step := SchedulerState.step

end BattleShips
