import BattleShips.Core.AtomicQueue
import BattleShips.Core.SchedulerSteps
import BattleShips.Net.SocketHandler

/-!
# From events and lines to tasks

The threads of a client: the event loop (`NetworkEngine::process_events`) and the console
(`ConsoleHandler::run`) put what they have into a queue of their own and then a tag into
`available_task_tags_`. `Scheduler::coroutine_loop` takes a tag and resumes the coroutine that has
it, `network_co` or `console_co`, which makes the next item of its queue a task. A call of a queue
is one step.
-/

namespace BattleShips

/-- `task_tag_e`. -/
inductive TaskTag
  | scheduler
  | network
  | console
  deriving DecidableEq

/-- `Task::ContextVariant`. -/
inductive TaskContext
  | slot (slot : ℕ)
  | line (userCmd : Bytes)
  deriving DecidableEq

structure Task where
  tag : TaskTag
  context : TaskContext
  deriving DecidableEq

/-- The slot of a network task. -/
def Task.slot? : Task → Option ℕ
  | ⟨.network, .slot slot⟩ => some slot
  | _ => none

/-- The line of a console task. -/
def Task.line? : Task → Option Bytes
  | ⟨.console, .line userCmd⟩ => some userCmd
  | _ => none

namespace AtomicQueue

variable {α : Type*}

/-- The queue after a `try_push` whose result is ignored, unless the call does not return yet. -/
def afterPush (q : AtomicQueue α) (x : α) : Option (AtomicQueue α) :=
  match q.tryPush x with
  | .accepted q' => some q'
  | .refused => some q
  | .waiting => none

/-- What `try_push` tests. -/
def LooksFull (q : AtomicQueue α) : Prop := looksFull q.tail q.head

instance (q : AtomicQueue α) : Decidable q.LooksFull :=
  inferInstanceAs (Decidable (looksFull _ _))

lemma afterPush_of_not_looksFull {q q' : AtomicQueue α} {x : α} (h : q.afterPush x = some q')
    (hfull : ¬ q.LooksFull) : q' = { q with items := q.items ++ [x] } := by
  rw [LooksFull] at hfull
  rw [afterPush, tryPush, if_neg hfull] at h
  split_ifs at h
  exact (Option.some.inj h).symm

lemma afterPush_of_lt {q : AtomicQueue α} (h : q.items.length < ringBufferSize - 1) (x : α) :
    q.afterPush x = some { q with items := q.items ++ [x] } := by
  rw [afterPush, tryPush_of_lt h]

end AtomicQueue

/-- A queue of raw tasks, and the producer that fills it. -/
structure Source (α : Type) where
  rawTasks : AtomicQueue α := {}
  /-- The producer is between its two pushes. -/
  tagging : Bool := false
  /-- What it has had to push so far. -/
  produced : List α := []

/-- The first of the two pushes. -/
def Source.push {α : Type} (source : Source α) (x : α) : Option (Source α) :=
  if source.tagging then none
  else (source.rawTasks.afterPush x).map fun q =>
    { rawTasks := q, tagging := true, produced := source.produced ++ [x] }

/-- Where the thread of `coroutine_loop` is. -/
inductive CoroutinePc
  | waitForData
  | tryPop
  /-- `handle.resume()`, for the coroutine with the tag. -/
  | resume (tag : TaskTag)
  /-- `push_task`: `push_task_semaphore_.acquire()`. -/
  | acquire (task : Task)
  | pushTask (task : Task)
  /-- `pop_task_semaphore_.release()`, and `co_await yield_to_scheduler()`. -/
  | release
  deriving DecidableEq

/-- Where the worker is. -/
inductive TaskWorkerPc
  /-- `pop_task_semaphore_.acquire()`. -/
  | acquire
  | tryPop
  /-- `push_task_semaphore_.release()`. -/
  | releasePush (task : Task)
  /-- `pop_task_semaphore_.release()`, without a task. -/
  | releasePop
  | execute (task : Task)
  deriving DecidableEq

structure TaskFlow where
  network : Source ℕ := {}
  console : Source Bytes := {}
  availableTaskTags : AtomicQueue TaskTag := {}
  tasksQueue : AtomicQueue Task := {}
  popPermits : ℕ := 0
  pushPermits : ℕ := maxTasks
  /-- What the event loop has still to process. -/
  eventSlots : List ℕ := []
  coroutine : CoroutinePc := .waitForData
  worker : TaskWorkerPc := .acquire
  /-- The tasks that `tasks_queue_` has accepted. -/
  pushed : List Task := []

/-- The steps of the threads, with what `epoll_wait` and `getline` give and the type of the
connection in the slot of an event. -/
inductive FlowAction
  | epollWait (eventSlots : List ℕ)
  | processEvent (type : EndPoint)
  | pushNetworkTag
  | getline (userCmd : Bytes)
  | pushConsoleTag
  | coroutineLoop
  | worker
  deriving DecidableEq

namespace TaskFlow

/-- `process_events`, up to the push of the tag. A listener has no task. -/
def processEvent (s : TaskFlow) (type : EndPoint) : Option TaskFlow :=
  match s.eventSlots with
  | [] => none
  | slot :: eventSlots =>
    if s.network.tagging then none
    else if type = .listener then some { s with eventSlots := eventSlots }
    else (s.network.push slot).map fun network =>
      { s with network := network, eventSlots := eventSlots }

/-- `coroutine_loop`, with `network_co`, `console_co` and `push_task` in it. -/
def coroutineStep (s : TaskFlow) : Option TaskFlow :=
  match s.coroutine with
  | .waitForData =>
    if s.availableTaskTags.items = [] then none else some { s with coroutine := .tryPop }
  | .tryPop => match s.availableTaskTags.tryPop with
    | none => some { s with coroutine := .waitForData }
    | some (tag, q) => some { s with availableTaskTags := q, coroutine := .resume tag }
  | .resume .scheduler => none -- there is no such coroutine
  | .resume .network => match s.network.rawTasks.tryPop with
    | none => some { s with coroutine := .waitForData }
    | some (slot, q) =>
      some { s with network.rawTasks := q, coroutine := .acquire ⟨.network, .slot slot⟩ }
  | .resume .console => match s.console.rawTasks.tryPop with
    | none => some { s with coroutine := .waitForData }
    | some (userCmd, q) =>
      some { s with console.rawTasks := q, coroutine := .acquire ⟨.console, .line userCmd⟩ }
  | .acquire task =>
    if 0 < s.pushPermits then
      some { s with pushPermits := s.pushPermits - 1, coroutine := .pushTask task }
    else none
  | .pushTask task => match s.tasksQueue.tryPush task with
    | .accepted q =>
      some { s with tasksQueue := q, pushed := s.pushed ++ [task], coroutine := .release }
    | .refused => some { s with coroutine := .release }
    | .waiting => none
  | .release => some { s with popPermits := s.popPermits + 1, coroutine := .waitForData }

/-- `worker_loop`, with `try_get_task` in it. -/
def workerStep (s : TaskFlow) : Option TaskFlow :=
  match s.worker with
  | .acquire =>
    if 0 < s.popPermits then some { s with popPermits := s.popPermits - 1, worker := .tryPop }
    else none
  | .tryPop => match s.tasksQueue.tryPop with
    | some (task, q) => some { s with tasksQueue := q, worker := .releasePush task }
    | none => some { s with worker := .releasePop }
  | .releasePush task => some { s with pushPermits := s.pushPermits + 1, worker := .execute task }
  | .releasePop => some { s with popPermits := s.popPermits + 1, worker := .acquire }
  | .execute _ => some { s with worker := .acquire }

def step (s : TaskFlow) : FlowAction → Option TaskFlow
  | .epollWait eventSlots =>
    if s.eventSlots = [] ∧ s.network.tagging = false then some { s with eventSlots := eventSlots }
    else none
  | .processEvent type => s.processEvent type
  | .pushNetworkTag =>
    if s.network.tagging then (s.availableTaskTags.afterPush .network).map fun q =>
      { s with availableTaskTags := q, network.tagging := false }
    else none
  | .getline userCmd => (s.console.push userCmd).map fun console => { s with console := console }
  | .pushConsoleTag =>
    if s.console.tagging then (s.availableTaskTags.afterPush .console).map fun q =>
      { s with availableTaskTags := q, console.tagging := false }
    else none
  | .coroutineLoop => s.coroutineStep
  | .worker => s.workerStep

end TaskFlow

/-- The event loop, the console, the scheduler and the worker, whose steps come in any order. -/
def taskFlow : System TaskFlow FlowAction where
  initial s := s = {}
  step := TaskFlow.step

end BattleShips
