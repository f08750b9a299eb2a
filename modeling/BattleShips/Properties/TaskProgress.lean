import BattleShips.Properties.LosslessFlow

/-!
# Every event and every line is executed

Without more input the threads come to an end of their work, whatever the order of their steps:
each step brings the end closer, and as long as there is something left to do one of them can take
a step. Then the worker has executed every slot and every line, in the order in which they were
produced.
-/

namespace BattleShips

variable {s s' : TaskFlow} {executed : List Task}

/-- What the worker has executed. -/
def TaskFlow.recordExecuted (executed : List Task) (s : TaskFlow) (a : FlowAction) (_ : TaskFlow) :
    List Task :=
  match a, s.worker with
  | .worker, .execute task => executed ++ [task]
  | _, _ => executed

/-- The threads, and what the worker has executed. -/
def executing : System (TaskFlow × List Task) FlowAction :=
  taskFlow.withHistory [] TaskFlow.recordExecuted

/-- A step that brings nothing in from outside. -/
def FlowAction.Internal : FlowAction → Prop
  | .epollWait _ | .getline _ => False
  | .processEvent _ | .pushNetworkTag | .pushConsoleTag | .coroutineLoop | .worker => True

/-- The steps that a thread has still to take for the task in its hands, at most. -/
def CoroutinePc.work : CoroutinePc → ℕ
  | .tryPop => 0
  | .waitForData => 1
  | .release => 2
  | .pushTask _ => 7
  | .acquire _ => 8
  | .resume _ => 9

def TaskWorkerPc.work : TaskWorkerPc → ℕ
  | .tryPop => 0
  | .acquire => 1
  | .execute _ => 2
  | .releasePush _ => 3
  | .releasePop => 2

/-- A permit of `pop_task_semaphore_` that is about to be given. -/
def CoroutinePc.granting : CoroutinePc → ℕ
  | .release => 1
  | .waitForData | .tryPop | .resume _ | .acquire _ | .pushTask _ => 0

/-- A permit of `pop_task_semaphore_` that has been taken for a task still in the queue. -/
def TaskWorkerPc.popping : TaskWorkerPc → ℕ
  | .tryPop | .releasePop => 1
  | .acquire | .releasePush _ | .execute _ => 0

/-- The task that the worker has taken and not executed. -/
def TaskWorkerPc.inHand : TaskWorkerPc → List Task
  | .releasePush task | .execute task => [task]
  | .acquire | .tryPop | .releasePop => []

/-- A push of a tag that is still to come. -/
def Source.work {α : Type} (source : Source α) : ℕ := if source.tagging then 11 else 0

namespace TaskFlow

/-- Nothing is left to do: what has been produced has been executed. -/
structure Done (s : TaskFlow) (tasks : List Task) : Prop where
  events : s.eventSlots = []
  quiet : s.Quiet
  executed : tasks = s.pushed
  slots : tasks.filterMap Task.slot? = s.network.produced
  lines : tasks.filterMap Task.line? = s.console.produced

/-- What there is to do: an item that moves on is less work than it was. -/
def work (s : TaskFlow) : ℕ :=
  12 * s.eventSlots.length + s.network.work + s.console.work +
    10 * s.availableTaskTags.items.length + s.coroutine.work + 4 * s.tasksQueue.items.length +
    s.worker.work

/-- No internal step can be taken that finds room. -/
def Stuck (s : TaskFlow) : Prop := ∀ a : FlowAction, a.Internal → s.HasRoom a → s.step a = none

/-- What holds of the threads besides the flow of the items: the worker executes the tasks in their
order, there is a permit for each task to pop, and a tag where `coroutine_loop` looks for one. -/
structure Progressing (s : TaskFlow) (executed : List Task) : Prop extends Flowing s where
  order : s.pushed = executed ++ s.worker.inHand ++ s.tasksQueue.items
  popPermits : s.popPermits + s.coroutine.granting + s.worker.popping = s.tasksQueue.items.length
  awaited : s.coroutine = .tryPop → s.availableTaskTags.items ≠ []

/-! ### Each step -/

/-- What an internal step keeps and lowers. -/
structure Advances (s : TaskFlow) (executed : List Task) (a : FlowAction) (s' : TaskFlow) :
    Prop where
  order : s'.pushed = recordExecuted executed s a s' ++ s'.worker.inHand ++ s'.tasksQueue.items
  popPermits : s'.popPermits + s'.coroutine.granting + s'.worker.popping =
    s'.tasksQueue.items.length
  awaited : s'.coroutine = .tryPop → s'.availableTaskTags.items ≠ []
  work : a.Internal → s'.work < s.work

lemma Progressing.coroutineLoop (h : s.Progressing executed) (hstep : s.coroutineStep = some s') :
    s.Advances executed .coroutineLoop s' := by
  have hpop := h.popPermits
  cases hpc : s.coroutine with
  | waitForData =>
    simp only [coroutineStep, hpc] at hstep
    split_ifs at hstep with hnil
    obtain rfl := Option.some.inj hstep
    refine ⟨h.order, ?_, fun _ => hnil, fun _ => ?_⟩
    · simpa [CoroutinePc.granting, hpc] using hpop
    · simp [work, hpc, CoroutinePc.work]
  | tryPop =>
    simp only [coroutineStep, hpc] at hstep
    cases hpopped : s.availableTaskTags.tryPop with
    | none => exact absurd (AtomicQueue.tryPop_eq_none.1 hpopped) (h.awaited hpc)
    | some popped =>
      obtain ⟨tag, q⟩ := popped
      simp only [hpopped] at hstep
      obtain rfl := Option.some.inj hstep
      have hitems := (AtomicQueue.tryPop_eq_some.1 hpopped).1
      refine ⟨h.order, ?_, by simp, fun _ => ?_⟩
      · simpa [CoroutinePc.granting, hpc] using hpop
      · simp only [work, hpc, hitems, CoroutinePc.work, List.length_cons]
        omega
  | resume tag =>
    obtain ⟨hnetwork, hconsole, hscheduler, -⟩ := h.toFlowing
    simp only [held, resumed, hpc, List.append_nil, List.singleton_append]
      at hnetwork hconsole hscheduler
    cases tag with
    | scheduler => simp at hscheduler
    | network =>
      obtain ⟨slot, q, hpopped, -⟩ := hnetwork.pop
      simp only [coroutineStep, hpc, hpopped] at hstep
      obtain rfl := Option.some.inj hstep
      refine ⟨h.order, ?_, by simp, fun _ => ?_⟩
      · simpa [CoroutinePc.granting, hpc] using hpop
      · simp [work, hpc, CoroutinePc.work, Source.work]
    | console =>
      obtain ⟨userCmd, q, hpopped, -⟩ := hconsole.pop
      simp only [coroutineStep, hpc, hpopped] at hstep
      obtain rfl := Option.some.inj hstep
      refine ⟨h.order, ?_, by simp, fun _ => ?_⟩
      · simpa [CoroutinePc.granting, hpc] using hpop
      · simp [work, hpc, CoroutinePc.work, Source.work]
  | acquire task =>
    simp only [coroutineStep, hpc] at hstep
    split_ifs at hstep
    obtain rfl := Option.some.inj hstep
    refine ⟨h.order, ?_, by simp, fun _ => ?_⟩
    · simpa [CoroutinePc.granting, hpc] using hpop
    · simp [work, hpc, CoroutinePc.work]
  | pushTask task =>
    have hroom := h.permits
    simp only [unpermitted, hpc] at hroom
    have hlt : s.tasksQueue.items.length < ringBufferSize - 1 := by
      simp only [maxTasks, ringBufferSize] at hroom ⊢
      omega
    simp only [coroutineStep, hpc, AtomicQueue.tryPush_of_lt hlt] at hstep
    obtain rfl := Option.some.inj hstep
    simp only [CoroutinePc.granting, hpc] at hpop
    refine ⟨?_, ?_, by simp, fun _ => ?_⟩
    · simp only [h.order, recordExecuted, List.append_assoc]
    · simp only [CoroutinePc.granting, List.length_append, List.length_singleton]
      omega
    · simp only [work, hpc, CoroutinePc.work, List.length_append, List.length_singleton]
      omega
  | release =>
    simp only [coroutineStep, hpc] at hstep
    obtain rfl := Option.some.inj hstep
    simp only [CoroutinePc.granting, hpc] at hpop
    refine ⟨h.order, ?_, by simp, fun _ => ?_⟩
    · simp only [CoroutinePc.granting]
      omega
    · simp [work, hpc, CoroutinePc.work]

lemma Progressing.worker (h : s.Progressing executed) (hstep : s.workerStep = some s') :
    s.Advances executed .worker s' := by
  have horder := h.order
  have hpop := h.popPermits
  cases hpc : s.worker with
  | acquire =>
    simp only [workerStep, hpc] at hstep
    split_ifs at hstep with hpos
    obtain rfl := Option.some.inj hstep
    simp only [TaskWorkerPc.inHand, TaskWorkerPc.popping, hpc] at horder hpop
    refine ⟨?_, ?_, h.awaited, fun _ => ?_⟩
    · simpa only [recordExecuted, hpc, TaskWorkerPc.inHand] using horder
    · simp only [TaskWorkerPc.popping]
      omega
    · simp [work, hpc, TaskWorkerPc.work]
  | tryPop =>
    simp only [workerStep, hpc] at hstep
    simp only [TaskWorkerPc.inHand, TaskWorkerPc.popping, hpc] at horder hpop
    cases hpopped : s.tasksQueue.tryPop with
    | none =>
      rw [AtomicQueue.tryPop_eq_none.1 hpopped] at hpop
      simp at hpop
    | some popped =>
      obtain ⟨task, q⟩ := popped
      simp only [hpopped] at hstep
      obtain rfl := Option.some.inj hstep
      have hitems := (AtomicQueue.tryPop_eq_some.1 hpopped).1
      refine ⟨?_, ?_, h.awaited, fun _ => ?_⟩
      · simpa [recordExecuted, hpc, TaskWorkerPc.inHand, hitems] using horder
      · simp only [TaskWorkerPc.popping, hitems, List.length_cons] at hpop ⊢
        omega
      · simp only [work, hpc, hitems, TaskWorkerPc.work, List.length_cons]
        omega
  | releasePush task =>
    simp only [workerStep, hpc] at hstep
    obtain rfl := Option.some.inj hstep
    refine ⟨?_, ?_, h.awaited, fun _ => ?_⟩
    · simpa only [recordExecuted, hpc, TaskWorkerPc.inHand] using horder
    · simpa only [TaskWorkerPc.popping, hpc] using hpop
    · simp [work, hpc, TaskWorkerPc.work]
  | releasePop =>
    simp only [workerStep, hpc] at hstep
    obtain rfl := Option.some.inj hstep
    refine ⟨?_, ?_, h.awaited, fun _ => ?_⟩
    · simpa only [recordExecuted, hpc, TaskWorkerPc.inHand] using horder
    · simp only [TaskWorkerPc.popping, hpc] at hpop ⊢
      omega
    · simp [work, hpc, TaskWorkerPc.work]
  | execute task =>
    simp only [workerStep, hpc] at hstep
    obtain rfl := Option.some.inj hstep
    refine ⟨?_, ?_, h.awaited, fun _ => ?_⟩
    · simpa [recordExecuted, hpc, TaskWorkerPc.inHand] using horder
    · simpa only [TaskWorkerPc.popping, hpc] using hpop
    · simp [work, hpc, TaskWorkerPc.work]

lemma Progressing.advances {a : FlowAction} (h : s.Progressing executed) (hroom : s.HasRoom a)
    (hstep : s.step a = some s') : s.Advances executed a s' := by
  cases a with
  | coroutineLoop => exact h.coroutineLoop hstep
  | worker => exact h.worker hstep
  | epollWait eventSlots =>
    simp only [step] at hstep
    split_ifs at hstep
    obtain rfl := Option.some.inj hstep
    exact ⟨h.order, h.popPermits, h.awaited, False.elim⟩
  | processEvent type =>
    simp only [step, processEvent] at hstep
    cases heventSlots : s.eventSlots with
    | nil => simp [heventSlots] at hstep
    | cons slot eventSlots =>
      simp only [heventSlots] at hstep
      split_ifs at hstep with htagging htype
      · obtain rfl := Option.some.inj hstep
        refine ⟨h.order, h.popPermits, h.awaited, fun _ => ?_⟩
        simp only [work, heventSlots, List.length_cons]
        omega
      · obtain ⟨network, hpush, rfl⟩ := Option.map_eq_some_iff.1 hstep
        refine ⟨h.order, h.popPermits, h.awaited, fun _ => ?_⟩
        rw [Source.push, if_neg htagging] at hpush
        obtain ⟨q, -, rfl⟩ := Option.map_eq_some_iff.1 hpush
        simp only [work, heventSlots, List.length_cons, Source.work, htagging, if_true,
          Bool.false_eq_true, if_false]
        omega
  | pushNetworkTag =>
    simp only [step] at hstep
    split_ifs at hstep with htagging
    obtain ⟨q, hpush, rfl⟩ := Option.map_eq_some_iff.1 hstep
    obtain rfl := AtomicQueue.afterPush_of_not_looksFull hpush hroom
    refine ⟨h.order, h.popPermits, by simp, fun _ => ?_⟩
    simp only [work, Source.work, htagging, if_true, Bool.false_eq_true, if_false,
      List.length_append, List.length_singleton]
    omega
  | getline userCmd =>
    obtain ⟨console, -, rfl⟩ := Option.map_eq_some_iff.1 hstep
    exact ⟨h.order, h.popPermits, h.awaited, False.elim⟩
  | pushConsoleTag =>
    simp only [step] at hstep
    split_ifs at hstep with htagging
    obtain ⟨q, hpush, rfl⟩ := Option.map_eq_some_iff.1 hstep
    obtain rfl := AtomicQueue.afterPush_of_not_looksFull hpush hroom
    refine ⟨h.order, h.popPermits, by simp, fun _ => ?_⟩
    simp only [work, Source.work, htagging, if_true, Bool.false_eq_true, if_false,
      List.length_append, List.length_singleton]
    omega

lemma Progressing.step {a : FlowAction} (h : s.Progressing executed) (hroom : s.HasRoom a)
    (hstep : s.step a = some s') : s'.Progressing (recordExecuted executed s a s') := by
  obtain ⟨horder, hpop, hawaited, -⟩ := h.advances hroom hstep
  exact ⟨h.toFlowing.step hroom hstep, horder, hpop, hawaited⟩

/-! ### There is a step until all is done -/

lemma not_looksFull_of_nil {α : Type} {q : AtomicQueue α} (h : q.items = []) : ¬ q.LooksFull := by
  rw [AtomicQueue.LooksFull, AtomicQueue.tail, h]
  exact not_looksFull_self _

lemma exists_afterPush {α : Type} {q : AtomicQueue α} (h : q.items = []) (x : α) :
    ∃ q', q.afterPush x = some q' := by
  refine ⟨_, AtomicQueue.afterPush_of_lt ?_ x⟩
  rw [h, List.length_nil]
  decide

lemma exists_workerStep (h : s.worker = .acquire → 0 < s.popPermits) :
    ∃ s', s.workerStep = some s' := by
  cases hpc : s.worker with
  | acquire => simp [workerStep, hpc, h hpc]
  | tryPop => cases hpopped : s.tasksQueue.tryPop <;> simp [workerStep, hpc, hpopped]
  | releasePush task => simp [workerStep, hpc]
  | releasePop => simp [workerStep, hpc]
  | execute task => simp [workerStep, hpc]

/-- The worker can take a step as long as there are tasks, unless their permits are to come. -/
lemma Progressing.exists_workerStep (h : s.Progressing executed)
    (hgranting : s.coroutine.granting = 0)
    (hbusy : s.worker = .acquire → s.tasksQueue.items ≠ []) : ∃ s', s.workerStep = some s' := by
  refine TaskFlow.exists_workerStep fun hpc => ?_
  have hpop := h.popPermits
  rw [hgranting, hpc] at hpop
  have hpos := List.length_pos_iff.2 (hbusy hpc)
  simp only [TaskWorkerPc.popping] at hpop
  omega

/-- Where the scheduler cannot take a step it waits for a tag, or the worker can take one. -/
lemma Progressing.exists_step (h : s.Progressing executed)
    (hbusy : s.coroutine = .waitForData → s.availableTaskTags.items ≠ []) :
    (∃ s', s.coroutineStep = some s') ∨ ∃ s', s.workerStep = some s' := by
  obtain ⟨hnetwork, hconsole, hscheduler, hroom⟩ := h.toFlowing
  cases hpc : s.coroutine with
  | waitForData => simp [coroutineStep, hpc, hbusy hpc]
  | tryPop =>
    left
    cases hpopped : s.availableTaskTags.tryPop <;> simp [coroutineStep, hpc, hpopped]
  | resume tag =>
    left
    cases tag with
    | scheduler => simp [resumed, hpc] at hscheduler
    | network => cases hpopped : s.network.rawTasks.tryPop <;> simp [coroutineStep, hpc, hpopped]
    | console => cases hpopped : s.console.rawTasks.tryPop <;> simp [coroutineStep, hpc, hpopped]
  | acquire task =>
    by_cases hpos : 0 < s.pushPermits
    · simp [coroutineStep, hpc, hpos]
    · right
      refine h.exists_workerStep (by rw [hpc]; rfl) fun hworker hnil => hpos ?_
      -- All permits to push are given back where nobody has a task.
      simp only [unpermitted, hpc, hworker, hnil, List.length_nil] at hroom
      simp only [maxTasks] at hroom
      omega
  | pushTask task =>
    left
    simp only [unpermitted, hpc] at hroom
    have hlt : s.tasksQueue.items.length < ringBufferSize - 1 := by
      simp only [maxTasks, ringBufferSize] at hroom ⊢
      omega
    simp [coroutineStep, hpc, AtomicQueue.tryPush_of_lt hlt]
  | release => simp [coroutineStep, hpc]

/-- Where nobody can take a step all is done. -/
lemma Progressing.done_of_stuck (h : s.Progressing executed) (hstuck : s.Stuck) :
    s.Done executed := by
  have hcoroutine : s.coroutineStep = none := hstuck .coroutineLoop trivial trivial
  have hworker : s.workerStep = none := hstuck .worker trivial trivial
  have hwaits : s.coroutine = .waitForData ∧ s.availableTaskTags.items = [] := by
    by_contra hbusy
    rw [not_and] at hbusy
    rcases h.exists_step hbusy with ⟨s', hs'⟩ | ⟨s', hs'⟩
    · simp [hs'] at hcoroutine
    · simp [hs'] at hworker
  obtain ⟨hpc, htags⟩ := hwaits
  have hidle : s.worker = .acquire ∧ s.tasksQueue.items = [] := by
    by_contra hbusy
    rw [not_and] at hbusy
    obtain ⟨s', hs'⟩ := h.exists_workerStep (by rw [hpc]; rfl) hbusy
    simp [hs'] at hworker
  have hnetwork : s.network.tagging = false := by
    by_contra htagging
    rw [Bool.not_eq_false] at htagging
    have hnone : s.step .pushNetworkTag = none :=
      hstuck .pushNetworkTag trivial (not_looksFull_of_nil htags)
    obtain ⟨q, hpush⟩ := exists_afterPush htags TaskTag.network
    simp [TaskFlow.step, htagging, hpush] at hnone
  have hconsole : s.console.tagging = false := by
    by_contra htagging
    rw [Bool.not_eq_false] at htagging
    have hnone : s.step .pushConsoleTag = none :=
      hstuck .pushConsoleTag trivial (not_looksFull_of_nil htags)
    obtain ⟨q, hpush⟩ := exists_afterPush htags TaskTag.console
    simp [TaskFlow.step, htagging, hpush] at hnone
  have hquiet : s.Quiet := ⟨hnetwork, hconsole, htags, .inl hpc⟩
  have hlossless := h.toFlowing.losesNothing
  obtain ⟨hraw, hslots⟩ := hlossless.network hquiet
  have hexecuted : executed = s.pushed := by
    rw [h.order, hidle.1, hidle.2]
    simp [TaskWorkerPc.inHand]
  refine ⟨?_, hquiet, hexecuted, hexecuted ▸ hslots, hexecuted ▸ (hlossless.console hquiet).2⟩
  by_contra hevents
  obtain ⟨slot, eventSlots, heventSlots⟩ := List.exists_cons_of_ne_nil hevents
  have hnone : s.step (.processEvent .toServer) = none :=
    hstuck (.processEvent .toServer) trivial fun _ => not_looksFull_of_nil hraw
  obtain ⟨q, hpush⟩ := exists_afterPush hraw slot
  simp [TaskFlow.step, processEvent, heventSlots, Source.push, hnetwork, hpush] at hnone

/-! ### Every run -/

lemma reachable_progressing {x : TaskFlow × List Task}
    (h : executing.Reachable (fun x a => x.1.HasRoom a) x) : x.1.Progressing x.2 := by
  refine h.invariant (I := fun x => x.1.Progressing x.2) ?_ ?_
  · rintro ⟨s, executed⟩ ⟨rfl, rfl⟩
    exact ⟨⟨⟨rfl, rfl⟩, ⟨rfl, rfl⟩, List.not_mem_nil, rfl⟩, rfl, rfl, by simp⟩
  · intro x a x' _ hx hroom hstep
    obtain ⟨hstep, hrecord⟩ := System.withHistory_step.1 hstep
    rw [hrecord]
    exact hx.step hroom hstep

lemma lowers_work : executing.Lowers (fun x a => x.1.HasRoom a) FlowAction.Internal
    (fun x => x.1.Progressing x.2) fun x => x.1.work := by
  constructor
  · intro x a x' hx _ hroom hstep
    obtain ⟨hstep, hrecord⟩ := System.withHistory_step.1 hstep
    rw [hrecord]
    exact hx.step hroom hstep
  · intro x a x' hx hinternal hroom hstep
    exact (hx.advances hroom (System.withHistory_step.1 hstep).1).work hinternal

/-- **Every event and every line is executed** in the end, in the order of their production, once
no more of them come in: the internal steps that find room come to an end, and only when nothing is
left to do. -/
theorem reachable_finishes {x : TaskFlow × List Task}
    (h : executing.Reachable (fun x a => x.1.HasRoom a) x) :
    (∃ as x', (∀ a ∈ as, a.Internal) ∧ executing.Meets (fun x a => x.1.HasRoom a) x as ∧
      executing.run x as = some x' ∧ x'.1.Done x'.2) ∧
    ∀ as x', (∀ a ∈ as, a.Internal) → executing.Meets (fun x a => x.1.HasRoom a) x as →
      executing.run x as = some x' → as.length ≤ x.1.work ∧ (x'.1.Stuck → x'.1.Done x'.2) := by
  have hprogressing := reachable_progressing h
  constructor
  · refine lowers_work.exists_run (fun x hx => ?_) hprogressing
    by_cases hstuck : x.1.Stuck
    · exact .inl (hx.done_of_stuck hstuck)
    · right
      simp only [Stuck, not_forall] at hstuck
      obtain ⟨a, hinternal, hroom, hstep⟩ := hstuck
      obtain ⟨s', hs'⟩ := Option.ne_none_iff_exists'.1 hstep
      exact ⟨a, (s', recordExecuted x.2 x.1 a s'), hinternal, hroom,
        System.withHistory_step.2 ⟨hs', rfl⟩⟩
  · intro as x' hinternal hroom hrun
    obtain ⟨hx', hle⟩ := lowers_work.run hprogressing hinternal hroom hrun
    exact ⟨(Nat.le_add_right _ _).trans hle, hx'.done_of_stuck⟩

/-- One event and one line: the threads have at most 25 steps to take. -/
theorem reachable_finishes_one :
    ∃ x, executing.run ({}, []) [.epollWait [5], .getline (ascii "x")] = some x ∧
      x.1.work = 25 ∧
      (∃ as x', (∀ a ∈ as, a.Internal) ∧ executing.Meets (fun x a => x.1.HasRoom a) x as ∧
        executing.run x as = some x' ∧ x'.1.Done x'.2) ∧
      ∀ as x', (∀ a ∈ as, a.Internal) → executing.Meets (fun x a => x.1.HasRoom a) x as →
        executing.run x as = some x' → as.length ≤ x.1.work ∧ (x'.1.Stuck → x'.1.Done x'.2) := by
  refine ⟨_, rfl, rfl, reachable_finishes ?_⟩
  have hmeets : executing.Meets (fun x a => x.1.HasRoom a) ({}, [])
      [.epollWait [5], .getline (ascii "x")] := by decide
  have hinitial : executing.initial ({}, []) := ⟨rfl, rfl⟩
  exact (System.Reachable.of_initial hinitial).run hmeets rfl

end TaskFlow

end BattleShips
