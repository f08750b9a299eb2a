import BattleShips.Application.TaskFlow
import Mathlib.Data.List.Count

/-!
# No event and no line is lost

What a producer has had to push is what the tasks have, what the coroutine holds and what is in its
queue, in this order; and there are as many of its tags as there are items in its queue. This is so
as long as no queue looks full to a producer: nobody looks at what `try_push` returns.
-/

namespace BattleShips

variable {α : Type} {source source' : Source α} {tag other : TaskTag} {ofTask : Task → Option α}
  {tasks : List Task} {tags : List TaskTag} {s s' : TaskFlow}

/-! ### The property -/

namespace TaskFlow

/-- No producer is between its pushes, there are no tags, and the coroutines are suspended. -/
structure Quiet (s : TaskFlow) : Prop where
  network : s.network.tagging = false
  console : s.console.tagging = false
  tags : s.availableTaskTags.items = []
  suspended : s.coroutine = .waitForData ∨ s.coroutine = .tryPop

/-- Each slot and each line is the context of one task of its tag, in the order of their production,
and when the threads are quiet all of them are. -/
structure LosesNothing (s : TaskFlow) : Prop where
  slots : s.pushed.filterMap Task.slot? <+: s.network.produced
  lines : s.pushed.filterMap Task.line? <+: s.console.produced
  network : s.Quiet →
    s.network.rawTasks.items = [] ∧ s.pushed.filterMap Task.slot? = s.network.produced
  console : s.Quiet →
    s.console.rawTasks.items = [] ∧ s.pushed.filterMap Task.line? = s.console.produced

/-- The queue that a producer pushes to does not look full. -/
def HasRoom (s : TaskFlow) : FlowAction → Prop
  | .processEvent type => type ≠ .listener → ¬ s.network.rawTasks.LooksFull
  | .getline _ => ¬ s.console.rawTasks.LooksFull
  | .pushNetworkTag | .pushConsoleTag => ¬ s.availableTaskTags.LooksFull
  | .epollWait _ | .coroutineLoop | .worker => True

instance (s : TaskFlow) : (a : FlowAction) → Decidable (s.HasRoom a)
  | .processEvent type => inferInstanceAs (Decidable (type ≠ .listener → _))
  | .getline _ => inferInstanceAs (Decidable (¬ s.console.rawTasks.LooksFull))
  | .pushNetworkTag => inferInstanceAs (Decidable (¬ s.availableTaskTags.LooksFull))
  | .pushConsoleTag => inferInstanceAs (Decidable (¬ s.availableTaskTags.LooksFull))
  | .epollWait _ => inferInstanceAs (Decidable True)
  | .coroutineLoop => inferInstanceAs (Decidable True)
  | .worker => inferInstanceAs (Decidable True)

end TaskFlow

/-! ### A source -/

namespace Source

/-- What the source has produced is in the tasks or in its queue, and for each item in its queue
there is a tag, or there will be one. -/
structure Flows (source : Source α) (tag : TaskTag) (ofTask : Task → Option α) (tasks : List Task)
    (tags : List TaskTag) : Prop where
  flow : source.produced = tasks.filterMap ofTask ++ source.rawTasks.items
  tags : tags.count tag + (if source.tagging then 1 else 0) = source.rawTasks.items.length

namespace Flows

lemma push {x : α} (h : source.Flows tag ofTask tasks tags) (hpush : source.push x = some source')
    (hfull : ¬ source.rawTasks.LooksFull) : source'.Flows tag ofTask tasks tags := by
  rw [Source.push] at hpush
  split_ifs at hpush with htagging
  obtain ⟨q, hq, rfl⟩ := Option.map_eq_some_iff.1 hpush
  obtain rfl := AtomicQueue.afterPush_of_not_looksFull hq hfull
  constructor
  · rw [h.flow, List.append_assoc]
  · have htags := h.tags
    rw [if_neg htagging] at htags
    simp [← htags]

lemma pushTag (h : source.Flows tag ofTask tasks tags) (htagging : source.tagging = true) :
    { source with tagging := false }.Flows tag ofTask tasks (tags ++ [tag]) := by
  constructor
  · exact h.flow
  · have htags := h.tags
    rw [if_pos htagging] at htags
    simp [← htags]

lemma pushOther (h : source.Flows tag ofTask tasks tags) (hne : other ≠ tag) :
    source.Flows tag ofTask tasks (tags ++ [other]) where
  flow := h.flow
  tags := by simpa [hne] using h.tags

/-- There is an item for the tag. -/
lemma pop (h : source.Flows tag ofTask tasks (tag :: tags)) :
    ∃ x q, source.rawTasks.tryPop = some (x, q) ∧ ∀ task, ofTask task = some x →
      { source with rawTasks := q }.Flows tag ofTask (tasks ++ [task]) tags := by
  have htags := h.tags
  cases hpop : source.rawTasks.tryPop with
  | none =>
    rw [AtomicQueue.tryPop_eq_none.1 hpop] at htags
    simp at htags
  | some popped =>
    obtain ⟨x, q⟩ := popped
    have hitems := (AtomicQueue.tryPop_eq_some.1 hpop).1
    refine ⟨x, q, rfl, fun task htask => ⟨?_, ?_⟩⟩
    · have hflow := h.flow
      rw [hitems] at hflow
      simp [hflow, htask]
    · rw [hitems] at htags
      simp only [List.count_cons_self, List.length_cons] at htags
      change tags.count tag + (if source.tagging then 1 else 0) = q.items.length
      omega

lemma popOther {task : Task} (h : source.Flows tag ofTask tasks (other :: tags))
    (hne : other ≠ tag) (htask : ofTask task = none) :
    source.Flows tag ofTask (tasks ++ [task]) tags where
  flow := by simpa [htask] using h.flow
  tags := by simpa [hne] using h.tags

lemma startsWith {held : List Task} (h : source.Flows tag ofTask (tasks ++ held) tags) :
    tasks.filterMap ofTask <+: source.produced := by
  rw [h.flow, List.filterMap_append, List.append_assoc]
  exact List.prefix_append _ _

/-- Without tags there are no items. -/
lemma quiet (h : source.Flows tag ofTask tasks []) (htagging : source.tagging = false) :
    source.rawTasks.items = [] ∧ tasks.filterMap ofTask = source.produced := by
  have htags := h.tags
  rw [htagging] at htags
  have hitems := List.eq_nil_of_length_eq_zero htags.symm
  refine ⟨hitems, ?_⟩
  rw [h.flow, hitems, List.append_nil]

end Flows

end Source

/-! ### Every step -/

namespace TaskFlow

/-- The task that the coroutine is pushing. -/
def held (s : TaskFlow) : List Task :=
  match s.coroutine with
  | .acquire task | .pushTask task => [task]
  | .waitForData | .tryPop | .resume _ | .release => []

/-- The tag that has been taken and whose item has not. -/
def resumed (s : TaskFlow) : List TaskTag :=
  match s.coroutine with
  | .resume tag => [tag]
  | .waitForData | .tryPop | .acquire _ | .pushTask _ | .release => []

/-- The tasks, and what is taken away from the permits of `push_task_semaphore_` besides. -/
def unpermitted (s : TaskFlow) : ℕ :=
  s.tasksQueue.items.length +
    (match s.coroutine with
    | .pushTask _ => 1
    | .waitForData | .tryPop | .resume _ | .acquire _ | .release => 0) +
    match s.worker with
    | .releasePush _ => 1
    | .acquire | .tryPop | .releasePop | .execute _ => 0

structure Flowing (s : TaskFlow) : Prop where
  network : s.network.Flows .network Task.slot? (s.pushed ++ s.held)
    (s.resumed ++ s.availableTaskTags.items)
  console : s.console.Flows .console Task.line? (s.pushed ++ s.held)
    (s.resumed ++ s.availableTaskTags.items)
  scheduler : .scheduler ∉ s.resumed ++ s.availableTaskTags.items
  permits : s.pushPermits + s.unpermitted = maxTasks

lemma Flowing.losesNothing (h : s.Flowing) : s.LosesNothing := by
  have hquiet : s.Quiet → s.held = [] ∧ s.resumed ++ s.availableTaskTags.items = [] := by
    rintro ⟨-, -, htags, hsuspended | hsuspended⟩
    · simp [held, resumed, hsuspended, htags]
    · simp [held, resumed, hsuspended, htags]
  constructor
  · exact h.network.startsWith
  · exact h.console.startsWith
  · intro hs
    obtain ⟨hheld, htags⟩ := hquiet hs
    have hnetwork := h.network
    rw [hheld, htags, List.append_nil] at hnetwork
    exact hnetwork.quiet hs.network
  · intro hs
    obtain ⟨hheld, htags⟩ := hquiet hs
    have hconsole := h.console
    rw [hheld, htags, List.append_nil] at hconsole
    exact hconsole.quiet hs.console

/-- The coroutine that has the tag takes an item, and makes it a task. -/
lemma Flowing.resume {tag : TaskTag} (h : s.Flowing) (hpc : s.coroutine = .resume tag)
    (hstep : s.coroutineStep = some s') : s'.Flowing := by
  obtain ⟨hnetwork, hconsole, hscheduler, hpermits⟩ := h
  simp only [held, resumed, unpermitted, hpc, List.append_nil, List.singleton_append]
    at hnetwork hconsole hscheduler hpermits
  cases tag with
  | scheduler => simp at hscheduler
  | network =>
    obtain ⟨slot, q, hpop, htask⟩ := hnetwork.pop
    simp only [TaskFlow.coroutineStep, hpc, hpop] at hstep
    obtain rfl := Option.some.inj hstep
    exact ⟨htask _ rfl, hconsole.popOther (by decide) rfl, fun hmem =>
      hscheduler (List.mem_cons_of_mem _ hmem), hpermits⟩
  | console =>
    obtain ⟨userCmd, q, hpop, htask⟩ := hconsole.pop
    simp only [TaskFlow.coroutineStep, hpc, hpop] at hstep
    obtain rfl := Option.some.inj hstep
    exact ⟨hnetwork.popOther (by decide) rfl, htask _ rfl, fun hmem =>
      hscheduler (List.mem_cons_of_mem _ hmem), hpermits⟩

lemma Flowing.coroutineStep (h : s.Flowing) (hstep : s.coroutineStep = some s') : s'.Flowing := by
  cases hpc : s.coroutine with
  | resume tag => exact h.resume hpc hstep
  | waitForData =>
    obtain ⟨hnetwork, hconsole, hscheduler, hpermits⟩ := h
    simp only [held, resumed, unpermitted, hpc] at hnetwork hconsole hscheduler hpermits
    simp only [TaskFlow.coroutineStep, hpc] at hstep
    split_ifs at hstep
    obtain rfl := Option.some.inj hstep
    exact ⟨hnetwork, hconsole, hscheduler, hpermits⟩
  | tryPop =>
    obtain ⟨hnetwork, hconsole, hscheduler, hpermits⟩ := h
    simp only [held, resumed, unpermitted, hpc] at hnetwork hconsole hscheduler hpermits
    simp only [TaskFlow.coroutineStep, hpc] at hstep
    cases hpop : s.availableTaskTags.tryPop with
    | none =>
      simp only [hpop] at hstep
      obtain rfl := Option.some.inj hstep
      exact ⟨hnetwork, hconsole, hscheduler, hpermits⟩
    | some popped =>
      obtain ⟨tag, q⟩ := popped
      simp only [hpop] at hstep
      obtain rfl := Option.some.inj hstep
      have hitems := (AtomicQueue.tryPop_eq_some.1 hpop).1
      rw [hitems] at hnetwork hconsole hscheduler
      exact ⟨hnetwork, hconsole, hscheduler, hpermits⟩
  | acquire task =>
    obtain ⟨hnetwork, hconsole, hscheduler, hpermits⟩ := h
    simp only [held, resumed, unpermitted, hpc] at hnetwork hconsole hscheduler hpermits
    simp only [TaskFlow.coroutineStep, hpc] at hstep
    split_ifs at hstep
    obtain rfl := Option.some.inj hstep
    refine ⟨hnetwork, hconsole, hscheduler, ?_⟩
    simp only [unpermitted]
    omega
  | pushTask task =>
    obtain ⟨hnetwork, hconsole, hscheduler, hpermits⟩ := h
    simp only [held, resumed, unpermitted, hpc] at hnetwork hconsole hscheduler hpermits
    -- The permit leaves room for the task.
    have hlt : s.tasksQueue.items.length < ringBufferSize - 1 := by
      simp only [maxTasks, ringBufferSize] at hpermits ⊢
      omega
    simp only [TaskFlow.coroutineStep, hpc, AtomicQueue.tryPush_of_lt hlt] at hstep
    obtain rfl := Option.some.inj hstep
    refine ⟨?_, ?_, hscheduler, ?_⟩
    · simpa [held, resumed] using hnetwork
    · simpa [held, resumed] using hconsole
    · simp only [unpermitted, List.length_append, List.length_singleton]
      omega
  | release =>
    obtain ⟨hnetwork, hconsole, hscheduler, hpermits⟩ := h
    simp only [held, resumed, unpermitted, hpc] at hnetwork hconsole hscheduler hpermits
    simp only [TaskFlow.coroutineStep, hpc] at hstep
    obtain rfl := Option.some.inj hstep
    exact ⟨hnetwork, hconsole, hscheduler, hpermits⟩

lemma Flowing.workerStep (h : s.Flowing) (hstep : s.workerStep = some s') : s'.Flowing := by
  obtain ⟨hnetwork, hconsole, hscheduler, hpermits⟩ := h
  rw [unpermitted] at hpermits
  cases hpc : s.worker with
  | acquire =>
    simp only [TaskFlow.workerStep, hpc] at hstep hpermits
    split_ifs at hstep
    obtain rfl := Option.some.inj hstep
    exact ⟨hnetwork, hconsole, hscheduler, hpermits⟩
  | tryPop =>
    simp only [TaskFlow.workerStep, hpc] at hstep hpermits
    cases hpop : s.tasksQueue.tryPop with
    | none =>
      simp only [hpop] at hstep
      obtain rfl := Option.some.inj hstep
      exact ⟨hnetwork, hconsole, hscheduler, hpermits⟩
    | some popped =>
      obtain ⟨task, q⟩ := popped
      simp only [hpop] at hstep
      obtain rfl := Option.some.inj hstep
      rw [(AtomicQueue.tryPop_eq_some.1 hpop).1, List.length_cons] at hpermits
      refine ⟨hnetwork, hconsole, hscheduler, ?_⟩
      simp only [unpermitted]
      omega
  | releasePush task =>
    simp only [TaskFlow.workerStep, hpc] at hstep hpermits
    obtain rfl := Option.some.inj hstep
    refine ⟨hnetwork, hconsole, hscheduler, ?_⟩
    simp only [unpermitted]
    omega
  | releasePop =>
    simp only [TaskFlow.workerStep, hpc] at hstep hpermits
    obtain rfl := Option.some.inj hstep
    exact ⟨hnetwork, hconsole, hscheduler, hpermits⟩
  | execute task =>
    simp only [TaskFlow.workerStep, hpc] at hstep hpermits
    obtain rfl := Option.some.inj hstep
    exact ⟨hnetwork, hconsole, hscheduler, hpermits⟩

lemma Flowing.step {a : FlowAction} (h : s.Flowing) (hroom : s.HasRoom a)
    (hstep : s.step a = some s') : s'.Flowing := by
  cases a with
  | coroutineLoop => exact h.coroutineStep hstep
  | worker => exact h.workerStep hstep
  | epollWait eventSlots =>
    simp only [TaskFlow.step] at hstep
    split_ifs at hstep
    obtain rfl := Option.some.inj hstep
    exact ⟨h.network, h.console, h.scheduler, h.permits⟩
  | processEvent type =>
    simp only [TaskFlow.step, processEvent] at hstep
    cases heventSlots : s.eventSlots with
    | nil => simp [heventSlots] at hstep
    | cons slot eventSlots =>
      simp only [heventSlots] at hstep
      split_ifs at hstep with htagging htype
      · obtain rfl := Option.some.inj hstep
        exact ⟨h.network, h.console, h.scheduler, h.permits⟩
      · obtain ⟨network, hpush, rfl⟩ := Option.map_eq_some_iff.1 hstep
        exact ⟨h.network.push hpush (hroom htype), h.console, h.scheduler, h.permits⟩
  | pushNetworkTag =>
    simp only [TaskFlow.step] at hstep
    split_ifs at hstep with htagging
    obtain ⟨q, hpush, rfl⟩ := Option.map_eq_some_iff.1 hstep
    obtain rfl := AtomicQueue.afterPush_of_not_looksFull hpush hroom
    have hnetwork := h.network.pushTag htagging
    have hconsole := h.console.pushOther (show TaskTag.network ≠ .console by decide)
    have hscheduler : .scheduler ∉ s.resumed ++ (s.availableTaskTags.items ++ [.network]) := by
      simpa using h.scheduler
    rw [List.append_assoc] at hnetwork hconsole
    exact ⟨hnetwork, hconsole, hscheduler, h.permits⟩
  | getline userCmd =>
    obtain ⟨console, hpush, rfl⟩ := Option.map_eq_some_iff.1 hstep
    exact ⟨h.network, h.console.push hpush hroom, h.scheduler, h.permits⟩
  | pushConsoleTag =>
    simp only [TaskFlow.step] at hstep
    split_ifs at hstep with htagging
    obtain ⟨q, hpush, rfl⟩ := Option.map_eq_some_iff.1 hstep
    obtain rfl := AtomicQueue.afterPush_of_not_looksFull hpush hroom
    have hconsole := h.console.pushTag htagging
    have hnetwork := h.network.pushOther (show TaskTag.console ≠ .network by decide)
    have hscheduler : .scheduler ∉ s.resumed ++ (s.availableTaskTags.items ++ [.console]) := by
      simpa using h.scheduler
    rw [List.append_assoc] at hnetwork hconsole
    exact ⟨hnetwork, hconsole, hscheduler, h.permits⟩

/-- **No event and no line is lost** in a run in which no queue looks full when a producer pushes
to it. -/
theorem reachable_losesNothing (h : taskFlow.Reachable HasRoom s) : s.LosesNothing := by
  apply Flowing.losesNothing
  refine h.invariant (I := Flowing) ?_ fun s a s' _ hs hroom hstep => hs.step hroom hstep
  rintro s rfl
  exact ⟨⟨rfl, rfl⟩, ⟨rfl, rfl⟩, List.not_mem_nil, rfl⟩

/-- One event and one line, at the same time. -/
theorem reachable_losesNothing_one :
    ∃ s, taskFlow.run {} [.epollWait [5], .getline (ascii "x"), .processEvent .toServer,
        .pushNetworkTag, .pushConsoleTag, .coroutineLoop, .coroutineLoop, .coroutineLoop] = some s ∧
      s.held = [⟨.network, .slot 5⟩] ∧ s.LosesNothing := by
  refine ⟨_, rfl, rfl, reachable_losesNothing ?_⟩
  have hmeets : taskFlow.Meets HasRoom {} [.epollWait [5], .getline (ascii "x"),
      .processEvent .toServer, .pushNetworkTag, .pushConsoleTag, .coroutineLoop, .coroutineLoop,
      .coroutineLoop] := by decide
  exact System.Reachable.run (.of_initial rfl) hmeets rfl

/-! ### A line that is lost -/

variable {m n k : ℕ}

/-- The task for an empty line. -/
def emptyLine : Task := ⟨.console, .line []⟩

/-- The first line has been executed; of the `m` lines read, `n` are in the queue and `k` more have
become tasks. -/
def backlog (m n k : ℕ) : TaskFlow where
  console :=
    { rawTasks := { head := k + 1, items := List.replicate n [] }
      produced := List.replicate m [] }
  availableTaskTags := { head := k + 1, items := List.replicate n .console }
  tasksQueue := { head := 1, items := List.replicate k emptyLine }
  popPermits := k
  pushPermits := maxTasks - k
  pushed := List.replicate (k + 1) emptyLine

lemma tryPush_replicate {β : Type} (x : β) (h : n < maxTasks) :
    ({ head := k, items := List.replicate n x } : AtomicQueue β).tryPush x =
      .accepted { head := k, items := List.replicate (n + 1) x } := by
  rw [AtomicQueue.tryPush_of_lt (by simpa using h), List.replicate_succ']

lemma tryPush_replicate_full {β : Type} (x : β) (h : looksFull (k + n) k) :
    ({ head := k, items := List.replicate n x } : AtomicQueue β).tryPush x = .refused := by
  rw [AtomicQueue.tryPush, AtomicQueue.tail, List.length_replicate, if_pos h]

/-- A line is read, and there is room for it. -/
lemma run_getline (h : n < maxTasks) : taskFlow.run (backlog m n 0) [.getline [], .pushConsoleTag] =
    some (backlog (m + 1) (n + 1) 0) := by
  have hraw := tryPush_replicate (k := 1) ([] : Bytes) h
  have htag := tryPush_replicate (k := 1) TaskTag.console h
  simp only [System.run, taskFlow, step, Source.push, AtomicQueue.afterPush, backlog, Nat.zero_add,
    hraw, htag, Bool.false_eq_true, if_false, if_true, Option.map_some, Option.bind_some,
    ← List.replicate_succ']

/-- A line is read, and it is refused, and so is its tag. -/
lemma run_getline_full (h : looksFull (1 + n) 1) :
    taskFlow.run (backlog m n 0) [.getline [], .pushConsoleTag] = some (backlog (m + 1) n 0) := by
  have hraw := tryPush_replicate_full ([] : Bytes) h
  have htag := tryPush_replicate_full TaskTag.console h
  simp only [System.run, taskFlow, step, Source.push, AtomicQueue.afterPush, backlog, Nat.zero_add,
    hraw, htag, Bool.false_eq_true, if_false, if_true, Option.map_some, Option.bind_some,
    ← List.replicate_succ']

/-- The coroutines make the next line a task. -/
lemma run_coroutineLoop (h : k < maxTasks) :
    taskFlow.run (backlog m (n + 1) k) [.coroutineLoop, .coroutineLoop, .coroutineLoop,
      .coroutineLoop, .coroutineLoop, .coroutineLoop] = some (backlog m n (k + 1)) := by
  have htask := tryPush_replicate (k := 1) emptyLine h
  have hpermits : 0 < maxTasks - k := Nat.sub_pos_of_lt h
  rw [emptyLine] at htask
  simp only [System.run, taskFlow, step, coroutineStep, backlog, emptyLine,
    List.replicate_succ (n := n), AtomicQueue.tryPop, hpermits, htask, if_true, Option.bind_some,
    reduceCtorEq, if_false, Nat.sub_sub, ← List.replicate_succ']

lemma reachable_backlog (h : n ≤ maxTasks) :
    taskFlow.Reachable System.anyStep (backlog (n + 1) n 0) := by
  induction n with
  | zero =>
    have hrun : taskFlow.run {} [.getline [], .pushConsoleTag, .coroutineLoop, .coroutineLoop,
        .coroutineLoop, .coroutineLoop, .coroutineLoop, .coroutineLoop, .worker, .worker, .worker,
        .worker] = some (backlog 1 0 0) := rfl
    exact (System.Reachable.of_initial rfl).run (System.meets_of_labels fun _ _ => trivial) hrun
  | succ n ih =>
    exact (ih (by omega)).run (System.meets_of_labels fun _ _ => trivial) (run_getline h)

/-- After a line that has been refused, the lines in the queue become tasks. -/
lemma reachable_drained (h : n + k = maxTasks) :
    taskFlow.Reachable System.anyStep (backlog (maxTasks + 2) n k) := by
  induction k generalizing n with
  | zero =>
    obtain rfl : n = maxTasks := h
    exact (reachable_backlog le_rfl).run (System.meets_of_labels fun _ _ => trivial)
      (run_getline_full (by decide))
  | succ k ih =>
    have hbefore := @ih (n + 1) (by omega)
    exact hbefore.run (System.meets_of_labels fun _ _ => trivial) (run_coroutineLoop (by omega))

/-- 4097 lines have been read, and all is quiet after 4096 tasks. -/
theorem reachable_not_losesNothing : ∃ s, taskFlow.Reachable System.anyStep s ∧ s.Quiet ∧
    s.console.produced.length = 4097 ∧ s.pushed.length = 4096 ∧ ¬ s.LosesNothing := by
  have hquiet : (backlog (maxTasks + 2) 0 maxTasks).Quiet := ⟨rfl, rfl, rfl, .inl rfl⟩
  have hproduced : (backlog (maxTasks + 2) 0 maxTasks).console.produced.length = 4097 :=
    List.length_replicate
  have hpushed : (backlog (maxTasks + 2) 0 maxTasks).pushed.length = 4096 := List.length_replicate
  refine ⟨_, reachable_drained (Nat.zero_add _), hquiet, hproduced, hpushed, fun hlossless => ?_⟩
  have hle := List.length_filterMap_le Task.line? (backlog (maxTasks + 2) 0 maxTasks).pushed
  rw [(hlossless.console hquiet).2, hproduced, hpushed] at hle
  exact absurd hle (by decide)

end TaskFlow

end BattleShips
