import BattleShips.Properties.OneTask
import BattleShips.Properties.TaskProgress

/-!
# The queues of a server are short enough

A queue looks full with 4095 items in it. As there is one task for a connection at most, this
takes more connections than that: with fewer slots no queue refuses anything, and the worker gets
the events in their order, whatever else the threads do.
-/

namespace BattleShips

/-- The queues between the event loop and the worker have room for what is pushed next. -/
structure TaskFlow.RefusesNothing (s : TaskFlow) : Prop where
  rawTasks : s.eventSlots ≠ [] → ¬ s.network.rawTasks.LooksFull
  tags : s.network.tagging = true → ¬ s.availableTaskTags.LooksFull
  tasks : ∀ task, s.coroutine = .pushTask task → ¬ s.tasksQueue.LooksFull

/-- The worker has executed tasks for events in the order of their production, each once. What it
has not executed is in its hands or its queue. When the threads are quiet it has executed all. -/
structure TaskFlow.ExecutesInOrder (s : TaskFlow) (executed : List Task) : Prop where
  order : s.pushed = executed ++ s.worker.inHand ++ s.tasksQueue.items
  slots : executed.filterMap Task.slot? <+: s.network.produced
  all : s.Quiet → s.tasksQueue.items = [] → s.worker.inHand = [] →
    executed.filterMap Task.slot? = s.network.produced

/-- The action is one of the worker. -/
def AppAction.IsWorker : AppAction → Prop
  | .worker _ _ => True
  | .epollWait _ | .eventLoop | .coroutineLoop => False

namespace AppRun

variable {σ : Type} {p p' : AppRun σ} {a : AppAction} {type : EndPoint}

/-- No more than 4095 slots of the pool have been issued. -/
def FewSlots (p : AppRun σ) : Prop :=
  p.run.world.pool.lastNotIssuedIndex ≤ ringBufferSize - 1

instance (p : AppRun σ) : Decidable p.FewSlots := inferInstanceAs (Decidable (_ ≤ _))

/-- What the worker has executed. -/
def recordExecuted (executed : List Task) (p : AppRun σ) (a : AppAction) (p' : AppRun σ) :
    List Task :=
  match a, p.flow.worker with
  | .worker _ _, .execute task =>
    if p'.flow.worker = .acquire then executed ++ [task] else executed
  | _, _ => executed

/-- A step of the queues that an application without a console takes. -/
def OfNetwork : FlowAction → Prop
  | .getline _ | .pushConsoleTag => False
  | .epollWait _ | .processEvent _ | .pushNetworkTag | .coroutineLoop | .worker => True

/-- The step is one of the queues, or leaves them alone. -/
def StepsFlow (p : AppRun σ) (a : AppAction) (p' : AppRun σ) : Prop :=
  p'.flow = p.flow ∨
    ∃ b, OfNetwork b ∧ (b = .worker ↔ a.IsWorker) ∧ p.flow.step b = some p'.flow

lemma stepsFlow_of_moveTasks {p₀ : AppRun σ} {b : FlowAction} (h : p₀.moveTasks b = some p')
    (hflow : p₀.flow = p.flow) (hb : OfNetwork b) (hworker : b = .worker ↔ a.IsWorker) :
    p.StepsFlow a p' := by
  obtain ⟨flow', hstep, rfl⟩ := Option.map_eq_some_iff.1 h
  exact .inr ⟨b, hb, hworker, hflow ▸ hstep⟩

lemma stepsFlow (h : p.step a = some p') : p.StepsFlow a p' := by
  cases a with
  | epollWait sockets =>
    simp only [step, epollWait] at h
    split_ifs at h
    obtain ⟨x, hx, hmove⟩ := Option.bind_eq_some_iff.1 h
    obtain ⟨y, -, rfl⟩ := Option.map_eq_some_iff.1 hx
    exact stepsFlow_of_moveTasks hmove rfl trivial (by simp [AppAction.IsWorker])
  | coroutineLoop => exact stepsFlow_of_moveTasks h rfl trivial (by simp [AppAction.IsWorker])
  | worker calls result =>
    rcases workerStep_cases h with ⟨-, hmove⟩ | ⟨-, hmove⟩ | ⟨slot, r, -, -, rfl⟩
    · exact stepsFlow_of_moveTasks hmove rfl trivial (by simp [AppAction.IsWorker])
    · exact stepsFlow_of_moveTasks hmove rfl trivial (by simp [AppAction.IsWorker])
    · exact .inl rfl
  | eventLoop =>
    simp only [step, eventLoopStep] at h
    split_ifs at h
    · exact stepsFlow_of_moveTasks h rfl trivial (by simp [AppAction.IsWorker])
    · obtain ⟨r, -, rfl⟩ := Option.map_eq_some_iff.1 h
      exact .inl rfl
    · cases hserving : p.serving with
      | none =>
        simp only [hserving, processEvent] at h
        cases heventSlots : p.flow.eventSlots with
        | nil => simp [heventSlots] at h
        | cons slot eventSlots =>
          simp only [heventSlots] at h
          split_ifs at h
          · obtain ⟨x, hx, hmove⟩ := Option.bind_eq_some_iff.1 h
            obtain ⟨y, -, rfl⟩ := Option.map_eq_some_iff.1 hx
            exact stepsFlow_of_moveTasks hmove rfl trivial (by simp [AppAction.IsWorker])
          · exact stepsFlow_of_moveTasks h rfl trivial (by simp [AppAction.IsWorker])
      | some serving =>
        obtain ⟨serverSlot, sockets⟩ := serving
        cases sockets with
        | cons socket sockets =>
          simp only [hserving] at h
          obtain ⟨r, -, rfl⟩ := Option.map_eq_some_iff.1 h
          exact .inl rfl
        | nil =>
          simp only [hserving] at h
          obtain ⟨x, hx, hafter⟩ := Option.bind_eq_some_iff.1 h
          split_ifs at hafter
          obtain rfl := Option.some.inj hafter
          obtain ⟨y, -, rfl⟩ := Option.map_eq_some_iff.1 hx
          exact .inl rfl

/-- There are no more slots on their way than have been issued. -/
lemma Sound.length_slots_le (h : p.Sound) :
    p.flow.slots.length ≤ p.run.world.pool.lastNotIssuedIndex := by
  obtain ⟨hclaimed, hnodup⟩ := h.registers
  have hslots : p.flow.slots.Nodup := by
    refine hnodup.sublist (List.Sublist.trans ?_ (List.sublist_append_right _ _))
    exact (List.sublist_append_left _ _).trans (List.sublist_append_left _ _)
  have hlt : ∀ slot ∈ p.flow.slots, slot ∈ List.range p.run.world.pool.lastNotIssuedIndex := by
    intro slot hslot
    have howned := (hclaimed.held slot (List.mem_append_left _ (List.mem_append_left _ hslot))).1
    exact List.mem_range.2 (hclaimed.occupied slot howned).1
  simpa using (List.subperm_of_subset hslots hlt).length_le

/-- What holds of an application with few slots and without a console, whose worker has executed
these tasks. -/
structure Lossless (p : AppRun σ) (executed : List Task) : Prop where
  sound : p.Sound
  progressing : p.flow.Progressing executed
  produced : p.flow.console.produced = []
  tagging : p.flow.console.tagging = false

lemma length_tags (tags : List TaskTag) :
    tags.length = tags.count .network + tags.count .console + tags.count .scheduler := by
  induction tags with
  | nil => rfl
  | cons tag tags ih =>
    rw [List.length_cons, ih]
    cases tag <;> simp <;> omega

variable {executed : List Task}

/-- Without lines there is a tag for an item of the network only. -/
lemma Lossless.length_tags_le (h : p.Lossless executed) :
    p.flow.availableTaskTags.items.length + (if p.flow.network.tagging then 1 else 0) ≤
      p.flow.network.rawTasks.items.length := by
  have hnetwork := h.progressing.network.tags
  have hflow := h.progressing.console.flow
  have hconsole := h.progressing.console.tags
  rw [h.produced] at hflow
  rw [(List.append_eq_nil_iff.1 hflow.symm).2, h.tagging] at hconsole
  have hlength := length_tags (p.flow.resumed ++ p.flow.availableTaskTags.items)
  rw [List.count_eq_zero.2 h.progressing.scheduler, List.length_append] at hlength
  simp only [Bool.false_eq_true, if_false, List.length_nil] at hconsole
  omega

lemma le_length_of_looksFull {α : Type} {q : AtomicQueue α} (h : q.LooksFull) :
    ringBufferSize - 1 ≤ q.items.length := by
  have hge := sub_ge_of_looksFull (Nat.le_add_right _ _) h
  have hlength : q.tail - q.head = q.items.length := by simp [AtomicQueue.tail]
  omega

/-- **No queue refuses anything**: there are more slots than events on their way, and a permit for
each task. -/
lemma Lossless.refusesNothing (h : p.Lossless executed) (hfew : p.FewSlots) :
    p.flow.RefusesNothing := by
  have hslots := h.sound.length_slots_le.trans hfew
  simp only [TaskFlow.slots, List.length_append] at hslots
  constructor
  · intro hsome hfull
    have hge := le_length_of_looksFull hfull
    have hpos := List.length_pos_of_ne_nil hsome
    omega
  · intro htagging hfull
    have hge := le_length_of_looksFull hfull
    have htags := h.length_tags_le
    rw [if_pos htagging] at htags
    omega
  · intro task hpc hfull
    have hge := le_length_of_looksFull hfull
    have hpermits := h.progressing.permits
    simp only [TaskFlow.unpermitted, hpc, maxTasks, ringBufferSize] at hpermits hge
    omega

lemma Lossless.hasRoom {b : FlowAction} {flow' : TaskFlow} (h : p.Lossless executed)
    (hfew : p.FewSlots) (hb : OfNetwork b) (hstep : p.flow.step b = some flow') :
    p.flow.HasRoom b := by
  obtain ⟨hrawTasks, htags, -⟩ := h.refusesNothing hfew
  cases b with
  | processEvent type =>
    refine fun _ => hrawTasks fun hnil => ?_
    simp [TaskFlow.step, TaskFlow.processEvent, hnil] at hstep
  | pushNetworkTag =>
    simp only [TaskFlow.step] at hstep
    split_ifs at hstep with htagging
    exact htags htagging
  | epollWait eventSlots | coroutineLoop | worker => trivial
  | getline userCmd | pushConsoleTag => exact absurd hb id

lemma step_console {s s' : TaskFlow} {b : FlowAction} (hb : OfNetwork b)
    (h : s.step b = some s') : s'.console.produced = s.console.produced ∧
      s'.console.tagging = s.console.tagging := by
  cases b with
  | epollWait eventSlots =>
    simp only [TaskFlow.step] at h
    split_ifs at h
    obtain rfl := Option.some.inj h
    exact ⟨rfl, rfl⟩
  | processEvent type =>
    simp only [TaskFlow.step, TaskFlow.processEvent] at h
    cases heventSlots : s.eventSlots with
    | nil => simp [heventSlots] at h
    | cons slot eventSlots =>
      simp only [heventSlots] at h
      split_ifs at h
      · obtain rfl := Option.some.inj h
        exact ⟨rfl, rfl⟩
      · obtain ⟨network, -, rfl⟩ := Option.map_eq_some_iff.1 h
        exact ⟨rfl, rfl⟩
  | pushNetworkTag =>
    simp only [TaskFlow.step] at h
    split_ifs at h
    obtain ⟨q, -, rfl⟩ := Option.map_eq_some_iff.1 h
    exact ⟨rfl, rfl⟩
  | coroutineLoop => exact (TaskFlow.coroutineStep_rest h).2
  | worker => exact TaskFlow.workerStep_console h
  | getline userCmd | pushConsoleTag => exact absurd hb id

/-- What the worker has executed is what it has executed of the tasks in the queues. -/
lemma recordExecuted_of_stepsFlow {b : FlowAction} (hworker : b = .worker ↔ a.IsWorker)
    (h : p.flow.step b = some p'.flow) :
    recordExecuted executed p a p' = TaskFlow.recordExecuted executed p.flow b p'.flow := by
  cases a with
  | worker calls result =>
    obtain rfl := hworker.2 trivial
    cases hpc : p.flow.worker with
    | execute task =>
      have hacquire : p'.flow.worker = .acquire := by
        simp only [TaskFlow.step, TaskFlow.workerStep, hpc] at h
        rw [← Option.some.inj h]
      simp only [recordExecuted, TaskFlow.recordExecuted, hpc, hacquire, if_true]
    | _ => simp only [recordExecuted, TaskFlow.recordExecuted, hpc]
  | _ =>
    have hne : b ≠ .worker := fun hb => absurd (hworker.1 hb) id
    cases b with
    | worker => exact absurd rfl hne
    | _ => rfl

lemma recordExecuted_of_eq (h : p'.flow = p.flow) : recordExecuted executed p a p' = executed := by
  cases a with
  | worker calls result =>
    cases hpc : p.flow.worker with
    | execute task =>
      simp only [recordExecuted, h, hpc]
      rfl
    | _ => simp only [recordExecuted, hpc]
  | _ => rfl

lemma Lossless.step (h : p.Lossless executed) (hundisturbed : p.Undisturbed a) (hfew : p.FewSlots)
    (hstep : p.step a = some p') : p'.Lossless (recordExecuted executed p a p') := by
  have hsound := h.sound.step hundisturbed hstep
  rcases stepsFlow hstep with hflow | ⟨b, hb, hworker, hflow⟩
  · rw [recordExecuted_of_eq hflow]
    refine ⟨hsound, ?_, ?_, ?_⟩
    · rw [hflow]
      exact h.progressing
    · rw [hflow]
      exact h.produced
    · rw [hflow]
      exact h.tagging
  · obtain ⟨hproduced, htagging⟩ := step_console hb hflow
    rw [recordExecuted_of_stepsFlow hworker hflow]
    exact ⟨hsound, h.progressing.step (h.hasRoom hfew hb hflow) hflow, hproduced.trans h.produced,
      htagging.trans h.tagging⟩

/-- The worker takes the tasks in the order in which the queue has got them. -/
lemma Lossless.executesInOrder (h : p.Lossless executed) : p.flow.ExecutesInOrder executed := by
  have hloses := h.progressing.toFlowing.losesNothing
  have horder := h.progressing.order
  refine ⟨horder, List.IsPrefix.trans ?_ hloses.slots, fun hquiet hqueue hhand => ?_⟩
  · rw [horder, List.append_assoc, List.filterMap_append]
    exact List.prefix_append _ _
  · rw [hqueue, hhand, List.append_nil, List.append_nil] at horder
    rw [← horder]
    exact (hloses.network hquiet).2

end AppRun

/-- An application, and what its worker has executed. -/
def executingApplication (σ : Type) : System (AppRun σ × List Task) AppAction :=
  (application σ).withHistory [] AppRun.recordExecuted

namespace AppRun

variable {σ : Type}

/-- **No event of a server is lost** as long as the pool has issued 4095 slots at most and nobody
gives back the slot of another thread: no queue refuses anything, and the worker executes a task for
each event, in their order. -/
theorem application_losesNothing {x : AppRun σ × List Task}
    (h : (executingApplication σ).Reachable (fun x a => x.1.Undisturbed a ∧ x.1.FewSlots) x) :
    (x.1.FewSlots → x.1.flow.RefusesNothing) ∧ x.1.flow.LosesNothing ∧
      x.1.flow.ExecutesInOrder x.2 := by
  have hlossless : x.1.Lossless x.2 := by
    refine h.invariant (I := fun x => x.1.Lossless x.2) ?_ ?_
    · rintro ⟨p, executed⟩ ⟨hinitial, rfl⟩
      refine ⟨sound_of_initial hinitial, ?_, ?_, ?_⟩
      · rw [hinitial.1]
        exact ⟨⟨⟨rfl, rfl⟩, ⟨rfl, rfl⟩, List.not_mem_nil, rfl⟩, rfl, rfl, by simp⟩
      · rw [hinitial.1]
      · rw [hinitial.1]
    · intro x a x' _ hx hG hstep
      obtain ⟨hstep, hrecord⟩ := System.withHistory_step.1 hstep
      rw [hrecord]
      exact hx.step hG.1 hG.2 hstep
  exact ⟨hlossless.refusesNothing, hlossless.progressing.toFlowing.losesNothing,
    hlossless.executesInOrder⟩

/-- The client comes, and the worker executes its task. -/
def clientServed : List AppAction :=
  clientComes ++ List.replicate 3 .coroutineLoop ++ List.replicate 9 (.worker [] {})

theorem application_losesNothing_client :
    ∃ x, (executingApplication LobbyManager).run (listeningServer, []) clientServed = some x ∧
      x.2 = [⟨.network, .slot 1⟩] ∧ (x.1.FewSlots → x.1.flow.RefusesNothing) ∧
        x.1.flow.LosesNothing ∧ x.1.flow.ExecutesInOrder x.2 := by
  have hmeets : (executingApplication LobbyManager).Meets
      (fun x a => x.1.Undisturbed a ∧ x.1.FewSlots) (listeningServer, []) clientServed := by
    decide +kernel
  have hexecuted : ((executingApplication LobbyManager).run (listeningServer, [])
      clientServed).map (·.2) = some [⟨.network, .slot 1⟩] := by decide +kernel
  obtain ⟨x, hrun, hexecuted⟩ := Option.map_eq_some_iff.1 hexecuted
  have hinitial : (executingApplication LobbyManager).initial (listeningServer, []) :=
    ⟨listeningServer_initial, rfl⟩
  have hreachable := (System.Reachable.of_initial hinitial).run hmeets hrun
  exact ⟨x, hrun, hexecuted, application_losesNothing hreachable⟩

end AppRun

end BattleShips
