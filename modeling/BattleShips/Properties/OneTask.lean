import BattleShips.Application.AppRun
import BattleShips.Net.LoopClaims
import BattleShips.Properties.LosslessFlow

/-!
# One task for a connection

Every event is one-shot, so that there is at most one task for a connection, from the event to the
moment when the worker arms the socket again: this is what keeps the queues of a server short
enough, and what would let several workers run. It holds as long as no thread gives back a slot
that another has a claim to.
-/

namespace BattleShips

open Traced NetworkEngine

variable {σ α : Type} {s s' : TaskFlow} {p p' : AppRun σ}

/-! ### Claims -/

/-- The slot of the task that the worker executes. -/
def TaskWorkerPc.executing : TaskWorkerPc → Option ℕ
  | .execute task => task.slot?
  | .acquire | .tryPop | .releasePush _ | .releasePop => none

/-- The task that the worker has taken and not begun. -/
def TaskWorkerPc.taken : TaskWorkerPc → List Task
  | .releasePush task => [task]
  | .acquire | .tryPop | .releasePop | .execute _ => []

/-- The slots on their way from an event to the worker. -/
def TaskFlow.slots (s : TaskFlow) : List ℕ :=
  s.eventSlots ++ s.network.rawTasks.items ++
    (s.held ++ s.tasksQueue.items ++ s.worker.taken).filterMap Task.slot?

def AppAction.Serves : AppAction → Prop
  | .worker calls _ => ∀ call ∈ calls, call.Serves
  | .epollWait _ | .eventLoop | .coroutineLoop => True

instance : DecidablePred AppAction.Serves := fun a =>
  match a with
  | .worker _ _ => inferInstanceAs (Decidable (∀ call ∈ _, _))
  | .epollWait _ | .eventLoop | .coroutineLoop => inferInstanceAs (Decidable True)

namespace AppRun

/-- The slot that the worker is busy with. -/
def own (p : AppRun σ) : Option ℕ := p.flow.worker.executing.bind p.run.own

/-- The slots on their way to the worker, and the listener that is being served. -/
def claims (p : AppRun σ) : List ℕ := p.flow.slots ++ p.serving.toList.map Prod.fst

/-- The slots that a thread must leave to the others. -/
def others (p : AppRun σ) : AppAction → List ℕ
  | .worker _ _ => p.claims ++ p.run.eventLoop.slots
  | .epollWait _ | .eventLoop | .coroutineLoop => p.claims

/-- In this step no slot is given back that is free or that another thread has a claim to, the slot
that the worker is busy with is not handed out, and no transfer fails. -/
def Undisturbed (p : AppRun σ) (a : AppAction) : Prop :=
  a.Serves ∧ ∀ p' ∈ p.step a, Allowed (BattleShips.Undisturbed (p.others a) p.own) p.run.events
    (p'.run.events.drop p.run.events.length)

instance (p : AppRun σ) (a : AppAction) : Decidable (p.Undisturbed a) :=
  inferInstanceAs (Decidable (_ ∧ _))

/-- There is at most one task for a connection, and until it is done epoll does not report it. -/
structure OneTask (p : AppRun σ) : Prop where
  once : (p.own.toList ++ p.flow.slots).Nodup
  silent : ∀ slot ∈ p.own.toList ++ p.flow.slots, ¬ p.run.world.Reports slot

end AppRun

/-! ### The queues -/

namespace TaskFlow

lemma count_slots (s : TaskFlow) (slot : ℕ) : s.slots.count slot =
    s.eventSlots.count slot + s.network.rawTasks.items.count slot +
      ((s.held.filterMap Task.slot?).count slot +
        (s.tasksQueue.items.filterMap Task.slot?).count slot +
          (s.worker.taken.filterMap Task.slot?).count slot) := by
  simp only [slots, List.filterMap_append, List.count_append]

/-- No slot comes in twice where it was once. -/
lemma count_slots_coroutineStep (h : s.coroutineStep = some s') (slot : ℕ) :
    s'.slots.count slot ≤ s.slots.count slot := by
  rw [count_slots, count_slots]
  cases hpc : s.coroutine with
  | waitForData =>
    simp only [coroutineStep, hpc] at h
    split_ifs at h
    obtain rfl := Option.some.inj h
    simp [held, hpc]
  | tryPop =>
    simp only [coroutineStep, hpc] at h
    cases hpop : s.availableTaskTags.tryPop with
    | none =>
      simp only [hpop] at h
      obtain rfl := Option.some.inj h
      simp [held, hpc]
    | some popped =>
      simp only [hpop] at h
      obtain rfl := Option.some.inj h
      simp [held, hpc]
  | resume tag =>
    cases tag with
    | scheduler => simp [coroutineStep, hpc] at h
    | network =>
      cases hpop : s.network.rawTasks.tryPop with
      | none =>
        simp only [coroutineStep, hpc, hpop] at h
        obtain rfl := Option.some.inj h
        simp [held, hpc]
      | some popped =>
        simp only [coroutineStep, hpc, hpop] at h
        obtain rfl := Option.some.inj h
        have hitems := (AtomicQueue.tryPop_eq_some.1 hpop).1
        have htask : [(⟨.network, .slot popped.1⟩ : Task)].filterMap Task.slot? = [popped.1] := rfl
        simp only [held, hpc, hitems, htask, List.filterMap_nil, List.count_nil, List.count_cons]
        omega
    | console =>
      cases hpop : s.console.rawTasks.tryPop with
      | none =>
        simp only [coroutineStep, hpc, hpop] at h
        obtain rfl := Option.some.inj h
        simp [held, hpc]
      | some popped =>
        simp only [coroutineStep, hpc, hpop] at h
        obtain rfl := Option.some.inj h
        have htask : [(⟨.console, .line popped.1⟩ : Task)].filterMap Task.slot? = [] := rfl
        simp [held, hpc, htask]
  | acquire task =>
    simp only [coroutineStep, hpc] at h
    split_ifs at h
    obtain rfl := Option.some.inj h
    simp [held, hpc]
  | pushTask task =>
    simp only [coroutineStep, hpc] at h
    cases hpush : s.tasksQueue.tryPush task with
    | accepted q =>
      simp only [hpush] at h
      obtain rfl := Option.some.inj h
      obtain rfl := AtomicQueue.tryPush_accepted hpush
      simp only [held, hpc, List.filterMap_append, List.count_append, List.filterMap_nil,
        List.count_nil]
      omega
    | refused =>
      simp only [hpush] at h
      obtain rfl := Option.some.inj h
      simp [held, hpc]
    | waiting => simp [hpush] at h
  | release =>
    simp only [coroutineStep, hpc] at h
    obtain rfl := Option.some.inj h
    simp [held, hpc]

/-- What `coroutine_loop` leaves alone. -/
lemma coroutineStep_rest (h : s.coroutineStep = some s') : s'.worker = s.worker ∧
    s'.console.produced = s.console.produced ∧ s'.console.tagging = s.console.tagging := by
  cases hpc : s.coroutine with
  | waitForData | acquire task =>
    simp only [coroutineStep, hpc] at h
    split_ifs at h
    obtain rfl := Option.some.inj h
    exact ⟨rfl, rfl, rfl⟩
  | tryPop =>
    simp only [coroutineStep, hpc] at h
    cases hpop : s.availableTaskTags.tryPop with
    | none | some popped =>
      simp only [hpop] at h
      obtain rfl := Option.some.inj h
      exact ⟨rfl, rfl, rfl⟩
  | resume tag =>
    cases tag with
    | scheduler => simp [coroutineStep, hpc] at h
    | network =>
      cases hpop : s.network.rawTasks.tryPop with
      | none | some popped =>
        simp only [coroutineStep, hpc, hpop] at h
        obtain rfl := Option.some.inj h
        exact ⟨rfl, rfl, rfl⟩
    | console =>
      cases hpop : s.console.rawTasks.tryPop with
      | none | some popped =>
        simp only [coroutineStep, hpc, hpop] at h
        obtain rfl := Option.some.inj h
        exact ⟨rfl, rfl, rfl⟩
  | pushTask task =>
    simp only [coroutineStep, hpc] at h
    cases hpush : s.tasksQueue.tryPush task with
    | accepted q | refused =>
      simp only [hpush] at h
      obtain rfl := Option.some.inj h
      exact ⟨rfl, rfl, rfl⟩
    | waiting => simp [hpush] at h
  | release =>
    simp only [coroutineStep, hpc] at h
    obtain rfl := Option.some.inj h
    exact ⟨rfl, rfl, rfl⟩

/-- What the worker begins to execute it had taken. -/
lemma count_slots_workerStep (h : s.workerStep = some s') (slot : ℕ) :
    s'.slots.count slot ≤ s.slots.count slot ∧ s'.worker.executing.toList.count slot +
      s'.slots.count slot ≤ s.worker.executing.toList.count slot + s.slots.count slot := by
  rw [count_slots, count_slots]
  cases hpc : s.worker with
  | acquire =>
    simp only [workerStep, hpc] at h
    split_ifs at h
    obtain rfl := Option.some.inj h
    simp [held, TaskWorkerPc.executing, TaskWorkerPc.taken]
  | tryPop =>
    simp only [workerStep, hpc] at h
    cases hpop : s.tasksQueue.tryPop with
    | none =>
      simp only [hpop] at h
      obtain rfl := Option.some.inj h
      simp [held, TaskWorkerPc.executing, TaskWorkerPc.taken]
    | some popped =>
      obtain ⟨task, q⟩ := popped
      simp only [hpop] at h
      obtain rfl := Option.some.inj h
      have hitems := (AtomicQueue.tryPop_eq_some.1 hpop).1
      have happend : s.tasksQueue.items.filterMap Task.slot? =
          [task].filterMap Task.slot? ++ q.items.filterMap Task.slot? := by
        rw [hitems, ← List.filterMap_append, List.singleton_append]
      simp only [held, TaskWorkerPc.executing, TaskWorkerPc.taken, happend, List.count_append]
      omega
  | releasePush task =>
    simp only [workerStep, hpc] at h
    obtain rfl := Option.some.inj h
    have htask : [task].filterMap Task.slot? = task.slot?.toList := by
      cases hslot : task.slot? <;> simp [hslot]
    simp only [held, TaskWorkerPc.executing, TaskWorkerPc.taken, htask, List.filterMap_nil,
      List.count_nil, Option.toList_none]
    omega
  | releasePop =>
    simp only [workerStep, hpc] at h
    obtain rfl := Option.some.inj h
    simp [held, TaskWorkerPc.executing, TaskWorkerPc.taken]
  | execute task =>
    simp only [workerStep, hpc] at h
    obtain rfl := Option.some.inj h
    simp [held, TaskWorkerPc.executing, TaskWorkerPc.taken]

lemma workerStep_console (h : s.workerStep = some s') :
    s'.console.produced = s.console.produced ∧ s'.console.tagging = s.console.tagging := by
  cases hpc : s.worker with
  | acquire =>
    simp only [workerStep, hpc] at h
    split_ifs at h
    obtain rfl := Option.some.inj h
    exact ⟨rfl, rfl⟩
  | tryPop =>
    simp only [workerStep, hpc] at h
    cases hpop : s.tasksQueue.tryPop with
    | none | some popped =>
      simp only [hpop] at h
      obtain rfl := Option.some.inj h
      exact ⟨rfl, rfl⟩
  | releasePush task | releasePop | execute task =>
    simp only [workerStep, hpc] at h
    obtain rfl := Option.some.inj h
    exact ⟨rfl, rfl⟩

/-- After a task the worker waits for the next one. -/
lemma executing_workerStep {slot : ℕ} (h : s.workerStep = some s')
    (hslot : s.worker.executing = some slot) : s'.worker.executing = none := by
  cases hpc : s.worker with
  | execute task =>
    simp only [workerStep, hpc] at h
    obtain rfl := Option.some.inj h
    rfl
  | acquire | tryPop | releasePush task | releasePop => simp [hpc, TaskWorkerPc.executing] at hslot

end TaskFlow

/-! ### Every step -/

namespace AppRun

lemma count_cons_eq (i j : ℕ) (slots : List ℕ) :
    (i :: slots).count j = [i].count j + slots.count j := by
  rw [← List.count_append, List.singleton_append]

/-- What holds of an application between its steps. -/
structure Sound (p : AppRun σ) : Prop where
  registers : p.run.Registers p.claims p.own
  closed : ∀ slot next, p.own = some slot → p.run.worker = .releaseSlot next →
    (p.run.world.entry slot).socketHandler.socket = -1

/-- Slots move on, and the connections stay as they are. -/
lemma Sound.move (h : p.Sound) (hworld : p'.run.world = p.run.world)
    (hevents : p'.run.events = p.run.events) (heventLoop : p'.run.eventLoop = p.run.eventLoop)
    (hclaims : ∀ slot, p'.claims.count slot ≤ p.claims.count slot)
    (hown : ∀ slot,
      (p'.own.toList ++ p'.claims).count slot ≤ (p.own.toList ++ p.claims).count slot)
    (hclosed : ∀ slot next, p'.own = some slot → p'.run.worker = .releaseSlot next →
      p.own = some slot ∧ p.run.worker = .releaseSlot next) : p'.Sound := by
  have hmem : ∀ slot ∈ p'.claims, slot ∈ p.claims := fun slot hslot =>
    List.count_pos_iff.1 ((List.count_pos_iff.2 hslot).trans_le (hclaims slot))
  obtain ⟨hclaimed, hnodup⟩ := h.registers
  refine ⟨⟨?_, ?_⟩, fun slot next howns hpc => ?_⟩
  · rw [hworld, hevents, heventLoop]
    refine hclaimed.mono (fun slot hslot => ?_) fun slot hslot => ?_
    · exact List.mem_append.2 ((List.mem_append.1 hslot).imp_left (hmem slot))
    · have hpos : 0 < (p'.own.toList ++ p'.claims).count slot := by
        rw [List.count_pos_iff, List.mem_append, Option.mem_toList]
        exact .inl hslot
      have hmem' := List.count_pos_iff.1 (hpos.trans_le (hown slot))
      rw [List.mem_append, Option.mem_toList] at hmem'
      exact hmem'.imp_right (List.mem_append_left _)
  · rw [List.nodup_iff_count_le_one] at hnodup ⊢
    intro slot
    have hle := hnodup slot
    have hcount := hown slot
    simp only [List.count_append, heventLoop] at hle hcount ⊢
    omega
  · rw [hworld]
    obtain ⟨howns', hpc'⟩ := hclosed slot next howns hpc
    exact h.closed slot next howns' hpc'

/-- The queues move on, and the worker stays where it is. -/
lemma Sound.flow {flow' : TaskFlow} (h : p.Sound)
    (hslots : ∀ slot, flow'.slots.count slot ≤ p.flow.slots.count slot)
    (hworker : flow'.worker = p.flow.worker) : { p with flow := flow' }.Sound := by
  have hown : { p with flow := flow' }.own = p.own := by simp only [own, hworker]
  have hclaims : ∀ slot, { p with flow := flow' }.claims.count slot ≤ p.claims.count slot := by
    intro slot
    simp only [claims, List.count_append]
    exact Nat.add_le_add_right (hslots slot) _
  refine h.move rfl rfl rfl hclaims (fun slot => ?_) fun slot next howns hpc => ?_
  · rw [hown, List.count_append, List.count_append]
    exact Nat.add_le_add_left (hclaims slot) _
  · exact ⟨hown ▸ howns, hpc⟩

lemma Sound.coroutineLoop (h : p.Sound) (hstep : p.moveTasks .coroutineLoop = some p') :
    p'.Sound := by
  obtain ⟨flow', hflow, rfl⟩ := Option.map_eq_some_iff.1 hstep
  exact h.flow (TaskFlow.count_slots_coroutineStep hflow) (TaskFlow.coroutineStep_rest hflow).1

lemma executing_eq_some {pc : TaskWorkerPc} {slot : ℕ} :
    pc.executing = some slot ↔ pc = .execute ⟨.network, .slot slot⟩ := by
  cases pc with
  | execute task =>
    obtain ⟨tag, context⟩ := task
    cases tag <;> cases context <;> simp [TaskWorkerPc.executing, Task.slot?]
  | acquire | tryPop | releasePush task | releasePop => simp [TaskWorkerPc.executing]

/-- The cases of a step of the worker. -/
lemma workerStep_cases {calls : List EngineCall} {result : ActionResult}
    (h : p.workerStep calls result = some p') :
    (p.flow.worker.executing = none ∧
      { p with run.worker := .condition {} }.moveTasks .worker = some p') ∨
    (p.run.worker = .returned ∧ p.moveTasks .worker = some p') ∨
    ∃ slot r, p.flow.worker.executing = some slot ∧
      p.run.workerStep slot calls result = some r ∧ p' = { p with run := r } := by
  cases hexecuting : p.flow.worker.executing with
  | none =>
    refine .inl ⟨rfl, ?_⟩
    rw [workerStep] at h
    split at h
    · next slot hworker => simp [hworker, TaskWorkerPc.executing, Task.slot?] at hexecuting
    · exact h
  | some slot =>
    have hworker := executing_eq_some.1 hexecuting
    rw [workerStep, hworker] at h
    cases hpc : p.run.worker with
    | returned =>
      simp only [hpc] at h
      exact .inr (.inl ⟨rfl, h⟩)
    | condition _ | getMessage | processMessage _ | answerUser _ | unsubscribe _ | reset _
    | releaseSlot _ =>
      simp only [hpc] at h
      obtain ⟨r, hr, rfl⟩ := Option.map_eq_some_iff.1 h
      exact .inr (.inr ⟨slot, r, rfl, hr, rfl⟩)

/-- A step of the worker that is not one of the loop. -/
lemma Sound.worker (h : p.Sound) (hown : p.flow.worker.executing = none ∨ p.run.worker = .returned)
    {pc : LoopPc} (hpc : ∀ next, pc ≠ .releaseSlot next) {flow' : TaskFlow}
    (hflow : p.flow.workerStep = some flow') :
    { p with flow := flow', run.worker := pc }.Sound := by
  let p' : AppRun σ := { p with flow := flow', run.worker := pc }
  have hnone : p.own = none := by
    rcases hown with hexecuting | hreturned
    · rw [own, hexecuting, Option.bind_none]
    · rw [own, Option.bind_eq_none_iff]
      exact fun slot _ => LoopRun.own_of_not_holds (by rw [hreturned]; exact id)
  have hown' : ∀ slot, p'.own.toList.count slot ≤ flow'.worker.executing.toList.count slot := by
    intro slot
    cases hexecuting : flow'.worker.executing with
    | none => simp [p', own, hexecuting]
    | some i =>
      simp only [p', own, hexecuting, Option.bind_some, LoopRun.own]
      split_ifs <;> simp
  have hle : ∀ slot, flow'.worker.executing.toList.count slot + flow'.slots.count slot ≤
      p.flow.slots.count slot := by
    intro slot
    obtain ⟨hslots, hall⟩ := TaskFlow.count_slots_workerStep hflow slot
    cases hexecuting : p.flow.worker.executing with
    | none => simpa [hexecuting] using hall
    | some i => simpa [TaskFlow.executing_workerStep hflow hexecuting] using hslots
  refine h.move rfl rfl rfl (fun slot => ?_) (fun slot => ?_) fun slot next _ heq => ?_
  · simp only [claims, List.count_append]
    exact Nat.add_le_add_right ((Nat.le_add_left _ _).trans (hle slot)) _
  · have hslots := hle slot
    have hexecuting := hown' slot
    simp only [p', hnone, claims, List.count_append, Option.toList_none, List.count_nil]
      at hexecuting ⊢
    omega
  · exact absurd heq (hpc next)

lemma Sound.workerStep {calls : List EngineCall} {result : ActionResult} (h : p.Sound)
    (hundisturbed : p.Undisturbed (.worker calls result))
    (hstep : p.workerStep calls result = some p') : p'.Sound := by
  obtain ⟨hcalls, hG⟩ := hundisturbed
  have hG := hG p' hstep
  rcases workerStep_cases hstep with
    ⟨hnone, hmove⟩ | ⟨hreturned, hmove⟩ | ⟨slot, r, hexecuting, hr, rfl⟩
  · obtain ⟨flow', hflow, rfl⟩ := Option.map_eq_some_iff.1 hmove
    exact h.worker (.inl hnone) (by simp) hflow
  · obtain ⟨flow', hflow, rfl⟩ := Option.map_eq_some_iff.1 hmove
    have hkept : ∀ next, p.run.worker ≠ .releaseSlot next := by simp [hreturned]
    exact h.worker (.inr hreturned) hkept hflow
  · have hown : p.own = p.run.own slot := by rw [own, hexecuting, Option.bind_some]
    have hown' : { p with run := r }.own = r.own slot := by
      simp only [own, hexecuting, Option.bind_some]
    have heventLoop := LoopRun.workerStep_eventLoop hr
    obtain ⟨hclaimed, hnodup⟩ := h.registers
    rw [hown] at hclaimed hnodup hG
    have hbusy : p.run.Busy (p.claims ++ p.run.eventLoop.slots) slot := by
      refine ⟨hclaimed, fun next hpc => h.closed slot next ?_ hpc⟩
      rw [hown]
      exact LoopRun.own_of_holds (by rw [hpc]; trivial)
    have hslot : p.run.worker.Holds → slot ∉ p.claims ++ p.run.eventLoop.slots := by
      intro hholds
      rw [LoopRun.own_of_holds hholds, Option.toList_some, List.singleton_append,
        List.nodup_cons] at hnodup
      exact hnodup.1
    obtain ⟨hclaimed', hclosed'⟩ := hbusy.workerStep hslot hcalls hr hG
    refine ⟨⟨?_, ?_⟩, fun slot' next hslot' hpc => ?_⟩
    · rw [hown', heventLoop]
      exact hclaimed'
    · rw [hown', heventLoop]
      by_cases hholds : r.worker.Holds
      · rw [LoopRun.own_of_holds (LoopRun.holds_of_workerStep hr hholds)] at hnodup
        rw [LoopRun.own_of_holds hholds]
        exact hnodup
      · rw [LoopRun.own_of_not_holds hholds]
        exact (List.nodup_append.1 hnodup).2.1
    · rw [hown', LoopRun.own] at hslot'
      split_ifs at hslot'
      obtain rfl := Option.some.inj hslot'
      exact hclosed' next hpc

lemma own_congr (hflow : p'.flow.worker = p.flow.worker) (hpc : p'.run.worker = p.run.worker) :
    p'.own = p.own := by
  have hrun : p'.run.own = p.run.own := by
    funext slot
    simp only [LoopRun.own, hpc]
  rw [own, own, hflow, hrun]

/-- The event loop goes on with a registration. -/
lemma Sound.register (h : p.Sound) (hundisturbed : p.Undisturbed .eventLoop)
    (hstep : p.step .eventLoop = some p') {r : LoopRun σ} (hr : p'.run = r)
    (hflow : p'.flow = p.flow) (hclaims : p'.claims = p.claims)
    (hcases : p.run.eventLoopStep = some r ∨ ∃ socket, p.run.acceptStep socket = some r) :
    p'.Sound := by
  subst hr
  have hG := hundisturbed.2 p' hstep
  have hpc : p'.run.worker = p.run.worker := by
    rcases hcases with hr | ⟨socket, hr⟩
    · exact LoopRun.worker_eventLoopStep hr
    · exact LoopRun.worker_acceptStep hr
  have hown : p'.own = p.own := own_congr (by rw [hflow]) hpc
  refine ⟨?_, fun slot next hslot hnext => ?_⟩
  · rw [hown, hclaims]
    rcases hcases with hr | ⟨socket, hr⟩
    · exact h.registers.eventLoopStep hr hG
    · exact h.registers.acceptStep hr hG
  · rw [hown] at hslot
    rw [hpc] at hnext
    have hclosed := h.closed slot next hslot hnext
    rcases hcases with hr | ⟨socket, hr⟩
    · have hnodup := h.registers.nodup
      rw [hslot, Option.toList_some, List.singleton_append, List.nodup_cons, List.mem_append,
        not_or] at hnodup
      rwa [LoopRun.entry_eventLoopStep hr hnodup.1.2]
    · rw [hslot] at hG
      rwa [LoopRun.entry_acceptStep hr hG]

/-- A program of the event loop that leaves the pool alone. -/
lemma Sound.quiet {m : EngineM σ α} {x : α × LoopRun σ} (h : p.Sound) (hm : Quiet m)
    (hexec : p.run.exec m = some x) (hrun : p'.run = x.2)
    (hworker : p'.flow.worker = p.flow.worker)
    (hclaimed : Claimed (p'.claims ++ p.run.eventLoop.slots) p.own x.2.world x.2.events)
    (hnodup : (p.own.toList ++ (p'.claims ++ p.run.eventLoop.slots)).Nodup) : p'.Sound := by
  obtain ⟨a, -, rfl⟩ := Option.map_eq_some_iff.1 hexec
  have hpc : p'.run.worker = p.run.worker := by rw [hrun]
  have heventLoop : p'.run.eventLoop = p.run.eventLoop := by rw [hrun]
  have hown : p'.own = p.own := own_congr hworker hpc
  refine ⟨⟨?_, ?_⟩, fun slot next hslot hnext => ?_⟩
  · rw [heventLoop, hown, hrun]
    exact hclaimed
  · rw [heventLoop, hown]
    exact hnodup
  · rw [hown] at hslot
    rw [hpc] at hnext
    rw [hrun]
    have hentry := (hm p.run.world).1.entry slot
    change (((m.run p.run.world).state).entry slot).socketHandler.socket = -1
    rw [hentry]
    exact h.closed slot next hslot hnext

lemma Sound.quiet_of_count {m : EngineM σ α} {x : α × LoopRun σ} (h : p.Sound) (hm : Quiet m)
    (hexec : p.run.exec m = some x) (hrun : p'.run = x.2)
    (hworker : p'.flow.worker = p.flow.worker)
    (hclaimed : Claimed (p.claims ++ p.run.eventLoop.slots) p.own x.2.world x.2.events)
    (hcount : ∀ slot, p'.claims.count slot ≤ p.claims.count slot) : p'.Sound := by
  refine h.quiet hm hexec hrun hworker (hclaimed.mono (fun slot hslot => ?_) fun _ => .inl) ?_
  · refine List.mem_append.2 ((List.mem_append.1 hslot).imp_left fun hmem => ?_)
    exact List.count_pos_iff.1 ((List.count_pos_iff.2 hmem).trans_le (hcount slot))
  · have hnodup := h.registers.nodup
    rw [List.nodup_iff_count_le_one] at hnodup ⊢
    intro slot
    have hle := hnodup slot
    have hslots := hcount slot
    simp only [List.count_append] at hle ⊢
    omega

/-- The next slot is a listener, which is served now. -/
lemma Sound.serve {slot : ℕ} {eventSlots : List ℕ} {x : Option (List ℤ) × LoopRun σ} (h : p.Sound)
    (heventSlots : p.flow.eventSlots = slot :: eventSlots) (hserving : p.serving = none)
    (hexec : p.run.exec (acceptSockets slot) = some x) :
    { flow := { p.flow with eventSlots := eventSlots }, run := x.2,
      serving := x.1.map fun sockets => (slot, sockets) : AppRun σ }.Sound := by
  have hquiet : Quiet (acceptSockets slot : EngineM σ _) := by
    intro w
    simp only [acceptSockets, run_bind, run_get, run_modify, Outcome.andThen]
    cases (acceptConnections w.results.accept4).1 with
    | error e => exact ⟨⟨rfl, rfl, rfl, rfl⟩, List.forall_mem_singleton.2 trivial⟩
    | ok sockets => exact ⟨⟨rfl, rfl, rfl, rfl⟩, by simp⟩
  have hepoll : ∀ w : World σ, ((acceptSockets slot).run w).state.epoll = w.epoll := by
    intro w
    simp only [acceptSockets, run_bind, run_get, run_modify, Outcome.andThen]
    cases (acceptConnections w.results.accept4).1 with
    | error e => rfl
    | ok sockets => rfl
  obtain ⟨hclaimed, hnodup⟩ := h.registers
  have hkeeps : Claimed (p.claims ++ p.run.eventLoop.slots) p.own x.2.world x.2.events :=
    LoopRun.of_exec (G := fun _ _ => True) (claimed_of_quiet hquiet fun w fd s hfd => by
      rwa [hepoll] at hfd) hclaimed hexec (allowed_of_forall fun _ _ _ => trivial)
  let p' : AppRun σ := {
    flow := { p.flow with eventSlots := eventSlots }
    run := x.2
    serving := x.1.map fun sockets => (slot, sockets) }
  have hcount : ∀ i, p'.claims.count i ≤ p.claims.count i := by
    intro i
    have hserved : (p'.serving.toList.map Prod.fst).count i ≤ [slot].count i := by
      simp only [p']
      cases x.1 <;> simp
    have hslots : p.flow.slots.count i = [slot].count i + p'.flow.slots.count i := by
      simp only [TaskFlow.count_slots, heventSlots, p', TaskFlow.held]
      rw [count_cons_eq slot i eventSlots]
      omega
    simp only [claims, List.count_append, hserving, Option.toList_none, List.map_nil,
      List.count_nil, hslots]
    omega
  have hsound : p'.Sound := h.quiet_of_count hquiet hexec rfl rfl hkeeps hcount
  exact hsound

lemma Sound.processEvent (h : p.Sound) (hserving : p.serving = none)
    (hstep : p.processEvent = some p') : p'.Sound := by
  rw [AppRun.processEvent] at hstep
  cases heventSlots : p.flow.eventSlots with
  | nil => simp [heventSlots] at hstep
  | cons slot eventSlots =>
    simp only [heventSlots] at hstep
    split_ifs at hstep with hlistener
    · obtain ⟨x, hx, hmove⟩ := Option.bind_eq_some_iff.1 hstep
      obtain ⟨y, hexec, rfl⟩ := Option.map_eq_some_iff.1 hx
      obtain ⟨flow', hflow, rfl⟩ := Option.map_eq_some_iff.1 hmove
      simp only [TaskFlow.step, TaskFlow.processEvent, heventSlots, hlistener, if_true] at hflow
      split_ifs at hflow
      obtain rfl := Option.some.inj hflow
      exact h.serve heventSlots hserving hexec
    · obtain ⟨flow', hflow, rfl⟩ := Option.map_eq_some_iff.1 hstep
      simp only [TaskFlow.step, TaskFlow.processEvent, heventSlots, if_neg hlistener] at hflow
      split_ifs at hflow
      obtain ⟨network, hpush, rfl⟩ := Option.map_eq_some_iff.1 hflow
      refine h.flow (fun i => ?_) rfl
      rw [Source.push] at hpush
      split_ifs at hpush
      obtain ⟨q, hq, rfl⟩ := Option.map_eq_some_iff.1 hpush
      have hitems : q.items.count i ≤ p.flow.network.rawTasks.items.count i + [slot].count i := by
        rw [AtomicQueue.afterPush] at hq
        cases hpush : p.flow.network.rawTasks.tryPush slot with
        | accepted q' =>
          simp only [hpush, Option.some.injEq] at hq
          rw [← hq, AtomicQueue.tryPush_accepted hpush, List.count_append]
        | refused =>
          simp only [hpush, Option.some.injEq] at hq
          rw [← hq]
          exact Nat.le_add_right _ _
        | waiting => simp [hpush] at hq
      simp only [TaskFlow.count_slots, heventSlots, TaskFlow.held]
      rw [count_cons_eq slot i eventSlots]
      omega

lemma Sound.eventLoopStep (h : p.Sound) (hundisturbed : p.Undisturbed .eventLoop)
    (hstep : p.eventLoopStep = some p') : p'.Sound := by
  have hstep' := hstep
  rw [AppRun.eventLoopStep] at hstep'
  split_ifs at hstep' with htagging hbusy
  · obtain ⟨flow', hflow, rfl⟩ := Option.map_eq_some_iff.1 hstep'
    simp only [TaskFlow.step, htagging, if_true] at hflow
    obtain ⟨q, -, rfl⟩ := Option.map_eq_some_iff.1 hflow
    exact h.flow (fun slot => le_rfl) rfl
  · obtain ⟨r, hr, rfl⟩ := Option.map_eq_some_iff.1 hstep'
    exact h.register hundisturbed hstep rfl rfl rfl (.inl hr)
  · cases hserving : p.serving with
    | none =>
      simp only [hserving] at hstep'
      exact h.processEvent hserving hstep'
    | some serving =>
      obtain ⟨serverSlot, sockets⟩ := serving
      cases sockets with
      | cons socket sockets =>
        simp only [hserving] at hstep'
        obtain ⟨r, hr, rfl⟩ := Option.map_eq_some_iff.1 hstep'
        refine h.register hundisturbed hstep rfl rfl ?_ (.inr ⟨socket, hr⟩)
        simp [claims, hserving]
      | nil =>
        simp only [hserving] at hstep'
        obtain ⟨x, hx, hafter⟩ := Option.bind_eq_some_iff.1 hstep'
        split_ifs at hafter with hnone
        obtain rfl := Option.some.inj hafter
        obtain ⟨y, hexec, rfl⟩ := Option.map_eq_some_iff.1 hx
        rw [not_not] at hbusy
        obtain ⟨hclaimed, hnodup⟩ := h.registers
        have hclaims : p.claims = p.flow.slots ++ [serverSlot] := by simp [claims, hserving]
        rw [hclaims, hbusy, RegisterPc.slots, List.append_nil] at hclaimed hnodup
        obtain ⟨⟨hslots, hown⟩, hrest⟩ := LoopRun.nodup_snoc.1 hnodup
        have hrearm := LoopRun.of_exec (G := fun _ _ => True)
          (triple_rearmSocket hslots hown) (hclaimed.mono (fun s hs => by simpa [or_comm] using hs)
            fun _ => .inl) hexec (allowed_of_forall fun _ _ _ => trivial)
        rw [if_pos hnone] at hrearm
        refine h.quiet (quiet_rearmSocket serverSlot) hexec rfl rfl ?_ ?_
        · simpa [claims, hbusy, RegisterPc.slots] using hrearm
        · simpa [claims, hbusy, RegisterPc.slots] using hrest

lemma quiet_waitForEvents (sockets : List ℤ) : Quiet (waitForEvents sockets : EngineM σ _) := by
  have hwait : ∀ socket, Quiet (waitForEvent socket : EngineM σ _) := by
    intro socket w
    simp only [waitForEvent, run_bind, run_get, Outcome.andThen]
    split
    · exact ⟨⟨rfl, rfl, rfl, rfl⟩, by simp [Outcome.andThen]⟩
    · exact ⟨.refl w, by simp⟩
  induction sockets with
  | nil => exact .pure _
  | cons socket sockets ih =>
    refine (hwait socket).bind fun r => ?_
    cases r with
    | none => exact ih
    | some slot => exact ih.bind fun _ => .pure _

/-- Slots that events report have not been there before. -/
lemma claimed_waitForEvents {G : List Event → Event → Prop} (sockets : List ℤ) (claims : List ℕ)
    (own : Option ℕ) :
    Triple G (fun (w : World σ) tr => Claimed claims own w tr ∧ (own.toList ++ claims).Nodup)
      (waitForEvents sockets) fun slots w tr =>
        Claimed (slots ++ claims) own w tr ∧ (own.toList ++ (slots ++ claims)).Nodup := by
  induction sockets generalizing claims with
  | nil => exact .pure fun _ _ => id
  | cons socket sockets ih =>
    have hwait : Triple G (fun (w : World σ) tr => Claimed claims own w tr ∧
        (own.toList ++ claims).Nodup) (waitForEvent socket) fun r w tr =>
          Claimed (r.toList ++ claims) own w tr ∧ (own.toList ++ (r.toList ++ claims)).Nodup := by
      rintro w tr ⟨hclaimed, hnodup⟩ hG r hr
      obtain ⟨hafter, hnew⟩ := claimed_waitForEvent socket w tr hclaimed hG r hr
      refine ⟨hafter, ?_⟩
      cases r with
      | none => exact hnodup
      | some i =>
        have hperm : (own.toList ++ ([i] ++ claims)).Perm (own.toList ++ (claims ++ [i])) :=
          List.perm_append_comm.append_left _
        rw [Option.toList_some, hperm.nodup_iff, LoopRun.nodup_snoc]
        exact ⟨hnew i rfl, hnodup⟩
    refine hwait.bind fun r => ?_
    cases r with
    | none => exact ih claims
    | some i =>
      refine (ih (i :: claims)).bind fun slots => .pure ?_
      rintro w tr ⟨hclaimed, hnodup⟩
      have hperm : (slots ++ i :: claims).Perm (i :: slots ++ claims) := List.perm_middle
      refine ⟨hclaimed.mono (fun s hs => hperm.mem_iff.2 hs) fun _ => .inl, ?_⟩
      rwa [← (hperm.append_left _).nodup_iff]

lemma Sound.epollWait {sockets : List ℤ} (h : p.Sound)
    (hstep : p.epollWait sockets = some p') : p'.Sound := by
  rw [AppRun.epollWait] at hstep
  split_ifs at hstep with hserving
  obtain ⟨x, hx, hmove⟩ := Option.bind_eq_some_iff.1 hstep
  obtain ⟨y, hexec, rfl⟩ := Option.map_eq_some_iff.1 hx
  obtain ⟨flow', hflow, rfl⟩ := Option.map_eq_some_iff.1 hmove
  simp only [TaskFlow.step] at hflow
  split_ifs at hflow with hidle
  obtain rfl := Option.some.inj hflow
  obtain ⟨hclaimed, hnodup⟩ := LoopRun.of_exec (G := fun _ _ => True)
    (claimed_waitForEvents sockets _ _) ⟨h.registers.claimed, h.registers.nodup⟩ hexec
    (allowed_of_forall fun _ _ _ => trivial)
  have hclaims : ∀ flow : TaskFlow, flow = { p.flow with eventSlots := y.1 } →
      { flow := flow, run := y.2, serving := p.serving : AppRun σ }.claims ++
        p.run.eventLoop.slots = y.1 ++ (p.claims ++ p.run.eventLoop.slots) := by
    rintro flow rfl
    simp [claims, TaskFlow.slots, hidle.1, TaskFlow.held]
  refine h.quiet (quiet_waitForEvents sockets) hexec rfl rfl ?_ ?_
  · rw [hclaims _ rfl]
    exact hclaimed
  · rw [hclaims _ rfl]
    exact hnodup

lemma Sound.step {a : AppAction} (h : p.Sound) (hundisturbed : p.Undisturbed a)
    (hstep : p.step a = some p') : p'.Sound := by
  cases a with
  | epollWait sockets => exact h.epollWait hstep
  | eventLoop => exact h.eventLoopStep hundisturbed hstep
  | coroutineLoop => exact h.coroutineLoop hstep
  | worker calls result => exact h.workerStep hundisturbed hstep

/-! ### The start -/

/-- The root connection is in the pool, and nothing is in epoll. -/
structure Fresh (w : World σ) (tr : List Event) : Prop where
  events : tr = [.acquired 0]
  epoll : ∀ fd i, w.epoll fd ≠ some i
  available : w.pool.availableSlots.items = []
  last : w.pool.lastNotIssuedIndex = 1

lemma Fresh.claimed {w : World σ} {tr : List Event} (h : Fresh w tr) : Claimed [0] none w tr := by
  have hreports : ∀ slot, ¬ w.Reports slot := fun slot ⟨fd, hfd⟩ => h.epoll fd _ hfd
  have howned : ∀ slot, Owned tr slot ↔ slot = 0 := by
    intro slot
    simp [h.events, Owned, Event.ownedAfter]
  constructor
  · exact fun fd slot hfd => absurd hfd (h.epoll fd _)
  · exact fun slot hslot => absurd hslot (hreports slot)
  · exact fun slot hslot => ⟨(howned slot).2 (List.mem_singleton.1 hslot), hreports slot⟩
  · simp
  · intro slot hslot
    rw [World.Occupies, h.last, h.available, (howned slot).1 hslot]
    exact ⟨Nat.zero_lt_one, List.not_mem_nil⟩
  · rw [h.available]
    exact List.nodup_nil
  · simp [h.available]

section Start

variable {G : List Event → Event → Prop}

/-- A change that puts nothing into epoll, and leaves the pool alone but for what is in it. -/
lemma fresh_modify {f : World σ → World σ} {a : α}
    (hf : ∀ w, (f w).pool.availableSlots = w.pool.availableSlots ∧
      (f w).pool.lastNotIssuedIndex = w.pool.lastNotIssuedIndex ∧
      ∀ fd i, (f w).epoll fd = some i → w.epoll fd = some i) :
    Keeps G (Fresh (σ := σ)) (do
      Traced.modify f
      return a) := by
  refine Triple.bind (Triple.modify (Q := fun _ => Fresh) fun w tr h => ?_) fun _ => Keeps.pure
  obtain ⟨havailable, hlast, hepoll⟩ := hf w
  exact ⟨h.events, fun fd i hfd => h.epoll fd i (hepoll fd i hfd), havailable ▸ h.available,
    hlast ▸ h.last⟩

lemma fresh_initConnectionType (socketType : EndPoint) (slot : ℕ) :
    Keeps G (Fresh (σ := σ)) (initConnectionType socketType slot) := by
  have hclose : ∀ (w : World σ) socket fd i,
      (w.close socket).epoll fd = some i → w.epoll fd = some i := by
    intro w socket fd i hfd
    simp only [World.close, Function.update_apply] at hfd
    split_ifs at hfd
    exact hfd
  cases socketType with
  | none | toClient | toLobby => exact Keeps.pure
  | toParent => exact fresh_modify fun w => ⟨rfl, rfl, fun _ _ => id⟩
  | listener =>
    have hsetup : Keeps G (Fresh (σ := σ)) (setupListener slot) := by
      refine Triple.bind (Keeps.get (I := Fresh (σ := σ))) fun w₀ => Keeps.ite Keeps.pure ?_
      refine Keeps.bind (fresh_modify fun w => ⟨rfl, rfl, fun _ _ => id⟩) fun _ => ?_
      cases w₀.results.listen.headD .socketFailed with
      | socketFailed => exact Keeps.pure
      | setsockoptFailed socket => exact fresh_modify fun w => ⟨rfl, rfl, fun _ _ => id⟩
      | bindFailed socket =>
    exact fresh_modify fun w => ⟨rfl, rfl, fun fd i => hclose _ socket fd i⟩
      | listenFailed socket =>
        exact fresh_modify fun w => ⟨rfl, rfl, fun fd i => hclose _ socket fd i⟩
      | listening socket => exact fresh_modify fun w => ⟨rfl, rfl, fun _ _ => id⟩
    refine Triple.bind hsetup fun r => ?_
    cases r with
    | none => exact fresh_modify fun w => ⟨rfl, rfl, fun _ _ => id⟩
    | some e => exact Keeps.pure
  | toServer =>
    have hsetup : Keeps G (Fresh (σ := σ)) (setupClient slot) := by
      refine Triple.bind (Keeps.get (I := Fresh (σ := σ))) fun w₀ => ?_
      refine Keeps.bind (fresh_modify fun w => ⟨rfl, rfl, fun _ _ => id⟩) fun _ => ?_
      cases w₀.results.connect.headD .socketFailed with
      | socketFailed => exact fresh_modify fun w => ⟨rfl, rfl, fun _ _ => id⟩
      | connectFailed socket => exact fresh_modify fun w => ⟨rfl, rfl, fun _ _ => id⟩
      | connected socket => exact fresh_modify fun w => ⟨rfl, rfl, fun _ _ => id⟩
    refine Triple.bind hsetup fun r => ?_
    cases r with
    | none => exact fresh_modify fun w => ⟨rfl, rfl, fun _ _ => id⟩
    | some e => exact Keeps.pure

lemma claimed_initEngine (app : σ) (socketType : EndPoint) (socket : ℤ) :
    Triple G (World.IsInitial app) (initEngine socketType socket) fun r w tr =>
      r.isOk → Claimed [] none w tr := by
  have hpush : ∀ connection, Triple G (World.IsInitial app) (pushToPool (σ := σ) connection)
      fun _ => Fresh := by
    refine fun connection => triple_pushToPool fun w tr slot w' hw hpush _ => ?_
    obtain ⟨⟨results, rfl⟩, rfl⟩ := hw
    obtain ⟨hitems, -⟩ | ⟨-, havailable, hslot, -, hlast, -⟩ := World.pushToPool_cases hpush
    · cases hitems
    · refine ⟨by rw [hslot]; rfl, fun fd i hfd => ?_, by rw [havailable]; rfl, hlast⟩
      cases World.epoll_of_pushToPool hpush hfd
  have hepoll : Triple G (Fresh (σ := σ)) initEpoll fun r w tr => r = none →
      Claimed [] none w tr := by
    refine Triple.bind (Keeps.get (I := Fresh (σ := σ))) fun w₀ => Triple.ite (fun _ => ?_)
      fun _ => .pure fun w tr _ hnone => by cases hnone
    refine Triple.bind ((triple_subscribeToEvents (List.not_mem_nil) (by simp)).pre
      fun w tr h => h.claimed) fun r => .pure fun w tr hr hnone => ?_
    rwa [if_pos (Option.map_eq_none_iff.1 hnone)] at hr
  refine (hpush _).bind fun slot => ?_
  refine Triple.bind (fresh_initConnectionType socketType slot) fun r => ?_
  cases r with
  | some e => exact .pure fun w tr _ hok => by cases hok
  | none =>
    refine hepoll.bind fun r => ?_
    cases r with
    | some e => exact .pure fun w tr _ hok => by cases hok
    | none => exact .pure fun w tr h _ => h rfl

end Start

lemma sound_of_initial (h : (application σ).initial p) : p.Sound := by
  obtain ⟨hflow, hserving, hidle, app, results, socketType, socket, view, hinit⟩ := h
  have hclaims : p.claims = [] := by
    rw [claims, hflow, hserving]
    rfl
  have hown : p.own = none := by
    rw [own, hflow]
    rfl
  have hclaimed : Claimed [] none p.run.world p.run.events := by
    have h := claimed_initEngine (G := fun _ _ => True) app socketType socket
      (World.initial app results) [] ⟨⟨results, rfl⟩, rfl⟩
      (allowed_of_forall fun _ _ _ => trivial) (.ok view) (by rw [hinit]) rfl
    rwa [hinit] at h
  refine ⟨⟨?_, ?_⟩, fun slot next hslot => ?_⟩
  · rw [hclaims, hown, hidle]
    exact hclaimed
  · rw [hclaims, hown, hidle]
    exact List.nodup_nil
  · rw [hown] at hslot
    cases hslot

/-- **There is at most one task for a connection** at any time, as long as nobody gives back the
slot of another thread. -/
theorem reachable_oneTask (h : (application σ).Reachable Undisturbed p) : p.OneTask := by
  have hsound : p.Sound := h.invariant (I := Sound) (fun p hp => sound_of_initial hp)
    fun p a p' _ hp hundisturbed hstep => hp.step hundisturbed hstep
  obtain ⟨hclaimed, hnodup⟩ := hsound.registers
  constructor
  · refine hnodup.sublist (List.Sublist.append_left ?_ _)
    exact (List.sublist_append_left _ _).trans (List.sublist_append_left _ _)
  · intro slot hslot
    rcases List.mem_append.1 hslot with hslot | hslot
    · exact (hclaimed.own slot (Option.mem_toList.1 hslot)).1
    · exact (hclaimed.held slot (List.mem_append_left _ (List.mem_append_left _ hslot))).2

/-- A server that listens on 3, where a client is going to come on 7. -/
def listeningServer : AppRun LobbyManager where
  run := {
    world := ((initEngine .listener 0).run (World.initial {} {
      listen := [.listening 3]
      accept4 := [.accepted 7] })).state
    events := [.acquired 0] }

lemma listeningServer_initial : (application LobbyManager).initial listeningServer :=
  ⟨rfl, rfl, rfl, {}, { listen := [.listening 3], accept4 := [.accepted 7] }, .listener, 0, ⟨0⟩,
    rfl⟩

/-- The client comes, it is registered, and its first message becomes a task. -/
def clientComes : List AppAction :=
  [.epollWait [3], .eventLoop, .eventLoop, .eventLoop, .eventLoop, .epollWait [7], .eventLoop,
    .eventLoop, .coroutineLoop, .coroutineLoop, .coroutineLoop]

theorem reachable_oneTask_client : ∃ p, (application LobbyManager).run listeningServer clientComes =
    some p ∧ p.flow.slots = [1] ∧ p.OneTask := by
  have hmeets : (application LobbyManager).Meets Undisturbed listeningServer clientComes := by
    decide +kernel
  have hslots : ((application LobbyManager).run listeningServer clientComes).map (·.flow.slots) =
      some [1] := by decide +kernel
  obtain ⟨p, hrun, hslots⟩ := Option.map_eq_some_iff.1 hslots
  have hreachable := (System.Reachable.of_initial listeningServer_initial).run hmeets hrun
  exact ⟨p, hrun, hslots, reachable_oneTask hreachable⟩

end AppRun

end BattleShips
