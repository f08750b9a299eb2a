import BattleShips.Application.Application
import BattleShips.Application.TaskFlow
import BattleShips.Net.ProcessingLoop

/-!
# The threads of an application

`Server::run` and `Lobby::run`: the event loop (`NetworkEngine::run_event_loop`), the scheduler
and one worker, over the connections of one `NetworkEngine`. The tasks of the worker are runs of
`process_connection_impl`. A call of a queue, of the pool, of the handler or of the kernel is one
step, and the steps of the threads come in any order.
-/

namespace BattleShips

open NetworkEngine

variable {σ : Type}

/-- `MAX_EVENTS`. -/
abbrev maxEvents : ℕ := 10

/-- `EpollHandler::wait_for_events`, when these sockets are ready: the slots of those that are
armed. -/
def waitForEvents : List ℤ → EngineM σ (List ℕ)
  | [] => return []
  | socket :: sockets => do
    match ← waitForEvent socket with
    | some slot => return slot :: (← waitForEvents sockets)
    | none => waitForEvents sockets

/-- `process_server_socket`, up to the sockets that it has to register. -/
def acceptSockets (serverSlot : ℕ) : EngineM σ (Option (List ℤ)) := do
  let w ← Traced.get
  Traced.modify fun w =>
    { w with results.accept4 := (acceptConnections w.results.accept4).2 }.openDescriptors
      (acceptedSockets w.results.accept4) true
  match (acceptConnections w.results.accept4).1 with
  | .error _ =>
    Traced.emit (.acceptFailed serverSlot)
    return none
  | .ok sockets => return some sockets

lemma processServerSocket_eq (serverSlot : ℕ) :
    (processServerSocket serverSlot : EngineM σ PUnit) = (do
      match ← acceptSockets serverSlot with
      | none => return ⟨⟩
      | some sockets =>
        let _ ← registerConnections sockets {}
        match ← rearmSocket serverSlot with
        | none => return ⟨⟩
        | some _ => Traced.stop) := by
  funext w
  change (processServerSocket serverSlot).run w = (acceptSockets serverSlot >>= _).run w
  simp only [processServerSocket, acceptSockets, Traced.run_bind, Traced.run_get,
    Traced.run_modify, Traced.Outcome.andThen]
  cases (acceptConnections w.results.accept4).1 with
  | error e => rfl
  | ok sockets => rfl

/-- An application with its threads. -/
structure AppRun (σ : Type) where
  flow : TaskFlow := {}
  /-- The connections, and where the worker and the event loop are with them. -/
  run : LoopRun σ
  /-- The listener in `process_server_socket`, and the sockets still to register. -/
  serving : Option (ℕ × List ℤ) := none

/-- The steps: `epoll_wait` finds these sockets ready, or a thread goes on. -/
inductive AppAction
  | epollWait (sockets : List ℤ)
  | eventLoop
  | coroutineLoop
  /-- The worker, with what the handler does if it is called. -/
  | worker (calls : List EngineCall) (result : ActionResult)

namespace AppRun

/-- The run of a program by the event loop, as one step. -/
def exec {α : Type} (p : AppRun σ) (m : EngineM σ α) : Option (α × AppRun σ) :=
  (p.run.exec m).map fun r => (r.1, { p with run := r.2 })

/-- A step of the queues. -/
def moveTasks (p : AppRun σ) (a : FlowAction) : Option (AppRun σ) :=
  (p.flow.step a).map fun flow => { p with flow := flow }

/-- `run_event_loop`, when `epoll_wait` returns. -/
def epollWait (p : AppRun σ) (sockets : List ℤ) : Option (AppRun σ) :=
  if p.serving = none ∧ sockets.length ≤ maxEvents then
    (p.exec (waitForEvents sockets)).bind fun r => r.2.moveTasks (.epollWait r.1)
  else none

/-- `process_events` of the next slot. -/
def processEvent (p : AppRun σ) : Option (AppRun σ) :=
  match p.flow.eventSlots with
  | [] => none
  | slot :: _ =>
    let type := (p.run.world.entry slot).connectionType
    if type = .listener then
      (p.exec (acceptSockets slot)).bind fun r =>
        { r.2 with serving := r.1.map fun sockets => (slot, sockets) }.moveTasks
          (.processEvent type)
    else p.moveTasks (.processEvent type)

/-- The next step of the event loop between two calls of `epoll_wait`. -/
def eventLoopStep (p : AppRun σ) : Option (AppRun σ) :=
  if p.flow.network.tagging then p.moveTasks .pushNetworkTag
  else if p.run.eventLoop ≠ .idle then
    p.run.eventLoopStep.map fun run => { p with run := run }
  else match p.serving with
    | none => p.processEvent
    | some (serverSlot, socket :: sockets) =>
      (p.run.acceptStep socket).map fun run =>
        { p with run := run, serving := some (serverSlot, sockets) }
    | some (serverSlot, []) =>
      (p.exec (rearmSocket serverSlot)).bind fun r =>
        if r.1 = none then some { r.2 with serving := none }
        else none -- `success_or_terminate`

/-- `worker_loop`: a task of the network is a run of `process_connection_impl`. -/
def workerStep (p : AppRun σ) (calls : List EngineCall) (result : ActionResult) :
    Option (AppRun σ) :=
  match p.flow.worker with
  | .execute ⟨.network, .slot slot⟩ =>
    match p.run.worker with
    | .returned => p.moveTasks .worker
    | _ => (p.run.workerStep slot calls result).map fun run => { p with run := run }
  | _ => { p with run.worker := .condition {} }.moveTasks .worker

def step (p : AppRun σ) : AppAction → Option (AppRun σ)
  | .epollWait sockets => p.epollWait sockets
  | .eventLoop => p.eventLoopStep
  | .coroutineLoop => p.moveTasks .coroutineLoop
  | .worker calls result => p.workerStep calls result

end AppRun

/-- An application from the end of its initialisation on. -/
def application (σ : Type) : System (AppRun σ) AppAction where
  initial p := p.flow = {} ∧ p.serving = none ∧ p.run.eventLoop = .idle ∧
    ∃ app results socketType socket view,
      ((initEngine socketType socket).run (World.initial app results)) =
        ⟨some (Except.ok view), p.run.world, p.run.events⟩
  step := AppRun.step

end BattleShips
