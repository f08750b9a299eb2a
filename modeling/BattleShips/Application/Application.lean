import BattleShips.Core.Dispatcher
import BattleShips.Net.NetworkEngine

/-!
# Applications

What `Server`, `Lobby` and `Client` share: the initialisation, the filter of the actions a
dispatched message may name, chat messages, and the operations of the threads. The event loop
serves what epoll reports and the worker processes the connections of the tasks; operations run one
at a time and in any order, so that whatever the queues between the threads deliver is covered.
-/

namespace BattleShips

variable {σ : Type}

/-- `filter_variant`. -/
def filterVariant {α : Type} (alternative : ActionVariant → Option α) (source : ActionVariant) :
    Except Error α :=
  match alternative source with
  | some target => .ok target
  | none => .error ⟨["No such command can be found as supported"]⟩

/-- `Application::init_app`. -/
def initApp (socketType : EndPoint) (socket : ℤ) : EngineM σ (Except Error ConnectionView) := do
  match ← NetworkEngine.initEngine socketType socket with
  | .ok view => return .ok view
  | .error e =>
    return .error ((e.addContext "Unalbe to init network: failed to init engine").addContext
      "Unable to init Application: failed to init network")

/-- `execute_action(ChatMessage)`, which `Server` and `Lobby` have with the same body. -/
def executeChatMessage (context : ActionContext) : EngineM σ ActionResult := do
  match parse context.receivedMessage.payload with
  | .error e =>
    return {
      connStatus := .keep
      error := some (e.addContext
        "Unable to process chat message: failed to parse incoming message") }
  | .ok text =>
    let _ ← NetworkEngine.sendMessage { payload := text, type := .printable }
      fun connection => connection.type = .toClient
    return { connStatus := .keep }

/-- The process at the start of `main`. -/
def World.initial (app : σ) (results : SysResults) : World σ where
  pool := { object := fun _ => {} }
  epoll := fun _ => none
  results := results
  nextPid := 1
  app := app

/-- An operation of the threads that every application has. -/
inductive Operation
  /-- The event loop: epoll reports the descriptor, if it is armed. -/
  | event (socket : ℤ)
  /-- The worker: a `NETWORK` task with the slot. -/
  | network (slot : ℕ)
  deriving DecidableEq

def Operation.run (handleAction : ActionContext → EngineM σ ActionResult) :
    Operation → EngineM σ PUnit
  | .event socket => do
    match ← NetworkEngine.waitForEvent socket with
    | some slot => NetworkEngine.processEvent slot
    | none => return ⟨⟩
  | .network slot => do
    let _ ← NetworkEngine.processConnection handleAction ⟨slot⟩

end BattleShips
