import BattleShips.Lib.Transition
import BattleShips.Net.NetworkEngine

/-!
# The processing loop and the event loop

`NetworkEngine::process_connection_impl` of one slot, in the worker, while the event loop registers
the clients that it has accepted. Each call of the pool, of the handler and of the kernel is one
step, and the steps of the two threads come in any order.
-/

namespace BattleShips

/-- What a handler may call of the engine. -/
inductive EngineCall
  | attachSocket (socket : ℤ) (socketType : EndPoint)
  | transfer (destinationView sourceView : ConnectionView)
  | sendMessageTo (recipientView : ConnectionView) (message : OutgoingMessage)
  | sendMessage (message : OutgoingMessage) (filter : ConnectionMeta → Bool)
  | releaseConnectionByView (view : ConnectionView)
  | resetBaseConnection (socketType : EndPoint)

def EngineCall.program {σ : Type} : EngineCall → EngineM σ PUnit
  | .attachSocket socket socketType => do
    let _ ← NetworkEngine.attachSocket socket socketType
  | .transfer destinationView sourceView => do
    let _ ← NetworkEngine.transfer destinationView sourceView
  | .sendMessageTo recipientView message => do
    let _ ← NetworkEngine.sendMessageTo recipientView message
  | .sendMessage message filter => do
    let _ ← NetworkEngine.sendMessage message filter
  | .releaseConnectionByView view => NetworkEngine.releaseConnectionByView view
  | .resetBaseConnection socketType => do
    let _ ← NetworkEngine.resetBaseConnection socketType

/-- The call puts another socket into the slot 0, whatever comes of the rest of it. -/
def EngineCall.replacesRoot {σ : Type} (w : World σ) : EngineCall → Bool
  | .resetBaseConnection .toServer => w.results.connect.headD .socketFailed ≠ .socketFailed
  | .resetBaseConnection .listener =>
    (w.entry 0).socketHandler.socket = -1 ∧ w.results.listen.headD .socketFailed ≠ .socketFailed
  | _ => false

/-- One of these calls does. -/
def callsReplaceRoot {σ : Type} : World σ → List EngineCall → Bool
  | _, [] => false
  | w, call :: calls => call.replacesRoot w || callsReplaceRoot (call.program.run w).state calls

/-- A handler that makes these calls and returns this. -/
def handlerOf {σ : Type} (calls : List EngineCall) (result : ActionResult) (_ : ActionContext) :
    EngineM σ ActionResult := do
  Traced.runAll (calls.map EngineCall.program)
  return result

/-- Where the worker is in `process_connection_impl`. What follows a release is the next round with
the result of the message, or the return. -/
inductive LoopPc
  /-- The condition of the loop. -/
  | condition (processResult : ActionResult)
  | getMessage
  | processMessage (message : ReceivedMessage)
  /-- The test of `user_code`, and what it sends. -/
  | answerUser (processResult : ActionResult)
  /-- `release_connection`: `unsubscribe_from_events`. -/
  | unsubscribe (next : Option ActionResult)
  | reset (next : Option ActionResult)
  | releaseSlot (next : Option ActionResult)
  | returned

namespace LoopPc

def next : Option ActionResult → LoopPc
  | some processResult => .condition processResult
  | none => .returned

/-- After `get_message`: without a message the connection is released, and the call returns. -/
def ofMessage : Option ReceivedMessage → LoopPc
  | some message => .processMessage message
  | none => .unsubscribe none

/-- The loop may still do something with its slot. -/
def MayAct : LoopPc → Prop
  | .condition processResult => processResult.actionStatus = .continue
  | .answerUser processResult =>
    processResult.userCode.isSome ∨ processResult.connStatus = .release ∨
      (processResult.error.isSome = false ∧ processResult.actionStatus = .continue)
  | .returned => False
  | _ => True

instance : DecidablePred MayAct
  | .condition _ => inferInstanceAs (Decidable (_ = _))
  | .answerUser _ => inferInstanceAs (Decidable (_ ∨ _))
  | .returned => inferInstanceAs (Decidable False)
  | .getMessage => inferInstanceAs (Decidable True)
  | .processMessage _ => inferInstanceAs (Decidable True)
  | .unsubscribe _ => inferInstanceAs (Decidable True)
  | .reset _ => inferInstanceAs (Decidable True)
  | .releaseSlot _ => inferInstanceAs (Decidable True)

/-- After the answer to the user. An error ends the loop. -/
def ofResult (processResult : ActionResult) : LoopPc :=
  let next := if processResult.error.isSome then none else some processResult
  if processResult.connStatus = .release then .unsubscribe next else .next next

end LoopPc

/-- Where the event loop is in `register_connection`. -/
inductive RegisterPc
  | idle
  | subscribe (slot : ℕ)
  /-- The message to a client that could not be subscribed. -/
  | refuse (slot : ℕ)
  | reset (slot : ℕ)
  | releaseSlot (slot : ℕ)
  deriving DecidableEq

/-- The loop receives from the connection in its slot, answers its user, rearms it or releases
it. -/
structure LoopAct where
  /-- The descriptor in the slot. -/
  socket : ℤ
  /-- What had happened by then. -/
  events : List Event
  /-- A handler had put another socket into the slot. -/
  replaced : Bool

/-- The process while `process_connection_impl` runs. -/
structure LoopRun (σ : Type) where
  world : World σ
  worker : LoopPc := .condition {}
  eventLoop : RegisterPc := .idle
  /-- The descriptor that was in the slot at the call. -/
  started : ℤ := -1
  /-- What has happened since the call. -/
  events : List Event := []
  /-- A handler has put another socket into the slot. -/
  replaced : Bool := false
  acts : List LoopAct := []

inductive LoopAction
  /-- The worker, with what the handler does if it is called. -/
  | worker (calls : List EngineCall) (result : ActionResult)
  /-- `push_to_pool`, for a client that has been accepted. -/
  | accept (socket : ℤ)
  | eventLoop

namespace LoopRun

variable {σ α : Type}

/-- The run of a program as one step. -/
def exec (s : LoopRun σ) (m : EngineM σ α) : Option (α × LoopRun σ) :=
  (m.run s.world).value.map fun a => (a,
    { s with world := (m.run s.world).state, events := s.events ++ (m.run s.world).events })

/-- The loop does something to the connection in its slot. -/
def act (slot : ℕ) (s : LoopRun σ) : LoopRun σ :=
  { s with acts := s.acts ++
      [{ socket := (s.world.entry slot).socketHandler.socket
         events := s.events
         replaced := s.replaced }] }

/-- The handler is going to make these calls. -/
def calling (slot : ℕ) (calls : List EngineCall) (s : LoopRun σ) : LoopRun σ :=
  { s with replaced := s.replaced || (decide (slot = 0) && callsReplaceRoot s.world calls) }

def workerStep (slot : ℕ) (calls : List EngineCall) (result : ActionResult) (s : LoopRun σ) :
    Option (LoopRun σ) :=
  match s.worker with
  | .condition processResult =>
    if (s.world.entry slot).socketHandler.isSocketAlive ∧
        processResult.actionStatus = .continue then
      some { s with worker := .getMessage }
    else some { s with worker := .returned }
  | .getMessage =>
    ((s.act slot).exec (BattleShips.getMessage slot)).map fun r =>
      { r.2 with worker := .ofMessage r.1 }
  | .processMessage message =>
    let s := if message.status = .empty ∨ message.status = .wouldBlock then s.act slot
      else if message.status = .data then s.calling slot calls else s
    (s.exec (NetworkEngine.processMessage (handlerOf calls result) slot message)).map fun r =>
      { r.2 with worker := .answerUser r.1 }
  | .answerUser processResult =>
    let s := if processResult.userCode.isSome then s.act slot else s
    (s.exec (NetworkEngine.answerUser slot processResult.userCode)).map fun r =>
      { r.2 with worker := .ofResult processResult }
  | .unsubscribe next =>
    ((s.act slot).exec (NetworkEngine.unsubscribeFromEvents slot)).map fun r =>
      { r.2 with worker := .reset next }
  | .reset next => some { s.act slot with world := s.world.reset slot, worker := .releaseSlot next }
  | .releaseSlot next =>
    ((s.act slot).exec (BattleShips.releaseSlot slot)).map fun r =>
      { r.2 with worker := .next next }
  | .returned => none

def eventLoopStep (s : LoopRun σ) : Option (LoopRun σ) :=
  match s.eventLoop with
  | .idle => none
  | .subscribe slot => (s.exec (NetworkEngine.subscribeToEvents slot)).map fun r =>
      { r.2 with eventLoop := if r.1.isSome then .refuse slot else .idle }
  | .refuse slot =>
    (s.exec (NetworkEngine.sendMessageImpl slot
      { payload := userMessage .generic, type := .printable })).map fun r =>
        { r.2 with eventLoop := .reset slot }
  | .reset slot => some { s with world := s.world.reset slot, eventLoop := .releaseSlot slot }
  | .releaseSlot slot =>
    (s.exec (BattleShips.releaseSlot slot)).map fun r => { r.2 with eventLoop := .idle }

/-- `register_connection`, up to the slot. -/
def acceptStep (socket : ℤ) (s : LoopRun σ) : Option (LoopRun σ) :=
  if s.eventLoop = .idle then
    (s.exec (pushToPool (.ofSocket .toClient socket))).map fun r =>
      { r.2 with eventLoop := .subscribe r.1 }
  else none

def step (slot : ℕ) (s : LoopRun σ) : LoopAction → Option (LoopRun σ)
  | .worker calls result => s.workerStep slot calls result
  | .accept socket => s.acceptStep socket
  | .eventLoop => s.eventLoopStep

end LoopRun

/-- The pool has handed the slot out and has not got it back. -/
def World.Occupies {σ : Type} (w : World σ) (slot : ℕ) : Prop :=
  slot < w.pool.lastNotIssuedIndex ∧ slot ∉ w.pool.availableSlots.items

instance {σ : Type} (w : World σ) (slot : ℕ) : Decidable (w.Occupies slot) :=
  inferInstanceAs (Decidable (_ ∧ _))

/-- One run of the loop over the connection in a slot, from the call of `process_connection_impl`
until it returns. The event loop may be anywhere when it starts. -/
def processingLoop (σ : Type) (slot : ℕ) : System (LoopRun σ) LoopAction where
  initial s := s.world.Occupies slot ∧ s.worker = .condition {} ∧
    s.started = (s.world.entry slot).socketHandler.socket ∧
    s.events = [] ∧ s.replaced = false ∧ s.acts = []
  step s a := match s.worker with
    | .returned => none
    | _ => s.step slot a

end BattleShips
