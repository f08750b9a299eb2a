import BattleShips.Net.SocketHandler

/-!
# The network engine

`NetworkEngine` of `net/network_routine.cpp`: the connection pool, the registration, transfer and
release of connections, and what is done with the events that epoll reports. The handler of the
application, `on_message_callback_`, is a parameter. Lines of the log are not modelled.
-/

namespace BattleShips

variable {σ : Type}

/-- `ConnectionMeta`, without the name that nobody sets. -/
structure ConnectionMeta where
  slot : ℕ
  type : EndPoint

/-- `DeliveryReport`. -/
structure DeliveryReport where
  delivered : ℕ := 0
  failed : ℕ := 0
  deriving DecidableEq

/-- `RegistrationReport`. -/
structure RegistrationReport where
  registered : ℕ := 0
  failed : ℕ := 0
  deriving DecidableEq

/-- `TransferResult`. -/
structure TransferResult where
  destinationConnPreserved : Bool := true
  sourceConnPreserved : Bool := true
  deriving DecidableEq

/-! ### The connection pool -/

/-- `push_to_pool`: the old object of a slot that is used again closes its descriptor when the new
one is assigned to it. -/
def World.pushToPool (w : World σ) (connection : ConnectionEntry) : Option (ℕ × World σ) :=
  let w := match w.pool.availableSlots.tryPop with
    | some (slot, _) => w.closeSocket slot
    | none => w
  (w.pool.pushToPool ConnectionEntry.moveAssign connection).map
    fun (slot, pool) => (slot, { w with pool := pool })

def pushToPool (connection : ConnectionEntry) : EngineM σ ℕ := do
  let w ← Traced.get
  match w.pushToPool connection with
  | some (slot, w) =>
    Traced.modify fun _ => w
    Traced.emit (.acquired slot)
    return slot
  | none =>
    -- the dereference of the empty `allocation_result` is undefined
    Traced.emit .exhausted
    Traced.stop

/-- `ObjectPool::release`. -/
def releaseSlot (slot : ℕ) : EngineM σ PUnit := do
  let w ← Traced.get
  Traced.emit (.released slot
    (decide ¬ looksFull w.pool.availableSlots.tail w.pool.availableSlots.head))
  match w.pool.release slot with
  | some pool => Traced.modify fun w => { w with pool := pool }
  | none => Traced.stop

/-- `entry.reset()` and `connection_pool_.release(slot)`, which the source only calls together. -/
def resetAndRelease (slot : ℕ) : EngineM σ PUnit := do
  Traced.modify fun w => w.reset slot
  releaseSlot slot

/-! ### Pending work -/

/-- The bytes that the receive coroutine holds, and one more for a header without its payload. (A
difference of `bytes_received` is never negative; `free_beggins` would wrap it.) -/
def ReceiveCo.pendingWork : ReceiveCo → ℕ
  | .reading _ freeBeggins => freeBeggins
  | .parsing p => (if p.bytesReceived < 0 then 2 ^ 16 else p.bytesReceived.toNat)
    + if p.header.type = .none then 0 else 1

def RecvResult.pendingWork : RecvResult → ℕ
  | .received bytes _ => bytes.length + 1
  | .wouldBlock | .failed => 1

/-- A bound on the messages that `process_connection_impl` can still get from the slot. -/
def World.pendingWork (w : World σ) (slot : ℕ) : ℕ :=
  (w.entry slot).socketHandler.receiveHandle.elim 0 ReceiveCo.pendingWork
    + (w.results.recvmsg.map RecvResult.pendingWork).sum

namespace NetworkEngine

/-! ### Connections -/

/-- `NetworkEngine::subscribe_to_events`. -/
def subscribeToEvents (slot : ℕ) : EngineM σ (Option Error) := do
  return (← addSocket slot).map
    (·.addContext "Unable to subscribe connection to events: failed to add socket to epoll")

/-- `NetworkEngine::unsubscribe_from_events`; the error is dropped. -/
def unsubscribeFromEvents (slot : ℕ) : EngineM σ (Option Error) := do
  let _ ← removeSocket slot
  return none

/-- `NetworkEngine::send_message_impl`. -/
def sendMessageImpl (slot : ℕ) (message : OutgoingMessage) : EngineM σ (Option Error) := do
  return (← BattleShips.sendMessage slot message).map
    (·.addContext "Unable to send message via connection: failed to send message to socket")

/-- `NetworkEngine::send_message_to`. -/
def sendMessageTo (recipientView : ConnectionView) (message : OutgoingMessage) :
    EngineM σ (Option Error) :=
  sendMessageImpl recipientView.slot message

/-- `NetworkEngine::release_connection`. -/
def releaseConnection (slot : ℕ) : EngineM σ PUnit := do
  let _ ← unsubscribeFromEvents slot
  resetAndRelease slot

/-- `NetworkEngine::release_connection_by_view`. -/
def releaseConnectionByView (view : ConnectionView) : EngineM σ PUnit := do
  let w ← Traced.get
  if (w.entry view.slot).socketHandler.isSocketAlive then releaseConnection view.slot
  else return ⟨⟩

/-- `NetworkEngine::register_connection`. -/
def registerConnection (socketType : EndPoint) (socket : ℤ) : EngineM σ (Except Error ℕ) := do
  let slot ← pushToPool (.ofSocket socketType socket)
  match ← subscribeToEvents slot with
  | none => return .ok slot
  | some e =>
    let _ ← sendMessageImpl slot { payload := userMessage .generic, type := .printable }
    resetAndRelease slot
    return .error
      (e.addContext "Unable to register new connection: failed to subscribe to events")

/-- `NetworkEngine::register_connections`. -/
def registerConnections : List ℤ → RegistrationReport → EngineM σ RegistrationReport
  | [], report => return report
  | socket :: sockets, report => do
    match ← registerConnection .toClient socket with
    | .ok _ => registerConnections sockets { report with registered := report.registered + 1 }
    | .error _ => registerConnections sockets { report with failed := report.failed + 1 }

/-- `NetworkEngine::attach_socket`. -/
def attachSocket (socket : ℤ) (socketType : EndPoint) :
    EngineM σ (Except Error ConnectionView) := do
  match ← registerConnection socketType socket with
  | .ok slot => return .ok ⟨slot⟩
  | .error e =>
    return .error (e.addContext "Unable to attach socket: failed to register connection")

/-- `NetworkEngine::transfer`. On success the scope guard releases the source. -/
def transfer (destinationView sourceView : ConnectionView) : EngineM σ TransferResult := do
  let _ ← unsubscribeFromEvents sourceView.slot
  let w ← Traced.get
  let sent ← sendMessageImpl destinationView.slot
    { payload := ascii "\\socket", type := .socket,
      socket := some (w.entry sourceView.slot).socketHandler.socket }
  match sent with
  | none =>
    resetAndRelease sourceView.slot
    return {}
  | some _ =>
    Traced.emit (.transferFailed destinationView.slot sourceView.slot
      (decide ((w.entry destinationView.slot).connectionType ≠ .none)))
    releaseConnection destinationView.slot
    match ← subscribeToEvents sourceView.slot with
    | none => return { destinationConnPreserved := false }
    | some _ =>
      Traced.emit (.recoverFailed sourceView.slot)
      releaseConnection sourceView.slot
      return { destinationConnPreserved := false, sourceConnPreserved := false }

/-- The loop of `NetworkEngine::send_message` over the slots that are left. -/
def sendMessageLoop (message : OutgoingMessage) (filter : ConnectionMeta → Bool) :
    List ℕ → DeliveryReport → EngineM σ DeliveryReport
  | [], report => return report
  | index :: indices, report => do
    let w ← Traced.get
    let type := (w.entry index).connectionType
    if type ≠ .none ∧ filter { slot := index, type := type } then
      match ← sendMessageImpl index message with
      | none =>
        sendMessageLoop message filter indices { report with delivered := report.delivered + 1 }
      | some _ =>
        resetAndRelease index
        sendMessageLoop message filter indices { report with failed := report.failed + 1 }
    else sendMessageLoop message filter indices report

/-- `NetworkEngine::send_message`: to every connection that the filter lets through. -/
def sendMessage (message : OutgoingMessage) (filter : ConnectionMeta → Bool) :
    EngineM σ DeliveryReport := do
  let w ← Traced.get
  sendMessageLoop message filter (List.range w.pool.counter) {}

/-! ### Initialisation -/

def setConnectionType (socketType : EndPoint) (slot : ℕ) : EngineM σ PUnit :=
  Traced.modify fun w => w.updateEntry slot ({ · with connectionType := socketType })

/-- `NetworkEngine::init_connection_type`. -/
def initConnectionType (socketType : EndPoint) (slot : ℕ) : EngineM σ (Option Error) := do
  match socketType with
  | .none | .toClient | .toLobby => return none
  | .toParent =>
    setConnectionType .toParent slot
    return none
  | .listener =>
    match ← setupListener slot with
    | none =>
      setConnectionType .listener slot
      return none
    | some e =>
      return some (e.addContext ("Unable to init connection based on type: failed to setup " ++
        "listener socket for server"))
  | .toServer =>
    match ← setupClient slot with
    | none =>
      setConnectionType .toServer slot
      return none
    | some e =>
      return some (e.addContext ("Unable to init connection based on type: failed to setup " ++
        "client socket"))

/-- `NetworkEngine::init_epoll`. -/
def initEpoll : EngineM σ (Option Error) := do
  let w ← Traced.get
  if w.results.epollCreate1 then
    return (← subscribeToEvents 0).map (·.addContext ("Unable to init epoll for Engine: failed " ++
      "to subscribe root connection to events"))
  else
    return some ((makeErrorC "Error creating epoll").addContext
      "Unable to init epoll for Engine: failed to init")

/-- `NetworkEngine::init_engine`. -/
def initEngine (socketType : EndPoint) (rootSocket : ℤ) :
    EngineM σ (Except Error ConnectionView) := do
  let slot ← pushToPool (if rootSocket ≠ 0 then .ofSocket socketType rootSocket else {})
  match ← initConnectionType socketType slot with
  | some e =>
    return .error (e.addContext
      "Unable to init NetworkEngine: failed to init connection according to a type")
  | none =>
    match ← initEpoll with
    | some e => return .error (e.addContext "Unable to init NetworkEngine: failed to init epoll")
    | none => return .ok ⟨slot⟩

/-- `NetworkEngine::reset_base_connection`. -/
def resetBaseConnection (socketType : EndPoint) : EngineM σ (Option Error) := do
  return (← initConnectionType socketType 0).map (·.addContext
    "Unable to reset base connection: failed to init connection according to a type")

/-! ### Events -/

/-- `NetworkEngine::process_server_socket`. -/
def processServerSocket (serverSlot : ℕ) : EngineM σ PUnit := do
  let w ← Traced.get
  Traced.modify fun w =>
    { w with results.accept4 := (acceptConnections w.results.accept4).2 }.openDescriptors
      (acceptedSockets w.results.accept4) true
  match (acceptConnections w.results.accept4).1 with
  | .error _ => Traced.emit (.acceptFailed serverSlot)
  | .ok sockets =>
    let _ ← registerConnections sockets {}
    match ← rearmSocket serverSlot with
    | none => return ⟨⟩
    | some _ => Traced.stop -- `success_or_terminate`

/-- The slot that epoll reports for a descriptor; a one-shot entry is disarmed by that. -/
def waitForEvent (socket : ℤ) : EngineM σ (Option ℕ) := do
  let w ← Traced.get
  match w.epoll socket with
  | some ⟨slot, true⟩ =>
    Traced.modify fun w =>
      { w with epoll := Function.update w.epoll socket (some ⟨slot, false⟩) }
    return some slot
  | _ => return none

/-- `NetworkEngine::process_events` of one slot: the listener is served at once, any other slot
goes to `network_raw_tasks_` for `process_connection`. -/
def processEvent (slot : ℕ) : EngineM σ PUnit := do
  let w ← Traced.get
  if (w.entry slot).connectionType = .listener then processServerSocket slot
  else return ⟨⟩

/-- `NetworkEngine::process_message` when there is no more to receive. -/
def rearmConnection (slot : ℕ) : EngineM σ ActionResult := do
  match ← rearmSocket slot with
  | some e =>
    return {
      connStatus := .release
      error := some (e.addContext ("No more data to receive from connection but failed to rearm " ++
        "socket, marking socket for releasing")) }
  | none => return { actionStatus := .terminate, connStatus := .keep }

section Handler

variable (onMessageCallback : ActionContext → EngineM σ ActionResult)

/-- The call of the handler with a message from the connection in the slot. -/
def callHandler (slot : ℕ) (message : ReceivedMessage) : EngineM σ ActionResult := do
  let w ← Traced.get
  Traced.emit (.received slot (w.entry slot).connectionType message)
  let result ← onMessageCallback { pendingView := ⟨slot⟩, receivedMessage := message }
  Traced.emit (.handled slot result)
  return result

/-- `NetworkEngine::process_message`. -/
def processMessage (slot : ℕ) (message : ReceivedMessage) : EngineM σ ActionResult := do
  match message.status with
  | .empty | .wouldBlock => rearmConnection slot
  | .disconnected => return { connStatus := .release }
  | .data => callHandler onMessageCallback slot message

/-- The message for the user that the result of a message asks for. -/
def answerUser (slot : ℕ) : Option UserError → EngineM σ (Option Error)
  | some code => sendMessageImpl slot { payload := userMessage code, type := .printable }
  | none => return none

/-- What `process_connection_impl` does with the result of a message. -/
def concludeMessage (slot : ℕ) (result : ActionResult) : EngineM σ PUnit := do
  let _ ← answerUser slot result.userCode
  if result.connStatus = .release then releaseConnection slot else return ⟨⟩

/-- The body of the loop of `NetworkEngine::process_connection_impl`: it returns an error or goes
on with the result of a message. -/
def processNextMessage (slot : ℕ) : EngineM σ (Except Error ActionResult) := do
  match ← getMessage slot with
  | none =>
    releaseConnection slot
    return .error ⟨["Unable to process connection: failed to receive message"]⟩
  | some message =>
    let processResult ← processMessage onMessageCallback slot message
    concludeMessage slot processResult
    match processResult.error with
    | some e =>
      return .error (e.addContext
        "Error occured while processing connection: failed to process message")
    | none => return .ok processResult

/-- The loop of `NetworkEngine::process_connection_impl`, for at most so many messages; `none` if
it has not finished by then. -/
def processConnectionLoop (slot : ℕ) : ℕ → ActionResult → EngineM σ (Option (Option Error))
  | 0, _ => return none
  | fuel + 1, processResult => do
    let w ← Traced.get
    if (w.entry slot).socketHandler.isSocketAlive ∧ processResult.actionStatus = .continue then
      match ← processNextMessage onMessageCallback slot with
      | .error e => return some (some e)
      | .ok processResult => processConnectionLoop slot fuel processResult
    else return some none

/-- `NetworkEngine::process_connection`. The bound on the loop is never met, see
`processConnection_finishes`. -/
def processConnection (pendingView : ConnectionView) : EngineM σ (Option Error) := do
  let w ← Traced.get
  let finished ← processConnectionLoop onMessageCallback pendingView.slot
    (w.pendingWork pendingView.slot + 2) {}
  match finished with
  | some e => return e
  | none => Traced.stop

end Handler

end NetworkEngine

end BattleShips
