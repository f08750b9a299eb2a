import BattleShips.Core.ObjectPool
import BattleShips.Lib.Traced
import BattleShips.Net.Receive
import BattleShips.Utility.Text

/-!
# Sockets and the state of a process

The connections of a `NetworkEngine`, the system calls they make and the state of the process that
makes them. What the system calls are going to give is part of the state, so that a statement
about every state is one about all their results. What a process does to the outside, and what its
pool hands out and gets back, is the trace of its events.
-/

namespace BattleShips

/-- `end_point_e`. -/
inductive EndPoint
  | none
  | toClient
  | toLobby
  | toParent
  | listener
  | toServer
  deriving DecidableEq

/-- `socket_status_e`. -/
inductive SocketStatus
  | empty
  | alive
  | closed
  | transfered
  deriving DecidableEq

/-- `SocketHandler`. -/
structure SocketHandler where
  socket : ℤ := -1
  receiveHandle : Option ReceiveCo := none
  socketStatus : SocketStatus := .empty
  deriving DecidableEq

/-- `SocketHandler(int)`. -/
def SocketHandler.ofSocket (socketFd : ℤ) : SocketHandler where
  socket := socketFd
  socketStatus := .alive

def SocketHandler.isSocketAlive (h : SocketHandler) : Bool := h.socketStatus = .alive

/-- `ConnectionEntry`. -/
structure ConnectionEntry where
  connectionType : EndPoint := .none
  socketHandler : SocketHandler := {}
  generation : ℕ := 0
  deriving DecidableEq

/-- `ConnectionEntry(end_point_e, int)`. -/
def ConnectionEntry.ofSocket (type : EndPoint) (socket : ℤ) : ConnectionEntry where
  connectionType := type
  socketHandler := .ofSocket socket

/-- Move assignment, once the old descriptor is closed: everything but the generation. -/
def ConnectionEntry.moveAssign (old new : ConnectionEntry) : ConnectionEntry :=
  { new with generation := old.generation }

/-- What `ConnectionEntry::reset` leaves of a connection. -/
def ConnectionEntry.cleared (e : ConnectionEntry) : ConnectionEntry where
  generation := e.generation + 1

/-- `ConnectionView`. -/
structure ConnectionView where
  slot : ℕ := 2 ^ 64 - 1
  deriving DecidableEq

/-- `ActionStatus`. -/
inductive ActionStatus
  | continue
  | terminate
  deriving DecidableEq

/-- `ConnectionStatus`. -/
inductive ConnectionStatus
  | keep
  | release
  deriving DecidableEq

/-- `ActionResult`. -/
structure ActionResult where
  actionStatus : ActionStatus := .continue
  connStatus : ConnectionStatus := .keep
  error : Option Error := none
  userCode : Option UserError := none
  deriving DecidableEq

/-- `ActionContext`. -/
structure ActionContext where
  pendingView : ConnectionView
  receivedMessage : ReceivedMessage

/-! ### The process and its system calls -/

/-- What `accept4` gives: a descriptor, `EAGAIN`, or another error. -/
inductive AcceptResult
  | accepted (socket : ℤ)
  | wouldBlock
  | failed
  deriving DecidableEq

/-- How far `setup_listener` gets with the descriptor it opens. -/
inductive ListenResult
  | socketFailed
  | setsockoptFailed (socket : ℤ)
  | bindFailed (socket : ℤ)
  | listenFailed (socket : ℤ)
  | listening (socket : ℤ)
  deriving DecidableEq

/-- How far `setup_client` gets with the descriptor it opens. -/
inductive ConnectResult
  | socketFailed
  | connectFailed (socket : ℤ)
  | connected (socket : ℤ)
  deriving DecidableEq

/-- How far `spawn_lobby` gets: with the two ends of the socket pair. -/
inductive SpawnResult
  | socketpairFailed
  | forkFailed (sv0 sv1 : ℤ)
  | spawned (sv0 sv1 : ℤ)
  deriving DecidableEq

/-- What the next system calls give. Where a list has run out, the call does what it is meant to
do, but `recvmsg` and `accept4` find nothing and there is no socket and no child to be had. -/
structure SysResults where
  sendmsg : List (Option ℕ) := []
  epollCtl : List Bool := []
  recvmsg : List RecvResult := []
  accept4 : List AcceptResult := []
  epollCreate1 : Bool := true
  listen : List ListenResult := []
  connect : List ConnectResult := []
  spawn : List SpawnResult := []
  time : List Time := []

/-- An entry of the interest list of epoll: the slot it reports, and whether the next readiness is
reported. -/
structure Interest where
  slot : ℕ
  armed : Bool
  deriving DecidableEq

/-- An open descriptor of the process: whether `exec` closes it. -/
structure Descriptor where
  closeOnExec : Bool
  deriving DecidableEq

/-- A process: the connection pool and the interest list of its `NetworkEngine`, its descriptors and
those that it has closed, the results of system calls to come, the pid of its next child (children
are never reaped, so that no pid comes twice), and the members of its application. -/
structure World (σ : Type) where
  pool : ObjectPool ConnectionEntry
  epoll : ℤ → Option Interest
  descriptors : ℤ → Option Descriptor := fun _ => none
  closed : List ℤ := []
  results : SysResults
  nextPid : ℕ
  app : σ

/-- The events of a process. -/
inductive Event
  /-- `push_to_pool` has returned a slot. -/
  | acquired (slot : ℕ)
  /-- `push_to_pool` dereferences an empty allocation result. -/
  | exhausted
  /-- `ObjectPool::release`, and whether there is room for the slot. -/
  | released (slot : ℕ) (room : Bool)
  /-- `sendmsg` on the socket in a slot; `none` is its -1. -/
  | sent (slot : ℕ) (message : OutgoingMessage) (written : Option ℕ)
  /-- A message goes to the handler of the application. -/
  | received (slot : ℕ) (type : EndPoint) (message : ReceivedMessage)
  /-- The handler has returned. -/
  | handled (slot : ℕ) (result : ActionResult)
  /-- `accept_connections` has returned an error. -/
  | acceptFailed (slot : ℕ)
  /-- `perform_transfer` hands the connection whose request this is over to a lobby, by the lobby's
  control connection. -/
  | handedOff (request : ReceivedMessage) (lobbyId : ℤ) (slot : ℕ)
  /-- `transfer` could not send the descriptor to the destination, a connection in use or not. -/
  | transferFailed (destination source : ℕ) (destinationInUse : Bool)
  /-- After that `transfer` could not subscribe the source again. -/
  | recoverFailed (source : ℕ)
  /-- The lobby has been entered into `lobbies_`. -/
  | attached (lobbyId : ℤ) (slot pid : ℕ)
  /-- `kill(pid, SIGKILL)`. -/
  | killed (pid : ℕ)
  /-- A line of output. -/
  | printed (line : Bytes)
  deriving DecidableEq

/-- A program of the process. -/
abbrev EngineM (σ : Type) := Traced (World σ) Event

variable {σ : Type}

namespace World

def entry (w : World σ) (slot : ℕ) : ConnectionEntry := w.pool.object slot

def updateEntry (w : World σ) (slot : ℕ) (f : ConnectionEntry → ConnectionEntry) : World σ :=
  { w with pool := w.pool.setObject slot (f (w.entry slot)) }

def updateHandler (w : World σ) (slot : ℕ) (f : SocketHandler → SocketHandler) : World σ :=
  w.updateEntry slot fun e => { e with socketHandler := f e.socketHandler }

/-- System calls have opened these descriptors. -/
def openDescriptors (w : World σ) (sockets : List ℤ) (closeOnExec : Bool) : World σ :=
  { w with descriptors := fun socket =>
      if socket ∈ sockets then some ⟨closeOnExec⟩ else w.descriptors socket }

/-- `close` of a descriptor; it also leaves the interest list. -/
def close (w : World σ) (socket : ℤ) : World σ :=
  { w with
    epoll := Function.update w.epoll socket none
    descriptors := Function.update w.descriptors socket none
    closed := w.closed ++ [socket] }

/-- `SocketHandler::close_socket`. -/
def closeSocket (w : World σ) (slot : ℕ) : World σ :=
  if (w.entry slot).socketHandler.socket = -1 then w
  else (w.close (w.entry slot).socketHandler.socket).updateHandler slot ({ · with socket := -1 })

/-- `SocketHandler::reset_to_empty`. -/
def resetToEmpty (w : World σ) (slot : ℕ) : World σ :=
  ((w.updateHandler slot ({ · with receiveHandle := none })).closeSocket slot).updateHandler slot
    ({ · with socketStatus := .empty })

/-- `ConnectionEntry::reset`. -/
def reset (w : World σ) (slot : ℕ) : World σ :=
  ((w.updateEntry slot ({ · with connectionType := .none })).resetToEmpty slot).updateEntry slot
    fun e => { e with generation := e.generation + 1 }

@[simp] lemma updateEntry_pool (w : World σ) (slot : ℕ) (f : ConnectionEntry → ConnectionEntry) :
    (w.updateEntry slot f).pool = w.pool.setObject slot (f (w.entry slot)) := rfl

@[simp] lemma updateHandler_pool (w : World σ) (slot : ℕ) (f : SocketHandler → SocketHandler) :
    (w.updateHandler slot f).pool = w.pool.setObject slot
      { w.entry slot with socketHandler := f (w.entry slot).socketHandler } := rfl

@[simp] lemma openDescriptors_pool (w : World σ) (sockets : List ℤ) (closeOnExec : Bool) :
    (w.openDescriptors sockets closeOnExec).pool = w.pool := rfl

lemma openDescriptors_of_mem {w : World σ} {sockets : List ℤ} {closeOnExec : Bool} {socket : ℤ}
    (h : socket ∈ sockets) :
    (w.openDescriptors sockets closeOnExec).descriptors socket = some ⟨closeOnExec⟩ := if_pos h

lemma openDescriptors_of_notMem {w : World σ} {sockets : List ℤ} {closeOnExec : Bool} {socket : ℤ}
    (h : socket ∉ sockets) :
    (w.openDescriptors sockets closeOnExec).descriptors socket = w.descriptors socket := if_neg h

@[simp] lemma close_pool (w : World σ) (socket : ℤ) : (w.close socket).pool = w.pool := rfl

lemma closeSocket_pool (w : World σ) (slot : ℕ) :
    (w.closeSocket slot).pool = w.pool.setObject slot
      { w.entry slot with
        socketHandler := { (w.entry slot).socketHandler with socket := -1 } } := by
  rw [closeSocket]
  split_ifs with h
  · simp only [← h]
    simp [entry, ObjectPool.setObject]
  · rfl

lemma reset_pool (w : World σ) (slot : ℕ) :
    (w.reset slot).pool = w.pool.setObject slot (w.entry slot).cleared := by
  simp [reset, resetToEmpty, closeSocket_pool, entry, ObjectPool.setObject,
    ConnectionEntry.cleared]

/-- What `close_socket` leaves alone. -/
lemma closeSocket_rest (w : World σ) (slot : ℕ) : (w.closeSocket slot).results = w.results ∧
    (w.closeSocket slot).nextPid = w.nextPid ∧ (w.closeSocket slot).app = w.app := by
  rw [closeSocket]
  split_ifs
  · exact ⟨rfl, rfl, rfl⟩
  · exact ⟨rfl, rfl, rfl⟩

lemma reset_rest (w : World σ) (slot : ℕ) : (w.reset slot).results = w.results ∧
    (w.reset slot).nextPid = w.nextPid ∧ (w.reset slot).app = w.app := by
  simp only [reset, resetToEmpty, updateHandler, updateEntry]
  exact closeSocket_rest _ slot

/-- The connection in the slot has been released. -/
def Released (w : World σ) (slot : ℕ) : Prop :=
  (w.entry slot).connectionType = .none ∧ (w.entry slot).socketHandler.socketStatus = .empty

instance (w : World σ) (slot : ℕ) : Decidable (w.Released slot) :=
  inferInstanceAs (Decidable (_ ∧ _))

/-- The next event of the connection in the slot will be reported, and under this slot. -/
def Armed (w : World σ) (slot : ℕ) : Prop :=
  w.epoll (w.entry slot).socketHandler.socket = some { slot := slot, armed := true }

instance (w : World σ) (slot : ℕ) : Decidable (w.Armed slot) :=
  inferInstanceAs (Decidable (_ = _))

end World

/-- `sendmsg` in `SocketHandler::send_message`, on the socket in the slot. -/
def sendMessage (slot : ℕ) (msg : OutgoingMessage) : EngineM σ (Option Error) := do
  let w ← Traced.get
  let written := if (w.entry slot).socketHandler.socket = -1 then none
    else w.results.sendmsg.headD (some (headerSize + msg.payload.length))
  Traced.modify fun w => { w with results.sendmsg := w.results.sendmsg.tail }
  Traced.emit (.sent slot msg written)
  return if written = none then some (makeErrorC "Unable to send message, sendmsg() error:")
    else none

/-- Without a result of `sendmsg` to come it takes everything. -/
lemma headD_eq_none {results : List (Option ℕ)} {n : ℕ} :
    results.headD (some n) = none ↔ results.head? = some none := by
  cases results <;> simp

/-- The operations of `epoll_ctl`. -/
inductive EpollOp
  | add
  | mod
  | del
  deriving DecidableEq

/-- What `epoll_ctl` needs: an open descriptor, which is in the interest list or not. -/
def World.epollPossible (w : World σ) (op : EpollOp) (socket : ℤ) : Bool :=
  socket ≠ -1 && match op with
    | .add => (w.epoll socket).isNone
    | .mod | .del => (w.epoll socket).isSome

/-- `epoll_ctl` on the socket in the slot; every event it asks for is one-shot. -/
def epollCtl (op : EpollOp) (slot : ℕ) : EngineM σ Bool := do
  let w ← Traced.get
  let socket := (w.entry slot).socketHandler.socket
  let success := w.epollPossible op socket && w.results.epollCtl.headD true
  Traced.modify fun w =>
    { w with
      results.epollCtl := w.results.epollCtl.tail
      epoll := if success then Function.update w.epoll socket (match op with
          | .add | .mod => some { slot := slot, armed := true }
          | .del => none) else w.epoll }
  return success

/-- `EpollHandler::add_socket`. -/
def addSocket (slot : ℕ) : EngineM σ (Option Error) := do
  if ← epollCtl .add slot then return none
  else return some (makeErrorC "Error adding socket to epoll")

/-- `EpollHandler::rearm_socket`. -/
def rearmSocket (slot : ℕ) : EngineM σ (Option Error) := do
  if ← epollCtl .mod slot then return none
  else return some (makeErrorC "Error rearming socket in epoll")

/-- `EpollHandler::remove_socket`. -/
def removeSocket (slot : ℕ) : EngineM σ (Option Error) := do
  if ← epollCtl .del slot then return none
  else return some (makeErrorC "Error removing socket from epoll")

/-- `SocketHandler::get_message`: one resumption of the receive coroutine, which is made when
there is none and destroyed when it has returned; a returned coroutine that saw the end of the
stream has marked the socket as closed. A descriptor that comes with a message is not closed by
`exec`. -/
def getMessage (slot : ℕ) : EngineM σ (Option ReceivedMessage) := do
  let w ← Traced.get
  let r := ((w.entry slot).socketHandler.receiveHandle.getD coReceiveFromSocket).resume
    w.results.recvmsg
  let disconnected := r.result.any (·.status = .disconnected)
  Traced.modify fun w =>
    ({ w with results.recvmsg := r.pending }.openDescriptors r.sockets false).updateHandler slot
      fun h =>
      { h with
        receiveHandle := r.co
        socketStatus := if disconnected then .closed else h.socketStatus }
  return r.result

/-- `SocketHandler::accept_connections`: the descriptors up to the first result that is none. -/
def acceptConnections : List AcceptResult → Except Error (List ℤ) × List AcceptResult
  | [] => (.ok [], [])
  | .wouldBlock :: rs => (.ok [], rs)
  | .failed :: rs => (.error (makeErrorC "Unable to accept new connections, accept4 error:"), rs)
  | .accepted socket :: rs =>
    ((acceptConnections rs).1.map (socket :: ·), (acceptConnections rs).2)

/-- The descriptors among them, also if they are dropped because of the error behind them. -/
def acceptedSockets : List AcceptResult → List ℤ
  | [] | .wouldBlock :: _ | .failed :: _ => []
  | .accepted socket :: rs => socket :: acceptedSockets rs

/-- `SocketHandler::setup_listener`. -/
def setupListener (slot : ℕ) : EngineM σ (Option Error) := do
  let w ← Traced.get
  if (w.entry slot).socketHandler.socket ≠ -1 then
    return some (makeErrorC "Socket is already exist")
  Traced.modify fun w => { w with results.listen := w.results.listen.tail }
  match w.results.listen.headD .socketFailed with
  | .socketFailed => return some (makeErrorC "Error creating socket")
  | .setsockoptFailed socket =>
    Traced.modify fun w =>
      (w.openDescriptors [socket] true).updateHandler slot ({ · with socket := socket })
    return some (makeErrorC "Error setting socket options")
  | .bindFailed socket =>
    Traced.modify fun w =>
      ((w.openDescriptors [socket] true).updateHandler slot ({ · with socket := socket })).close
        socket
    return some (makeErrorC "Error binding socket")
  | .listenFailed socket =>
    Traced.modify fun w =>
      ((w.openDescriptors [socket] true).updateHandler slot ({ · with socket := socket })).close
        socket
    return some (makeErrorC "Error listening on socket")
  | .listening socket =>
    Traced.modify fun w => (w.openDescriptors [socket] true).updateHandler slot
      ({ · with socket := socket, socketStatus := .alive })
    return none

/-- `SocketHandler::setup_client`. The descriptor that was there is overwritten. -/
def setupClient (slot : ℕ) : EngineM σ (Option Error) := do
  let w ← Traced.get
  Traced.modify fun w => { w with results.connect := w.results.connect.tail }
  match w.results.connect.headD .socketFailed with
  | .socketFailed =>
    Traced.modify fun w => w.updateHandler slot ({ · with socket := -1 })
    return some ⟨["Socket creation error"]⟩
  | .connectFailed socket =>
    Traced.modify fun w =>
      (w.openDescriptors [socket] false).updateHandler slot ({ · with socket := socket })
    return some ⟨["Connection to the server failed"]⟩
  | .connected socket =>
    Traced.modify fun w => (w.openDescriptors [socket] false).updateHandler slot
      ({ · with socket := socket, socketStatus := .alive })
    return none

end BattleShips
