import BattleShips.Lib.Custody
import BattleShips.Lib.Transition
import BattleShips.Net.SocketHandler

/-!
# Objects with a socket

The objects of `SocketHandler` on their own, any number of them, with the descriptors of the
process: the constructors, the assignment, the destructor and the other operations of
`net/socket_routine.cpp` that change `socket_`. What the system calls give is part of an operation.
-/

namespace BattleShips

/-- The objects that are alive, the open descriptors of the process, and those of them that no
object has got so far. The log says which descriptors objects have got and closed. -/
structure Sockets where
  handler : ℕ → Option SocketHandler := fun _ => none
  opened : Finset ℤ := ∅
  loose : Finset ℤ := ∅
  log : List (Custody ℤ) := []

namespace Sockets

def object (s : Sockets) (h : ℕ) : SocketHandler := (s.handler h).getD {}

def update (s : Sockets) (h : ℕ) (f : SocketHandler → SocketHandler) : Sockets :=
  { s with handler := Function.update s.handler h (some (f (s.object h))) }

/-- The kernel opens a descriptor. -/
def openDescriptor (s : Sockets) (fd : ℤ) : Sockets := { s with opened := insert fd s.opened }

/-- `close` in an operation of an object. -/
def close (s : Sockets) (fd : ℤ) : Sockets :=
  { s with opened := s.opened.erase fd, log := s.log ++ [.given fd] }

/-- `socket_` gets a descriptor that no object had before. -/
def take (s : Sockets) (h : ℕ) (fd : ℤ) : Sockets :=
  { s.update h ({ · with socket := fd }) with
    loose := s.loose.erase fd
    log := s.log ++ [.taken fd] }

/-- `SocketHandler::close_socket`. -/
def closeSocket (s : Sockets) (h : ℕ) : Sockets :=
  if (s.object h).socket = -1 then s
  else (s.close (s.object h).socket).update h ({ · with socket := -1 })

/-- `SocketHandler::destroy_co_handle`. -/
def destroyCoHandle (s : Sockets) (h : ℕ) : Sockets := s.update h ({ · with receiveHandle := none })

/-- `SocketHandler(int)`. -/
def construct (s : Sockets) (h : ℕ) (fd : ℤ) : Sockets :=
  { s with handler := Function.update s.handler h (some { socketStatus := .alive }) }.take h fd

/-- `socket_` and the status go from one object to another; the coroutine stays. -/
def exchange (s : Sockets) (h source : ℕ) : Sockets :=
  (s.update h ({ · with
      socket := (s.object source).socket
      socketStatus := (s.object source).socketStatus })).update source
    ({ · with socket := -1, socketStatus := .empty })

/-- `SocketHandler(SocketHandler&&)`. -/
def moveConstruct (s : Sockets) (h source : ℕ) : Sockets :=
  { s with handler := Function.update s.handler h (some {}) }.exchange h source

/-- `SocketHandler::operator=`. -/
def moveAssign (s : Sockets) (h source : ℕ) : Sockets :=
  if h = source then s else ((s.destroyCoHandle h).closeSocket h).exchange h source

/-- `SocketHandler::setup_listener`. -/
def setupListener (s : Sockets) (h : ℕ) (result : ListenResult) : Sockets :=
  if (s.object h).socket ≠ -1 then s
  else match result with
    | .socketFailed => s.update h ({ · with socket := -1 })
    | .setsockoptFailed fd => (s.openDescriptor fd).take h fd
    | .bindFailed fd => ((s.openDescriptor fd).take h fd).close fd
    | .listenFailed fd => ((s.openDescriptor fd).take h fd).close fd
    | .listening fd =>
      ((s.openDescriptor fd).take h fd).update h ({ · with socketStatus := .alive })

/-- `SocketHandler::setup_client`. -/
def setupClient (s : Sockets) (h : ℕ) : ConnectResult → Sockets
  | .socketFailed => s.update h ({ · with socket := -1 })
  | .connectFailed fd => (s.openDescriptor fd).take h fd
  | .connected fd => ((s.openDescriptor fd).take h fd).update h ({ · with socketStatus := .alive })

/-- `SocketHandler::reset_with_new`. -/
def resetWithNew (s : Sockets) (h : ℕ) (fd : ℤ) : Sockets :=
  (((s.destroyCoHandle h).closeSocket h).take h fd).update h ({ · with socketStatus := .alive })

/-- `SocketHandler::reset_to_empty`. -/
def resetToEmpty (s : Sockets) (h : ℕ) : Sockets :=
  ((s.destroyCoHandle h).closeSocket h).update h ({ · with socketStatus := .empty })

/-- `~SocketHandler`. -/
def destroy (s : Sockets) (h : ℕ) : Sockets :=
  let s := (s.destroyCoHandle h).closeSocket h
  { s with handler := Function.update s.handler h none }

end Sockets

/-- The operations on objects, and what the rest of the process does with descriptors that no
object has got: it gets them from `accept4`, `recvmsg` and the like, and may close them. -/
inductive SocketOperation
  | default (h : ℕ)
  | construct (h : ℕ) (fd : ℤ)
  | moveConstruct (h source : ℕ)
  | moveAssign (h source : ℕ)
  | setupListener (h : ℕ) (result : ListenResult)
  | setupClient (h : ℕ) (result : ConnectResult)
  | resetWithNew (h : ℕ) (fd : ℤ)
  | resetToEmpty (h : ℕ)
  | destroy (h : ℕ)
  | opened (fd : ℤ)
  | closed (fd : ℤ)
  deriving DecidableEq

def ListenResult.socket : ListenResult → Option ℤ
  | .socketFailed => none
  | .setsockoptFailed fd | .bindFailed fd | .listenFailed fd | .listening fd => some fd

def ConnectResult.socket : ConnectResult → Option ℤ
  | .socketFailed => none
  | .connectFailed fd | .connected fd => some fd

namespace Sockets

/-- The kernel only opens descriptors that are not open. -/
def Fresh (s : Sockets) (fd : ℤ) : Prop := 0 ≤ fd ∧ fd ∉ s.opened

instance (s : Sockets) (fd : ℤ) : Decidable (s.Fresh fd) := inferInstanceAs (Decidable (_ ∧ _))

/-- The objects are there or not, as the operation needs it, the descriptors that are passed to an
object are open and no object has got them, and the kernel opens fresh ones. -/
def Possible (s : Sockets) : SocketOperation → Prop
  | .default h => s.handler h = none
  | .construct h fd => s.handler h = none ∧ fd ∈ s.loose
  | .moveConstruct h source => s.handler h = none ∧ s.handler source ≠ none
  | .moveAssign h source => s.handler h ≠ none ∧ s.handler source ≠ none
  | .setupListener h result => s.handler h ≠ none ∧ ∀ fd ∈ result.socket, s.Fresh fd
  | .setupClient h result => s.handler h ≠ none ∧ ∀ fd ∈ result.socket, s.Fresh fd
  | .resetWithNew h fd => s.handler h ≠ none ∧ fd ∈ s.loose
  | .resetToEmpty h => s.handler h ≠ none
  | .destroy h => s.handler h ≠ none
  | .opened fd => s.Fresh fd
  | .closed fd => fd ∈ s.loose

instance (s : Sockets) : ∀ operation, Decidable (s.Possible operation)
  | .default h => inferInstanceAs (Decidable (s.handler h = none))
  | .construct _ _ | .moveConstruct _ _ | .moveAssign _ _ | .setupListener _ _ | .setupClient _ _
  | .resetWithNew _ _ => inferInstanceAs (Decidable (_ ∧ _))
  | .resetToEmpty _ | .destroy _ => inferInstanceAs (Decidable (_ ≠ _))
  | .opened fd => inferInstanceAs (Decidable (s.Fresh fd))
  | .closed _ => inferInstanceAs (Decidable (_ ∈ _))

def perform (s : Sockets) : SocketOperation → Sockets
  | .default h => { s with handler := Function.update s.handler h (some {}) }
  | .construct h fd => s.construct h fd
  | .moveConstruct h source => s.moveConstruct h source
  | .moveAssign h source => s.moveAssign h source
  | .setupListener h result => s.setupListener h result
  | .setupClient h result => s.setupClient h result
  | .resetWithNew h fd => s.resetWithNew h fd
  | .resetToEmpty h => s.resetToEmpty h
  | .destroy h => s.destroy h
  | .opened fd => { s.openDescriptor fd with loose := insert fd s.loose }
  | .closed fd => { s with opened := s.opened.erase fd, loose := s.loose.erase fd }

end Sockets

/-- The objects of a process, from its start on. -/
def socketSystem : System Sockets SocketOperation where
  initial s := s = {}
  step s operation := if s.Possible operation then some (s.perform operation) else none

/-! ### The objects of an engine -/

namespace Sockets

@[simp] lemma object_update (s : Sockets) (h : ℕ) (f : SocketHandler → SocketHandler) (i : ℕ) :
    (s.update h f).object i = if i = h then f (s.object h) else s.object i := by
  rcases eq_or_ne i h with rfl | hne
  · simp [update, object]
  · simp [update, object, hne]

@[simp] lemma object_openDescriptor (s : Sockets) (fd : ℤ) :
    (s.openDescriptor fd).object = s.object := rfl

@[simp] lemma object_close (s : Sockets) (fd : ℤ) : (s.close fd).object = s.object := rfl

@[simp] lemma object_take (s : Sockets) (h : ℕ) (fd : ℤ) :
    (s.take h fd).object = (s.update h ({ · with socket := fd })).object := rfl

end Sockets

namespace World

variable {σ : Type}

/-- The objects in the slots of the pool. -/
def sockets (w : World σ) : Sockets where
  handler slot := some (w.entry slot).socketHandler

lemma object_sockets (w : World σ) (slot : ℕ) :
    w.sockets.object slot = (w.entry slot).socketHandler := rfl

lemma object_updateHandler (w : World σ) (slot : ℕ) (f : SocketHandler → SocketHandler) (i : ℕ) :
    (w.updateHandler slot f).sockets.object i = (w.sockets.update slot f).object i := by
  rcases eq_or_ne i slot with rfl | hne
  · simp [object_sockets, entry]
  · simp [object_sockets, entry, hne]

/-- What an engine does with the socket in a slot is what the object in the slot does. -/
theorem object_closeSocket (w : World σ) (slot i : ℕ) :
    (w.closeSocket slot).sockets.object i = (w.sockets.closeSocket slot).object i := by
  by_cases hsocket : (w.entry slot).socketHandler.socket = -1
  · simp [closeSocket, Sockets.closeSocket, object_sockets, hsocket]
  · simp only [closeSocket, Sockets.closeSocket, object_sockets, hsocket, if_false]
    exact object_updateHandler (w.close _) slot ({· with socket := -1}) i

theorem object_setupListener (w : World σ) (slot i : ℕ) :
    ((setupListener slot).run w).state.sockets.object i =
      (w.sockets.setupListener slot (w.results.listen.headD .socketFailed)).object i := by
  by_cases hsocket : (w.entry slot).socketHandler.socket = -1
  · simp only [setupListener, Sockets.setupListener, object_sockets, hsocket, ne_eq,
      not_true_eq_false, if_false, Traced.run_bind, Traced.run_get, Traced.run_modify,
      Traced.Outcome.andThen]
    let w' : World σ := { w with results.listen := w.results.listen.tail }
    cases w.results.listen.headD .socketFailed with
    | socketFailed =>
      rcases eq_or_ne i slot with rfl | hne
      · simp [object_sockets, ← hsocket]
        rfl
      · simp [hne, object_sockets]
        rfl
    | setsockoptFailed fd => exact object_updateHandler w' slot ({ · with socket := fd }) i
    | bindFailed fd => exact object_updateHandler w' slot ({ · with socket := fd }) i
    | listenFailed fd => exact object_updateHandler w' slot ({ · with socket := fd }) i
    | listening fd =>
      refine (object_updateHandler w' slot
        ({ · with socket := fd, socketStatus := .alive }) i).trans ?_
      rcases eq_or_ne i slot with rfl | hne
      · simp [w', sockets, entry]
      · simp [hne, w', sockets, entry]
  · simp [setupListener, Sockets.setupListener, object_sockets, hsocket, Traced.Outcome.andThen]

theorem object_setupClient (w : World σ) (slot i : ℕ) :
    ((setupClient slot).run w).state.sockets.object i =
      (w.sockets.setupClient slot (w.results.connect.headD .socketFailed)).object i := by
  simp only [setupClient, Traced.run_bind, Traced.run_get, Traced.run_modify,
    Traced.Outcome.andThen]
  let w' : World σ := { w with results.connect := w.results.connect.tail }
  cases w.results.connect.headD .socketFailed with
  | socketFailed => exact object_updateHandler w' slot ({ · with socket := -1 }) i
  | connectFailed fd => exact object_updateHandler w' slot ({ · with socket := fd }) i
  | connected fd =>
    refine (object_updateHandler w' slot
      ({ · with socket := fd, socketStatus := .alive }) i).trans ?_
    rcases eq_or_ne i slot with rfl | hne
    · simp [Sockets.setupClient, w', sockets, entry]
    · simp [Sockets.setupClient, hne, w', sockets, entry]

end World

end BattleShips
