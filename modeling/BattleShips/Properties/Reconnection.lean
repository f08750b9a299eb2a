import BattleShips.Application.Client
import BattleShips.Net.ReceiveStream

/-!
# Reconnecting

`reset_base_connection` is what a client does when it cannot send to the server. It opens a new
socket and writes its number over that of the old one, and that is all it does: the old descriptor
stays open, a slot that has been released stays available, the receive coroutine goes on with what
it holds of the old stream, and nobody subscribes to the events of the new socket.
-/

namespace BattleShips

open Function Traced

variable {σ : Type} {w w' : World σ} {socket : ℤ}

/-- What is to be expected of a client whose root connection has a new socket. -/
structure World.Reconnected (w w' : World σ) (socket : ℤ) : Prop where
  /-- The old descriptor is closed. -/
  closed : (w.entry 0).socketHandler.socket ≠ socket →
    w'.descriptors (w.entry 0).socketHandler.socket = none
  socket : (w'.entry 0).socketHandler.socket = socket
  alive : (w'.entry 0).socketHandler.isSocketAlive
  type : (w'.entry 0).connectionType = .toServer
  /-- The slot is in use. -/
  taken : 0 ∉ w'.pool.availableSlots.items
  armed : w'.Armed 0
  /-- What comes with the new stream is received as by a coroutine that starts with it. -/
  stream : ∀ rs ms, Delivers coReceiveFromSocket rs ms →
    Delivers ((w'.entry 0).socketHandler.receiveHandle.getD coReceiveFromSocket) rs ms

/-- If `reset_base_connection` succeeds, the client is connected anew. -/
def World.ReconnectsRoot (w : World σ) : Prop :=
  let r := (NetworkEngine.resetBaseConnection .toServer).run w
  r.value = some none →
    ∃ socket, w.results.connect.head? = some (.connected socket) ∧ w.Reconnected r.state socket

/-- The process after a reset that has succeeded. -/
def World.withRootSocket (w : World σ) (socket : ℤ) : World σ :=
  let w := { w with results.connect := w.results.connect.tail }
  ((w.openDescriptors [socket] false).updateHandler 0
    ({ · with socket := socket, socketStatus := .alive })).updateEntry 0
      ({ · with connectionType := .toServer })

lemma resetBaseConnection_connected (h : w.results.connect.head? = some (.connected socket)) :
    (NetworkEngine.resetBaseConnection .toServer).run w =
      { value := some none, state := w.withRootSocket socket, events := [] } := by
  simp [NetworkEngine.resetBaseConnection, NetworkEngine.initConnectionType, setupClient,
    NetworkEngine.setConnectionType, Outcome.andThen, h, World.withRootSocket]

/-- It succeeds just if `setup_client` does. -/
lemma resetBaseConnection_succeeds_iff :
    ((NetworkEngine.resetBaseConnection .toServer).run w).value = some none ↔
      ∃ socket, w.results.connect.head? = some (.connected socket) := by
  constructor
  · intro hnone
    cases hconnect : w.results.connect with
    | nil =>
      simp [NetworkEngine.resetBaseConnection, NetworkEngine.initConnectionType, setupClient,
        Outcome.andThen, hconnect] at hnone
    | cons result results =>
      cases result with
      | connected socket => exact ⟨socket, rfl⟩
      | socketFailed | connectFailed =>
        simp [NetworkEngine.resetBaseConnection, NetworkEngine.initConnectionType, setupClient,
          Outcome.andThen, hconnect] at hnone
  · rintro ⟨socket, hconnect⟩
    rw [resetBaseConnection_connected hconnect]

/-- What a reset leaves as it was. -/
lemma withRootSocket_rest (w : World σ) (socket : ℤ) :
    (w.withRootSocket socket).epoll = w.epoll ∧
      (w.withRootSocket socket).pool.availableSlots = w.pool.availableSlots ∧
      ((w.withRootSocket socket).entry 0).socketHandler.receiveHandle =
        (w.entry 0).socketHandler.receiveHandle ∧
      ∀ fd, fd ≠ socket → (w.withRootSocket socket).descriptors fd = w.descriptors fd := by
  refine ⟨rfl, rfl, ?_, fun fd hne => ?_⟩
  · simp [World.withRootSocket, World.entry]
  · have hopened : (w.withRootSocket socket).descriptors fd =
        (w.openDescriptors [socket] false).descriptors fd := rfl
    rw [hopened, World.openDescriptors_of_notMem (by simpa using hne)]

lemma withRootSocket_socket (w : World σ) (socket : ℤ) :
    ((w.withRootSocket socket).entry 0).socketHandler.socket = socket := by
  simp [World.withRootSocket, World.entry]

/-- **Reconnecting** never does what is to be expected: it does not when it succeeds. The interest
list has no descriptor that is only opened. -/
theorem resetBaseConnection_reconnectsRoot_iff (w : World σ)
    (hfresh : ∀ socket, w.results.connect.head? = some (.connected socket) →
      w.epoll socket = none) :
    w.ReconnectsRoot ↔ ∀ socket, w.results.connect.head? ≠ some (.connected socket) := by
  constructor
  · intro hreconnects socket hconnect
    obtain ⟨socket', hconnect', hreconnected⟩ :=
      hreconnects (resetBaseConnection_succeeds_iff.2 ⟨socket, hconnect⟩)
    rw [resetBaseConnection_connected hconnect'] at hreconnected
    have harmed := hreconnected.armed
    rw [World.Armed, withRootSocket_socket, (withRootSocket_rest w socket').1,
      hfresh socket' hconnect'] at harmed
    cases harmed
  · intro hfails hsucceeds
    obtain ⟨socket, hconnect⟩ := resetBaseConnection_succeeds_iff.1 hsucceeds
    exact absurd hconnect (hfails socket)

/-- A client in the middle of a header when the server goes away. -/
def lostServer : World Client where
  pool := {
    object := update (fun _ => {}) 0 {
      connectionType := .toServer
      socketHandler := {
        socket := 3
        receiveHandle := some (.reading (List.replicate bufferSize 0) 5)
        socketStatus := .alive } }
    counter := 1
    lastNotIssuedIndex := 1 }
  epoll := update (fun _ => none) 3 (some { slot := 0, armed := true })
  descriptors := update (fun _ => none) 3 (some { closeOnExec := false })
  results := { connect := [.connected 4] }
  nextPid := 1
  app := { serverView := ⟨0⟩ }

theorem resetBaseConnection_reconnectsRoot_iff_lostServer :
    lostServer.ReconnectsRoot ↔
      ∀ socket, lostServer.results.connect.head? ≠ some (.connected socket) := by
  refine resetBaseConnection_reconnectsRoot_iff lostServer ?_
  intro socket hconnect
  obtain rfl : (4 : ℤ) = socket := by simpa [lostServer] using hconnect
  rfl

/-- The old descriptor stays open, the receive coroutine holds five bytes of the old stream, and the
new socket is not in the interest list. -/
theorem resetBaseConnection_not_reconnectsRoot :
    lostServer.epoll 4 = none ∧ lostServer.descriptors 4 = none ∧
      (∃ w, (NetworkEngine.resetBaseConnection .toServer).run lostServer =
          { value := some none, state := w, events := [] } ∧
        (w.entry 0).socketHandler.socket = 4 ∧
        w.descriptors 3 = some { closeOnExec := false } ∧
        (w.entry 0).socketHandler.receiveHandle =
          some (.reading (List.replicate bufferSize 0) 5) ∧ w.epoll 4 = none) ∧
      ¬ lostServer.ReconnectsRoot := by
  have hconnect : lostServer.results.connect.head? = some (.connected 4) := rfl
  obtain ⟨hepoll, -, hhandle, hdescriptors⟩ := withRootSocket_rest lostServer 4
  have hopen : (lostServer.withRootSocket 4).descriptors 3 = some { closeOnExec := false } :=
    hdescriptors 3 (by decide)
  have hsocket := withRootSocket_socket lostServer 4
  refine ⟨rfl, rfl, ?_, fun hreconnects => ?_⟩
  · exact ⟨_, resetBaseConnection_connected hconnect, hsocket, hopen, hhandle, by rw [hepoll]; rfl⟩
  · obtain ⟨socket, hconnect', hreconnected⟩ :=
      hreconnects (resetBaseConnection_succeeds_iff.2 ⟨4, hconnect⟩)
    obtain rfl : (4 : ℤ) = socket := by simpa [lostServer] using hconnect'
    rw [resetBaseConnection_connected hconnect] at hreconnected
    have hclosed := hreconnected.closed (by decide)
    have hthree : (lostServer.entry 0).socketHandler.socket = 3 := rfl
    rw [hthree, hopen] at hclosed
    cases hclosed

end BattleShips
