import BattleShips.Net.NetworkEngine

/-!
# The lobby manager

`LobbyManager` of `services/lobby_manager.cpp`: the lobby processes of a server and the table
`lobbies_` that finds them by their connection code.
-/

namespace BattleShips

/-- `LobbyView`. -/
structure LobbyView where
  lobbyId : ℤ
  controlConnection : ConnectionView
  deriving DecidableEq

/-- `LobbyProcess`. -/
structure LobbyProcess where
  pid : ℕ
  controlSocket : ℤ
  deriving DecidableEq

/-- `LobbyEntry`. -/
structure LobbyEntry where
  pid : ℕ
  controlConnection : ConnectionView
  deriving DecidableEq

structure LobbyManager where
  lobbies : ℤ → Option LobbyEntry := fun _ => none

namespace LobbyManager

def insert (m : LobbyManager) (lobbyId : ℤ) (entry : LobbyEntry) : LobbyManager where
  lobbies := Function.update m.lobbies lobbyId (some entry)

/-- `LobbyManager::find`. -/
def find (m : LobbyManager) (lobbyId : ℤ) : Except Error LobbyView :=
  match m.lobbies lobbyId with
  | none => .error ⟨["Lobby with given id doesn`t exist"]⟩
  | some entry => .ok { lobbyId := lobbyId, controlConnection := entry.controlConnection }

lemma find_eq_ok {m : LobbyManager} {lobbyId : ℤ} {view : LobbyView} :
    m.find lobbyId = .ok view ↔ ∃ entry, m.lobbies lobbyId = some entry ∧
      { lobbyId := lobbyId, controlConnection := entry.controlConnection } = view := by
  rw [find]
  cases m.lobbies lobbyId with
  | none => simp
  | some entry => simp

/-- `LobbyManager::spawn_lobby`: the parent keeps the second end of the socket pair. -/
def spawnLobby {σ : Type} : EngineM σ (Except Error LobbyProcess) := do
  let w ← Traced.get
  Traced.modify fun w => { w with results.spawn := w.results.spawn.tail }
  match w.results.spawn.headD .socketpairFailed with
  | .socketpairFailed => return .error (makeErrorC "Failed to create socketpair: {}")
  | .forkFailed sv0 sv1 =>
    Traced.modify fun w => w.openDescriptors [sv0, sv1] false
    return .error (makeErrorC "Failed to fork: {}")
  | .spawned sv0 sv1 =>
    Traced.modify fun w =>
      { (w.openDescriptors [sv0, sv1] false).close sv0 with nextPid := w.nextPid + 1 }
    return .ok { pid := w.nextPid, controlSocket := sv1 }

/-- `LobbyManager::attach`. The `try_emplace` leaves an entry that is there alone. -/
def attach (pid : ℕ) (controlConnection : ConnectionView) :
    EngineM LobbyManager (Except Error LobbyView) := do
  let w ← Traced.get
  Traced.modify fun w => { w with results.time := w.results.time.tail }
  let lobbyId := generateConnCode (w.results.time.headD default)
  match w.app.lobbies lobbyId with
  | none =>
    let entry : LobbyEntry := { pid := pid, controlConnection := controlConnection }
    Traced.modify fun w => { w with app := w.app.insert lobbyId entry }
    Traced.emit (.attached lobbyId controlConnection.slot pid)
    return .ok { lobbyId := lobbyId, controlConnection := controlConnection }
  | some _ =>
    Traced.emit (.killed pid)
    return .error ⟨["Unable to emplace lobby into map"]⟩

/-- `LobbyManager::kill_lobby`. The subscript makes an entry with pid 0 if there is none. -/
def killLobby (lobbyId : ℤ) : EngineM LobbyManager PUnit := do
  let w ← Traced.get
  match w.app.lobbies lobbyId with
  | some entry => Traced.emit (.killed entry.pid)
  | none =>
    Traced.modify fun w =>
      { w with app := w.app.insert lobbyId { pid := 0, controlConnection := {} } }
    Traced.emit (.killed 0)

end LobbyManager

end BattleShips
