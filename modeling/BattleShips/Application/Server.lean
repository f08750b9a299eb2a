import BattleShips.Application.Application
import BattleShips.Core.Dispatcher
import BattleShips.Services.LobbyManager

/-!
# The server

`Server` of `application/server.cpp`. Its only member of its own is the lobby manager.
-/

namespace BattleShips

/-- `Server::ServerAction`. -/
inductive ServerAction
  | createLobby
  | joinLobby
  | chatMessage
  | generalAction
  deriving DecidableEq

def ServerAction.ofVariant : ActionVariant → Option ServerAction
  | .createLobby => some .createLobby
  | .joinLobby => some .joinLobby
  | .chatMessage => some .chatMessage
  | .generalAction => some .generalAction
  | _ => none

namespace Server

/-- `Server::init`. -/
def init (socketType : EndPoint) (socket : ℤ) : EngineM LobbyManager (Option Error) := do
  match ← initApp socketType socket with
  | .ok _ => return none
  | .error e => return some (e.addContext "Unable to init Server:: failed to init Application")

/-- `Server::create_lobby`. -/
def createLobby : EngineM LobbyManager (Except Error LobbyView) := do
  match ← LobbyManager.spawnLobby with
  | .error e => return .error (e.addContext "Unable to create lobby: failed to spawn lobby")
  | .ok spawned =>
    match ← NetworkEngine.attachSocket spawned.controlSocket .toLobby with
    | .error e =>
      return .error (e.addContext "Unable to create lobby: failed to attach lobby to NetworkEngine")
    | .ok controlConnection =>
      match ← LobbyManager.attach spawned.pid controlConnection with
      | .error e =>
        return .error
          (e.addContext "Unable to create lobby: failed to attach lobby to LobbyManager")
      | .ok lobbyView => return .ok lobbyView

/-- `Server::init_lobby`. -/
def initLobby (lobbyView : LobbyView) : EngineM LobbyManager (Option Error) := do
  return (← NetworkEngine.sendMessageTo lobbyView.controlConnection
      { payload := toDecimal lobbyView.lobbyId, type := .lobbyId }).map
    (·.addContext "Unable to init lobby: failed to send lobby id")

/-- `Server::perform_transfer`. -/
def performTransfer (recipient : LobbyView) (context : ActionContext) :
    EngineM LobbyManager ActionResult := do
  Traced.emit
    (.handedOff context.receivedMessage recipient.lobbyId recipient.controlConnection.slot)
  let result ← NetworkEngine.transfer recipient.controlConnection context.pendingView
  let actionResult : ActionResult :=
    { connStatus := if result.sourceConnPreserved then .keep else .release }
  if result.destinationConnPreserved then return actionResult
  else
    LobbyManager.killLobby recipient.lobbyId
    return actionResult

/-- `Server::execute_action(CreateLobby)`. -/
def executeCreateLobby (context : ActionContext) : EngineM LobbyManager ActionResult := do
  match ← createLobby with
  | .error e =>
    return {
      connStatus := .keep
      error := some (e.addContext "Unable to create lobby: failed to request lobby")
      userCode := some .cantCreateLobby }
  | .ok lobbyView =>
    match ← initLobby lobbyView with
    | some e =>
      return {
        connStatus := .keep
        error := some (e.addContext "Unable to create lobby:L failed to init lobby")
        userCode := some .cantCreateLobby }
    | none => performTransfer lobbyView context

/-- `Server::execute_action(JoinLobby)`. -/
def executeJoinLobby (context : ActionContext) : EngineM LobbyManager ActionResult := do
  match JoinLobbyCode.parse context.receivedMessage.payload with
  | .error e =>
    return {
      connStatus := .keep
      error := some (e.addContext "Unable to join lobby: failed to parse connection code")
      userCode := some .cantJoinLobby }
  | .ok code =>
    let w ← Traced.get
    match w.app.find code.intCode with
    | .error e =>
      return {
        connStatus := .keep
        error := some (e.addContext "Unable to join lobby: failed to find lobby")
        userCode := some .cantJoinLobby }
    | .ok lobbyView => performTransfer lobbyView context

/-- `Server::execute_action(GeneralAction)`. -/
def executeGeneralAction (context : ActionContext) : EngineM LobbyManager ActionResult := do
  match ← NetworkEngine.sendMessageTo context.pendingView
      { payload := userMessage .unknownCommand, type := .printable } with
  | some e =>
    return {
      connStatus := .release
      error := some (e.addContext "Unable to process general action: failed to send answer") }
  | none => return { connStatus := .keep }

/-- `Server::execute_action`. -/
def executeAction : ServerAction → ActionContext → EngineM LobbyManager ActionResult
  | .createLobby => executeCreateLobby
  | .joinLobby => executeJoinLobby
  | .chatMessage => executeChatMessage
  | .generalAction => executeGeneralAction

/-- `Server::handle_action`. -/
def handleAction (context : ActionContext) : EngineM LobbyManager ActionResult :=
  match filterVariant ServerAction.ofVariant
      (Dispatcher.dispatch context.receivedMessage).variant with
  | .error e =>
    return {
      connStatus := .keep
      error := some (e.addContext "Action in not allowed in this context") }
  | .ok action => executeAction action context

/-- `main` without arguments: initialisation, and operations of the threads. -/
def main (operations : List Operation) : EngineM LobbyManager PUnit := do
  match ← init .listener 0 with
  | some _ => Traced.stop
  | none => Traced.runAll (operations.map (Operation.run handleAction))

end Server

end BattleShips
