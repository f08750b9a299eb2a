import BattleShips.Application.Application
import BattleShips.Core.Dispatcher

/-!
# The lobby

`Lobby` of `application/lobby.cpp`. The same handler serves the connection to the parent, which
is the server, and the connections to the players.
-/

namespace BattleShips

/-- `Lobby::LobbyAction`. -/
inductive LobbyAction
  | acceptSocket
  | setLobbyId
  | chatMessage
  deriving DecidableEq

def LobbyAction.ofVariant : ActionVariant → Option LobbyAction
  | .acceptSocket => some .acceptSocket
  | .setLobbyId => some .setLobbyId
  | .chatMessage => some .chatMessage
  | _ => none

/-- The members of `Lobby`. -/
structure Lobby where
  lobbyId : ℤ := 0
  parentView : ConnectionView := {}
  deriving DecidableEq

namespace Lobby

/-- `Lobby::init`. -/
def init (socketType : EndPoint) (socket : ℤ) : EngineM Lobby (Option Error) := do
  match ← initApp socketType socket with
  | .ok view =>
    Traced.modify fun w => { w with app.parentView := view }
    return none
  | .error e => return some (e.addContext "Unable to init Lobby:: failed to init Application")

/-- `Lobby::send_join_lobby_message`. -/
def sendJoinLobbyMessage (recipientView : ConnectionView) : EngineM Lobby (Option Error) := do
  let w ← Traced.get
  return (← NetworkEngine.sendMessageTo recipientView
      { payload := ascii "Connected to lobby\nConnection code is:\n\t" ++ toDecimal w.app.lobbyId
        type := .printable }).map
    (·.addContext "Unable to send join lobby message: failed to send message")

/-- `Lobby::execute_action(AcceptSocket)`. -/
def executeAcceptSocket (context : ActionContext) : EngineM Lobby ActionResult := do
  match context.receivedMessage.socket with
  | none =>
    let w ← Traced.get
    let _ ← NetworkEngine.sendMessageTo w.app.parentView
      { payload := ascii "No socket found in message", type := .error }
    return { connStatus := .keep }
  | some socket =>
    match ← NetworkEngine.attachSocket socket .toClient with
    | .error e =>
      return {
        connStatus := .keep
        error := some (e.addContext "Unable to accept client socket from parent") }
    | .ok clientView =>
      match ← sendJoinLobbyMessage clientView with
      | some e =>
        NetworkEngine.releaseConnectionByView clientView
        return {
          connStatus := .keep
          error := some (e.addContext "Unable to accept socket: failed to send greeting message") }
      | none => return { connStatus := .keep }

/-- `Lobby::execute_action(SetLobbyId)`. -/
def executeSetLobbyId (context : ActionContext) : EngineM Lobby ActionResult := do
  Traced.modify fun w => { w with app.lobbyId := strtol context.receivedMessage.payload }
  return { connStatus := .keep }

/-- `Lobby::execute_action`. -/
def executeAction : LobbyAction → ActionContext → EngineM Lobby ActionResult
  | .acceptSocket => executeAcceptSocket
  | .setLobbyId => executeSetLobbyId
  | .chatMessage => executeChatMessage

/-- `Lobby::handle_action`. -/
def handleAction (context : ActionContext) : EngineM Lobby ActionResult :=
  match filterVariant LobbyAction.ofVariant
      (Dispatcher.dispatch context.receivedMessage).variant with
  | .error e =>
    return {
      connStatus := .keep
      error := some (e.addContext "Action is not allowed in this context") }
  | .ok action => executeAction action context

/-- `main` with the descriptor that the parent has passed: initialisation, and operations of the
threads. -/
def main (socket : ℤ) (operations : List Operation) : EngineM Lobby PUnit := do
  match ← init .toParent socket with
  | some _ => Traced.stop
  | none => Traced.runAll (operations.map (Operation.run handleAction))

end Lobby

end BattleShips
