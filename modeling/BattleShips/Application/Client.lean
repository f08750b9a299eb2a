import BattleShips.Application.Application
import BattleShips.Core.Dispatcher

/-!
# The client

`Client` of `application/client.cpp`. The same handler gets the messages of the server and the
lines of the console.
-/

namespace BattleShips

/-- `Client::ClientAction`. -/
inductive ClientAction
  | printMessage
  | quit
  deriving DecidableEq

def ClientAction.ofVariant : ActionVariant → Option ClientAction
  | .printMessage => some .printMessage
  | .quit => some .quit
  | _ => none

/-- The members of `Client`. -/
structure Client where
  serverView : ConnectionView := {}
  deriving DecidableEq

/-- An operation of the threads of a client. -/
inductive ClientOperation
  | engine (operation : Operation)
  /-- The worker: a `CONSOLE` task with the line. -/
  | console (line : Bytes)
  deriving DecidableEq

namespace Client

/-- `Client::init`. -/
def init (socketType : EndPoint) (socket : ℤ) : EngineM Client (Option Error) := do
  match ← initApp socketType socket with
  | .ok view =>
    Traced.modify fun w => { w with app.serverView := view }
    return none
  | .error e => return some (e.addContext "Unable to init Client:: failed to init Application")

/-- `Client::send_input_to_server`. -/
def sendInputToServer (messageToSend : ReceivedMessage) : EngineM Client (Option Error) := do
  let w ← Traced.get
  return (← NetworkEngine.sendMessageTo w.app.serverView { payload := messageToSend.payload }).map
    (·.addContext "Unable to send input to server : failed to send message")

/-- `Client::handle_broadcast_action`. -/
def handleBroadcastAction (context : ActionContext) : EngineM Client ActionResult := do
  match ← sendInputToServer context.receivedMessage with
  | none => return {}
  | some e =>
    match ← NetworkEngine.resetBaseConnection .toServer with
    | some _ => Traced.stop -- `success_or_terminate`
    | none =>
      return { error := some ((e.addContext ("Unable to handle broadcast action: failed to send " ++
        "input to Server. Trying to reconnect to Server...")).addContext
          "Succesfully reconnected to Server") }

/-- `Client::execute_action`. -/
def executeAction : ClientAction → ActionContext → EngineM Client ActionResult
  | .printMessage, context => do
    Traced.emit (.printed context.receivedMessage.payload)
    return { connStatus := .keep }
  | .quit, _ => do
    Traced.emit (.printed (ascii "->_<-"))
    return { connStatus := .keep }

/-- `Client::handle_action` after its switch over the scopes. -/
def filterAndExecute (variant : ActionVariant) (context : ActionContext) :
    EngineM Client ActionResult :=
  match filterVariant ClientAction.ofVariant variant with
  | .error e =>
    return {
      connStatus := .keep
      error := some (e.addContext "Action is not allowed in this context") }
  | .ok action => executeAction action context

/-- `Client::handle_action`. -/
def handleAction (context : ActionContext) : EngineM Client ActionResult :=
  let actionInfo := Dispatcher.dispatch context.receivedMessage
  match actionInfo.scope with
  | .broadcast => handleBroadcastAction context
  | .none | .«local» | .network => filterAndExecute actionInfo.variant context

def runOperation : ClientOperation → EngineM Client PUnit
  | .engine operation => operation.run handleAction
  | .console line => do
    let _ ← handleAction { pendingView := {}, receivedMessage := { payload := line } }

/-- `main`: initialisation, the result of which is ignored, and operations of the threads. -/
def main (operations : List ClientOperation) : EngineM Client PUnit := do
  let _ ← init .toServer 0
  Traced.runAll (operations.map runOperation)

end Client

end BattleShips
