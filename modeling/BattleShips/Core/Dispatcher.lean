import BattleShips.Utility.Text

/-!
# The dispatcher

`Dispatcher` of `core/dispatcher.cpp`: the first entry of a table that matches a message, by the
type in its header or by a text its payload starts with, names the action.
-/

namespace BattleShips

/-- `ActionVariant`. -/
inductive ActionVariant
  | createLobby
  | joinLobby
  | quit
  | acceptSocket
  | setLobbyId
  | chatMessage
  | printMessage
  | notAllowed
  | generalAction
  deriving DecidableEq

/-- `action_scope_e`. -/
inductive ActionScope
  | none
  | «local»
  | broadcast
  | network
  deriving DecidableEq

/-- `ActionInfo`. -/
structure ActionInfo where
  scope : ActionScope
  variant : ActionVariant
  deriving DecidableEq

namespace Dispatcher

/-- `Dispatcher::Action`. -/
structure Action where
  textAliases : List Bytes
  type : Option MessageType
  scope : ActionScope
  make : ActionVariant
  deriving DecidableEq

/-- `Dispatcher::actions`. -/
def actions : List Action :=
  [{ textAliases := [ascii "\\create"], type := none, scope := .broadcast, make := .createLobby },
   { textAliases := [ascii "\\close"], type := none, scope := .network, make := .quit },
   { textAliases := [ascii "\\quit"], type := none, scope := .«local», make := .quit },
   { textAliases := [ascii "\\socket"], type := some .socket, scope := .network,
     make := .acceptSocket },
   { textAliases := [ascii "\\lobby_id"], type := some .lobbyId, scope := .network,
     make := .setLobbyId },
   { textAliases := [ascii "\\join"], type := some .connCode, scope := .broadcast,
     make := .joinLobby },
   { textAliases := [ascii "\\msg"], type := none, scope := .broadcast, make := .chatMessage },
   { textAliases := [ascii "\\printable"], type := some .printable, scope := .«local»,
     make := .printMessage }]

/-- `Dispatcher::match_action`. -/
def matchAction (action : Action) (message : ReceivedMessage) : Bool :=
  action.type = some message.type || action.textAliases.any (·.isPrefixOf message.payload)

/-- `Dispatcher::dispatch`. -/
def dispatch (message : ReceivedMessage) : ActionInfo :=
  match actions.find? (matchAction · message) with
  | some action => { scope := action.scope, variant := action.make }
  | none => { scope := .none, variant := .generalAction }

/-- Dispatching looks at the type and at the payload only. -/
lemma dispatch_congr {m n : ReceivedMessage} (htype : m.type = n.type)
    (hpayload : m.payload = n.payload) : dispatch m = dispatch n := by
  simp only [dispatch, matchAction, htype, hpayload]

end Dispatcher

end BattleShips
