import BattleShips.Properties.Rearming

/-!
# Chat text is inert

What a player says goes through `Server` or `Lobby` as the text of a `PRINTABLE` message, and each
client it reaches prints it. But the table of the dispatcher is searched for the text of a message
before its type gets a chance: a text that starts like a command is taken for one.
-/

namespace BattleShips

open Traced

variable {σ : Type}

/-! ### Dispatching a printable message -/

namespace Dispatcher

/-- The entries of the table before the one for `PRINTABLE`. -/
def commands : List Action := actions.takeWhile fun action => action.make ≠ .printMessage

/-- The texts that commands start with. -/
def commandAliases : List Bytes := commands.flatMap (·.textAliases)

lemma actions_eq : actions = commands ++
    [{ textAliases := [ascii "\\printable"], type := some .printable, scope := .«local»,
       make := .printMessage }] := rfl

/-- A printable message is taken for a command that its text starts like, or else is printed. -/
lemma dispatch_printable {message : ReceivedMessage} (htype : message.type = .printable) :
    (∃ action ∈ commands, dispatch message = { scope := action.scope, variant := action.make } ∧
      ∃ a ∈ action.textAliases, a <+: message.payload) ∨
    (dispatch message = { scope := .«local», variant := .printMessage } ∧
      ∀ a ∈ commandAliases, ¬ a <+: message.payload) := by
  have hmatch : ∀ action ∈ commands, (matchAction action message = true ↔
      ∃ a ∈ action.textAliases, a <+: message.payload) := by
    intro action haction
    have hother : action.type ≠ some .printable := by
      revert action
      decide
    simp [matchAction, htype, hother]
  rw [dispatch, actions_eq, List.find?_append]
  cases hfind : commands.find? (matchAction · message) with
  | some action =>
    have hmem := List.mem_of_find?_eq_some hfind
    exact .inl ⟨action, hmem, rfl, (hmatch action hmem).1 (by simpa using List.find?_some hfind)⟩
  | none =>
    refine .inr ⟨by simp [matchAction, htype], fun a ha hstarts => ?_⟩
    obtain ⟨action, haction, hmem⟩ := List.mem_flatMap.1 ha
    exact List.find?_eq_none.1 hfind action haction
      ((hmatch action haction).2 ⟨a, hmem, hstarts⟩)

end Dispatcher

/-! ### What a client does with a printable message -/

/-- The client only prints `t`. -/
def Prints (t : Bytes) (message : ReceivedMessage) : Prop :=
  ∀ view (w : World Client), Reachable {} Client.main w →
    (Client.handleAction ⟨view, message⟩).run w =
      ⟨some { connStatus := .keep }, w, [.printed t]⟩

/-- A client that has just connected to its server. -/
def connectedClient : World Client :=
  ((Client.main []).run (World.initial {} { connect := [.connected 3] })).state

lemma reachable_connectedClient : Reachable {} Client.main connectedClient :=
  ⟨_, [], by decide, rfl⟩

lemma Client.handleAction_of_ne_broadcast {context : ActionContext}
    (h : (Dispatcher.dispatch context.receivedMessage).scope ≠ .broadcast) :
    Client.handleAction context =
      filterAndExecute (Dispatcher.dispatch context.receivedMessage).variant context := by
  rw [handleAction]
  cases hscope : (Dispatcher.dispatch context.receivedMessage).scope with
  | broadcast => exact absurd hscope h
  | none | «local» | network => rfl

/-- A client prints a printable message if and only if its text does not start like a command. -/
lemma prints_iff {message : ReceivedMessage} (htype : message.type = .printable) :
    Prints message.payload message ↔
      ∀ a ∈ Dispatcher.commandAliases, ¬ a <+: message.payload := by
  obtain ⟨action, haction, hdispatch, a, ha, hstarts⟩ | ⟨hdispatch, htext⟩ :=
    Dispatcher.dispatch_printable htype
  · refine iff_of_false (fun hprints => ?_) fun htext =>
      htext a (List.mem_flatMap.2 ⟨action, haction, ha⟩) hstarts
    -- no command prints the text: they go to the server, print something else or are not allowed
    have hcommands : ∀ action ∈ Dispatcher.commands, action.scope = .broadcast ∨
        action.scope ≠ .broadcast ∧ (ClientAction.ofVariant action.make = none ∨
          action.make = .quit ∧ ∀ a ∈ action.textAliases, ascii "\\" <+: a) := by
      decide
    have hrun := hprints {} connectedClient reachable_connectedClient
    obtain hscope | ⟨hscope, hmake⟩ := hcommands action haction
    · rw [Client.handleAction, hdispatch, hscope] at hrun
      have hhead := congrArg (·.events.head?) hrun
      cases hhead
    rw [Client.handleAction_of_ne_broadcast (by simpa [hdispatch] using hscope), hdispatch,
      Client.filterAndExecute, filterVariant] at hrun
    obtain hmake | ⟨hmake, hslash⟩ := hmake
    · rw [hmake] at hrun
      have hvalue := congrArg Outcome.value hrun
      cases hvalue
    · rw [hmake] at hrun
      have hline : [Event.printed (ascii "->_<-")] = [.printed message.payload] :=
        congrArg Outcome.events hrun
      have hslash := (hslash a ha).trans hstarts
      rw [← Event.printed.inj (List.singleton_inj.1 hline)] at hslash
      exact absurd hslash (by decide)
  · refine iff_of_true (fun view w _ => ?_) htext
    rw [Client.handleAction, hdispatch]
    rfl

/-! ### Chat -/

/-- All that the handler sends are messages to clients, which only print `t`. -/
def SendsInert (t : Bytes) (handler : EngineM σ ActionResult) (w : World σ) : Prop :=
  ∀ slot message written, .sent slot message written ∈ (handler.run w).events →
    (w.entry slot).connectionType = .toClient ∧
      ∀ received : ReceivedMessage, received.status = .data → received.type = message.type →
        received.payload = message.payload → Prints t received

/-- Wherever `\msg t` is handled as a chat message, the clients it reaches only print `t`. -/
def ChatIsInert (t : Bytes) : Prop :=
  ∀ context : ActionContext, context.receivedMessage.payload = ascii "\\msg " ++ t →
    (Dispatcher.dispatch context.receivedMessage).variant = .chatMessage →
      (∀ w, Reachable {} Server.main w → SendsInert t (Server.handleAction context) w) ∧
      (∀ socket w, Reachable {} (Lobby.main socket) w →
        SendsInert t (Lobby.handleAction context) w)

lemma sendsInert_executeChatMessage {t : Bytes} {context : ActionContext}
    (ht : ∀ a ∈ Dispatcher.commandAliases, ¬ a <+: t)
    (hpayload : context.receivedMessage.payload = ascii "\\msg " ++ t) (w : World σ) :
    SendsInert t (executeChatMessage context) w := by
  have hparse : parse context.receivedMessage.payload = .ok t := by
    rw [hpayload]
    exact parse_append (show 32 ∉ ascii "\\msg" by decide) t
  intro slot message written hsent
  have hbroadcast := executeChatMessage_broadcast (G := fun _ _ => True) (P := fun _ _ => True)
    (fun t' ht' => Except.ok.inj (ht'.symm.trans hparse)) w [] trivial
    (allowed_of_forall fun _ _ _ => trivial)
  obtain ⟨rfl, hslot⟩ := hbroadcast.events _ hsent
  refine ⟨hslot, fun received _ htype hreceived => ?_⟩
  dsimp only at htype hreceived
  rw [← hreceived] at ht ⊢
  exact (prints_iff htype).2 ht

/-- With a client connected, a text reaches it, whatever it starts like. -/
lemma ChatIsInert.prints {t : Bytes} (h : ChatIsInert t) :
    Prints t { status := .data, type := .printable, payload := t } := by
  let message : ReceivedMessage := { status := .data, payload := ascii "\\msg " ++ t }
  have hserver := (h ⟨⟨1⟩, message⟩ rfl rfl).1 (clientSends [])
    ⟨_, [.event 3, .event 7], by decide, rfl⟩
  exact (hserver 1 { payload := t, type := .printable } (some (headerSize + t.length))
    (List.mem_singleton_self _)).2 _ rfl rfl rfl

/-- Chat text is inert if and only if it does not start like a command. -/
theorem chatIsInert_iff (t : Bytes) :
    ChatIsInert t ↔ ∀ a ∈ Dispatcher.commandAliases, ¬ a <+: t := by
  refine ⟨fun h => (prints_iff rfl).1 h.prints, fun ht context hpayload hvariant => ?_⟩
  refine ⟨fun w _ => ?_, fun socket w _ => ?_⟩
  · rw [Server.handleAction, hvariant]
    exact sendsInert_executeChatMessage ht hpayload w
  · rw [Lobby.handleAction, hvariant]
    exact sendsInert_executeChatMessage ht hpayload w

/-- Who says `\create` makes every client that hears it ask for a lobby. -/
theorem not_chatIsInert_create : ¬ ∀ t, ChatIsInert t := by
  intro h
  exact (prints_iff rfl).1 (h (ascii "\\create")).prints (ascii "\\create") (by decide)
    (List.prefix_refl _)

end BattleShips
