import BattleShips.Properties.Rearming

/-!
# The control plane of a lobby

The same handler serves the parent of a lobby, which is the server, and the players, and it does
not ask who sent a message. The connection code of the lobby and what it sends to its parent depend
on the messages of the parent only, as long as no message of a player is dispatched to one of the
two actions that are meant for the parent.
-/

namespace BattleShips

open Traced

/-! ### Messages for the control plane -/

/-- The message is dispatched to an action that only the parent should ask for. -/
def IsControl (message : ReceivedMessage) : Prop :=
  (Dispatcher.dispatch message).variant = .acceptSocket ∨
    (Dispatcher.dispatch message).variant = .setLobbyId

instance (message : ReceivedMessage) : Decidable (IsControl message) :=
  inferInstanceAs (Decidable (_ ∨ _))

/-- No message of a player is for the control plane. -/
def PlayersLeaveControl (_ : List Event) : Event → Prop
  | .received _ type message => type = .toClient → ¬ IsControl message
  | _ => True

/-- No message of a player passes a descriptor. -/
def PlayersPassNoSocket (_ : List Event) : Event → Prop
  | .received _ type message => type = .toClient → message.socket = none
  | _ => True

instance (tr : List Event) : ∀ e, Decidable (PlayersLeaveControl tr e)
  | .received _ type message => inferInstanceAs (Decidable (type = .toClient → ¬ IsControl message))
  | .acquired _ | .exhausted | .released _ _ | .sent _ _ _ | .handled _ _ | .acceptFailed _
  | .handedOff _ _ _ | .transferFailed _ _ _ | .recoverFailed _ | .attached _ _ _ | .killed _
  | .printed _ => isTrue trivial

instance (tr : List Event) : ∀ e, Decidable (PlayersPassNoSocket tr e)
  | .received _ type message =>
    inferInstanceAs (Decidable (type = .toClient → message.socket = none))
  | .acquired _ | .exhausted | .released _ _ | .sent _ _ _ | .handled _ _ | .acceptFailed _
  | .handedOff _ _ _ | .transferFailed _ _ _ | .recoverFailed _ | .attached _ _ _ | .killed _
  | .printed _ => isTrue trivial

/-- Either way no message of a player attaches a connection. -/
def PlayersAttachNothing (_ : List Event) : Event → Prop
  | .received _ type message => type = .toClient →
    (Dispatcher.dispatch message).variant = .acceptSocket → message.socket = none
  | _ => True

lemma playersAttachNothing_of_leaveControl {tr : List Event} {e : Event}
    (h : PlayersLeaveControl tr e) : PlayersAttachNothing tr e := by
  cases e with
  | received slot type message => exact fun htype haccept => absurd (.inl haccept) (h htype)
  | _ => trivial

lemma playersAttachNothing_of_passNoSocket {tr : List Event} {e : Event}
    (h : PlayersPassNoSocket tr e) : PlayersAttachNothing tr e := by
  cases e with
  | received slot type message => exact fun htype _ => h htype
  | _ => trivial

/-! ### The connections of a lobby -/

/-- The parent of the lobby has the slot 0, until its connection is released, and players have the
others. -/
structure LobbyShape (w : World Lobby) : Prop extends w.PoolSound where
  parentView : w.app.parentView = ⟨0⟩
  types : ∀ slot, (w.entry slot).connectionType = .none ∨
    (w.entry slot).connectionType = if slot = 0 then .toParent else .toClient

namespace LobbyShape

variable {G : List Event → Event → Prop} {w w' : World Lobby} {slot : ℕ}

lemma of_eq (h : LobbyShape w) (havailable : w'.pool.availableSlots = w.pool.availableSlots)
    (hlast : w'.pool.lastNotIssuedIndex = w.pool.lastNotIssuedIndex)
    (hentry : ∀ slot, (w'.entry slot).connectionType = (w.entry slot).connectionType ∧
      (w'.entry slot).socketHandler.socketStatus = (w.entry slot).socketHandler.socketStatus)
    (hparentView : w'.app.parentView = w.app.parentView) : LobbyShape w' where
  toPoolSound := h.toPoolSound.of_eq havailable hlast hentry
  parentView := by rw [hparentView, h.parentView]
  types slot := by rw [(hentry slot).1]; exact h.types slot

lemma slot_eq_zero (h : LobbyShape w) (hinUse : (w.entry slot).connectionType ≠ .none)
    (hplayer : (w.entry slot).connectionType ≠ .toClient) : slot = 0 := by
  by_contra hne
  obtain hnone | htype := h.types slot
  · exact hinUse hnone
  · exact hplayer (by simpa [hne] using htype)

lemma ne_listener (h : LobbyShape w) (slot : ℕ) : (w.entry slot).connectionType ≠ .listener := by
  intro hlistener
  have htype := h.types slot
  rw [hlistener] at htype
  split_ifs at htype <;> simp at htype

lemma slot_ne_zero (h : LobbyShape w) (hplayer : (w.entry slot).connectionType = .toClient) :
    slot ≠ 0 := by
  rintro rfl
  have htype := h.types 0
  rw [hplayer] at htype
  simp at htype

lemma retire {room : Bool} (h : LobbyShape w) (hinUse : (w.entry slot).connectionType ≠ .none)
    (hretired : w.Retired slot room w') : LobbyShape w' where
  toPoolSound := h.toPoolSound.retire hinUse hretired
  parentView := by rw [hretired.app, h.parentView]
  types s := by
    by_cases hs : s = slot
    · rw [hs, hretired.entry_self]
      exact .inl rfl
    · rw [hretired.entry_of_ne hs]
      exact h.types s

/-- A new player does not get the slot of the parent while it is in use. -/
lemma acquire {socket : ℤ} (h : LobbyShape w) (hparent : (w.entry 0).connectionType ≠ .none)
    (hpush : w.pushToPool (.ofSocket .toClient socket) = some (slot, w')) :
    LobbyShape w' ∧ slot ≠ 0 := by
  have hne : slot ≠ 0 := by
    rintro rfl
    exact hparent (h.acquired_free hpush)
  refine ⟨{ h.toPoolSound.acquire (by decide) hpush with
    parentView := ?_, types := fun s => ?_ }, hne⟩
  · rw [(World.pushToPool_rest hpush).1, h.parentView]
  · by_cases hs : s = slot
    · rw [hs, (World.pushToPool_entry_self hpush).1]
      simp [ConnectionEntry.ofSocket, hne]
    · rw [World.pushToPool_entry_of_ne hpush hs]
      exact h.types s

lemma invariant :
    ConnectionInvariant G (fun w _ => LobbyShape w) (·.connectionType ≠ .none) where
  same hsame h := h.of_eq (by rw [hsame.pool]) (by rw [hsame.pool])
    (fun slot => by simp [hsame.entry slot]) (by rw [hsame.app])
  silent _ := id
  inUse_of_type := id
  inUse_handler _ := id
  inUse_of_alive h := h.type_ne_none
  retire slot := triple_resetAndRelease fun w tr room w' h hretired _ => h.1.retire h.2 hretired
  receive slot handle tape h := h.of_eq rfl rfl (fun s => by
    by_cases hs : s = slot
    · subst hs
      simp [World.entry]
    · simp [World.entry, hs]) rfl

/-- A connection for a player, while the parent is there. -/
lemma attachSocket (socket : ℤ) :
    Triple G (fun w _ => LobbyShape w ∧ (w.entry 0).connectionType ≠ .none)
      (NetworkEngine.attachSocket socket .toClient) fun r w _ => LobbyShape w ∧
        ∀ view, r = .ok view → view.slot ≠ 0 := by
  have hregister : Triple G (fun w _ => LobbyShape w ∧ (w.entry 0).connectionType ≠ .none)
      (NetworkEngine.registerConnection .toClient socket) fun r w _ => LobbyShape w ∧
        ∀ slot, r = .ok slot → slot ≠ 0 := by
    refine Triple.bind (triple_pushToPool (Q := fun slot w _ => slot ≠ 0 ∧ LobbyShape w ∧
      (w.entry slot).connectionType = .toClient) fun w tr slot w' h hpush _ => ?_) fun slot => ?_
    · obtain ⟨hshape, hne⟩ := h.1.acquire h.2 hpush
      exact ⟨hne, hshape, (World.pushToPool_entry_self hpush).1⟩
    refine Triple.of_pre fun hne => ?_
    let K (object : ℕ → ConnectionEntry) : Prop := (object slot).connectionType = .toClient
    refine Triple.bind (invariant.quiet (NetworkEngine.quiet_subscribeToEvents slot) K) fun r => ?_
    cases r with
    | none =>
      refine .pure fun w tr h => ⟨h.1, fun slot' hslot => ?_⟩
      obtain rfl := Except.ok.inj hslot
      exact hne
    | some e =>
      refine Triple.bind (invariant.quiet (NetworkEngine.quiet_sendMessageImpl slot _) K)
        fun _ => ?_
      refine Triple.bind ((invariant.retire slot).pre fun w tr h => ⟨h.1, ?_⟩)
        fun _ => .pure fun w tr h => ⟨h, fun _ hview => by cases hview⟩
      rw [World.entry, h.2]
      decide
  refine hregister.bind fun r => ?_
  cases r with
  | error e => exact .pure fun w tr h => ⟨h.1, fun _ hview => by cases hview⟩
  | ok slot =>
    refine .pure fun w tr h => ⟨h.1, fun view hview => ?_⟩
    obtain rfl := Except.ok.inj hview
    exact h.2 slot rfl

/-- In the hands of a handler that is called for the parent or attaches nothing. -/
lemma handleAction (context : ActionContext) :
    Triple G (fun w _ => LobbyShape w ∧ ((w.entry 0).connectionType ≠ .none ∨
        ((Dispatcher.dispatch context.receivedMessage).variant = .acceptSocket →
          context.receivedMessage.socket = none)))
      (Lobby.handleAction context) fun r w _ => LobbyShape w ∧ r.actionStatus = .continue ∧
        r.connStatus = .keep ∧ r.userCode = none := by
  refine invariant.toReleaseInvariant.lobbyHandleAction context (fun w tr h => h.1)
    (fun lobbyId => Triple.modify fun w tr h => h.of_eq rfl rfl (fun _ => ⟨rfl, rfl⟩) rfl)
    fun socket haccept hsocket => (attachSocket socket).conseq ?_ fun r w tr h => h.1
  refine fun w tr h => ⟨h.1, h.2.resolve_right fun hnone => ?_⟩
  rw [hnone haccept] at hsocket
  cases hsocket

lemma handlerKeeps (hG : ∀ tr e, G tr e → PlayersAttachNothing tr e) :
    HandlerKeeps G (fun w _ => LobbyShape w) (·.connectionType ≠ .none) Lobby.handleAction := by
  refine fun context => (handleAction context).conseq ?_ fun r w tr h =>
    ⟨h.1, h.2.1, fun hrelease => by simp [h.2.2.1] at hrelease⟩
  rintro w tr ⟨⟨hshape, hinUse⟩, tr', hreceived⟩
  refine ⟨hshape, ?_⟩
  by_cases hplayer : (w.entry context.pendingView.slot).connectionType = .toClient
  · exact .inr (hG _ _ hreceived hplayer)
  · rw [hshape.slot_eq_zero hinUse hplayer] at hinUse
    exact .inl hinUse

end LobbyShape

lemma lobby_init_shape {G : List Event → Event → Prop} (socket : ℤ) :
    Triple G (World.IsInitial {}) (Lobby.init .toParent socket) fun r w _ =>
      r = none → LobbyShape w := by
  refine (initApp_started (.inr (.inl rfl)) socket).bind fun r => ?_
  cases r with
  | error e => exact .pure fun w tr _ => nofun
  | ok view =>
    refine Triple.bind (Triple.modify (Q := fun _ w _ => LobbyShape w) fun w tr hw => ?_)
      fun _ => .pure fun w tr hw _ => hw
    obtain ⟨rfl, hstarted⟩ := hw view rfl
    refine { (hstarted.poolSound (by decide)).same rfl with
      parentView := rfl, types := fun slot => ?_ }
    by_cases hslot : slot = 0
    · subst hslot
      exact .inr hstarted.root.1
    · exact .inl ((hstarted.connectionType_eq_none (by decide) slot).2 hslot)

/-! ### What is sent to the parent -/

def Event.parentMessage : Event → Option ReceivedMessage
  | .received _ .toParent message => some message
  | _ => none

/-- The messages that the parent has sent. -/
def parentMessages (es : List Event) : List ReceivedMessage := es.filterMap Event.parentMessage

def Event.sentOn (slot : ℕ) : Event → Option OutgoingMessage
  | .sent s message _ => if s = slot then some message else none
  | _ => none

/-- The messages sent on a slot. -/
def sentOn (slot : ℕ) (es : List Event) : List OutgoingMessage := es.filterMap (Event.sentOn slot)

/-- The connection code after a message of the parent. -/
def lobbyIdAfter (lobbyId : ℤ) (message : ReceivedMessage) : ℤ :=
  if (Dispatcher.dispatch message).variant = .setLobbyId then strtol message.payload else lobbyId

/-- What a message of the parent is answered with. -/
def answerToParent (message : ReceivedMessage) : List OutgoingMessage :=
  if (Dispatcher.dispatch message).variant = .acceptSocket ∧ message.socket = none then
    [{ payload := ascii "No socket found in message", type := .error }]
  else []

/-- The connection code and what is sent to the parent follow from the messages of the parent. -/
structure Follows (w : World Lobby) (es : List Event) (w' : World Lobby) : Prop where
  lobbyId : w'.app.lobbyId = (parentMessages es).foldl lobbyIdAfter w.app.lobbyId
  sent : sentOn 0 es = (parentMessages es).flatMap answerToParent

lemma follows_composable : Composable Follows where
  refl w := ⟨rfl, rfl⟩
  trans h h' := by
    refine ⟨?_, ?_⟩
    · rw [h'.lobbyId, h.lobbyId, parentMessages, parentMessages, parentMessages,
        List.filterMap_append, List.foldl_append]
    · rw [sentOn, List.filterMap_append, ← sentOn, ← sentOn, h.sent, h'.sent, parentMessages,
        parentMessages, parentMessages, List.filterMap_append, List.flatMap_append]

/-- The event has nothing to do with the parent. -/
def Event.Beside : Event → Prop
  | .received _ _ _ => False
  | .sent slot _ _ => slot ≠ 0
  | _ => True

/-- Nothing is received, nothing is sent to the parent and the application stays as it is. -/
structure Beside (w : World Lobby) (es : List Event) (w' : World Lobby) : Prop where
  lobbyId : w'.app.lobbyId = w.app.lobbyId
  events : ∀ e ∈ es, e.Beside

lemma beside_composable : Composable Beside where
  refl _ := ⟨rfl, nofun⟩
  trans h h' := ⟨h'.lobbyId.trans h.lobbyId, List.forall_mem_append.2 ⟨h.events, h'.events⟩⟩

lemma Event.Aside.beside {e : Event} (h : e.Aside) : e.Beside := by
  cases e with
  | received slot type message => exact h
  | sent slot message written => exact h.elim
  | _ => trivial

lemma parentMessages_beside {es : List Event} (h : ∀ e ∈ es, e.Beside) :
    parentMessages es = [] := by
  refine List.filterMap_eq_nil_iff.2 fun e he => ?_
  have hbeside := h e he
  cases e with
  | received slot type message => exact hbeside.elim
  | _ => rfl

lemma sentOn_beside {es : List Event} (h : ∀ e ∈ es, e.Beside) : sentOn 0 es = [] := by
  refine List.filterMap_eq_nil_iff.2 fun e he => ?_
  have hbeside := h e he
  cases e with
  | sent slot message written => exact if_neg hbeside
  | _ => rfl

lemma Beside.follows {w w' : World Lobby} {es : List Event} (h : Beside w es w') :
    Follows w es w' := by
  refine ⟨?_, ?_⟩
  · rw [parentMessages_beside h.events, h.lobbyId, List.foldl_nil]
  · rw [sentOn_beside h.events, parentMessages_beside h.events, List.flatMap_nil]

/-! ### What the handler does -/

section Handler

variable {G : List Event → Event → Prop} {P : World Lobby → List Event → Prop}

lemma Aside.beside {α : Type} {m : EngineM Lobby α} (hm : Aside m) : Effect G P m Beside :=
  fun w _ _ _ => ⟨by rw [(hm w).1], fun e he => ((hm w).2 e he).beside⟩

lemma sendMessageImpl_beside {slot : ℕ} (hslot : slot ≠ 0) (message : OutgoingMessage) :
    Effect G P (NetworkEngine.sendMessageImpl slot message) Beside := by
  intro w tr _ _
  obtain ⟨⟨written, hevents⟩, hsame⟩ := NetworkEngine.sendMessageImpl_run slot message w
  exact ⟨by rw [hsame.app], hevents ▸ List.forall_mem_singleton.2 hslot⟩

/-- Chat goes to the players. -/
lemma executeChatMessage_beside (context : ActionContext) :
    Effect G (fun w _ => LobbyShape w) (executeChatMessage context) Beside := by
  intro w tr hshape hG
  have hbroadcast := executeChatMessage_broadcast (P := fun w _ => LobbyShape w)
    (t := (parse context.receivedMessage.payload).toOption.getD [])
    (fun t' ht' => by rw [ht']; rfl) w tr hshape hG
  refine ⟨by rw [hbroadcast.app], fun e he => ?_⟩
  have hevent := hbroadcast.events e he
  cases e with
  | received slot type message => exact hevent.elim
  | sent slot message written => exact hshape.slot_ne_zero hevent.2
  | _ => trivial

/-- Attaching a player while the parent is there. -/
lemma attachSocket_beside (socket : ℤ) :
    Effect G (fun w _ => LobbyShape w ∧ (w.entry 0).connectionType ≠ .none)
      (NetworkEngine.attachSocket socket .toClient) Beside := by
  have hregister : Effect G (fun w _ => LobbyShape w ∧ (w.entry 0).connectionType ≠ .none)
      (NetworkEngine.registerConnection .toClient socket) Beside := by
    refine Effect.bind beside_composable (Aside.beside (aside_pushToPool _))
      (triple_pushToPool (Q := fun slot _ _ => slot ≠ 0) fun w tr slot w' h hpush _ =>
        (h.1.acquire h.2 hpush).2) fun slot => ?_
    refine Effect.bind (Q := fun _ _ _ => slot ≠ 0) beside_composable
      (Aside.beside (NetworkEngine.aside_subscribeToEvents slot))
      (fun w tr hslot _ _ _ => hslot) fun r => ?_
    cases r with
    | none => exact .pure beside_composable
    | some e =>
      intro w tr hslot
      refine Effect.bind_of_forall (P := fun _ _ => True) beside_composable
        (sendMessageImpl_beside hslot _) (fun _ => ?_) w tr trivial
      exact .bind_of_forall beside_composable (Aside.beside (aside_resetAndRelease slot))
        fun _ => .pure beside_composable
  refine .bind_of_forall beside_composable hregister fun r => ?_
  cases r with
  | error e => exact .pure beside_composable
  | ok slot => exact .pure beside_composable

lemma sendJoinLobbyMessage_beside {view : ConnectionView} (hne : view.slot ≠ 0) :
    Effect G P (Lobby.sendJoinLobbyMessage view) Beside :=
  .get_bind fun _ => .bind_of_forall beside_composable (sendMessageImpl_beside hne _)
    fun _ => .pure beside_composable

/-- The handler has nothing to do with the parent, but for two kinds of messages. -/
lemma handleAction_beside {context : ActionContext}
    (hlobbyId : (Dispatcher.dispatch context.receivedMessage).variant ≠ .setLobbyId)
    (hsocket : (Dispatcher.dispatch context.receivedMessage).variant = .acceptSocket →
      context.receivedMessage.socket ≠ none) :
    Effect G (fun w _ => LobbyShape w ∧
        ((Dispatcher.dispatch context.receivedMessage).variant = .acceptSocket →
          (w.entry 0).connectionType ≠ .none))
      (Lobby.handleAction context) Beside := by
  rw [Lobby.handleAction]
  cases hvariant : (Dispatcher.dispatch context.receivedMessage).variant with
  | setLobbyId => exact absurd hvariant hlobbyId
  | chatMessage => exact (executeChatMessage_beside context).pre fun w tr h => h.1
  | acceptSocket =>
    change Effect G _ (Lobby.executeAcceptSocket context) _
    rw [Lobby.executeAcceptSocket]
    cases hmessage : context.receivedMessage.socket with
    | none => exact absurd hmessage (hsocket hvariant)
    | some socket =>
      refine Effect.bind beside_composable ((attachSocket_beside socket).pre fun w tr h =>
        ⟨h.1, h.2 rfl⟩) ((LobbyShape.attachSocket socket).pre fun w tr h => ⟨h.1, h.2 rfl⟩)
          fun r => ?_
      cases r with
      | error e => exact .pure beside_composable
      | ok clientView =>
        refine Effect.pre (Effect.of_pre (P := fun _ _ => True)
          (p := clientView.slot ≠ 0) fun hne => ?_) fun w tr h => ⟨h.2 clientView rfl, trivial⟩
        refine .bind_of_forall beside_composable (sendJoinLobbyMessage_beside hne) fun r => ?_
        cases r with
        | none => exact .pure beside_composable
        | some e =>
          refine .bind_of_forall beside_composable (.get_bind fun w => ?_)
            fun _ => .pure beside_composable
          exact .ite (fun _ => Aside.beside (NetworkEngine.aside_releaseConnection _))
            fun _ => .pure beside_composable
  | _ => exact .pure beside_composable

/-- What the handler does with a message of the parent. -/
structure Answered (message : ReceivedMessage) (w : World Lobby) (es : List Event)
    (w' : World Lobby) : Prop where
  lobbyId : w'.app.lobbyId = lobbyIdAfter w.app.lobbyId message
  sent : sentOn 0 es = answerToParent message
  received : parentMessages es = []

lemma handleAction_answered (context : ActionContext) :
    Effect G (fun w _ => LobbyShape w ∧ (w.entry 0).connectionType ≠ .none)
      (Lobby.handleAction context) (Answered context.receivedMessage) := by
  by_cases hlobbyId : (Dispatcher.dispatch context.receivedMessage).variant = .setLobbyId
  · rw [Lobby.handleAction, hlobbyId]
    exact fun w tr _ _ => ⟨by rw [lobbyIdAfter, if_pos hlobbyId]; rfl,
      by rw [answerToParent, hlobbyId]; rfl, rfl⟩
  by_cases hsocket : (Dispatcher.dispatch context.receivedMessage).variant = .acceptSocket ∧
      context.receivedMessage.socket = none
  · rw [Lobby.handleAction, hsocket.1]
    change Effect G _ (Lobby.executeAcceptSocket context) _
    rw [Lobby.executeAcceptSocket, hsocket.2]
    intro w tr hw _
    refine ⟨by rw [lobbyIdAfter, if_neg hlobbyId]; rfl, ?_, rfl⟩
    rw [answerToParent, if_pos hsocket]
    change sentOn 0 [.sent w.app.parentView.slot _ _] = _
    rw [hw.1.parentView]
    rfl
  · refine ((handleAction_beside hlobbyId fun haccept hnone => hsocket ⟨haccept, hnone⟩).conseq
      (fun w tr h => ⟨h.1, fun _ => h.2⟩) fun w es w' h => ⟨?_, ?_, parentMessages_beside h.events⟩)
    · rw [h.lobbyId, lobbyIdAfter, if_neg hlobbyId]
    · rw [sentOn_beside h.events, answerToParent, if_neg hsocket]

lemma callHandler_follows (hG : ∀ tr e, G tr e → PlayersLeaveControl tr e) (slot : ℕ)
    (message : ReceivedMessage) :
    Effect G (fun w _ => LobbyShape w ∧ (w.entry slot).connectionType ≠ .none)
      (NetworkEngine.callHandler Lobby.handleAction slot message) Follows := by
  refine .get_bind fun w₀ => ?_
  by_cases hplayer : (w₀.entry slot).connectionType = .toClient
  · refine .emit_bind (S := Beside) ?_ fun w tr es w' _ h => ?_
    · refine Effect.pre (Effect.of_pre (p := ¬ IsControl message) (P := fun w _ => LobbyShape w)
        fun hcontrol => ?_) ?_
      · rw [IsControl, not_or] at hcontrol
        refine Effect.bind_of_forall beside_composable ((handleAction_beside hcontrol.2
          fun haccept => absurd haccept hcontrol.1).pre fun w tr h =>
            ⟨h, fun haccept => absurd haccept hcontrol.1⟩) fun result => ?_
        exact .bind_of_forall beside_composable (.emit fun w tr _ _ =>
          ⟨rfl, List.forall_mem_singleton.2 trivial⟩) fun _ => .pure beside_composable
      · rintro w tr ⟨tr', rfl, ⟨rfl, hshape, -⟩, hreceived⟩
        exact ⟨hG _ _ hreceived hplayer, hshape⟩
    · rw [hplayer]
      have hfirst : Follows w [.received slot .toClient message] w := ⟨rfl, rfl⟩
      exact follows_composable.trans hfirst h.follows
  · refine .emit_bind (S := Answered message) ?_ ?_
    · refine Effect.pre (P := fun w _ => LobbyShape w ∧ (w.entry 0).connectionType ≠ .none) ?_ ?_
      · refine Effect.seq (S := Beside) (handleAction_answered _)
          (Q := fun _ _ _ => True) (fun _ _ _ _ _ _ => trivial) (fun result => ?_)
          (fun _ _ _ => id) fun w es w' es' w'' h h' => ⟨?_, ?_, ?_⟩
        · exact .bind_of_forall beside_composable (.emit fun w tr _ _ =>
            ⟨rfl, List.forall_mem_singleton.2 trivial⟩) fun _ => .pure beside_composable
        · rw [h'.lobbyId, h.lobbyId]
        · rw [sentOn, List.filterMap_append, ← sentOn, ← sentOn, h.sent, sentOn_beside h'.events,
            List.append_nil]
        · rw [parentMessages, List.filterMap_append, ← parentMessages, ← parentMessages, h.received,
            parentMessages_beside h'.events, List.append_nil]
      · rintro w tr ⟨tr', rfl, ⟨rfl, hshape, hinUse⟩, -⟩
        rw [hshape.slot_eq_zero hinUse hplayer] at hinUse
        exact ⟨hshape, hinUse⟩
    · rintro w tr es w' ⟨rfl, hshape, hinUse⟩ h
      have hparent : (w.entry slot).connectionType = .toParent := by
        have htype := (hshape.types slot).resolve_left hinUse
        rwa [if_pos (hshape.slot_eq_zero hinUse hplayer)] at htype
      rw [hparent]
      refine ⟨?_, ?_⟩
      · change _ = (message :: parentMessages es).foldl lobbyIdAfter _
        rw [h.received, h.lobbyId]
        rfl
      · change sentOn 0 es = (message :: parentMessages es).flatMap answerToParent
        rw [h.received, h.sent, List.flatMap_singleton]

end Handler

/-! ### Runs of the lobby -/

section Runs

variable {G : List Event → Event → Prop}

lemma lobby_userCode (context : ActionContext) :
    Triple G (fun _ _ => True) (Lobby.handleAction context) fun r _ _ => r.userCode = none := by
  have hpool : PoolInvariant G (fun (_ : World Lobby) _ => True) fun _ => True := {
    same := fun _ => id
    silent := fun _ => id
    inUse_of_type := fun _ => trivial
    inUse_handler := fun _ => id
    inUse_of_alive := fun _ _ => trivial
    retire := fun _ _ _ _ _ _ _ => trivial
    acquire := fun _ _ _ _ _ _ _ => trivial
    unused := fun _ _ => .inr fun _ => trivial }
  exact (hpool.lobbyHandleAction ⟨fun _ _ => id, id, id, id⟩ context).post fun _ _ _ h => h.2.2.2

lemma lobby_effect (hG : ∀ tr e, G tr e → PlayersLeaveControl tr e) :
    ConnectionEffect G (fun w _ => LobbyShape w) (·.connectionType ≠ .none) Lobby.handleAction
      Follows where
  toComposable := follows_composable
  aside happ hes := Beside.follows ⟨by rw [happ], fun e he => (hes e he).beside⟩
  callHandler := callHandler_follows hG
  userCode := lobby_userCode

lemma aside_initApp_toParent (socket : ℤ) : Aside (initApp .toParent socket : EngineM Lobby _) := by
  have hengine : Aside (NetworkEngine.initEngine .toParent socket : EngineM Lobby _) := by
    refine (aside_pushToPool _).bind fun slot => Aside.bind ?_ fun r => ?_
    · exact fun w => ⟨rfl, nofun⟩
    cases r with
    | some e => exact .pure _
    | none =>
      refine NetworkEngine.aside_initEpoll.bind fun r => ?_
      cases r with
      | some e => exact .pure _
      | none => exact .pure _
  refine hengine.bind fun r => ?_
  cases r with
  | error e => exact .pure _
  | ok view => exact .pure _

lemma lobby_init_follows (socket : ℤ) :
    Effect G (World.IsInitial {}) (Lobby.init .toParent socket) Follows := by
  refine .bind_of_forall follows_composable ((Aside.beside
    (aside_initApp_toParent socket)).conseq (fun _ _ => id) fun _ _ _ => Beside.follows) fun r => ?_
  cases r with
  | error e => exact .pure follows_composable
  | ok view =>
    exact .bind_of_forall follows_composable (.modify fun w tr _ => ⟨rfl, rfl⟩)
      fun _ => .pure follows_composable

/-- What a lobby is and does in a run in which players leave the control plane alone. -/
lemma lobby_main_follows (socket : ℤ) (operations : List Operation) :
    Effect PlayersLeaveControl (World.IsInitial {}) (Lobby.main socket operations) Follows := by
  refine (lobby_init_follows socket).bind follows_composable (lobby_init_shape socket) fun r => ?_
  cases r with
  | some e => exact .stop follows_composable
  | none =>
    exact ((lobby_effect fun _ _ => id).operations LobbyShape.invariant
      (LobbyShape.handlerKeeps fun _ _ => playersAttachNothing_of_leaveControl)
      (fun w tr slot h => h.ne_listener slot) operations).pre fun w tr h => h rfl

/-- Where players attach nothing, a lobby keeps its shape. -/
lemma lobby_main_shape_of (hG : ∀ tr e, G tr e → PlayersAttachNothing tr e) (socket : ℤ)
    (operations : List Operation) :
    Triple G (World.IsInitial {}) (Lobby.main socket operations) fun _ w _ => LobbyShape w := by
  refine (lobby_init_shape socket).bind fun r => ?_
  cases r with
  | some e => exact .stop
  | none =>
    exact (LobbyShape.invariant.operations (LobbyShape.handlerKeeps hG)
      (processEvent_of_ne_listener fun w tr slot h => h.ne_listener slot) operations).pre
        fun w tr h => h rfl

end Runs

/-- Wherever a player sends this message, the connection code stays, nothing is attached and nothing
is sent to the parent. -/
def PlayerHarmless (message : ReceivedMessage) : Prop :=
  ∀ socket results operations,
    let r := (Lobby.main socket operations).run (World.initial {} results)
    r.value = some ⟨⟩ → Allowed PlayersPassNoSocket [] r.events →
      ∀ slot, (r.state.entry slot).connectionType = .toClient →
        let r' := (Lobby.handleAction ⟨⟨slot⟩, message⟩).run r.state
        r'.state.app.lobbyId = r.state.app.lobbyId ∧ (∀ s, .acquired s ∉ r'.events) ∧
          sentOn r.state.app.parentView.slot r'.events = []

lemma playerHarmless_of_not_isControl {message : ReceivedMessage} (h : ¬ IsControl message) :
    PlayerHarmless message := by
  intro socket results operations r hvalue hevents slot _
  have hshape : LobbyShape r.state :=
    lobby_main_shape_of (fun _ _ => playersAttachNothing_of_passNoSocket) socket operations _ []
      ⟨⟨results, rfl⟩, rfl⟩ hevents _ hvalue
  rw [hshape.parentView]
  rw [IsControl, not_or] at h
  cases hvariant : (Dispatcher.dispatch message).variant with
  | acceptSocket => exact absurd hvariant h.1
  | setLobbyId => exact absurd hvariant h.2
  | chatMessage =>
    rw [Lobby.handleAction, hvariant]
    have htext : ∀ t', parse (⟨⟨slot⟩, message⟩ : ActionContext).receivedMessage.payload = .ok t' →
        t' = (parse message.payload).toOption.getD [] := fun t' ht' => by rw [ht']; rfl
    have hchat := executeChatMessage_broadcast (G := fun _ _ => True) (P := fun _ _ => True) htext
      r.state [] trivial (allowed_of_forall fun _ _ _ => trivial)
    have hbeside := executeChatMessage_beside (G := fun _ _ => True) ⟨⟨slot⟩, message⟩ r.state []
      hshape (allowed_of_forall fun _ _ _ => trivial)
    exact ⟨hbeside.lobbyId, fun s hs => hchat.events _ hs, sentOn_beside hbeside.events⟩
  | _ =>
    rw [Lobby.handleAction, hvariant]
    exact ⟨rfl, fun s => List.not_mem_nil, rfl⟩

/-- What a lobby is going to get whose parent names it and passes it a player on descriptor 7. -/
def playerAttached (lobbyId : Bytes) : SysResults :=
  let name : SentMessage :=
    { payload := lobbyId, type := .lobbyId, padding := Vector.replicate 7 0 }
  let player : SentMessage :=
    { payload := ascii "\\socket", type := .socket, padding := Vector.replicate 7 0 }
  { recvmsg := [.received name.encode none, .received player.encode (some 7)] }

lemma not_playerHarmless {message : ReceivedMessage} (hsocket : message.socket = none)
    (h : IsControl message) : ¬ PlayerHarmless message := by
  intro hharmless
  have hlobby := fun lobbyId => hharmless 5 (playerAttached lobbyId) [.event 5, .network 0]
  have hzero := hlobby (ascii "0") (by decide) (by decide) 1 (by decide)
  have hone := hlobby (ascii "1") (by decide) (by decide) 1 (by decide)
  obtain hvariant | hvariant := h
  · have hrun : ∀ w : World Lobby, sentOn w.app.parentView.slot
        ((Lobby.handleAction ⟨⟨1⟩, message⟩).run w).events ≠ [] := fun w => by
      rw [Lobby.handleAction, hvariant]
      change sentOn _ ((Lobby.executeAcceptSocket ⟨⟨1⟩, message⟩).run w).events ≠ []
      rw [Lobby.executeAcceptSocket, hsocket]
      change sentOn _ [.sent w.app.parentView.slot _ _] ≠ []
      simp [sentOn, Event.sentOn]
    exact hrun _ hzero.2.2
  · have hrun : ∀ w, ((Lobby.handleAction ⟨⟨1⟩, message⟩).run w).state.app.lobbyId =
        strtol message.payload := fun w => by
      rw [Lobby.handleAction, hvariant]
      rfl
    have hzero' := (hrun _).symm.trans hzero.1
    have hone' := (hrun _).symm.trans hone.1
    exact absurd (hzero'.symm.trans hone') (by decide)

/-- A message of a player is harmless, wherever it is sent, if and only if it is not for the control
plane. And where players leave the control plane alone, two lobbies with the same messages of their
parents have the same connection code and send the same to their parents. -/
theorem lobby_controlPlane (message : ReceivedMessage) :
    (message.socket = none → (PlayerHarmless message ↔ ¬ IsControl message)) ∧
    ∀ socket results operations socket' results' operations',
      let r := (Lobby.main socket operations).run (World.initial {} results)
      let r' := (Lobby.main socket' operations').run (World.initial {} results')
      r.value = some ⟨⟩ → r'.value = some ⟨⟩ →
      Allowed PlayersLeaveControl [] r.events → Allowed PlayersLeaveControl [] r'.events →
      parentMessages r.events = parentMessages r'.events →
        r.state.app.lobbyId = r'.state.app.lobbyId ∧
          sentOn r.state.app.parentView.slot r.events =
            sentOn r'.state.app.parentView.slot r'.events := by
  refine ⟨fun hsocket => ⟨fun hharmless hcontrol => ?_, playerHarmless_of_not_isControl⟩, ?_⟩
  · exact not_playerHarmless hsocket hcontrol hharmless
  intro socket results operations socket' results' operations' r r' hvalue hvalue' hevents hevents'
    hparent
  have hshape := lobby_main_shape_of (fun _ _ => playersAttachNothing_of_leaveControl) socket
    operations _ [] ⟨⟨results, rfl⟩, rfl⟩ hevents _ hvalue
  have hshape' := lobby_main_shape_of (fun _ _ => playersAttachNothing_of_leaveControl) socket'
    operations' _ [] ⟨⟨results', rfl⟩, rfl⟩ hevents' _ hvalue'
  have hfollows := lobby_main_follows socket operations _ [] ⟨⟨results, rfl⟩, rfl⟩ hevents
  have hfollows' := lobby_main_follows socket' operations' _ [] ⟨⟨results', rfl⟩, rfl⟩ hevents'
  rw [hshape.parentView, hshape'.parentView]
  refine ⟨?_, ?_⟩
  · rw [hfollows.lobbyId, hfollows'.lobbyId, hparent]
    rfl
  · rw [hfollows.sent, hfollows'.sent, hparent]

/-- What the lobby of `playerAttached` is going to get if the player says `text`. -/
def playerSpeaks (text : Bytes) : SysResults :=
  let m : SentMessage := { payload := text, padding := Vector.replicate 7 0 }
  { playerAttached (ascii "7") with
    recvmsg := (playerAttached (ascii "7")).recvmsg ++ [.wouldBlock, .received m.encode none] }

/-- A lobby in which a player talks, and one in which no player says a word. -/
theorem lobby_controlPlane_talk :
    let r := (Lobby.main 5 [.event 5, .network 0, .event 7, .network 1]).run
      (World.initial {} (playerSpeaks (ascii "\\msg hi")))
    let r' := (Lobby.main 5 [.event 5, .network 0]).run
      (World.initial {} (playerAttached (ascii "7")))
    r.state.app.lobbyId = r'.state.app.lobbyId ∧
      sentOn r.state.app.parentView.slot r.events =
        sentOn r'.state.app.parentView.slot r'.events :=
  (lobby_controlPlane {}).2 _ _ _ _ _ _ (by decide) (by decide) (by decide) (by decide) (by decide)

/-- A player names the lobby by the type of its message. -/
theorem player_names_lobby :
    ¬ ∀ message : ReceivedMessage, message.socket = none → PlayerHarmless message := by
  intro h
  exact not_playerHarmless rfl (.inr rfl)
    (h { status := .data, type := .lobbyId, payload := ascii "77" } rfl)

end BattleShips
