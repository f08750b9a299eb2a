import BattleShips.Properties.BroadcastReach
import BattleShips.Properties.ControlPlane

/-!
# The order of the chat

A lobby sends each chat message to all its players before it takes the next one. So what players are
sent who stay in the lobby is the chat, in the order in which the lobby has received it, and the
same for all of them. What else the lobby sends goes to its parent and to players who are new.
-/

namespace BattleShips

open Traced

/-! ### The chat -/

/-- What a message puts into the chat. -/
def chatOf (message : ReceivedMessage) : Option OutgoingMessage :=
  if (Dispatcher.dispatch message).variant = .chatMessage then
    (parse message.payload).toOption.map fun text => { payload := text, type := .printable }
  else none

def Event.chat : Event → Option OutgoingMessage
  | .received _ _ message => chatOf message
  | _ => none

/-- The chat, in the order in which it is received. -/
def chats (es : List Event) : List OutgoingMessage := es.filterMap Event.chat

/-- None of the players is released. -/
def Stay (players : Set ℕ) (_ : List Event) : Event → Prop
  | .released slot _ => slot ∉ players
  | _ => True

instance (players : Set ℕ) [DecidablePred (· ∈ players)] (tr : List Event) :
    DecidablePred (Stay players tr) := fun e =>
  match e with
  | .released _ _ => inferInstanceAs (Decidable (_ ∉ _))
  | .acquired _ | .exhausted | .sent _ _ _ | .received _ _ _ | .handled _ _ | .acceptFailed _
  | .handedOff _ _ _ | .transferFailed _ _ _ | .recoverFailed _ | .attached _ _ _ | .killed _
  | .printed _ => isTrue trivial

/-! ### The players -/

/-- A lobby with these players, none of whom is its parent. -/
structure Hosts (players : Set ℕ) (w : World Lobby) : Prop extends w.PoolSound where
  counter : w.pool.counter = w.pool.lastNotIssuedIndex
  le : w.pool.lastNotIssuedIndex ≤ ringBufferSize + 1
  listener : ∀ slot, (w.entry slot).connectionType ≠ .listener
  parent : w.app.parentView.slot ∉ players
  players : ∀ slot ∈ players, (w.entry slot).connectionType = .toClient

namespace Hosts

variable {players : Set ℕ} {w w' : World Lobby} {slot index : ℕ} {socket : ℤ}

lemma of_eq (h : Hosts players w) (havailable : w'.pool.availableSlots = w.pool.availableSlots)
    (hcounter : w'.pool.counter = w.pool.counter)
    (hlast : w'.pool.lastNotIssuedIndex = w.pool.lastNotIssuedIndex)
    (hentry : ∀ slot, (w'.entry slot).connectionType = (w.entry slot).connectionType ∧
      (w'.entry slot).socketHandler.socketStatus = (w.entry slot).socketHandler.socketStatus)
    (hparentView : w'.app.parentView = w.app.parentView) : Hosts players w' where
  toPoolSound := h.toPoolSound.of_eq havailable hlast hentry
  counter := by rw [hcounter, hlast, h.counter]
  le := by rw [hlast]; exact h.le
  listener slot := by rw [(hentry slot).1]; exact h.listener slot
  parent := by rw [hparentView]; exact h.parent
  players slot hslot := by rw [(hentry slot).1]; exact h.players slot hslot

lemma inUse (h : Hosts players w) (hslot : slot ∈ players) :
    (w.entry slot).connectionType ≠ .none := by
  rw [h.players slot hslot]
  decide

/-- A player has one of the slots that a broadcast looks at. -/
lemma lt_counter (h : Hosts players w) (hslot : slot ∈ players) : slot < w.pool.counter := by
  rw [h.counter]
  by_contra hle
  exact h.inUse hslot (h.unissued slot (not_lt.1 hle))

lemma retire {room : Bool} (h : Hosts players w) (hinUse : (w.entry slot).connectionType ≠ .none)
    (hslot : slot ∉ players) (hretired : w.Retired slot room w') : Hosts players w' where
  toPoolSound := h.toPoolSound.retire hinUse hretired
  counter := by rw [hretired.counter, hretired.lastNotIssuedIndex, h.counter]
  le := by rw [hretired.lastNotIssuedIndex]; exact h.le
  listener s := by
    by_cases hs : s = slot
    · rw [hs, hretired.entry_self]
      exact EndPoint.noConfusion
    · rw [hretired.entry_of_ne hs]
      exact h.listener s
  parent := by rw [hretired.app]; exact h.parent
  players s hs := by
    rw [hretired.entry_of_ne fun heq => hslot (heq ▸ hs)]
    exact h.players s hs

/-- Somebody new does not get the slot of a player. -/
lemma acquire (h : Hosts players w)
    (hpush : w.pushToPool (.ofSocket .toClient socket) = some (slot, w')) :
    Hosts players w' ∧ slot ∉ players := by
  have hne : slot ∉ players := fun hslot => h.inUse hslot (h.acquired_free hpush)
  refine ⟨{ h.toPoolSound.acquire (by decide) hpush with
    counter := ?_, le := ?_, listener := fun s => ?_, parent := ?_
    players := fun s hs => ?_ }, hne⟩
  · obtain ⟨-, hcounter, hlast, -⟩ | ⟨-, -, -, hcounter, hlast, -⟩ := World.pushToPool_cases hpush
    · rw [hcounter, hlast, h.counter]
    · rw [hcounter, hlast, h.counter]
  · exact World.pushToPool_issued_le hpush h.le
  · by_cases hs : s = slot
    · rw [hs, (World.pushToPool_entry_self hpush).1]
      exact EndPoint.noConfusion
    · rw [World.pushToPool_entry_of_ne hpush hs]
      exact h.listener s
  · rw [(World.pushToPool_rest hpush).1]
    exact h.parent
  · rw [World.pushToPool_entry_of_ne hpush fun heq => hne (heq ▸ hs)]
    exact h.players s hs

lemma same (h : Hosts players w) (hsame : w.SameConnections w') : Hosts players w' :=
  h.of_eq (by rw [hsame.pool]) (by rw [hsame.pool]) (by rw [hsame.pool])
    (fun slot => by simp [hsame.entry slot]) (by rw [hsame.app])

lemma invariant :
    ConnectionInvariant (Stay players) (fun w _ => Hosts players w) (·.connectionType ≠ .none) where
  same hsame h := h.same hsame
  silent _ := id
  inUse_of_type := id
  inUse_handler _ := id
  inUse_of_alive h := h.type_ne_none
  retire slot := triple_resetAndRelease fun w tr room w' h hretired hstays =>
    h.1.retire h.2 hstays hretired
  receive slot handle tape h := h.of_eq rfl rfl rfl (fun s => by
    by_cases hs : s = slot
    · subst hs
      simp [World.entry]
    · simp [World.entry, hs]) rfl

/-- While a player is there, nobody waits for the release of somebody else. -/
lemma release_returns (h : Hosts players w) (hslot : slot ∈ players) (hne : index ≠ slot)
    (hinUse : (w.entry index).connectionType ≠ .none) :
    ((resetAndRelease index).run w).value = some ⟨⟩ :=
  h.toPoolSound.release_returns h.le (h.inUse hslot) hne hinUse

end Hosts

/-! ### What the players are sent -/

/-- The players are sent what a message puts into the chat, and nothing is received meanwhile. -/
structure Answers (players : Set ℕ) (answer : Option OutgoingMessage) (_ : World Lobby)
    (es : List Event) (_ : World Lobby) : Prop where
  sent : ∀ slot ∈ players, sentOn slot es = answer.toList
  chats : chats es = []

/-- The players are sent the chat. -/
def Chats (players : Set ℕ) (_ : World Lobby) (es : List Event) (_ : World Lobby) : Prop :=
  ∀ slot ∈ players, sentOn slot es = chats es

section Players

variable {players : Set ℕ} {w w' : World Lobby} {es es' : List Event}
  {P : World Lobby → List Event → Prop} {message : OutgoingMessage}

@[simp] lemma sentOn_append (slot : ℕ) (es es' : List Event) :
    sentOn slot (es ++ es') = sentOn slot es ++ sentOn slot es' := List.filterMap_append

@[simp] lemma chats_append (es es' : List Event) : chats (es ++ es') = chats es ++ chats es' :=
  List.filterMap_append

lemma answers_none_composable : Composable (Answers players none) where
  refl _ := ⟨fun _ _ => rfl, rfl⟩
  trans h h' := by
    refine ⟨fun slot hslot => ?_, ?_⟩
    · rw [sentOn_append, h.sent slot hslot, h'.sent slot hslot]
      rfl
    · rw [chats_append, h.chats, h'.chats]
      rfl

/-- What comes after the answer. -/
lemma answers_bind {α β : Type} {G : List Event → Event → Prop} {answer : Option OutgoingMessage}
    {m : EngineM Lobby α} {f : α → EngineM Lobby β} (hm : Effect G P m (Answers players answer))
    (hf : ∀ a, Effect G (fun _ _ => True) (f a) (Answers players none)) :
    Effect G P (m >>= f) (Answers players answer) := by
  refine hm.seq (Q := fun _ _ _ => True) (fun _ _ _ _ _ _ => trivial) hf (fun _ _ _ => id)
    fun w es w' es' w'' h h' => ⟨fun slot hslot => ?_, ?_⟩
  · rw [sentOn_append, h.sent slot hslot, h'.sent slot hslot]
    exact List.append_nil _
  · rw [chats_append, h.chats, h'.chats]
    rfl

lemma chats_composable : Composable (Chats players) where
  refl _ _ _ := rfl
  trans h h' slot hslot := by rw [sentOn_append, chats_append, h slot hslot, h' slot hslot]

/-- What has nothing to do with messages. -/
lemma answers_aside (h : ∀ e ∈ es, e.Aside) : Answers players none w es w' := by
  refine ⟨fun slot _ => List.filterMap_eq_nil_iff.2 fun e he => ?_,
    List.filterMap_eq_nil_iff.2 fun e he => ?_⟩
  all_goals
    have haside := h e he
    cases e with
    | received slot type message => exact haside.elim
    | sent slot message written => exact haside.elim
    | _ => rfl

lemma Aside.answers {α : Type} {m : EngineM Lobby α} (hm : Aside m)
    {G : List Event → Event → Prop} : Effect G P m (Answers players none) :=
  fun w _ _ _ => answers_aside (hm w).2

/-- A message to somebody else. -/
lemma sendMessageImpl_answers {slot : ℕ} (hslot : slot ∉ players) (message : OutgoingMessage)
    {G : List Event → Event → Prop} :
    Effect G P (NetworkEngine.sendMessageImpl slot message) (Answers players none) := by
  intro w tr _ _
  obtain ⟨⟨written, hevents⟩, -⟩ := NetworkEngine.sendMessageImpl_run slot message w
  rw [hevents]
  refine ⟨fun s hs => ?_, rfl⟩
  have hne : slot ≠ s := fun heq => hslot (heq ▸ hs)
  simp [sentOn, Event.sentOn, hne]

end Players

/-! ### Broadcasts -/

section Broadcasts

open NetworkEngine

variable {players : Set ℕ} {slot index : ℕ} {indices : List ℕ} {message : OutgoingMessage}
  {es : List Event}

/-- What a broadcast over some slots sends on one of them. -/
def sentOnce (slot : ℕ) (message : OutgoingMessage) (indices : List ℕ) : List OutgoingMessage :=
  if slot ∈ indices then [message] else []

lemma sentOnce_cons_of_ne (hne : slot ≠ index) :
    sentOnce slot message (index :: indices) = sentOnce slot message indices := by
  simp [sentOnce, hne]

lemma sentOn_attempt {written : Option ℕ} (hnot : index ∉ indices)
    (h : sentOn slot es = sentOnce slot message indices) :
    sentOn slot (.sent index message written :: es) = sentOnce slot message (index :: indices) := by
  rw [← List.singleton_append, sentOn_append, h]
  by_cases heq : slot = index
  · subst heq
    simp [sentOn, Event.sentOn, sentOnce, hnot]
  · have hne : index ≠ slot := fun h => heq h.symm
    rw [sentOnce_cons_of_ne heq]
    simp [sentOn, Event.sentOn, hne]

/-- The rest of a broadcast after a connection is lost that is not the player's. -/
lemma sendMessageLoop_lost (hslot : slot ∈ players) {filter : ConnectionMeta → Bool}
    {report : DeliveryReport}
    (hrest : Effect (Stay players) (fun w _ => Hosts players w)
      (sendMessageLoop message filter indices report)
      fun _ es _ => sentOn slot es = sentOnce slot message indices) :
    Effect (Stay players)
      (fun w _ => Hosts players w ∧ (w.entry index).connectionType ≠ .none)
      (resetAndRelease index >>= fun _ => sendMessageLoop message filter indices report)
      fun _ es _ => sentOn slot es = sentOnce slot message indices := by
  have hrelease : Effect (Stay players)
      (fun w _ => Hosts players w ∧ (w.entry index).connectionType ≠ .none)
      (resetAndRelease index) (Answers players none) := (aside_resetAndRelease index).answers
  refine hrelease.seq_of_returns (Hosts.invariant.retire index) (fun _ => hrest) ?_ ?_
  · intro w tr h hstay
    obtain ⟨⟨room, hevents⟩, -⟩ := resetAndRelease_run index w
    rw [hevents] at hstay
    exact ⟨_, h.1.release_returns hslot (fun heq => hstay.1 (heq ▸ hslot)) h.2⟩
  · intro w es w' es' w'' hanswers hsent
    rw [sentOn_append, hanswers.sent slot hslot, hsent]
    rfl

/-- A player who stays gets the message once, whoever else is lost. -/
lemma sendMessageLoop_sentOn (hslot : slot ∈ players) (hnodup : indices.Nodup)
    (report : DeliveryReport) :
    Effect (Stay players) (fun w _ => Hosts players w)
      (sendMessageLoop message (fun connection => connection.type = .toClient) indices report)
      fun _ es _ => sentOn slot es = sentOnce slot message indices := by
  induction indices generalizing report with
  | nil => exact fun w tr _ _ => rfl
  | cons index indices ih =>
    obtain ⟨hnot, hnodup⟩ := List.nodup_cons.1 hnodup
    intro w tr h hstay
    by_cases haccepts : w.Accepts (fun connection => connection.type = .toClient) index
    · obtain ⟨written, result, w', hattempt, -, -, -, hsame⟩ :=
        sendMessageImpl_attempt index message w
      obtain ⟨r, hr, hrun⟩ := sendMessageLoop_attempt indices report haccepts hattempt
      have h' : Hosts players w' := h.same hsame
      rw [hrun] at hstay ⊢
      refine sentOn_attempt hnot ?_
      cases result with
      | none =>
        subst hr
        exact ih hnodup _ w' _ h' hstay.2
      | some e =>
        subst hr
        refine sendMessageLoop_lost hslot (ih hnodup _) w' _ ⟨h', ?_⟩ hstay.2
        rw [hsame.entry]
        exact haccepts.1
    · rw [sendMessageLoop_skip haccepts] at hstay ⊢
      have hne : slot ≠ index := by
        rintro rfl
        refine haccepts ⟨h.inUse hslot, ?_⟩
        simp [h.players slot hslot]
      rw [sentOnce_cons_of_ne hne]
      exact ih hnodup _ w tr h hstay

/-- A chat message is answered to the players. -/
lemma executeChatMessage_answers {context : ActionContext}
    (hchat : (Dispatcher.dispatch context.receivedMessage).variant = .chatMessage) :
    Effect (Stay players) (fun w _ => Hosts players w) (executeChatMessage context)
      (Answers players (chatOf context.receivedMessage)) := by
  rw [executeChatMessage, chatOf, if_pos hchat]
  cases parse context.receivedMessage.payload with
  | error e => exact .pure answers_none_composable
  | ok text =>
    have hbroadcast : Effect (Stay players) (fun w _ => Hosts players w)
        (NetworkEngine.sendMessage { payload := text, type := .printable }
          fun connection => connection.type = .toClient)
        (Answers players (some { payload := text, type := .printable })) := by
      intro w tr h hstay
      refine ⟨fun slot hslot => ?_, ?_⟩
      · have hsent := sendMessageLoop_sentOn hslot List.nodup_range {} w tr h hstay
        rwa [sentOnce, if_pos (List.mem_range.2 (h.lt_counter hslot))] at hsent
      · have hevents := (sendMessage_broadcast (P := fun _ _ => True) (by decide) w tr trivial
          hstay).events
        refine List.filterMap_eq_nil_iff.2 fun e he => ?_
        have hevent := hevents e he
        cases e with
        | received slot type message => exact hevent.elim
        | _ => rfl
    exact answers_bind hbroadcast fun _ => .pure answers_none_composable

end Broadcasts

/-! ### The handler -/

section Handler

variable {players : Set ℕ} {P : World Lobby → List Event → Prop}

lemma Hosts.attachSocket (socket : ℤ) :
    Triple (Stay players) (fun w _ => Hosts players w)
      (NetworkEngine.attachSocket socket .toClient) fun r w _ => Hosts players w ∧
        ∀ view, r = .ok view → view.slot ∉ players := by
  have hregister : Triple (Stay players) (fun w _ => Hosts players w)
      (NetworkEngine.registerConnection .toClient socket) fun r w _ => Hosts players w ∧
        ∀ slot, r = .ok slot → slot ∉ players := by
    refine Triple.bind (triple_pushToPool (Q := fun slot w _ => slot ∉ players ∧ Hosts players w ∧
      (w.entry slot).connectionType = .toClient) fun w tr slot w' h hpush _ => ?_) fun slot => ?_
    · obtain ⟨hhosts, hne⟩ := h.acquire hpush
      exact ⟨hne, hhosts, (World.pushToPool_entry_self hpush).1⟩
    refine Triple.of_pre fun hne => ?_
    let K (object : ℕ → ConnectionEntry) : Prop := (object slot).connectionType = .toClient
    refine Triple.bind (Hosts.invariant.quiet (NetworkEngine.quiet_subscribeToEvents slot) K)
      fun r => ?_
    cases r with
    | none =>
      refine .pure fun w tr h => ⟨h.1, fun slot' hslot => ?_⟩
      obtain rfl := Except.ok.inj hslot
      exact hne
    | some e =>
      refine Triple.bind (Hosts.invariant.quiet (NetworkEngine.quiet_sendMessageImpl slot _) K)
        fun _ => ?_
      refine Triple.bind ((Hosts.invariant.retire slot).pre fun w tr h => ⟨h.1, ?_⟩)
        fun _ => .pure fun w tr h => ⟨h, fun _ hview => by cases hview⟩
      rw [World.entry, h.2]
      decide
  refine hregister.bind fun r => ?_
  cases r with
  | error e => exact .pure fun w tr h => ⟨h.1, fun _ hview => by cases hview⟩
  | ok slot =>
    refine .pure fun w tr h => ⟨h.1, fun view hview => ?_⟩
    obtain rfl := Except.ok.inj hview
    exact h.2 slot rfl

lemma attachSocket_answers (socket : ℤ) :
    Effect (Stay players) (fun w _ => Hosts players w)
      (NetworkEngine.attachSocket socket .toClient) (Answers players none) := by
  have hregister : Effect (Stay players) (fun w _ => Hosts players w)
      (NetworkEngine.registerConnection .toClient socket) (Answers players none) := by
    refine Effect.bind answers_none_composable (aside_pushToPool _).answers
      (triple_pushToPool (Q := fun slot _ _ => slot ∉ players) fun w tr slot w' h hpush _ =>
        (h.acquire hpush).2) fun slot => ?_
    refine Effect.bind (Q := fun _ _ _ => slot ∉ players) answers_none_composable
      (NetworkEngine.aside_subscribeToEvents slot).answers
      (fun w tr hslot _ _ _ => hslot) fun r => ?_
    cases r with
    | none => exact .pure answers_none_composable
    | some e =>
      intro w tr hslot
      refine Effect.bind_of_forall (P := fun _ _ => True) answers_none_composable
        (sendMessageImpl_answers hslot _) (fun _ => ?_) w tr trivial
      exact .bind_of_forall answers_none_composable (aside_resetAndRelease slot).answers
        fun _ => .pure answers_none_composable
  refine .bind_of_forall answers_none_composable hregister fun r => ?_
  cases r with
  | error e => exact .pure answers_none_composable
  | ok slot => exact .pure answers_none_composable

/-- A descriptor is attached for somebody new. -/
lemma executeAcceptSocket_answers (context : ActionContext) :
    Effect (Stay players) (fun w _ => Hosts players w) (Lobby.executeAcceptSocket context)
      (Answers players none) := by
  rw [Lobby.executeAcceptSocket]
  cases context.receivedMessage.socket with
  | none =>
    refine .get_bind fun w₀ => ?_
    refine Effect.bind_of_forall answers_none_composable ?_
      fun _ => .pure answers_none_composable
    rintro w tr ⟨rfl, h⟩
    exact sendMessageImpl_answers (P := fun _ _ => True) h.parent _ w tr trivial
  | some socket =>
    refine Effect.bind answers_none_composable (attachSocket_answers socket)
      (Hosts.attachSocket socket) fun r => ?_
    cases r with
    | error e => exact .pure answers_none_composable
    | ok clientView =>
      refine Effect.pre (Effect.of_pre (P := fun _ _ => True)
        (p := clientView.slot ∉ players) fun hne => ?_) fun w tr h => ⟨h.2 clientView rfl, trivial⟩
      have hgreeting : Effect (Stay players) (fun _ _ => True)
          (Lobby.sendJoinLobbyMessage clientView) (Answers players none) :=
        .get_bind fun _ => .bind_of_forall answers_none_composable
          (sendMessageImpl_answers hne _) fun _ => .pure answers_none_composable
      refine .bind_of_forall answers_none_composable hgreeting fun r => ?_
      cases r with
      | none => exact .pure answers_none_composable
      | some e =>
        refine .bind_of_forall answers_none_composable (.get_bind fun w => ?_)
          fun _ => .pure answers_none_composable
        exact .ite (fun _ => (NetworkEngine.aside_releaseConnection _).answers)
          fun _ => .pure answers_none_composable

lemma handleAction_answers (context : ActionContext) :
    Effect (Stay players) (fun w _ => Hosts players w) (Lobby.handleAction context)
      (Answers players (chatOf context.receivedMessage)) := by
  rw [Lobby.handleAction]
  cases hvariant : (Dispatcher.dispatch context.receivedMessage).variant with
  | chatMessage => exact executeChatMessage_answers hvariant
  | acceptSocket =>
    rw [chatOf, hvariant, if_neg (by decide)]
    exact executeAcceptSocket_answers context
  | setLobbyId =>
    rw [chatOf, hvariant, if_neg (by decide)]
    exact fun w tr _ _ => ⟨fun _ _ => rfl, rfl⟩
  | _ =>
    rw [chatOf, hvariant, if_neg (by decide)]
    exact .pure answers_none_composable

/-- A message is received, and the players get what it puts into the chat. -/
lemma callHandler_chats (slot : ℕ) (message : ReceivedMessage) :
    Effect (Stay players) (fun w _ => Hosts players w ∧ (w.entry slot).connectionType ≠ .none)
      (NetworkEngine.callHandler Lobby.handleAction slot message) (Chats players) := by
  refine .get_bind fun w₀ => .emit_bind (S := Answers players (chatOf message)) ?_ ?_
  · refine Effect.pre (P := fun w _ => Hosts players w) ?_ ?_
    · refine answers_bind (handleAction_answers ⟨⟨slot⟩, message⟩) fun result => ?_
      exact .bind_of_forall answers_none_composable (.emit fun w tr _ _ => ⟨fun _ _ => rfl, rfl⟩)
        fun _ => .pure answers_none_composable
    · rintro w tr ⟨tr', rfl, ⟨rfl, h, -⟩, -⟩
      exact h
  · intro w tr es w' _ h s hs
    have hreceived : chats [.received slot (w₀.entry slot).connectionType message] =
        (chatOf message).toList := by
      cases hchat : chatOf message with
      | none => simp [chats, Event.chat, hchat]
      | some answer => simp [chats, Event.chat, hchat]
    rw [← List.singleton_append, sentOn_append, chats_append, h.sent s hs, h.chats, hreceived,
      List.append_nil]
    rfl

/-- The chat is what the players are sent, whatever a lobby does with its connections. -/
lemma lobby_chats :
    ConnectionEffect (Stay players) (fun w _ => Hosts players w) (·.connectionType ≠ .none)
      Lobby.handleAction (Chats players) where
  toComposable := chats_composable
  aside {w w' es} _ hes slot hslot := by
    have h : Answers players none w es w' := answers_aside hes
    rw [h.sent slot hslot, h.chats]
    rfl
  callHandler := callHandler_chats
  userCode := lobby_userCode

lemma Hosts.handlerKeeps :
    HandlerKeeps (Stay players) (fun w _ => Hosts players w) (·.connectionType ≠ .none)
      Lobby.handleAction := by
  refine .of_keep fun context => ?_
  refine (Hosts.invariant.toReleaseInvariant.lobbyHandleAction context (fun _ _ => id)
    (fun lobbyId => Triple.modify fun _ _ h => h.of_eq rfl rfl rfl (fun _ => ⟨rfl, rfl⟩) rfl)
    fun socket _ _ => (Hosts.attachSocket socket).post fun r w tr h => h.1).post
      fun r w tr h => ⟨h.1, h.2.1, h.2.2.1⟩

lemma Hosts.operations (operations : List Operation) :
    Keeps (Stay players) (fun w _ => Hosts players w)
      (runAll (operations.map (Operation.run Lobby.handleAction))) :=
  Hosts.invariant.operations Hosts.handlerKeeps
    (processEvent_of_ne_listener fun _ _ slot h => h.listener slot) operations

end Handler

/-! ### Runs of the lobby -/

lemma lobby_init_hosts (socket : ℤ) :
    Triple (Stay ∅) (World.IsInitial {}) (Lobby.init .toParent socket) fun r w _ =>
      r = none → Hosts ∅ w := by
  refine (initApp_started (.inr (.inl rfl)) socket).bind fun r => ?_
  cases r with
  | error e => exact .pure fun w tr _ hnone => by cases hnone
  | ok view =>
    refine Triple.bind (Triple.modify (Q := fun _ w _ => Hosts ∅ w) fun w tr hw => ?_)
      fun _ => .pure fun w tr hw _ => hw
    obtain ⟨rfl, hstarted⟩ := hw view rfl
    refine { (hstarted.poolSound (by decide)).same rfl with
      counter := ?_, le := ?_, listener := fun slot => ?_, parent := Set.notMem_empty _
      players := fun slot hslot => (Set.notMem_empty slot hslot).elim }
    · exact hstarted.counter.trans hstarted.lastNotIssuedIndex.symm
    · exact hstarted.lastNotIssuedIndex.le.trans (by decide)
    · by_cases hslot : slot = 0
      · subst hslot
        exact fun hlistener => EndPoint.noConfusion (hstarted.root.1.symm.trans hlistener)
      · exact fun hlistener => EndPoint.noConfusion
          (((hstarted.connectionType_eq_none (by decide) slot).2 hslot).symm.trans hlistener)

lemma lobby_main_hosts (socket : ℤ) (operations : List Operation) :
    Triple (Stay ∅) (World.IsInitial {}) (Lobby.main socket operations) fun _ w _ => Hosts ∅ w := by
  refine (lobby_init_hosts socket).bind fun r => ?_
  cases r with
  | some e => exact .stop
  | none => exact (Hosts.operations operations).pre fun w tr h => h rfl

/-- A lobby after a run, with some of its clients as the players. -/
lemma lobby_hosts {socket : ℤ} {results : SysResults} {operations : List Operation}
    {players : Set ℕ}
    (hvalue : ((Lobby.main socket operations).run (World.initial {} results)).value = some ⟨⟩)
    (hplayers : ∀ slot ∈ players, (((Lobby.main socket operations).run
      (World.initial {} results)).state.entry slot).connectionType = .toClient)
    (hparent : ((Lobby.main socket operations).run
      (World.initial {} results)).state.app.parentView.slot ∉ players) :
    Hosts players ((Lobby.main socket operations).run (World.initial {} results)).state := by
  have hhosts := lobby_main_hosts socket operations _ [] ⟨⟨results, rfl⟩, rfl⟩
    (allowed_of_forall fun e _ tr => by cases e <;> first | trivial | exact Set.notMem_empty _)
    _ hvalue
  exact { hhosts with parent := hparent, players := hplayers }

lemma Hosts.operations_chats {players : Set ℕ} {w : World Lobby} (h : Hosts players w)
    (operations : List Operation) {tr : List Event} (hstay : Allowed (Stay players) tr
      ((runAll (operations.map (Operation.run Lobby.handleAction))).run w).events) :
    Chats players w ((runAll (operations.map (Operation.run Lobby.handleAction))).run w).events
      ((runAll (operations.map (Operation.run Lobby.handleAction))).run w).state :=
  lobby_chats.operations Hosts.invariant Hosts.handlerKeeps
    (fun _ _ slot h => h.listener slot) operations w tr h hstay

/-- **Players who stay in a lobby get the same chat**: each of them is sent what the lobby receives
for the chat, once and in the order in which it is received, and nothing else. -/
theorem lobby_chat_inOrder (socket : ℤ) (results : SysResults)
    (operations operations' : List Operation) (players : Set ℕ) :
    let r := (Lobby.main socket operations).run (World.initial {} results)
    let r' := (runAll (operations'.map (Operation.run Lobby.handleAction))).run r.state
    r.value = some ⟨⟩ →
    (∀ slot ∈ players, (r.state.entry slot).connectionType = .toClient) →
    r.state.app.parentView.slot ∉ players → Allowed (Stay players) r.events r'.events →
      ∀ slot ∈ players, sentOn slot r'.events = chats r'.events := by
  intro r r' hvalue hplayers hparent hstay
  exact (lobby_hosts hvalue hplayers hparent).operations_chats operations' hstay

/-- What a lobby is going to get to which two players come, the first of whom says something. -/
def twoPlayers : SysResults :=
  let name : SentMessage :=
    { payload := ascii "7", type := .lobbyId, padding := Vector.replicate 7 0 }
  let player : SentMessage :=
    { payload := ascii "\\socket", type := .socket, padding := Vector.replicate 7 0 }
  let speech : SentMessage := { payload := ascii "\\msg hi", padding := Vector.replicate 7 0 }
  { recvmsg := [.received name.encode none, .received player.encode (some 7),
      .received player.encode (some 8), .wouldBlock, .received speech.encode none] }

/-- Both players read it. -/
theorem lobby_chat_inOrder_two :
    let r := (Lobby.main 5 [.event 5, .network 0]).run (World.initial {} twoPlayers)
    let r' := (runAll ([.event 7, .network 1].map (Operation.run Lobby.handleAction))).run r.state
    chats r'.events = [{ payload := ascii "hi", type := .printable }] ∧
      ∀ slot ∈ ({slot | slot = 1 ∨ slot = 2} : Set ℕ), sentOn slot r'.events = chats r'.events := by
  refine ⟨by decide +kernel, lobby_chat_inOrder _ _ _ _ _ (by decide +kernel) ?_
    (by decide +kernel) (by decide +kernel)⟩
  rintro slot (rfl | rfl)
  · decide +kernel
  · decide +kernel

end BattleShips
