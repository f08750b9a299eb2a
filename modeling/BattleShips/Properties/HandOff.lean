import BattleShips.Application.LobbyWakeUps
import BattleShips.Properties.ChatOrder

/-!
# Handing a connection over

A connection goes from the server to a lobby as a descriptor. What the receive coroutine of the
server has read of the stream beyond the message that asks for this stays behind in its buffer,
which `transfer` destroys, so that the lobby gets all later messages only if there is nothing of
them in the buffer.
-/

namespace BattleShips

open Traced ParseLocals

variable {σ : Type}

/-! ### Transfer -/

def Event.IsHandOff : Event → Prop
  | .handedOff _ _ _ => True
  | _ => False

/-- No transfer fails. -/
def TransfersSucceed (_ : List Event) : Event → Prop
  | .transferFailed _ _ _ => False
  | _ => True

lemma Quiet.emits_notHandOff {α : Type} {m : EngineM σ α} (hm : Quiet m) :
    Emits (fun e => ¬ e.IsHandOff) m := by
  intro w e he hhandOff
  have hsilent := (hm w).2 e he
  cases e <;> contradiction

/-- A successful transfer destroys the coroutine of the source. -/
lemma transfer_receiveCo {P : World σ → List Event → Prop} (destination source : ConnectionView) :
    Triple TransfersSucceed P (NetworkEngine.transfer destination source)
      fun result w _ => result = {} ∧ w.receiveCo source.slot = coReceiveFromSocket := by
  refine Triple.bind_any fun _ => Triple.bind_any fun w₀ => Triple.bind_any fun sent => ?_
  cases sent with
  | none =>
    refine Triple.bind (triple_resetAndRelease (Q := fun _ w _ =>
      w.receiveCo source.slot = coReceiveFromSocket) ?_) fun _ => .pure fun _ _ h => ⟨rfl, h⟩
    intro w tr room w' _ hretired _
    rw [World.receiveCo, hretired.entry_self]
    rfl
  | some e =>
    refine Triple.bind (Triple.emit (Q := fun _ _ _ => False) fun _ _ _ h => h) fun _ => ?_
    intro w tr hfalse
    exact hfalse.elim

lemma resetAndRelease_emits (slot : ℕ) :
    Emits (fun e => ¬ e.IsHandOff) (resetAndRelease slot : EngineM σ _) := by
  intro w e he
  obtain ⟨room, hevents⟩ := (resetAndRelease_run slot w).1
  rw [hevents, List.mem_singleton] at he
  simp [he, Event.IsHandOff]

/-- Chat messages hand nothing over. -/
lemma executeChatMessage_emits (context : ActionContext) :
    Emits (fun e => ¬ e.IsHandOff) (executeChatMessage context : EngineM σ _) := by
  have hloop : ∀ (message : OutgoingMessage) (filter : ConnectionMeta → Bool) (slots : List ℕ)
      (report : DeliveryReport), Emits (fun e => ¬ e.IsHandOff)
        (NetworkEngine.sendMessageLoop message filter slots report : EngineM σ _) := by
    intro message filter slots
    induction slots with
    | nil => exact fun report => .pure
    | cons slot slots ih =>
      intro report
      rw [NetworkEngine.sendMessageLoop]
      refine Emits.bind .get fun w => ?_
      dsimp only
      split_ifs
      · refine Emits.bind (NetworkEngine.quiet_sendMessageImpl _ _).emits_notHandOff fun r => ?_
        cases r with
        | none => exact ih _
        | some e => exact Emits.bind (resetAndRelease_emits slot) fun _ => ih _
      · exact ih report
  rw [executeChatMessage]
  cases parse context.receivedMessage.payload with
  | error e => exact .pure
  | ok text => exact Emits.bind (Emits.bind .get fun w => hloop _ _ _ _) fun _ => .pure

/-- The server makes a lobby without handing anything over. -/
lemma createLobby_emits : Emits (fun e => ¬ e.IsHandOff) Server.createLobby := by
  have hspawn :
      Emits (fun e => ¬ e.IsHandOff) (LobbyManager.spawnLobby : EngineM LobbyManager _) := by
    refine Emits.bind .get fun w => Emits.bind .modify fun _ => ?_
    cases w.results.spawn.headD .socketpairFailed with
    | socketpairFailed => exact .pure
    | forkFailed sv0 sv1 | spawned sv0 sv1 => exact Emits.bind .modify fun _ => .pure
  have hregister : ∀ socket, Emits (fun e => ¬ e.IsHandOff)
      (NetworkEngine.registerConnection (σ := LobbyManager) .toLobby socket) := by
    intro socket
    refine Emits.bind (Emits.bind .get fun w => ?_) fun slot => ?_
    · cases w.pushToPool (.ofSocket .toLobby socket) with
      | none => exact Emits.bind (.emit nofun) fun _ => .stop
      | some pushed => exact Emits.bind .modify fun _ => Emits.bind (.emit nofun) fun _ => .pure
    · refine Emits.bind (NetworkEngine.quiet_subscribeToEvents slot).emits_notHandOff fun r => ?_
      cases r with
      | none => exact .pure
      | some e =>
        refine Emits.bind (NetworkEngine.quiet_sendMessageImpl slot _).emits_notHandOff fun _ => ?_
        exact Emits.bind (resetAndRelease_emits slot) fun _ => .pure
  have hattach : ∀ pid view, Emits (fun e => ¬ e.IsHandOff) (LobbyManager.attach pid view) := by
    intro pid view
    refine Emits.bind .get fun w => Emits.bind .modify fun _ => ?_
    dsimp only
    cases w.app.lobbies (generateConnCode (w.results.time.headD default)) with
    | none => exact Emits.bind .modify fun _ => Emits.bind (.emit nofun) fun _ => .pure
    | some entry => exact Emits.bind (.emit nofun) fun _ => .pure
  refine Emits.bind hspawn fun spawned => ?_
  cases spawned with
  | error e => exact .pure
  | ok spawned =>
    refine Emits.bind (Emits.bind (hregister _) fun r => ?_) fun control => ?_
    · cases r with
      | error e => exact .pure
      | ok slot => exact .pure
    · cases control with
      | error e => exact .pure
      | ok view =>
        refine Emits.bind (hattach _ _) fun lobby => ?_
        cases lobby with
        | error e => exact .pure
        | ok lobby => exact .pure

/-- A message for which the server hands its connection over, with a transfer that succeeds,
destroys the coroutine that it came from. -/
lemma handleAction_receiveCo (context : ActionContext) :
    Triple TransfersSucceed (fun _ tr => tr = []) (Server.handleAction context)
      fun _ w tr => (∀ e ∈ tr, ¬ e.IsHandOff) ∨
        w.receiveCo context.pendingView.slot = coReceiveFromSocket := by
  have hnone : ∀ {m : EngineM LobbyManager ActionResult}
      {P : World LobbyManager → List Event → Prop},
      Emits (fun e => ¬ e.IsHandOff) m → (∀ w tr, P w tr → ∀ e ∈ tr, ¬ e.IsHandOff) →
        Triple TransfersSucceed P m fun _ w tr => (∀ e ∈ tr, ¬ e.IsHandOff) ∨
          w.receiveCo context.pendingView.slot = coReceiveFromSocket :=
    fun hm hP => (hm.triple hP).post fun _ _ _ => .inl
  have hperform : ∀ recipient (P : World LobbyManager → List Event → Prop),
      Triple TransfersSucceed P (Server.performTransfer recipient context) fun _ w tr =>
        (∀ e ∈ tr, ¬ e.IsHandOff) ∨
          w.receiveCo context.pendingView.slot = coReceiveFromSocket := by
    intro recipient P
    refine Triple.bind_any fun _ => ?_
    refine (transfer_receiveCo recipient.controlConnection context.pendingView).bind fun r => ?_
    refine Triple.ite (fun _ => .pure fun _ _ h => .inr h.2) fun hlost => ?_
    rintro w tr ⟨rfl, -⟩
    exact absurd rfl hlost
  have hstart : ∀ (w : World LobbyManager) (tr : List Event), tr = [] →
      ∀ e ∈ tr, ¬ e.IsHandOff := by
    rintro w tr rfl e he
    exact absurd he List.not_mem_nil
  rw [Server.handleAction]
  cases filterVariant ServerAction.ofVariant
    (Dispatcher.dispatch context.receivedMessage).variant with
  | error e => exact hnone .pure hstart
  | ok action =>
    cases action with
    | createLobby =>
      refine (createLobby_emits.triple hstart).bind fun created => ?_
      cases created with
      | error e => exact hnone .pure fun _ _ h => h
      | ok lobbyView =>
        have hsend : Quiet (Server.initLobby lobbyView) :=
          (NetworkEngine.quiet_sendMessageImpl _ _).bind fun _ => .pure _
        refine (hsend.emits_notHandOff.triple fun _ _ h => h).bind fun r => ?_
        cases r with
        | some e => exact hnone .pure fun _ _ h => h
        | none => exact hperform lobbyView _
    | joinLobby =>
      change Triple TransfersSucceed _ (Server.executeJoinLobby context) _
      rw [Server.executeJoinLobby]
      cases JoinLobbyCode.parse context.receivedMessage.payload with
      | error e => exact hnone .pure hstart
      | ok code =>
        refine Triple.bind (Triple.get (Q := fun _ _ tr => tr = []) fun _ _ h => h) fun w => ?_
        cases w.app.find code.intCode with
        | error e => exact hnone .pure hstart
        | ok lobbyView => exact hperform lobbyView _
    | chatMessage => exact hnone (executeChatMessage_emits context) hstart
    | generalAction =>
      refine hnone (Emits.bind (NetworkEngine.quiet_sendMessageImpl _ _).emits_notHandOff
        fun r => ?_) hstart
      cases r with
      | none => exact .pure
      | some e => exact .pure

/-! ### Attachment -/

/-- The message of `transfer` with the descriptor. -/
def handOverMessage (socket : ℤ) : ReceivedMessage where
  status := .data
  type := .socket
  payload := ascii "\\socket"
  socket := some socket

/-- Nobody in the lobby has the descriptor, and there are these results of `recvmsg` to come. -/
structure Lobby.Lacks (socket : ℤ) (ls : List RecvResult) (w : World Lobby) : Prop
    extends w.PoolSound where
  le : w.pool.lastNotIssuedIndex ≤ ringBufferSize + 1
  fresh : ∀ slot, (w.entry slot).connectionType ≠ .none →
    (w.entry slot).socketHandler.socket ≠ socket
  recvmsg : w.results.recvmsg = ls

/-- The slot has got the descriptor. -/
structure Lobby.Holds (slot : ℕ) (socket : ℤ) (ls : List RecvResult) (w : World Lobby) : Prop
    extends w.PoolSound where
  le : w.pool.lastNotIssuedIndex ≤ ringBufferSize + 1
  handler : (w.entry slot).socketHandler = .ofSocket socket
  others : ∀ index ≠ slot, (w.entry index).connectionType ≠ .none →
    (w.entry index).socketHandler.socket ≠ socket
  recvmsg : w.results.recvmsg = ls

lemma Lobby.Lacks.acquire {slot : ℕ} {socket : ℤ} {ls : List RecvResult} {w w' : World Lobby}
    (h : Lacks socket ls w) (hpush : w.pushToPool (.ofSocket .toClient socket) = some (slot, w')) :
    Holds slot socket ls w' where
  toPoolSound := h.toPoolSound.acquire (by decide) hpush
  le := World.pushToPool_issued_le hpush h.le
  handler := (World.pushToPool_entry_self hpush).2
  others index hne := by
    rw [World.pushToPool_entry_of_ne hpush hne]
    exact h.fresh index
  recvmsg := by rw [(World.pushToPool_rest hpush).2.2, h.recvmsg]

/-- A connection that has been subscribed is armed and starts with a new coroutine. -/
lemma Lobby.Holds.subscribe {G : List Event → Event → Prop} {slot : ℕ} {socket : ℤ}
    {ls : List RecvResult} (hplain : IsPlain ls) :
    Triple G (fun w _ => Holds slot socket ls w) (NetworkEngine.subscribeToEvents slot)
      fun r w _ => r = none → Serves slot socket true coReceiveFromSocket ls w := by
  have hctl : Triple G (fun w _ => Holds slot socket ls w) (epollCtl .add slot)
      fun success w _ => success = true → Serves slot socket true coReceiveFromSocket ls w := by
    intro w tr h _ success hvalue hsuccess
    have hdescriptor : (w.entry slot).socketHandler.socket = socket := by rw [h.handler]; rfl
    obtain rfl := Option.some.inj hvalue
    exact {
      toPoolSound := h.toPoolSound.same rfl
      le := h.le
      descriptor := hdescriptor
      others := h.others
      alive := congrArg SocketHandler.isSocketAlive h.handler
      epoll := by
        rw [← hdescriptor]
        exact (congrFun (if_pos hsuccess) _).trans (Function.update_self ..)
      receiveCo :=
        congrArg (fun handler => handler.receiveHandle.getD coReceiveFromSocket) h.handler
      recvmsg := h.recvmsg
      plain := ⟨trivial, hplain⟩ }
  refine Triple.bind (Q := fun r w _ => r = none →
    Serves slot socket true coReceiveFromSocket ls w) (hctl.bind fun success => ?_)
    fun r => .pure fun w tr h hr => h (Option.map_eq_none_iff.1 hr)
  cases success with
  | true => exact .pure fun w tr h _ => h rfl
  | false => exact .pure fun w tr h hr => by cases hr

/-- So is one that has been attached. -/
lemma attachSocket_serves {G : List Event → Event → Prop} (socket : ℤ) {ls : List RecvResult}
    (hplain : IsPlain ls) :
    Triple G (fun w _ => Lobby.Lacks socket ls w) (NetworkEngine.attachSocket socket .toClient)
      fun attached w _ => ∀ view, attached = .ok view →
        Lobby.Serves view.slot socket true coReceiveFromSocket ls w := by
  have hpush : Triple G (fun w _ => Lobby.Lacks socket ls w)
      (pushToPool (.ofSocket .toClient socket)) fun slot w _ => Lobby.Holds slot socket ls w :=
    triple_pushToPool fun w tr slot w' h hpush _ => h.acquire hpush
  have hregister : Triple G (fun w _ => Lobby.Lacks socket ls w)
      (NetworkEngine.registerConnection .toClient socket) fun registered w _ =>
        ∀ slot, registered = .ok slot →
          Lobby.Serves slot socket true coReceiveFromSocket ls w := by
    refine hpush.bind fun slot => (Lobby.Holds.subscribe hplain).bind fun r => ?_
    cases r with
    | none => exact .pure fun w tr h slot' hslot => Except.ok.inj hslot ▸ h rfl
    | some e =>
      refine Triple.bind_any fun _ => Triple.bind_any fun _ => ?_
      exact .pure fun _ _ _ _ h => by cases h
  refine hregister.bind fun registered => ?_
  cases registered with
  | error e => exact .pure fun _ _ _ _ h => by cases h
  | ok slot => exact .pure fun w tr h view hview => Except.ok.inj hview ▸ h slot rfl

/-- So is one that the lobby has accepted. -/
lemma handleAction_serves {G : List Event → Event → Prop} (parent : ConnectionView) (socket : ℤ)
    {ls : List RecvResult} (hplain : IsPlain ls) :
    Triple G (fun w _ => Lobby.Lacks socket ls w)
      (Lobby.handleAction ⟨parent, handOverMessage socket⟩) fun r w _ => r.error = none →
        ∃ slot, Lobby.Serves slot socket true coReceiveFromSocket ls w := by
  have hgreet : ∀ view : ConnectionView, Keeps G (fun w _ =>
      Lobby.Serves view.slot socket true coReceiveFromSocket ls w)
      (Lobby.sendJoinLobbyMessage view) := by
    refine fun view => Keeps.bind Keeps.get fun w => Keeps.bind (Keeps.bind ?_ fun _ => .pure)
      fun _ => .pure
    refine Keeps.bind Keeps.get fun w => Keeps.bind (Triple.modify fun w tr h => ?_) fun _ =>
      Keeps.bind (Triple.emit fun w tr h _ => h) fun _ => .pure
    exact Lobby.Serves.connections (w := w) rfl rfl rfl h
  refine (attachSocket_serves socket hplain).bind fun attached => ?_
  cases attached with
  | error e => exact .pure fun w tr _ herror => by cases herror
  | ok view =>
    refine ((hgreet view).pre fun w tr h => h view rfl).bind fun r => ?_
    cases r with
    | none => exact .pure fun w tr h _ => ⟨view.slot, h⟩
    | some e => exact Triple.bind_any fun _ => .pure fun w tr _ herror => by cases herror

/-! ### A stream that is handed over -/

/-- The lobby is in a state of one of its runs. -/
def Lobby.Reached (w : World Lobby) : Prop :=
  ∃ socket results operations,
    ((Lobby.main socket operations).run (World.initial {} results)).value = some ⟨⟩ ∧
      ((Lobby.main socket operations).run (World.initial {} results)).state = w

lemma Lobby.Reached.hosts {w : World Lobby} (h : Reached w) : Hosts ∅ w := by
  obtain ⟨socket, results, operations, hvalue, rfl⟩ := h
  exact lobby_hosts hvalue (fun slot hslot => hslot.elim) (Set.notMem_empty _)

lemma Lobby.Reached.lacks {socket : ℤ} {ls : List RecvResult} {w : World Lobby} (h : Reached w)
    (hfresh : ∀ slot, (w.entry slot).connectionType ≠ .none →
      (w.entry slot).socketHandler.socket ≠ socket) (hrecvmsg : w.results.recvmsg = ls) :
    Lacks socket ls w :=
  ⟨h.hosts.toPoolSound, h.hosts.le, hfresh, hrecvmsg⟩

/-- A client sends the messages `before`, then `m`, then those `after`. The server gets `m` from
its reads `rs` and hands the connection over for it, and a lobby accepts it and makes the reads
`ls`. -/
structure HandOff (before : List SentMessage) (m : SentMessage) (after : List SentMessage)
    (rs ls : List RecvResult) where
  server : World LobbyManager
  source : ConnectionView
  lobby : World Lobby
  parent : ConnectionView
  socket : ℤ
  /-- How often the server has resumed its coroutine, what it got the last time, and the locals
  with which the coroutine is suspended. -/
  resumptions : ℕ
  last : Resumed
  message : ReceivedMessage
  locals : ParseLocals
  resumed : (coReceiveFromSocket.resumes resumptions rs).getLast? = some last
  result : last.result = some message
  suspended : last.co = some (.parsing locals)
  pending : last.pending = []
  handle : (server.entry source.slot).socketHandler.receiveHandle = last.co
  content : message.content = m.content
  /-- The message ends where `m` ends in the stream. -/
  consumed : (framing.stream (before ++ [m])).length + locals.held.length = (readBytes rs).length
  returned : ((Server.handleAction ⟨source, message⟩).run server).value.isSome
  handedOff : ∃ e ∈ ((Server.handleAction ⟨source, message⟩).run server).events, e.IsHandOff
  succeeded :
    Allowed TransfersSucceed [] ((Server.handleAction ⟨source, message⟩).run server).events
  reached : Lobby.Reached lobby
  /-- No connection of the lobby has the descriptor yet. -/
  fresh : ∀ slot, (lobby.entry slot).connectionType ≠ .none →
    (lobby.entry slot).socketHandler.socket ≠ socket
  accepted : ((Lobby.handleAction ⟨parent, handOverMessage socket⟩).run lobby).value = some {}
  recvmsg : lobby.results.recvmsg = ls
  stream : readBytes rs ++ readBytes ls = framing.stream (before ++ m :: after)
  plain : IsPlain ls
  window : WindowsRespected coReceiveFromSocket ls

namespace HandOff

variable {before after : List SentMessage} {m : SentMessage} {rs ls : List RecvResult}

/-- The coroutine in the server after the transfer. -/
def serverCo (h : HandOff before m after rs ls) : ReceiveCo :=
  ((Server.handleAction ⟨h.source, h.message⟩).run h.server).state.receiveCo h.source.slot

/-- The lobby that has accepted the connection. -/
def joined (h : HandOff before m after rs ls) : World Lobby :=
  ((Lobby.handleAction ⟨h.parent, handOverMessage h.socket⟩).run h.lobby).state

/-- What happens when the lobby then wakes up `n` times for the connection. -/
def events (h : HandOff before m after rs ls) (n : ℕ) : List Event :=
  ((Lobby.wakeUps h.socket n).run h.joined).events

/-- What the server has read ahead is nowhere any more: its own coroutine is gone, and the lobby
starts with a new one. -/
theorem serverCo_eq (h : HandOff before m after rs ls) : h.serverCo = coReceiveFromSocket := by
  obtain ⟨result, hresult⟩ := Option.isSome_iff_exists.1 h.returned
  rcases handleAction_receiveCo ⟨h.source, h.message⟩ h.server [] rfl h.succeeded result hresult
    with hnone | hco
  · obtain ⟨e, he, hhandOff⟩ := h.handedOff
    exact absurd hhandOff (hnone e he)
  · exact hco

/-- The slot of the connection in the lobby: epoll reports the descriptor under it. -/
def slot (h : HandOff before m after rs ls) : ℕ := (h.joined.epoll h.socket).elim 0 (·.slot)

theorem serves (h : HandOff before m after rs ls) :
    Lobby.Serves h.slot h.socket true coReceiveFromSocket ls h.joined := by
  obtain ⟨slot, hserves⟩ := handleAction_serves (G := fun _ _ => True) h.parent h.socket h.plain
    h.lobby [] (h.reached.lacks h.fresh h.recvmsg) (allowed_of_forall fun _ _ _ => trivial) _
    h.accepted rfl
  have hslot : h.slot = slot := by
    rw [HandOff.slot, joined, hserves.epoll]
    rfl
  exact hslot ▸ hserves

/-- What has come to the handler when the lobby has woken up `n` times. -/
lemma processed (h : HandOff before m after rs ls) {n : ℕ}
    (hstays : ∀ e ∈ h.events n, NotReleased h.slot e) :
    ∃ w, Lobby.Processed h.slot h.socket coReceiveFromSocket ls n
      (handledMessages (h.events n)) w := by
  have hwaits : coReceiveFromSocket.Waits := trivial
  obtain ⟨-, -, hprocessed⟩ := Lobby.achieves_wakeUps hwaits n h.joined h.serves hstays
  exact ⟨_, hprocessed⟩

lemma stream_split (h : HandOff before m after rs ls) :
    readBytes rs ++ readBytes ls = framing.stream (before ++ [m]) ++ framing.stream after := by
  rw [h.stream, ← Framing.stream_append, List.append_assoc, List.singleton_append]

/-- The server has read beyond `m` what the lobby lacks. -/
lemma length_le (h : HandOff before m after rs ls) :
    (readBytes ls).length ≤ (framing.stream after).length ∧
      ((readBytes ls).length = (framing.stream after).length ↔
        (readBytes rs).length = (framing.stream (before ++ [m])).length) := by
  have hsum := congrArg List.length h.stream_split
  have hconsumed := h.consumed
  simp only [List.length_append] at hsum
  omega

/-- Where the lobby's reads are the stream of the messages, its coroutine delivers them if and only
if no read ends inside a payload. -/
lemma delivers_iff (h : HandOff before m after rs ls)
    (hafter : ∀ m ∈ after, m.payload.length < 256 ^ 8)
    (hread : (readBytes rs).length = (framing.stream (before ++ [m])).length) :
    Delivers coReceiveFromSocket ls after ↔ CutsNoPayload after 0 ls := by
  have hstream : readBytes ls = framing.stream after := (List.append_inj h.stream_split hread).2
  exact delivers_iff_cutsNoPayload (by simp) (by decide) hafter h.plain.1 (by simpa using hstream)
    h.window

/-- The handler gets what the coroutine delivers, if it has an error for the last message at
most. -/
lemma handled_eq (h : HandOff before m after rs ls) {n : ℕ} (hn : ls.length < n)
    (hstays : ∀ e ∈ h.events n, NotReleased h.slot e)
    (hdelivers : Delivers coReceiveFromSocket ls after)
    (haccepts : ∀ m ∈ after.dropLast, Lobby.Accepts m.content) :
    (handledMessages (h.events n)).map (·.content) = after.map (·.content) := by
  obtain ⟨w, hprocessed⟩ := h.processed hstays
  cases hprocessed with
  | armed hyields _ hwaits hleft _ =>
    rcases hleft with rfl | hle
    · exact hyields.eq_of_waits hwaits hdelivers
    · omega
  | @disarmed _ _ ms' m' hyields _ hmessages _ hlast =>
    rw [hmessages]
    obtain ⟨rest, hrest⟩ := hyields.isPrefix hdelivers
    cases rest with
    | nil => rw [← hrest, List.append_nil]
    | cons content rest =>
      have hmem : m'.content ∈ (after.map (·.content)).dropLast := by
        rw [← hrest, List.dropLast_append_of_ne_nil (List.cons_ne_nil _ _)]
        exact List.mem_append_left _ (List.mem_map_of_mem (by simp))
      rw [← List.map_dropLast] at hmem
      obtain ⟨m, hm, hcontent⟩ := List.mem_map.1 hmem
      exact absurd (hcontent ▸ haccepts m hm) hlast

/-- What the handler has got in full, the coroutine delivers, from reads that lack nothing. -/
lemma delivers_of_handled (h : HandOff before m after rs ls) {n : ℕ}
    (hstays : ∀ e ∈ h.events n, NotReleased h.slot e)
    (hhandled : (handledMessages (h.events n)).map (·.content) = after.map (·.content)) :
    (readBytes rs).length = (framing.stream (before ++ [m])).length ∧
      Delivers coReceiveFromSocket ls after ∧ ∀ m ∈ after.dropLast, Lobby.Accepts m.content := by
  obtain ⟨w, hprocessed⟩ := h.processed hstays
  obtain ⟨⟨co, rs', hyields⟩, haccepts⟩ := hprocessed.accepts
  have hle := hyields.frameBytes_le coReceiveFromSocket_ready
  have hroom : coReceiveFromSocket.room = 0 := rfl
  rw [frameBytes_of_content hhandled, hroom, Nat.zero_add] at hle
  refine ⟨h.length_le.2.1 (le_antisymm h.length_le.1 hle), ?_, fun m hm => ?_⟩
  · refine hyields.delivers coReceiveFromSocket_ready hhandled ?_
    rw [hroom, Nat.zero_add]
    exact h.length_le.1
  · apply haccepts
    rw [hhandled, ← List.map_dropLast]
    exact List.mem_map_of_mem hm

/-- The lobby that has woken up for all that there is to read has processed all messages after `m`,
and nothing else and in their order, if and only if the server has read nothing beyond `m`, no read
of the lobby ends inside a payload, and the handler has an error for the last of the messages at
most. -/
theorem processes_iff (h : HandOff before m after rs ls)
    (hafter : ∀ m ∈ after, m.payload.length < 256 ^ 8) {n : ℕ} (hn : ls.length < n)
    (hstays : ∀ e ∈ h.events n, NotReleased h.slot e) :
    (handledMessages (h.events n)).map (·.content) = after.map (·.content) ↔
      (readBytes rs).length = (framing.stream (before ++ [m])).length ∧
        CutsNoPayload after 0 ls ∧ ∀ m ∈ after.dropLast, Lobby.Accepts m.content := by
  constructor
  · intro hhandled
    obtain ⟨hread, hdelivers, haccepts⟩ := h.delivers_of_handled hstays hhandled
    exact ⟨hread, (h.delivers_iff hafter hread).1 hdelivers, haccepts⟩
  · rintro ⟨hread, hcuts, haccepts⟩
    exact h.handled_eq hn hstays ((h.delivers_iff hafter hread).2 hcuts) haccepts

end HandOff

/-! ### A client that joins a lobby and says "hi" -/

def joinMessage : SentMessage := { payload := ascii "\\join 1", padding := Vector.replicate 7 0 }

/-- The server with the control connection of lobby 1 in slot 0 and the client in slot 1. -/
def serverOf (co : ReceiveCo) : World LobbyManager where
  pool :=
    { object := fun slot => if slot = 0 then .ofSocket .toLobby 5
        else { connectionType := .toClient
               socketHandler := { socket := 6, receiveHandle := some co, socketStatus := .alive } }
      counter := 2
      lastNotIssuedIndex := 2 }
  epoll := fun _ => none
  results := {}
  nextPid := 2
  app := { lobbies := fun lobbyId => if lobbyId = 1 then some ⟨1, ⟨0⟩⟩ else none }

/-- What a lobby is going to get to which first a player comes, who does not get what the client
says, and then the client. -/
def lobbyResultsOf (ls : List RecvResult) : SysResults :=
  let name : SentMessage :=
    { payload := ascii "1", type := .lobbyId, padding := Vector.replicate 7 0 }
  let player : SentMessage :=
    { payload := ascii "\\socket", type := .socket, padding := Vector.replicate 7 0 }
  { recvmsg := [.received name.encode none, .received player.encode (some 8), .wouldBlock] ++ ls
    sendmsg := [some 100, some 100, none] }

/-- The lobby with the player. -/
def lobbyOf (ls : List RecvResult) : World Lobby :=
  ((Lobby.main 5 [.event 5, .network 0]).run (World.initial {} (lobbyResultsOf ls))).state

/-- The lobby that has accepted the client. -/
def joinedLobby (ls : List RecvResult) : World Lobby :=
  ((Lobby.handleAction ⟨{}, handOverMessage 6⟩).run (lobbyOf ls)).state

/-- All connections of a lobby are in slots that it has issued. -/
lemma Lobby.Reached.fresh_of_lt {socket : ℤ} {n : ℕ} {w : World Lobby} (h : Reached w)
    (hlast : w.pool.lastNotIssuedIndex ≤ n)
    (hlt : ∀ slot < n, (w.entry slot).socketHandler.socket ≠ socket) (slot : ℕ)
    (hinUse : (w.entry slot).connectionType ≠ .none) :
    (w.entry slot).socketHandler.socket ≠ socket := by
  refine hlt slot (lt_of_lt_of_le ?_ hlast)
  by_contra hle
  exact hinUse (h.hosts.unissued slot (not_lt.1 hle))

def joinRequest : ReceivedMessage := { status := .data, payload := ascii "\\join 1" }

/-- The server hands the client over. -/
lemma serverOf_handsOver (co : ReceiveCo) :
    let r := (Server.handleAction ⟨⟨1⟩, joinRequest⟩).run (serverOf co)
    r.value.isSome ∧ .handedOff joinRequest 1 0 ∈ r.events ∧
      Allowed TransfersSucceed [] r.events := by
  refine ⟨?_, ?_, ?_⟩
  · with_unfolding_all rfl
  · with_unfolding_all exact List.mem_cons_self
  · with_unfolding_all exact ⟨trivial, trivial, trivial, trivial⟩

/-- The server has got the request from one read, which contains some more bytes or none. -/
lemma exists_handOff (after : List SentMessage) (more : Bytes) {ls : List RecvResult}
    (hreached : Lobby.Reached (lobbyOf ls)) (hlast : (lobbyOf ls).pool.lastNotIssuedIndex ≤ 2)
    (hfresh : ∀ slot < 2, ((lobbyOf ls).entry slot).socketHandler.socket ≠ 6)
    (haccepted : ((Lobby.handleAction ⟨{}, handOverMessage 6⟩).run (lobbyOf ls)).value = some {})
    (hrecvmsg : (lobbyOf ls).results.recvmsg = ls)
    (hfit : (joinMessage.encode ++ more).length ≤ bufferSize)
    (hstream : more ++ readBytes ls = framing.stream after) (hplain : IsPlain ls)
    (hwindow : WindowsRespected coReceiveFromSocket ls) :
    ∃ h : HandOff [] joinMessage after [.received (joinMessage.encode ++ more) none] ls,
      h.socket = 6 ∧ h.joined = joinedLobby ls := by
  have hne : joinMessage.encode ++ more ≠ [] := List.append_ne_nil_of_left_ne_nil (by decide) _
  obtain ⟨hbounds, hheld⟩ := @ofRead_held (List.replicate bufferSize 0)
    (joinMessage.encode ++ more) 0 none (by simp) (by omega)
  rw [List.take_zero, List.nil_append] at hheld
  obtain ⟨message, p, hnext, -, -, hrest, hstatus, htype, hpayload, hsocket⟩ :=
    parseNext_of_frame hbounds rfl (by decide) hheld
  obtain rfl : message = joinRequest := by
    cases message
    simp_all [joinMessage, joinRequest, ofRead]
  have hresume : coReceiveFromSocket.resume [.received (joinMessage.encode ++ more) none] =
      ({ result := some joinRequest,
         co := some (.parsing p), pending := [], calls := [] } : Resumed).withCall
        ⟨bufferSize - 0, .received (joinMessage.encode ++ more) none⟩ := by
    rw [coReceiveFromSocket, resume_received hne, resume_of_yield hnext]
  obtain ⟨hreturned, hhandedOff, hsucceeded⟩ := serverOf_handsOver (.parsing p)
  exact ⟨{
    server := serverOf (.parsing p)
    source := ⟨1⟩
    lobby := lobbyOf ls
    parent := {}
    socket := 6
    resumptions := 1
    last := coReceiveFromSocket.resume [.received (joinMessage.encode ++ more) none]
    message := joinRequest
    locals := p
    resumed := by rw [ReceiveCo.resumes, hresume]; rfl
    result := by rw [hresume]; rfl
    suspended := by rw [hresume]; rfl
    pending := by rw [hresume]; rfl
    handle := by rw [hresume]; rfl
    content := rfl
    consumed := by simp [hrest, RecvResult.bytes]
    returned := hreturned
    handedOff := ⟨_, hhandedOff, trivial⟩
    succeeded := hsucceeded
    reached := hreached
    fresh := hreached.fresh_of_lt hlast hfresh
    accepted := haccepted
    recvmsg := hrecvmsg
    stream := by simp [RecvResult.bytes, hstream]
    plain := hplain
    window := hwindow }, rfl, by rw [HandOff.joined, joinedLobby]⟩

/-- "hi", as a chat message and then as one that means nothing to the lobby. -/
def chatMessage : SentMessage := { payload := ascii "\\msg hi", padding := Vector.replicate 7 0 }

/-- The lobby reads the first message with some of the header of the second one, and then the
rest. -/
def chatReads : List RecvResult :=
  [.received (chatMessage.encode ++ hiMessage.encode.take 5) none, .wouldBlock,
    .received (hiMessage.encode.drop 5) none]

/-- The server reads only the request, and the lobby then reads the two messages; it releases the
player. -/
theorem handOff_processes_hi :
    ∃ h : HandOff [] joinMessage [chatMessage, hiMessage]
        [.received (joinMessage.encode ++ []) none] chatReads,
      (handledMessages (h.events 4)).map (·.content) =
          [chatMessage, hiMessage].map (·.content) ∧
        .released 1 true ∈ h.events 4 := by
  have hplain : IsPlain chatReads := ⟨by decide, by decide⟩
  have hreached : Lobby.Reached (lobbyOf chatReads) := ⟨5, _, _, by decide +kernel, rfl⟩
  obtain ⟨h, hsocket, hjoined⟩ := exists_handOff [chatMessage, hiMessage] [] hreached
    (by decide +kernel) (by decide +kernel) (by decide +kernel) (by decide +kernel)
    (by decide) (by decide) hplain (windowsRespected_of_le coReceiveFromSocket_ready (by decide))
  have hslot : h.slot = 2 := by
    rw [HandOff.slot, hsocket, hjoined]
    decide +kernel
  have hstays : ∀ e ∈ h.events 4, NotReleased h.slot e := by
    rw [HandOff.events, hsocket, hjoined, hslot]
    decide +kernel
  have hreleased : .released 1 true ∈ h.events 4 := by
    rw [HandOff.events, hsocket, hjoined]
    decide +kernel
  have haccepts : Lobby.Accepts chatMessage.content := by with_unfolding_all rfl
  exact ⟨h, (h.processes_iff (by decide) (by decide) hstays).2
    ⟨by decide, by decide, List.forall_mem_singleton.2 haccepts⟩, hreleased⟩

/-- The server reads the request and "hi" together: "hi" is lost. -/
theorem handOff_loses_hi :
    ¬ ∀ (before : List SentMessage) (m : SentMessage) (after : List SentMessage)
      (rs ls : List RecvResult) (h : HandOff before m after rs ls) (n : ℕ),
        (∀ m ∈ after, m.payload.length < 256 ^ 8) → ls.length < n →
          (∀ e ∈ h.events n, NotReleased h.slot e) →
            (handledMessages (h.events n)).map (·.content) = after.map (·.content) := by
  intro hall
  have hnil : IsPlain [] := ⟨by decide, by decide⟩
  have hreached : Lobby.Reached (lobbyOf []) := ⟨5, _, _, by decide +kernel, rfl⟩
  obtain ⟨h, hsocket, hjoined⟩ := exists_handOff [hiMessage] hiMessage.encode hreached
    (by decide +kernel) (by decide +kernel) (by decide +kernel) (by decide +kernel)
    (by decide) (by simp) hnil (windowsRespected_of_le coReceiveFromSocket_ready (by decide))
  have hevents : h.events 1 = [] := by
    rw [HandOff.events, hsocket, hjoined]
    decide +kernel
  have hhandled := hall _ _ _ _ _ h 1 (by decide) (by decide) (by simp [hevents])
  rw [hevents] at hhandled
  exact absurd hhandled (by simp)

end BattleShips
