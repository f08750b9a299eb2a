import BattleShips.Application.Client
import BattleShips.Application.Lobby
import BattleShips.Application.OperationRules
import BattleShips.Application.Server
import BattleShips.Net.Broadcast
import BattleShips.Net.ConnectionTermination

/-!
# Rules for the handlers

The handlers of `Server`, `Lobby` and `Client` keep what the network engine keeps.
-/

namespace BattleShips

open Traced

variable {σ : Type} {G : List Event → Event → Prop} {InUse : ConnectionEntry → Prop}

/-- The assertion is about the connections only. -/
structure IgnoresApp (I : World σ → List Event → Prop) : Prop where
  state : ∀ {w w' tr}, w'.pool = w.pool → w'.results.recvmsg = w.results.recvmsg → I w tr → I w' tr
  attached : ∀ {w tr lobbyId slot pid}, I w tr → I w (tr ++ [.attached lobbyId slot pid])
  killed : ∀ {w tr pid}, I w tr → I w (tr ++ [.killed pid])
  handedOff : ∀ {w tr request lobbyId slot}, I w tr →
    I w (tr ++ [.handedOff request lobbyId slot])

/-! ### Chat messages -/

/-- Chat messages, in `Server` and in `Lobby`. -/
lemma ReleaseInvariant.executeChatMessage {I : World σ → List Event → Prop}
    (h : ReleaseInvariant G I InUse) (context : ActionContext) :
    Triple G I (executeChatMessage context) fun r w tr => I w tr ∧ r.actionStatus = .continue ∧
      r.connStatus = .keep ∧ r.userCode = none := by
  rw [BattleShips.executeChatMessage]
  cases parse context.receivedMessage.payload with
  | error e => exact .pure fun w tr hI => ⟨hI, rfl, rfl, rfl⟩
  | ok text =>
    exact Triple.bind (h.sendMessage _ _) fun _ => .pure fun w tr hI => ⟨hI, rfl, rfl, rfl⟩

/-- A chat message with a text is a broadcast of it to the clients, and one without does nothing. -/
lemma executeChatMessage_broadcast {P : World σ → List Event → Prop} {context : ActionContext}
    {t : Bytes} (ht : ∀ t', parse context.receivedMessage.payload = .ok t' → t' = t) :
    Effect G P (executeChatMessage context)
      (Broadcast { payload := t, type := .printable } .toClient (σ := σ)) := by
  have hR : Composable (Broadcast { payload := t, type := .printable } .toClient (σ := σ)) :=
    broadcast_composable (by decide)
  rw [BattleShips.executeChatMessage]
  cases hparse : parse context.receivedMessage.payload with
  | error e => exact .pure hR
  | ok t' =>
    obtain rfl := ht t' hparse
    exact .bind_of_forall hR (NetworkEngine.sendMessage_broadcast (by decide)) fun _ => .pure hR

/-! ### The server -/

/-- The request is one for the lobby: to create it, or to join it by its code. -/
def Named (request : ReceivedMessage) (lobbyId : ℤ) : Prop :=
  (Dispatcher.dispatch request).variant = .createLobby ∨
    ∃ code, JoinLobbyCode.parse request.payload = .ok code ∧ code.intCode = lobbyId

/-- What else an invariant needs for a server: handing a connection over to the lobby that is asked
for, if it is in the table, creating a lobby, and killing one after a failed transfer keep it. -/
structure ServerInvariant (G : List Event → Event → Prop)
    (I : World LobbyManager → List Event → Prop) (InUse : ConnectionEntry → Prop) : Prop
    extends PoolInvariant G I InUse where
  createLobby : ∀ S : Set ℕ, Triple G (fun w tr => I w tr ∧ ∀ s ∈ S, InUse (w.entry s))
    Server.createLobby fun _ w tr => I w tr ∧ ∀ s ∈ S, InUse (w.entry s)
  killLobby : ∀ (lobbyId : ℤ) (K : (ℕ → ConnectionEntry) → Prop) {tr destination source inUse},
    G tr (.transferFailed destination source inUse) →
      Triple G (fun w tr => I w tr ∧ K w.pool.object) (LobbyManager.killLobby lobbyId)
        fun _ w tr => I w tr ∧ K w.pool.object
  handedOff : ∀ {w tr request} {view : LobbyView}, I w tr → w.app.find view.lobbyId = .ok view →
    Named request view.lobbyId →
      I w (tr ++ [.handedOff request view.lobbyId view.controlConnection.slot])
  guards : GuardsTransfer G InUse

namespace ServerInvariant

variable {I : World LobbyManager → List Event → Prop}

lemma performTransfer (h : ServerInvariant G I InUse) {recipient : LobbyView}
    {context : ActionContext} (hnamed : Named context.receivedMessage recipient.lobbyId) :
    Triple G (fun w tr => (I w tr ∧ InUse (w.entry context.pendingView.slot)) ∧
        w.app.find recipient.lobbyId = .ok recipient)
      (Server.performTransfer recipient context) fun r w tr => I w tr ∧
        r.actionStatus = .continue ∧
          (r.connStatus = .release → InUse (w.entry context.pendingView.slot)) := by
  refine Triple.bind (Triple.emit (Q := fun _ w tr => I w tr ∧
    InUse (w.entry context.pendingView.slot)) fun w tr hI _ =>
      ⟨h.handedOff hI.1.1 hI.2 hnamed, hI.1.2⟩) fun _ => ?_
  refine (h.transfer h.guards recipient.controlConnection context.pendingView).bind
    fun result => ?_
  have hresult : ∀ w tr, (I w tr ∧ (result.sourceConnPreserved = false →
      InUse (w.entry context.pendingView.slot))) → I w tr ∧ ActionStatus.continue = .continue ∧
        ((if result.sourceConnPreserved then ConnectionStatus.keep else .release) = .release →
          InUse (w.entry context.pendingView.slot)) := by
    rintro w tr ⟨hI, hsource⟩
    refine ⟨hI, rfl, fun hrelease => hsource ?_⟩
    cases hpreserved : result.sourceConnPreserved with
    | false => rfl
    | true => simp [hpreserved] at hrelease
  refine Triple.ite (fun _ => .pure fun w tr hI => hresult w tr ⟨hI.1, hI.2.1⟩) fun hlost => ?_
  have hkill : (∃ tr destination source inUse, G tr (.transferFailed destination source inUse)) →
      Triple G (fun w tr => I w tr ∧ (result.sourceConnPreserved = false →
        InUse (w.entry context.pendingView.slot))) (LobbyManager.killLobby recipient.lobbyId)
          fun _ w tr => I w tr ∧ (result.sourceConnPreserved = false →
            InUse (w.entry context.pendingView.slot)) := by
    rintro ⟨tr, destination, source, inUse, hG⟩
    exact h.killLobby recipient.lobbyId (fun object => result.sourceConnPreserved = false →
      InUse (object context.pendingView.slot)) hG
  refine Triple.bind (Triple.pre (Triple.of_pre hkill) fun w tr hI => ?_) fun _ => .pure hresult
  exact ⟨hI.2.2 (by simpa using hlost), hI.1, hI.2.1⟩

/-- A lobby that has been created is in the table. -/
lemma createLobby_value :
    Triple G (fun _ _ => True) Server.createLobby fun r w _ => ∀ view, r = .ok view →
      w.app.find view.lobbyId = .ok view := by
  have hattach : ∀ pid view, Triple G (fun _ _ => True) (LobbyManager.attach pid view)
      fun r w _ => ∀ view, r = .ok view → w.app.find view.lobbyId = .ok view := by
    intro pid view
    refine Triple.bind (Triple.get (Q := fun w₀ w _ => w = w₀) fun w _ _ => rfl) fun w₀ => ?_
    refine Triple.bind (Triple.modify (Q := fun _ w _ => w.app = w₀.app) ?_) fun _ => ?_
    · rintro w tr rfl
      rfl
    dsimp only
    cases w₀.app.lobbies (generateConnCode (w₀.results.time.headD default)) with
    | some entry =>
      exact Triple.bind (Triple.emit (Q := fun _ _ _ => True) fun _ _ _ _ => trivial)
        fun _ => .pure fun w tr _ view hview => by cases hview
    | none =>
      refine Triple.bind (Triple.modify (Q := fun _ w _ => w.app = w₀.app.insert
        (generateConnCode (w₀.results.time.headD default)) ⟨pid, view⟩) fun w tr hw => by rw [← hw])
        fun _ => Triple.bind (Triple.emit (Q := fun _ w _ => w.app = w₀.app.insert
          (generateConnCode (w₀.results.time.headD default)) ⟨pid, view⟩) fun w tr hw _ => hw)
            fun _ => .pure fun w tr hw lobbyView hview => ?_
      obtain rfl := Except.ok.inj hview
      simp [hw, LobbyManager.find, LobbyManager.insert]
  refine Triple.bind (Q := fun _ _ _ => True) (fun _ _ _ _ _ _ => trivial) fun r => ?_
  cases r with
  | error e => exact .pure fun w tr _ view hview => by cases hview
  | ok spawned =>
    refine Triple.bind (Q := fun _ _ _ => True) (fun _ _ _ _ _ _ => trivial) fun r => ?_
    cases r with
    | error e => exact .pure fun w tr _ view hview => by cases hview
    | ok controlConnection =>
      refine (hattach spawned.pid controlConnection).bind fun r => ?_
      cases r with
      | error e => exact .pure fun w tr _ view hview => by cases hview
      | ok lobbyView => exact .pure fun w tr hw => hw

lemma handleAction (h : ServerInvariant G I InUse) :
    HandlerKeeps G I InUse Server.handleAction := by
  refine .of_inUse fun context => ?_
  rw [Server.handleAction]
  cases hvariant : filterVariant ServerAction.ofVariant
      (Dispatcher.dispatch context.receivedMessage).variant with
  | error e => exact .pure fun w tr hI => ⟨hI.1, rfl, nofun⟩
  | ok action =>
    cases action with
    | createLobby =>
      have hcreate : (Dispatcher.dispatch context.receivedMessage).variant = .createLobby := by
        revert hvariant
        cases (Dispatcher.dispatch context.receivedMessage).variant <;> decide
      refine (((h.createLobby {context.pendingView.slot}).and createLobby_value).pre
        fun w tr hI => ⟨⟨hI.1, fun s hs => by rw [Set.mem_singleton_iff.1 hs]; exact hI.2⟩,
          trivial⟩).bind fun r => ?_
      cases r with
      | error e => exact .pure fun w tr hI => ⟨hI.1.1, rfl, nofun⟩
      | ok lobbyView =>
        have hsend : Quiet (Server.initLobby lobbyView) :=
          (NetworkEngine.quiet_sendMessageImpl _ _).bind fun _ => .pure _
        refine Triple.bind (((h.quiet hsend fun object =>
          ∀ s ∈ ({context.pendingView.slot} : Set ℕ), InUse (object s)).and
            (hsend.app fun m => m.find lobbyView.lobbyId = .ok lobbyView)).pre
              fun w tr hI => ⟨hI.1, hI.2 lobbyView rfl⟩) fun r => ?_
        cases r with
        | some e => exact .pure fun w tr hI => ⟨hI.1.1, rfl, nofun⟩
        | none =>
          exact (h.performTransfer (.inl hcreate)).pre
            fun w tr hI => ⟨⟨hI.1.1, hI.1.2 _ rfl⟩, hI.2⟩
    | joinLobby =>
      change Triple G _ (Server.executeJoinLobby context) _
      rw [Server.executeJoinLobby]
      cases hparse : JoinLobbyCode.parse context.receivedMessage.payload with
      | error e => exact .pure fun w tr hI => ⟨hI.1, rfl, nofun⟩
      | ok code =>
        refine Triple.bind (Triple.get (Q := fun w₀ w tr => w = w₀ ∧ I w tr ∧
          InUse (w.entry context.pendingView.slot)) fun w tr hI => ⟨rfl, hI⟩) fun w => ?_
        cases hfind : w.app.find code.intCode with
        | error e => exact .pure fun w tr hI => ⟨hI.2.1, rfl, nofun⟩
        | ok lobbyView =>
          have hid : lobbyView.lobbyId = code.intCode := by
            obtain ⟨entry, -, rfl⟩ := LobbyManager.find_eq_ok.1 hfind
            rfl
          refine (h.performTransfer (.inr ⟨code, hparse, hid.symm⟩)).pre fun w' tr hI => ⟨hI.2, ?_⟩
          rw [hI.1, hid, hfind]
    | chatMessage =>
      exact (h.executeChatMessage context).conseq (fun w tr hI => hI.1) fun r w tr hI =>
        ⟨hI.1, hI.2.1, fun hrelease => by simp [hI.2.2.1] at hrelease⟩
    | generalAction =>
      refine (h.quiet (NetworkEngine.quiet_sendMessageImpl context.pendingView.slot _)
        fun object => InUse (object context.pendingView.slot)).bind fun r => ?_
      cases r with
      | none => exact .pure fun w tr hI => ⟨hI.1, rfl, nofun⟩
      | some e => exact .pure fun w tr hI => ⟨hI.1, rfl, fun _ => hI.2⟩

/-- An invariant of the connections alone. -/
lemma of_ignoresApp (h : PoolInvariant G I InUse) (hguard : GuardsTransfer G InUse)
    (happ : IgnoresApp I) :
    ServerInvariant G I InUse where
  toPoolInvariant := h
  guards := hguard
  handedOff hI _ _ := happ.handedOff hI
  killLobby lobbyId K _ _ _ _ _ := by
    refine Triple.bind Keeps.get fun w₀ => ?_
    cases w₀.app.lobbies lobbyId with
    | some entry => exact Triple.emit fun w tr hI _ => ⟨happ.killed hI.1, hI.2⟩
    | none =>
      refine Triple.bind (Triple.modify (Q := fun _ w tr => I w tr ∧ K w.pool.object)
        fun w tr hI => ⟨happ.state (w := w) rfl rfl hI.1, hI.2⟩) fun _ => ?_
      exact Triple.emit fun w tr hI _ => ⟨happ.killed hI.1, hI.2⟩
  createLobby S := by
    let P (w : World LobbyManager) (tr : List Event) : Prop := I w tr ∧ ∀ s ∈ S, InUse (w.entry s)
    have hstate : ∀ {w w' tr}, w'.pool = w.pool → w'.results.recvmsg = w.results.recvmsg →
        P w tr → P w' tr := fun hpool hrecvmsg hI =>
      ⟨happ.state hpool hrecvmsg hI.1, by simpa [World.entry, hpool] using hI.2⟩
    have hspawn : Keeps G P LobbyManager.spawnLobby := by
      refine Triple.bind (Keeps.get (I := P)) fun w₀ => ?_
      refine Triple.bind (Triple.modify (Q := fun _ => P) fun w tr => hstate (w := w) rfl rfl)
        fun _ => ?_
      cases w₀.results.spawn.headD .socketpairFailed with
      | socketpairFailed => exact Keeps.pure
      | forkFailed sv0 sv1 | spawned sv0 sv1 =>
        exact Triple.bind (Triple.modify (Q := fun _ => P) fun w tr => hstate (w := w) rfl rfl)
          fun _ => Keeps.pure
    have hattach : ∀ pid view, Keeps G P (LobbyManager.attach pid view) := by
      intro pid view
      refine Triple.bind (Keeps.get (I := P)) fun w₀ => ?_
      refine Triple.bind (Triple.modify (Q := fun _ => P) fun w tr => hstate (w := w) rfl rfl)
        fun _ => ?_
      dsimp only
      cases w₀.app.lobbies (generateConnCode (w₀.results.time.headD default)) with
      | none =>
        refine Triple.bind (Triple.modify (Q := fun _ => P) fun w tr => hstate (w := w) rfl rfl)
          fun _ => ?_
        exact Triple.bind (Triple.emit (Q := fun _ => P) fun w tr (hI : P w tr) _ =>
          ⟨happ.attached hI.1, hI.2⟩) fun _ => Keeps.pure
      | some entry =>
        exact Triple.bind (Triple.emit (Q := fun _ => P) fun w tr (hI : P w tr) _ =>
          ⟨happ.killed hI.1, hI.2⟩) fun _ => Keeps.pure
    refine Triple.bind hspawn fun r => ?_
    cases r with
    | error e => exact Keeps.pure
    | ok spawned =>
      refine Triple.bind ((h.attachSocket spawned.controlSocket (by decide) S).post
        fun _ w tr hI => (⟨hI.1, hI.2.1⟩ : P w tr)) fun r => ?_
      cases r with
      | error e => exact Keeps.pure
      | ok controlConnection =>
        refine Triple.bind (hattach spawned.pid controlConnection) fun r => ?_
        cases r with
        | error e => exact Keeps.pure
        | ok lobbyView => exact Keeps.pure

end ServerInvariant

/-! ### The lobby -/

/-- The handler of a lobby never asks for the release of a connection, or for an answer to the
user. -/
lemma ReleaseInvariant.lobbyHandleAction {I P : World Lobby → List Event → Prop}
    (h : ReleaseInvariant G I InUse) (context : ActionContext) (hP : ∀ w tr, P w tr → I w tr)
    (hlobbyId : ∀ lobbyId, Keeps G I (Traced.modify fun w => { w with app.lobbyId := lobbyId }))
    (hattach : ∀ socket, (Dispatcher.dispatch context.receivedMessage).variant = .acceptSocket →
      context.receivedMessage.socket = some socket →
        Triple G P (NetworkEngine.attachSocket socket .toClient) fun _ => I) :
    Triple G P (Lobby.handleAction context) fun r w tr => I w tr ∧ r.actionStatus = .continue ∧
      r.connStatus = .keep ∧ r.userCode = none := by
  have hkeep : ∀ error w tr, I w tr → I w tr ∧
      ({ connStatus := .keep, error := error } : ActionResult).actionStatus = .continue ∧
      ({ connStatus := .keep, error := error } : ActionResult).connStatus = .keep ∧
      ({ connStatus := .keep, error := error } : ActionResult).userCode = none :=
    fun _ w tr hI => ⟨hI, rfl, rfl, rfl⟩
  have hsend : ∀ view message, Keeps G I (NetworkEngine.sendMessageTo view message) :=
    fun view message => h.keeps_quiet (NetworkEngine.quiet_sendMessageImpl view.slot message)
  rw [Lobby.handleAction]
  cases hvariant : filterVariant LobbyAction.ofVariant
      (Dispatcher.dispatch context.receivedMessage).variant with
  | error e => exact .pure fun w tr hw => hkeep _ w tr (hP w tr hw)
  | ok action =>
    cases action with
    | acceptSocket =>
      have haccept : (Dispatcher.dispatch context.receivedMessage).variant = .acceptSocket := by
        revert hvariant
        cases (Dispatcher.dispatch context.receivedMessage).variant <;> decide
      change Triple G _ (Lobby.executeAcceptSocket context) _
      rw [Lobby.executeAcceptSocket]
      cases hsocket : context.receivedMessage.socket with
      | none =>
        refine (Triple.bind Keeps.get fun w => ?_).pre hP
        exact Triple.bind (hsend _ _) fun _ => .pure (hkeep _)
      | some socket =>
        refine (hattach socket haccept hsocket).bind fun r => ?_
        cases r with
        | error e => exact .pure (hkeep _)
        | ok clientView =>
          have hgreet : Keeps G I (Lobby.sendJoinLobbyMessage clientView) :=
            Triple.bind Keeps.get fun w => Triple.bind (hsend _ _) fun _ => Keeps.pure
          refine Triple.bind hgreet fun r => ?_
          cases r with
          | none => exact .pure (hkeep _)
          | some e =>
            exact Triple.bind (h.releaseConnectionByView clientView) fun _ => .pure (hkeep _)
    | setLobbyId =>
      exact (Triple.bind (hlobbyId _) fun _ => .pure (hkeep _)).pre hP
    | chatMessage =>
      exact (h.executeChatMessage context).pre hP

namespace PoolInvariant

lemma lobbyHandleAction {I : World Lobby → List Event → Prop} (h : PoolInvariant G I InUse)
    (happ : IgnoresApp I) (context : ActionContext) :
    Triple G I (Lobby.handleAction context) fun r w tr => I w tr ∧ r.actionStatus = .continue ∧
      r.connStatus = .keep ∧ r.userCode = none :=
  h.toReleaseInvariant.lobbyHandleAction context (fun _ _ => id)
    (fun _ => Triple.modify fun w tr => happ.state (w := w) rfl rfl) fun socket _ _ =>
      (h.attachSocket socket (by decide) ∅).conseq (fun _ _ hI => ⟨hI, nofun⟩)
        fun _ _ _ hI => hI.1

/-! ### The client -/

/-- The handler of a client never asks for the release of a connection. -/
lemma clientHandleAction {I : World Client → List Event → Prop} (h : PoolInvariant G I InUse)
    (hreset : Keeps G I (NetworkEngine.resetBaseConnection .toServer)) (context : ActionContext) :
    Triple G I (Client.handleAction context) fun r w tr => I w tr ∧ r.actionStatus = .continue ∧
      r.connStatus = .keep := by
  have hprint : ∀ line, Keeps G I (emit (.printed line)) :=
    fun line => Triple.emit fun w tr hI _ => h.silent trivial hI
  have hfilter : ∀ variant, Triple G I (Client.filterAndExecute variant context) fun r w tr =>
      I w tr ∧ r.actionStatus = .continue ∧ r.connStatus = .keep := by
    intro variant
    rw [Client.filterAndExecute]
    cases filterVariant ClientAction.ofVariant variant with
    | error e => exact .pure fun w tr hI => ⟨hI, rfl, rfl⟩
    | ok action =>
      cases action with
      | printMessage =>
        exact Triple.bind (hprint _) fun _ => .pure fun w tr hI => ⟨hI, rfl, rfl⟩
      | quit => exact Triple.bind (hprint _) fun _ => .pure fun w tr hI => ⟨hI, rfl, rfl⟩
  rw [Client.handleAction]
  cases (Dispatcher.dispatch context.receivedMessage).scope with
  | broadcast =>
    have hinput : Keeps G I (Client.sendInputToServer context.receivedMessage) :=
      Triple.bind Keeps.get fun w => Triple.bind
        (h.keeps_quiet (NetworkEngine.quiet_sendMessageImpl _ _)) fun _ => Keeps.pure
    refine Triple.bind hinput fun r => ?_
    cases r with
    | none => exact .pure fun w tr hI => ⟨hI, rfl, rfl⟩
    | some e =>
      refine Triple.bind hreset fun r => ?_
      cases r with
      | none => exact .pure fun w tr hI => ⟨hI, rfl, rfl⟩
      | some e => exact Triple.stop
  | none | «local» | network => exact hfilter _

end PoolInvariant

/-- A handler that always keeps its connection. -/
lemma HandlerKeeps.of_keep {σ : Type} {I : World σ → List Event → Prop}
    {handleAction : ActionContext → EngineM σ ActionResult}
    (h : ∀ context, Triple G I (handleAction context) fun r w tr => I w tr ∧
      r.actionStatus = .continue ∧ r.connStatus = .keep) : HandlerKeeps G I InUse handleAction :=
  .of_inUse fun context => (h context).conseq (fun _ _ hI => hI.1) fun r w tr hI =>
    ⟨hI.1, hI.2.1, fun hrelease => by simp [hI.2.2] at hrelease⟩

/-! ### Pending work -/

lemma pendingWork_ignoresApp (slot n : ℕ) :
    IgnoresApp fun (w : World σ) (_ : List Event) => w.pendingWork slot ≤ n where
  state hpool hrecvmsg hw := by
    rwa [World.pendingWork, World.entry, hpool, hrecvmsg]
  attached := id
  killed := id
  handedOff := id

lemma setupClient_pendingWork (slot slot' n : ℕ) :
    Keeps G (fun (w : World σ) _ => w.pendingWork slot ≤ n) (setupClient slot') := by
  let P (w : World σ) (_ : List Event) : Prop := w.pendingWork slot ≤ n
  have hupdate : ∀ (w : World σ) (f : SocketHandler → SocketHandler),
      (∀ h, (f h).receiveHandle = h.receiveHandle) → w.pendingWork slot ≤ n →
        (w.updateHandler slot' f).pendingWork slot ≤ n := by
    intro w f hf hw
    simp only [World.pendingWork, World.entry, World.updateHandler_pool,
      ObjectPool.setObject_object] at hw ⊢
    by_cases hslot : slot = slot'
    · subst hslot
      rwa [Function.update_self, hf]
    · rwa [Function.update_of_ne hslot]
  refine Triple.bind (Keeps.get (I := P)) fun w => ?_
  refine Triple.bind (Triple.modify (Q := fun _ => P) fun w tr hw => hw) fun _ => ?_
  cases w.results.connect.headD .socketFailed with
  | socketFailed =>
    exact Triple.bind (Triple.modify (Q := fun _ => P) fun w tr hw =>
      hupdate w _ (fun _ => rfl) hw) fun _ => Keeps.pure
  | connectFailed socket | connected socket =>
    exact Triple.bind (Triple.modify (Q := fun _ => P) fun w tr hw =>
      hupdate (w.openDescriptors [socket] false) _ (fun _ => rfl) hw) fun _ => Keeps.pure

/-- The handlers of the three applications add nothing to what there is to receive, so that
`process_connection` finishes with each of them. -/
theorem handleAction_keepsPendingWork : KeepsPendingWork Server.handleAction ∧
    KeepsPendingWork Lobby.handleAction ∧ KeepsPendingWork Client.handleAction := by
  have hpool : ∀ {σ : Type} slot n, PoolInvariant (fun _ _ => True)
      (fun (w : World σ) _ => w.pendingWork slot ≤ n) fun _ => True := pendingWork_invariant
  refine ⟨fun slot n context => ?_, fun slot n context => ?_, fun slot n context => ?_⟩
  · exact ((ServerInvariant.of_ignoresApp (hpool slot n) (guardsTransfer_true _)
      (pendingWork_ignoresApp slot n)).handleAction context).conseq
        (fun w tr hw => ⟨⟨hw, trivial⟩, [], trivial⟩) fun r w tr hw => hw.1
  · exact ((hpool slot n).lobbyHandleAction (pendingWork_ignoresApp slot n) context).post
      fun r w tr hw => hw.1
  · have hset : Keeps (fun _ _ => True) (fun (w : World Client) _ => w.pendingWork slot ≤ n)
        (NetworkEngine.setConnectionType .toServer 0) := by
      refine Triple.modify fun w tr hw => ?_
      simp only [World.pendingWork, World.entry, World.updateEntry_pool,
        ObjectPool.setObject_object] at hw ⊢
      by_cases hslot : slot = 0
      · subst hslot
        rwa [Function.update_self]
      · rwa [Function.update_of_ne hslot]
    refine ((hpool slot n).clientHandleAction (Triple.bind (Triple.bind
      (setupClient_pendingWork slot 0 n) fun r => ?_) fun _ => Keeps.pure) context).post
        fun r w tr hw => hw.1
    cases r with
    | some e => exact Keeps.pure
    | none => exact Triple.bind hset fun _ => Keeps.pure

end BattleShips
