import BattleShips.Application.HandlerRules
import BattleShips.Net.ReceiveRuns

/-!
# A lobby processes a connection

A lobby wakes up for a connection when epoll reports its descriptor. The worker then takes messages
from the receive coroutine until there are no more, and arms the descriptor again; or until the
handler has an error for one of them, after which it keeps the connection without arming it, so
that the lobby does not hear of it again.
-/

namespace BattleShips

open Traced

variable {σ α β : Type}

/-! ### What leaves the connections alone -/

/-- The connection in the slot is not released. -/
def NotReleased (slot : ℕ) : Event → Prop
  | .released slot' _ => slot' ≠ slot
  | _ => True

instance (slot : ℕ) : DecidablePred (NotReleased slot) := fun e =>
  match e with
  | .released _ _ => inferInstanceAs (Decidable (_ ≠ _))
  | .acquired _ | .exhausted | .sent _ _ _ | .received _ _ _ | .handled _ _ | .acceptFailed _
  | .handedOff _ _ _ | .transferFailed _ _ _ | .recoverFailed _ | .attached _ _ _ | .killed _
  | .printed _ => isTrue trivial

/-- The assertion is about the connections, what is armed and what there is to read. -/
def AboutConnections (P : World σ → Prop) : Prop :=
  ∀ {w w'}, w'.pool = w.pool → w'.epoll = w.epoll → w'.results.recvmsg = w.results.recvmsg →
    P w → P w'

/-- Of the connections, it is about the one in the slot, and other connections can be released. -/
structure AboutConnection (slot : ℕ) (P : World σ → Prop) : Prop where
  connections : AboutConnections P
  release : ∀ {w index}, index ≠ slot → (w.entry index).connectionType ≠ .none → P w →
    ((resetAndRelease index).run w).value = some ⟨⟩ ∧ P ((resetAndRelease index).run w).state

/-- Unless it releases the connection in the slot, the program returns and hands no message to the
handler. -/
def HandlesNothing (slot : ℕ) (P : World σ → Prop) (m : EngineM σ α) (Q : α → World σ → Prop) :
    Prop :=
  Achieves (NotReleased slot) P m fun a es w => Q a w ∧ handledMessages es = []

/-- And it keeps `P`. -/
def Steady (slot : ℕ) (P : World σ → Prop) (m : EngineM σ α) (Q : α → Prop) : Prop :=
  HandlesNothing slot P m fun a w => Q a ∧ P w

@[simp] lemma handledMessages_nil : handledMessages [] = [] := rfl

@[simp] lemma handledMessages_append (es es' : List Event) :
    handledMessages (es ++ es') = handledMessages es ++ handledMessages es' :=
  List.filterMap_append

section Steady

variable {slot : ℕ} {P : World σ → Prop} {m : EngineM σ α} {Q : α → Prop} {R : β → Prop}

lemma HandlesNothing.pure {a : α} {S : α → World σ → Prop} (h : ∀ w, P w → S a w) :
    HandlesNothing slot P (Pure.pure a : EngineM σ α) S := Achieves.pure fun w hw => ⟨h w hw, rfl⟩

lemma HandlesNothing.get {S : World σ → World σ → Prop} (h : ∀ w, P w → S w w) :
    HandlesNothing slot P (Traced.get : EngineM σ _) S := Achieves.get fun w hw => ⟨h w hw, rfl⟩

lemma HandlesNothing.modify {f : World σ → World σ} {S : PUnit → World σ → Prop}
    (h : ∀ w, P w → S ⟨⟩ (f w)) : HandlesNothing slot P (Traced.modify f : EngineM σ _) S :=
  Achieves.modify fun w hw => ⟨h w hw, rfl⟩

lemma HandlesNothing.emit {e : Event} {S : PUnit → World σ → Prop} (he : e.message = none)
    (h : ∀ w, P w → S ⟨⟩ w) : HandlesNothing slot P (Traced.emit e : EngineM σ _) S :=
  Achieves.emit fun w hw _ => ⟨h w hw, by simp [handledMessages, he]⟩

lemma HandlesNothing.pre {P' : World σ → Prop} {S : α → World σ → Prop}
    (h : HandlesNothing slot P m S) (hP : ∀ w, P' w → P w) : HandlesNothing slot P' m S :=
  Achieves.pre h hP

lemma HandlesNothing.bind {f : α → EngineM σ β} {S : α → World σ → Prop}
    {T : β → World σ → Prop} (hm : HandlesNothing slot P m S)
    (hf : ∀ a, HandlesNothing slot (S a) (f a) T) : HandlesNothing slot P (m >>= f) T := by
  refine Achieves.bind hm fun a es => ?_
  rintro w ⟨ha, hes⟩ hG
  obtain ⟨b, hvalue, hb, hes'⟩ := hf a w ha hG
  exact ⟨b, hvalue, hb, by rw [handledMessages_append, hes, hes']; rfl⟩

lemma HandlesNothing.ite {c : Prop} [Decidable c] {m' : EngineM σ α} {S : α → World σ → Prop}
    (h : c → HandlesNothing slot P m S) (h' : ¬ c → HandlesNothing slot P m' S) :
    HandlesNothing slot P (if c then m else m') S := Achieves.ite h h'

lemma Steady.pure {a : α} (h : Q a) : Steady slot P (Pure.pure a : EngineM σ α) Q :=
  HandlesNothing.pure fun _ hw => ⟨h, hw⟩

lemma Steady.bind {f : α → EngineM σ β} (hm : Steady slot P m Q)
    (hf : ∀ a, Q a → Steady slot P (f a) R) : Steady slot P (m >>= f) R :=
  HandlesNothing.bind hm fun a w hw => hf a hw.1 w hw.2

lemma Steady.achieves (h : Steady slot P m Q) : Achieves (NotReleased slot) P m
    fun a es w => (Q a ∧ P w) ∧ handledMessages es = [] := h

lemma Steady.get : Steady slot P (Traced.get : EngineM σ _) fun _ => True :=
  HandlesNothing.get fun _ hw => ⟨trivial, hw⟩

lemma Steady.modify (hP : AboutConnections P) {f : World σ → World σ}
    (hf : ∀ w, (f w).pool = w.pool ∧ (f w).epoll = w.epoll ∧
      (f w).results.recvmsg = w.results.recvmsg) :
    Steady slot P (Traced.modify f : EngineM σ _) fun _ => True :=
  HandlesNothing.modify fun w hw => ⟨trivial, hP (hf w).1 (hf w).2.1 (hf w).2.2 hw⟩

lemma Steady.emit {e : Event} (he : e.message = none) :
    Steady slot P (Traced.emit e : EngineM σ _) fun _ => True :=
  HandlesNothing.emit he fun _ hw => ⟨trivial, hw⟩

/-- The release of the connection is no matter here. -/
lemma HandlesNothing.resetAndRelease_self {S : PUnit → World σ → Prop} :
    HandlesNothing slot P (resetAndRelease slot) S := by
  intro w _ hG
  obtain ⟨⟨room, hevents⟩, -⟩ := resetAndRelease_run slot w
  rw [hevents] at hG
  exact absurd rfl (hG _ List.mem_cons_self)

/-- Another connection is released. -/
lemma AboutConnection.resetAndRelease (hP : AboutConnection slot P) (index : ℕ) :
    HandlesNothing slot (fun w => P w ∧ (w.entry index).connectionType ≠ .none)
      (resetAndRelease index) fun _ w => P w := by
  rintro w ⟨hw, hinUse⟩ hG
  obtain ⟨⟨room, hevents⟩, -⟩ := resetAndRelease_run index w
  rw [hevents] at hG ⊢
  have hne : index ≠ slot := hG _ List.mem_cons_self
  obtain ⟨hvalue, hw'⟩ := hP.release hne hinUse hw
  exact ⟨⟨⟩, hvalue, hw', rfl⟩

lemma HandlesNothing.releaseConnection {S : PUnit → World σ → Prop} :
    HandlesNothing slot P (NetworkEngine.releaseConnection slot) S := by
  have hctl : HandlesNothing slot P (epollCtl .del slot) fun _ _ => True :=
    fun w _ _ => ⟨_, rfl, trivial, rfl⟩
  have hremove : HandlesNothing slot P (removeSocket slot) fun _ _ => True := by
    refine hctl.bind fun success => ?_
    cases success with
    | true => exact .pure fun _ _ => trivial
    | false => exact .pure fun _ _ => trivial
  have hunsubscribe :
      HandlesNothing slot P (NetworkEngine.unsubscribeFromEvents slot) fun _ _ => True :=
    hremove.bind fun _ => .pure fun _ _ => trivial
  exact hunsubscribe.bind fun _ => .resetAndRelease_self

lemma Steady.sendMessageImpl (hP : AboutConnections P) (index : ℕ) (message : OutgoingMessage) :
    Steady slot P (NetworkEngine.sendMessageImpl index message) fun _ => True := by
  have hsend : Steady slot P (sendMessage index message) fun _ => True :=
    Steady.bind .get fun _ _ => Steady.bind (.modify hP fun _ => ⟨rfl, rfl, rfl⟩) fun _ _ =>
      Steady.bind (.emit rfl) fun _ _ => .pure trivial
  exact Steady.bind hsend fun _ _ => .pure trivial

/-- A broadcast releases the connections that it does not reach. -/
lemma Steady.sendMessageLoop (hP : AboutConnection slot P) (message : OutgoingMessage)
    (filter : ConnectionMeta → Bool) (indices : List ℕ) (report : DeliveryReport) :
    Steady slot P (NetworkEngine.sendMessageLoop message filter indices report)
      fun _ => True := by
  induction indices generalizing report with
  | nil => exact .pure trivial
  | cons index indices ih =>
    have hinUse : AboutConnections fun w : World σ =>
        P w ∧ (w.entry index).connectionType ≠ .none := by
      intro w w' hpool hepoll hrecvmsg h
      refine ⟨hP.connections hpool hepoll hrecvmsg h.1, ?_⟩
      rw [World.entry, hpool]
      exact h.2
    refine HandlesNothing.bind (S := fun w₀ w => w₀ = w ∧ P w)
      (.get fun w hw => ⟨rfl, hw⟩) fun w₀ => ?_
    refine .ite (fun haccepts => ?_) fun _ => (ih report).pre fun w h => h.2
    refine HandlesNothing.pre (P := fun w => P w ∧ (w.entry index).connectionType ≠ .none) ?_
      fun w h => ⟨h.2, h.1 ▸ haccepts.1⟩
    refine HandlesNothing.bind (Steady.sendMessageImpl hinUse index message) fun r => ?_
    cases r with
    | none => exact (ih _).pre fun w h => h.2.1
    | some e =>
      exact HandlesNothing.bind ((hP.resetAndRelease index).pre fun w h => h.2) fun _ => ih _

/-- A result whose connection is not released. -/
lemma Steady.concludeMessage (hP : AboutConnections P) (result : ActionResult) :
    Steady slot P (NetworkEngine.concludeMessage slot result)
      fun _ => result.connStatus ≠ .release := by
  have hanswer : Steady slot P (NetworkEngine.answerUser slot result.userCode) fun _ => True := by
    cases result.userCode with
    | none => exact .pure trivial
    | some code => exact .sendMessageImpl hP slot _
  exact Steady.bind hanswer fun _ _ => .ite (fun _ => .releaseConnection) fun hkeep =>
    Steady.pure hkeep

end Steady

namespace Lobby

/-! ### The handler -/

/-- The handler has no error for a message of this type and with this payload: a chat message with
a text, or one of those that the server sends. -/
def Accepts (content : MessageType × Bytes) : Prop :=
  match LobbyAction.ofVariant
      (Dispatcher.dispatch { type := content.1, payload := content.2 }).variant with
  | none => False
  | some .chatMessage => (parse content.2).isOk
  | some .acceptSocket | some .setLobbyId => True

/-- The handler keeps the connection, with an error or without. -/
lemma steady_handleAction {slot : ℕ} {P : World Lobby → Prop} (hP : AboutConnection slot P)
    (view : ConnectionView) {message : ReceivedMessage} (hsocket : message.socket = none) :
    Steady slot P (handleAction ⟨view, message⟩) fun r => r.actionStatus = .continue ∧
      r.connStatus = .keep ∧ r.userCode = none ∧ (r.error = none ↔ Accepts message.content) := by
  have hdispatch : Dispatcher.dispatch
      { type := message.content.1, payload := message.content.2 } = Dispatcher.dispatch message :=
    Dispatcher.dispatch_congr rfl rfl
  rw [handleAction, Accepts, hdispatch, filterVariant]
  cases LobbyAction.ofVariant (Dispatcher.dispatch message).variant with
  | none => exact .pure ⟨rfl, rfl, rfl, by simp⟩
  | some action =>
    cases action with
    | acceptSocket =>
      change Steady slot P (executeAcceptSocket _) _
      simp only [executeAcceptSocket, hsocket]
      exact Steady.bind .get fun w _ => Steady.bind (.sendMessageImpl hP.connections _ _)
        fun _ _ => .pure ⟨rfl, rfl, rfl, by simp⟩
    | setLobbyId =>
      exact Steady.bind (.modify hP.connections fun _ => ⟨rfl, rfl, rfl⟩) fun _ _ =>
        .pure ⟨rfl, rfl, rfl, by simp⟩
    | chatMessage =>
      change Steady slot P (executeChatMessage _) _
      rw [executeChatMessage]
      change Steady slot P _ fun r => _ ∧ _ ∧ _ ∧ (_ ↔ (parse message.payload).isOk = true)
      cases parse message.payload with
      | error e => exact .pure ⟨rfl, rfl, rfl, by simp [Except.isOk, Except.toBool]⟩
      | ok text =>
        exact Steady.bind (Steady.bind .get fun w _ => .sendMessageLoop hP _ _ _ _) fun _ _ =>
          .pure ⟨rfl, rfl, rfl, by simp [Except.isOk, Except.toBool]⟩

/-! ### A connection -/

/-- The connection in the slot, with its descriptor armed or not, its coroutine and the results of
`recvmsg` to come. No other connection has the descriptor, and the pool is as in every run, so that
other connections can be released. -/
structure Serves (slot : ℕ) (socket : ℤ) (armed : Bool) (co : ReceiveCo) (rs : List RecvResult)
    (w : World Lobby) : Prop extends w.PoolSound where
  le : w.pool.lastNotIssuedIndex ≤ ringBufferSize + 1
  descriptor : (w.entry slot).socketHandler.socket = socket
  others : ∀ index ≠ slot, (w.entry index).connectionType ≠ .none →
    (w.entry index).socketHandler.socket ≠ socket
  alive : (w.entry slot).socketHandler.isSocketAlive
  epoll : w.epoll socket = some ⟨slot, armed⟩
  receiveCo : w.receiveCo slot = co
  recvmsg : w.results.recvmsg = rs
  plain : co.Plain ∧ IsPlain rs

section Connection

variable {slot : ℕ} {socket : ℤ} {armed : Bool} {co : ReceiveCo} {rs : List RecvResult}

lemma Serves.connections : AboutConnections (Serves slot socket armed co rs) := by
  intro w w' hpool hepoll hrecvmsg h
  have hentry : ∀ index, w'.entry index = w.entry index := fun index => by
    rw [World.entry, hpool, World.entry]
  refine ⟨h.toPoolSound.same hpool, hpool ▸ h.le, ?_, fun index hne => ?_, ?_, hepoll ▸ h.epoll, ?_,
    hrecvmsg.trans h.recvmsg, h.plain⟩
  · rw [hentry]
    exact h.descriptor
  · rw [hentry]
    exact h.others index hne
  · rw [hentry]
    exact h.alive
  · rw [World.receiveCo, hentry]
    exact h.receiveCo

/-- Another connection is released: it has another descriptor. -/
lemma Serves.release {index : ℕ} {w : World Lobby} (h : Serves slot socket armed co rs w)
    (hne : index ≠ slot) (hinUse : (w.entry index).connectionType ≠ .none) :
    ((resetAndRelease index).run w).value = some ⟨⟩ ∧
      Serves slot socket armed co rs ((resetAndRelease index).run w).state := by
  have hvalue := h.release_returns h.le (h.type_ne_none h.alive) hne hinUse
  obtain ⟨room, hretired⟩ : ∃ room,
      w.Retired index room ((resetAndRelease index).run w).state :=
    triple_resetAndRelease (G := fun _ _ => True) (P := fun w₀ _ => w₀ = w)
      (Q := fun _ w' _ => ∃ room, w.Retired index room w')
      (fun w₀ _ room w' heq hretired _ => ⟨room, heq ▸ hretired⟩) w [] rfl
      (allowed_of_forall fun _ _ _ => trivial) _ hvalue
  have hentry := hretired.entry_of_ne hne.symm
  refine ⟨hvalue, h.toPoolSound.retire hinUse hretired, hretired.lastNotIssuedIndex ▸ h.le, ?_,
    fun s hs hsInUse => ?_, ?_, ?_, ?_, ?_, h.plain⟩
  · rw [hentry]
    exact h.descriptor
  · rcases eq_or_ne s index with rfl | hother
    · rw [hretired.entry_self] at hsInUse
      exact absurd rfl hsInUse
    · rw [hretired.entry_of_ne hother] at hsInUse ⊢
      exact h.others s hs hsInUse
  · rw [hentry]
    exact h.alive
  · rw [resetAndRelease_epoll (h.others index hne hinUse)]
    exact h.epoll
  · rw [World.receiveCo, hentry]
    exact h.receiveCo
  · rw [hretired.results]
    exact h.recvmsg

lemma Serves.aboutConnection : AboutConnection slot (Serves slot socket armed co rs) where
  connections := Serves.connections
  release hne hinUse h := h.release hne hinUse

/-- The coroutine is resumed and does not return. -/
lemma achieves_getMessage :
    Achieves (NotReleased slot) (Serves slot socket armed co rs) (getMessage slot)
      fun received es w => handledMessages es = [] ∧ ∃ message co', received = some message ∧
        (co.resume rs).GoesOn rs message co' ∧
          Serves slot socket armed co' (co.resume rs).pending w := by
  intro w h _
  obtain ⟨message, co', hgoes⟩ := resume_goesOn h.plain.1 h.plain.2
  have hresume : (w.receiveCo slot).resume w.results.recvmsg = co.resume rs := by
    rw [h.receiveCo, h.recvmsg]
  refine ⟨(co.resume rs).result, ?_, rfl, message, co', hgoes.result, hgoes, ?_⟩
  · rw [← hresume]
    rfl
  · obtain ⟨hevents, hrecvmsg, hco, -⟩ := getMessage_run slot w
    have hstatus : (co.resume rs).result.any (fun m => m.status = .disconnected) = false := by
      rw [hgoes.result]
      rcases hgoes.status with ⟨hdata, -⟩ | ⟨hblock, -⟩
      · simp [hdata]
      · simp [hblock]
    have hpool : ((getMessage slot).run w).state.pool =
        (w.updateHandler slot ({ · with receiveHandle := some co' })).pool := by
      rw [← hresume] at hstatus
      have hco' := hresume ▸ hgoes.co
      simp only [World.receiveCo] at hstatus hco'
      simp [getMessage, Outcome.andThen, World.entry] at hstatus hco' ⊢
      simp [hstatus, hco']
    have hself : ((getMessage slot).run w).state.entry slot = { w.entry slot with
        socketHandler := { (w.entry slot).socketHandler with receiveHandle := some co' } } := by
      simp [World.entry, hpool]
    have hother : ∀ index ≠ slot, ((getMessage slot).run w).state.entry index = w.entry index :=
      fun index hne => by simp [World.entry, hpool, hne]
    refine ⟨(h.toPoolSound.receive slot (some co') w.results.recvmsg).same hpool, ?_, ?_,
      fun index hne => ?_, ?_, h.epoll, ?_, ?_, hgoes.plain⟩
    · rw [hpool]
      exact h.le
    · rw [hself]
      exact h.descriptor
    · rw [hother index hne]
      exact h.others index hne
    · rw [hself]
      exact h.alive
    · rw [hco, hresume, hgoes.co]
      rfl
    · rw [hrecvmsg, hresume]

lemma achieves_epollCtl :
    Achieves (NotReleased slot) (Serves slot socket armed co rs) (epollCtl .mod slot)
      fun success es w => handledMessages es = [] ∧
        (success = true → Serves slot socket true co rs w) := by
  refine fun w h _ => ⟨_, rfl, rfl, fun hsuccess => ?_⟩
  refine { h with toPoolSound := h.toPoolSound.same rfl, epoll := ?_ }
  rw [← h.descriptor]
  exact (congrFun (if_pos hsuccess) _).trans (Function.update_self ..)

/-- There is nothing more to read: the descriptor is armed again, or the connection goes. -/
lemma achieves_rearmConnection :
    Achieves (NotReleased slot) (Serves slot socket armed co rs)
      (NetworkEngine.rearmConnection slot) fun r es w => handledMessages es = [] ∧
        (r.connStatus = .release ∨ (r = { actionStatus := .terminate } ∧
          Serves slot socket true co rs w)) := by
  have hrearm : Achieves (NotReleased slot) (Serves slot socket armed co rs) (rearmSocket slot)
      fun r es w => handledMessages es = [] ∧ (r = none → Serves slot socket true co rs w) := by
    refine Achieves.bind achieves_epollCtl fun success es => ?_
    cases success with
    | true => exact .pure fun w ⟨hes, h⟩ => ⟨by simpa using hes, fun _ => h rfl⟩
    | false => exact .pure fun w ⟨hes, h⟩ => ⟨by simpa using hes, fun hr => by cases hr⟩
  refine Achieves.bind hrearm fun r es => ?_
  cases r with
  | none => exact .pure fun w ⟨hes, h⟩ => ⟨by simpa using hes, .inr ⟨rfl, h rfl⟩⟩
  | some e => exact .pure fun w ⟨hes, h⟩ => ⟨by simpa using hes, .inl rfl⟩

/-! ### A message -/

lemma achieves_callHandler {message : ReceivedMessage} (hsocket : message.socket = none) :
    Achieves (NotReleased slot) (Serves slot socket armed co rs)
      (NetworkEngine.callHandler handleAction slot message) fun r es w =>
        handledMessages es = [message] ∧ Serves slot socket armed co rs w ∧
          r.actionStatus = .continue ∧ r.connStatus = .keep ∧ r.userCode = none ∧
            (r.error = none ↔ Accepts message.content) := by
  intro w h hG
  obtain ⟨r, hvalue, ⟨hr, hw⟩, hes⟩ := steady_handleAction Serves.aboutConnection ⟨slot⟩ hsocket
    w h fun e he => hG e (List.mem_cons_of_mem _ (mem_events_bind he))
  have hrun : (NetworkEngine.callHandler handleAction slot message).run w =
      ⟨some r, ((handleAction ⟨⟨slot⟩, message⟩).run w).state,
        .received slot (w.entry slot).connectionType message ::
          (((handleAction ⟨⟨slot⟩, message⟩).run w).events ++ [.handled slot r])⟩ := by
    simp [NetworkEngine.callHandler, Outcome.andThen, hvalue]
  rw [hrun]
  refine ⟨r, rfl, ?_, hw, hr⟩
  change message :: handledMessages (_ ++ _) = _
  rw [handledMessages_append, hes]
  rfl

/-- A turn of the loop: the coroutine yields a message, and the handler takes it, without an error
or with one; or there is nothing more to read, and the descriptor is armed again. -/
inductive Turn (slot : ℕ) (socket : ℤ) (co : ReceiveCo) (rs : List RecvResult)
    (next : Except Error ActionResult) (ms : List ReceivedMessage) (w : World Lobby) : Prop
  | message {m : ReceivedMessage} {co' : ReceiveCo} (goes : (co.resume rs).GoesOn rs m co')
      (data : m.status = .data) (messages : ms = [m])
      (serves : Serves slot socket false co' (co.resume rs).pending w)
      (next : (∃ r, next = .ok r ∧ r.actionStatus = .continue ∧ Accepts m.content) ∨
        ∃ e, next = .error e ∧ ¬ Accepts m.content)
  | pause {m : ReceivedMessage} {co' : ReceiveCo} (goes : (co.resume rs).GoesOn rs m co')
      (wouldBlock : m.status = .wouldBlock) (messages : ms = [])
      (serves : Serves slot socket true co' (co.resume rs).pending w)
      (next : ∃ r, next = .ok r ∧ r.actionStatus = .terminate)

lemma achieves_processNextMessage :
    Achieves (NotReleased slot) (Serves slot socket false co rs)
      (NetworkEngine.processNextMessage handleAction slot) fun next es w =>
        Turn slot socket co rs next (handledMessages es) w := by
  refine Achieves.bind achieves_getMessage fun received es => ?_
  rintro w ⟨hes, m, co', rfl, hgoes, h⟩
  rcases hgoes.status with ⟨hdata, -⟩ | ⟨hblock, -⟩
  · have hprocess : NetworkEngine.processMessage handleAction slot m =
        NetworkEngine.callHandler handleAction slot m := by
      rw [NetworkEngine.processMessage, hdata]
    simp only [hprocess]
    refine Achieves.bind (R := fun next es' => Turn slot socket co rs next
      (handledMessages (es ++ es'))) (achieves_callHandler hgoes.socket) (fun r es' => ?_) w h
    rintro w' ⟨hes', h', hcontinue, -, -, herror⟩
    refine Achieves.bind (R := fun next es'' => Turn slot socket co rs next
      (handledMessages (es ++ (es' ++ es''))))
      (Steady.concludeMessage Serves.connections r).achieves (fun _ es'' => ?_) w' h'
    have hmessages : handledMessages es'' = [] →
        handledMessages (es ++ (es' ++ (es'' ++ []))) = [m] := fun hes'' => by
      simp [hes, hes', hes'']
    cases hresult : r.error with
    | none =>
      refine .pure ?_
      rintro w'' ⟨⟨-, h''⟩, hes''⟩
      exact .message hgoes hdata (hmessages hes'') h''
        (.inl ⟨r, rfl, hcontinue, herror.1 hresult⟩)
    | some e =>
      refine .pure ?_
      rintro w'' ⟨⟨-, h''⟩, hes''⟩
      refine .message hgoes hdata (hmessages hes'') h'' (.inr ⟨_, rfl, fun haccepts => ?_⟩)
      simp [herror.2 haccepts] at hresult
  · have hprocess : NetworkEngine.processMessage handleAction slot m =
        NetworkEngine.rearmConnection slot := by
      rw [NetworkEngine.processMessage, hblock]
    simp only [hprocess]
    refine Achieves.bind (R := fun next es' => Turn slot socket co rs next
      (handledMessages (es ++ es'))) achieves_rearmConnection (fun r es' => ?_) w h
    rintro w' ⟨hes', hrelease | ⟨rfl, h'⟩⟩
    · intro hG
      have hconclude : Steady slot (fun _ : World Lobby => True)
          (NetworkEngine.concludeMessage slot r) fun _ => r.connStatus ≠ .release :=
        Steady.concludeMessage (fun _ _ _ _ => trivial) r
      obtain ⟨_, -, ⟨hkeep, -⟩, -⟩ := hconclude w' trivial fun e he => hG e (mem_events_bind he)
      exact absurd hrelease hkeep
    · refine Achieves.bind (R := fun next es'' => Turn slot socket co rs next
        (handledMessages (es ++ (es' ++ es''))))
        (Steady.concludeMessage Serves.connections _).achieves (fun _ es'' => ?_) w' h'
      refine .pure ?_
      rintro w'' ⟨⟨-, h''⟩, hes''⟩
      refine .pause hgoes hblock ?_ h'' ⟨_, rfl, rfl⟩
      simp [hes, hes', hes'']

/-! ### Wake-ups -/

/-- Since the coroutine was `co`, with the results `rs` to come, the handler has got the messages
that the coroutine has yielded. It has had no error, and the coroutine waits after `n` pauses; or it
has had one for the last message, and the descriptor is not armed any more. -/
inductive Processed (slot : ℕ) (socket : ℤ) (co : ReceiveCo) (rs : List RecvResult) (n : ℕ)
    (ms : List ReceivedMessage) (w : World Lobby) : Prop
  | armed {co' : ReceiveCo} {rs' : List RecvResult} (yields : co.Yields rs ms co' rs')
      (serves : Serves slot socket true co' rs' w) (waits : co'.Waits)
      (left : rs' = [] ∨ rs'.length + n ≤ rs.length) (accepts : ∀ m ∈ ms, Accepts m.content)
  | disarmed {co' : ReceiveCo} {rs' : List RecvResult} {ms' : List ReceivedMessage}
      {m : ReceivedMessage} (yields : co.Yields rs (ms' ++ [m]) co' rs')
      (serves : Serves slot socket false co' rs' w) (messages : ms = ms' ++ [m])
      (accepts : ∀ m ∈ ms', Accepts m.content) (last : ¬ Accepts m.content)

/-- The handler has had an error for the last message at most. -/
lemma Processed.accepts {n : ℕ} {ms : List ReceivedMessage} {w : World Lobby}
    (h : Processed slot socket co rs n ms w) :
    (∃ co' rs', co.Yields rs ms co' rs') ∧
      ∀ content ∈ (ms.map (·.content)).dropLast, Accepts content := by
  cases h with
  | armed hyields _ _ _ haccepts =>
    refine ⟨⟨_, _, hyields⟩, fun content hcontent => ?_⟩
    obtain ⟨m, hm, rfl⟩ := List.mem_map.1 (List.mem_of_mem_dropLast hcontent)
    exact haccepts m hm
  | disarmed hyields _ hmessages haccepts _ =>
    subst hmessages
    refine ⟨⟨_, _, hyields⟩, fun content hcontent => ?_⟩
    rw [List.map_append, List.map_singleton, List.dropLast_concat] at hcontent
    obtain ⟨m, hm, rfl⟩ := List.mem_map.1 hcontent
    exact haccepts m hm

/-- The handler has got some messages before. -/
lemma Processed.append {co' : ReceiveCo} {rs' : List RecvResult} {n k : ℕ}
    {ms ms' : List ReceivedMessage} {w : World Lobby} (h : Processed slot socket co' rs' n ms' w)
    (hyields : co.Yields rs ms co' rs') (haccepts : ∀ m ∈ ms, Accepts m.content)
    (hleft : rs' = [] ∨ rs'.length + k ≤ rs.length) :
    Processed slot socket co rs (n + k) (ms ++ ms') w := by
  cases h with
  | armed hyields' hserves hwaits hleft' haccepts' =>
    refine .armed (hyields.trans hyields') hserves hwaits ?_
      (List.forall_mem_append.2 ⟨haccepts, haccepts'⟩)
    rcases hleft' with hnil | hle'
    · exact .inl hnil
    · rcases hleft with rfl | hle
      · exact .inl (List.eq_nil_of_length_eq_zero (by rw [List.length_nil] at hle'; omega))
      · exact .inr (by omega)
  | disarmed hyields' hserves hmessages haccepts' hlast =>
    refine .disarmed ?_ hserves (hmessages ▸ (List.append_assoc ..).symm)
      (List.forall_mem_append.2 ⟨haccepts, haccepts'⟩) hlast
    rw [List.append_assoc]
    exact hyields.trans hyields'

/-- The loop is over. -/
lemma steady_processConnectionLoop {P : World Lobby → Prop} {result : ActionResult}
    (hterminate : result.actionStatus = .terminate) (fuel : ℕ) :
    Steady slot P (NetworkEngine.processConnectionLoop handleAction slot fuel result)
      fun _ => True := by
  cases fuel with
  | zero => exact .pure trivial
  | succ fuel =>
    refine Steady.bind .get fun w _ => .ite (fun hgoes => ?_) fun _ => Steady.pure trivial
    simp [hterminate] at hgoes

lemma achieves_processConnectionLoop (fuel : ℕ) {result : ActionResult}
    (hcontinue : result.actionStatus = .continue) :
    Achieves (NotReleased slot) (Serves slot socket false co rs)
      (NetworkEngine.processConnectionLoop handleAction slot fuel result) fun finished es w =>
        finished = none ∨ Processed slot socket co rs 1 (handledMessages es) w := by
  induction fuel generalizing result co rs with
  | zero => exact .pure fun _ _ => .inl rfl
  | succ fuel ih =>
    refine Achieves.bind (Q := fun w₀ es w => w = w₀ ∧ es = [] ∧ Serves slot socket false co rs w)
      (.get fun w h => ⟨rfl, rfl, h⟩) fun w₀ es => Achieves.ite (fun _ => ?_) fun hover => ?_
    swap
    · rintro _ ⟨rfl, -, h⟩
      exact absurd ⟨h.alive, hcontinue⟩ hover
    refine Achieves.pre ?_ fun w h => h.2
    rintro w ⟨rfl, h⟩
    refine Achieves.bind (R := fun finished es w => finished = none ∨
      Processed slot socket co rs 1 (handledMessages es) w) achieves_processNextMessage
      (fun next es => ?_) w h
    let Q (es : List Event) (finished : Option (Option Error)) (es' : List Event)
        (w : World Lobby) : Prop :=
      finished = none ∨ Processed slot socket co rs 1 (handledMessages (es ++ es')) w
    rintro w' (⟨hgoes, hdata, hmessages, h', hnext⟩ | ⟨hgoes, hblock, hmessages, h', hnext⟩)
    · have hyields := hgoes.yields_message hdata
      obtain ⟨r, rfl, hr, haccepts⟩ | ⟨e, rfl, hrefused⟩ := hnext
      · refine Achieves.post (S := Q es) (ih hr) (fun finished es' w'' hfinished => ?_) w' h'
        refine hfinished.imp_right fun hprocessed => ?_
        rw [handledMessages_append, hmessages]
        exact hprocessed.append (k := 0) hyields (List.forall_mem_singleton.2 haccepts)
          (.inr (hgoes.pending_le hdata))
      · refine Achieves.pure (Q := Q es) (fun w'' hw'' => .inr ?_) w' h'
        refine .disarmed (List.nil_append _ ▸ hyields) hw'' ?_
          (fun _ h => absurd h List.not_mem_nil) hrefused
        rw [handledMessages_append, hmessages]
        rfl
    · obtain ⟨r, rfl, hr⟩ := hnext
      refine Achieves.post (S := Q es) (steady_processConnectionLoop hr fuel).achieves
        (fun finished es' w'' hfinished => .inr ?_) w' h'
      rw [handledMessages_append, hmessages, hfinished.2]
      obtain ⟨hwaits, hleft⟩ := hgoes.waits hblock
      exact .armed (hgoes.yields_nil hblock) hfinished.1.2 hwaits hleft
        fun _ h => absurd h List.not_mem_nil

/-- The bound on the loop is never met. -/
lemma achieves_processConnection :
    Achieves (NotReleased slot) (Serves slot socket false co rs)
      (NetworkEngine.processConnection handleAction ⟨slot⟩) fun _ es w =>
        Processed slot socket co rs 1 (handledMessages es) w := by
  intro w h hG
  have hloop : ∀ e ∈ ((NetworkEngine.processConnectionLoop handleAction slot
      (w.pendingWork slot + 2) {}).run w).events, NotReleased slot e := fun e he =>
    hG e (List.mem_append_right (run get w).events (mem_events_bind he))
  obtain ⟨finished, hvalue, hprocessed⟩ :=
    achieves_processConnectionLoop (w.pendingWork slot + 2) rfl w h hloop
  have hfinished :=
    NetworkEngine.processConnection_finishes handleAction_keepsPendingWork.2.1 w slot hvalue
  cases finished with
  | none => exact absurd rfl hfinished
  | some e =>
    have hrun : (NetworkEngine.processConnection handleAction ⟨slot⟩).run w =
        ⟨some e, ((NetworkEngine.processConnectionLoop handleAction slot
            (w.pendingWork slot + 2) {}).run w).state,
          ((NetworkEngine.processConnectionLoop handleAction slot
            (w.pendingWork slot + 2) {}).run w).events⟩ := by
      simp [NetworkEngine.processConnection, Outcome.andThen, hvalue]
    rw [hrun]
    exact ⟨e, rfl, hprocessed.resolve_left (by simp)⟩

/-- The lobby wakes up for a descriptor, if epoll reports it, and the worker processes the
connection. -/
def wakeUp (socket : ℤ) : EngineM Lobby PUnit := do
  match ← NetworkEngine.waitForEvent socket with
  | some slot => Operation.run handleAction (.network slot)
  | none => return ⟨⟩

/-- It wakes up as often. -/
def wakeUps (socket : ℤ) (n : ℕ) : EngineM Lobby PUnit := runAll (List.replicate n (wakeUp socket))

lemma achieves_wakeUp :
    Achieves (NotReleased slot) (Serves slot socket true co rs) (wakeUp socket) fun _ es w =>
      Processed slot socket co rs 1 (handledMessages es) w := by
  have hwait : Achieves (NotReleased slot) (Serves slot socket true co rs)
      (NetworkEngine.waitForEvent socket) fun reported es w => reported = some slot ∧ es = [] ∧
        Serves slot socket false co rs w := by
    intro w h _
    have hrun : (NetworkEngine.waitForEvent socket).run w = ⟨some (some slot),
        { w with epoll := Function.update w.epoll socket (some ⟨slot, false⟩) }, []⟩ := by
      simp [NetworkEngine.waitForEvent, Outcome.andThen, h.epoll]
    rw [hrun]
    exact ⟨_, rfl, rfl, rfl, { h with
      toPoolSound := h.toPoolSound.same rfl
      epoll := Function.update_self .. }⟩
  refine Achieves.bind hwait fun reported es => ?_
  rintro w ⟨rfl, rfl, h⟩
  refine Achieves.bind (R := fun _ es w => Processed slot socket co rs 1 (handledMessages es) w)
    achieves_processConnection (fun _ es => .pure fun w hprocessed => ?_) w h
  rwa [List.append_nil]

/-- Nobody hears of the connection any more. -/
lemma steady_wakeUps_disarmed (n : ℕ) :
    Steady slot (Serves slot socket false co rs) (wakeUps socket n) fun _ => True := by
  have hwakeUp : Steady slot (Serves slot socket false co rs) (wakeUp socket) fun _ => True := by
    intro w h _
    have hrun : (wakeUp socket).run w = ⟨some ⟨⟩, w, []⟩ := by
      simp [wakeUp, NetworkEngine.waitForEvent, Outcome.andThen, h.epoll]
    rw [hrun]
    exact ⟨_, rfl, ⟨trivial, h⟩, rfl⟩
  induction n with
  | zero => exact .pure trivial
  | succ n ih => exact Steady.bind hwakeUp fun _ _ => ih

/-- **Processing a connection.** The lobby processes what the coroutine yields, until there is
nothing left or the handler has an error. -/
theorem achieves_wakeUps (hwaits : co.Waits) (n : ℕ) :
    Achieves (NotReleased slot) (Serves slot socket true co rs) (wakeUps socket n) fun _ es w =>
      Processed slot socket co rs n (handledMessages es) w := by
  induction n generalizing co rs with
  | zero =>
    exact .pure fun w h => .armed .start h hwaits (.inr le_rfl)
      fun _ hm => absurd hm List.not_mem_nil
  | succ n ih =>
    refine Achieves.bind achieves_wakeUp fun _ es => ?_
    let Q (_ : PUnit) (es' : List Event) (w : World Lobby) : Prop :=
      Processed slot socket co rs (n + 1) (handledMessages (es ++ es')) w
    intro w hprocessed
    cases hprocessed with
    | armed hyields hserves hwaits' hleft haccepts =>
      refine Achieves.post (S := Q) (ih hwaits') (fun _ es' w' hprocessed => ?_) w hserves
      change Processed slot socket co rs (n + 1) (handledMessages (es ++ es')) w'
      rw [handledMessages_append]
      exact hprocessed.append hyields haccepts hleft
    | disarmed hyields hserves hmessages haccepts hlast =>
      refine Achieves.post (S := Q) (steady_wakeUps_disarmed n).achieves (fun _ es' w' h => ?_) w
        hserves
      refine .disarmed hyields h.1.2 ?_ haccepts hlast
      rw [handledMessages_append, h.2, List.append_nil, hmessages]

end Connection

end Lobby

end BattleShips
