import BattleShips.Net.ReceiveRuns
import BattleShips.Properties.ChatOrder
import BattleShips.Properties.ChatText
import BattleShips.Properties.HandOff

/-!
# The lines that a client prints

A client parses its stream and prints what it is told to. As long as it keeps its connection, the
lines come out in the order of the messages in the stream, each once. For the players of a lobby
these messages are the chat: they read the same lines in the same order.
-/

namespace BattleShips

open Traced

/-! ### What a client prints -/

/-- The line that the client prints for a message, if it prints one. -/
def Client.lineOf (message : ReceivedMessage) : Option Bytes :=
  if (Dispatcher.dispatch message).scope = .broadcast then none
  else match (Dispatcher.dispatch message).variant with
    | .printMessage => some message.payload
    | .quit => some (ascii "->_<-")
    | _ => none

def Event.line : Event → Option Bytes
  | .printed line => some line
  | _ => none

/-- The lines that have been printed. -/
def printedLines (es : List Event) : List Bytes := es.filterMap Event.line

/-- An event that is neither a message received nor a line printed. -/
def Event.Offstage (e : Event) : Prop := e.message = none ∧ e.line = none

lemma filterMap_offstage {α : Type} {f : Event → Option α} {tr es : List Event}
    (h : ∀ e ∈ es, f e = none) : (tr ++ es).filterMap f = tr.filterMap f := by
  rw [List.filterMap_append, List.filterMap_eq_nil_iff.2 h, List.append_nil]

/-- A client whose coroutine has yielded what has come to the handler, and then the messages
`pending`. The lines that are printed are those of the messages, but for the lines `due`. -/
structure Reads (rs : List RecvResult) (pending : List ReceivedMessage) (due : List Bytes)
    (w : World Client) (tr : List Event) : Prop where
  yields : coReceiveFromSocket.Yields rs (handledMessages tr ++ pending) (w.receiveCo 0)
    w.results.recvmsg
  listener : ∀ slot, (w.entry slot).connectionType ≠ .listener
  lines : printedLines tr ++ due = (handledMessages tr).filterMap Client.lineOf

namespace Reads

variable {rs : List RecvResult} {pending : List ReceivedMessage} {due : List Bytes}
  {w w' : World Client} {tr es : List Event} {slot : ℕ} {P : World Client → List Event → Prop}

lemma of_eq (h : Reads rs pending due w tr) (hco : w'.receiveCo 0 = w.receiveCo 0)
    (hrecvmsg : w'.results.recvmsg = w.results.recvmsg)
    (htype : ∀ slot, (w'.entry slot).connectionType = (w.entry slot).connectionType)
    (hes : ∀ e ∈ es, e.Offstage) : Reads rs pending due w' (tr ++ es) := by
  have hmessages : handledMessages (tr ++ es) = handledMessages tr :=
    filterMap_offstage fun e he => (hes e he).1
  have hlines : printedLines (tr ++ es) = printedLines tr :=
    filterMap_offstage fun e he => (hes e he).2
  constructor
  · rw [hmessages, hco, hrecvmsg]
    exact h.yields
  · intro slot
    rw [htype]
    exact h.listener slot
  · rw [hmessages, hlines]
    exact h.lines

/-- What leaves the connections alone and happens offstage. -/
lemma quiet {α : Type} {m : EngineM Client α} (hm : Quiet m) (hes : Emits Event.Offstage m) :
    Keeps StaysConnected (Reads rs pending due) m := by
  intro w tr h _ a _
  obtain ⟨hsame, -⟩ := hm w
  exact h.of_eq (by rw [World.receiveCo, hsame.entry, World.receiveCo]) hsame.recvmsg
    (fun slot => by rw [hsame.entry]) (hes w)

lemma emits_epollCtl (op : EpollOp) (slot : ℕ) :
    Emits Event.Offstage (epollCtl op slot : EngineM Client _) :=
  Emits.bind .get fun _ => Emits.bind .modify fun _ => .pure

/-- A send either goes out or is none. -/
lemma sendMessageImpl (slot : ℕ) (message : OutgoingMessage) :
    Triple StaysConnected (Reads rs pending due) (NetworkEngine.sendMessageImpl slot message)
      fun r w tr => r = none ∧ Reads rs pending due w tr := by
  have hemits : Emits Event.Offstage (BattleShips.sendMessage slot message : EngineM Client _) :=
    Emits.bind .get fun _ => Emits.bind .modify fun _ =>
      Emits.bind (.emit ⟨rfl, rfl⟩) fun _ => .pure
  have hsent : Triple StaysConnected (fun (_ : World Client) _ => True)
      (BattleShips.sendMessage slot message) fun r _ _ => r = none := by
    refine Triple.bind_any fun w => Triple.bind_any fun _ => ?_
    refine Triple.bind (Triple.emit (Q := fun _ _ _ => _ ≠ none) fun _ _ _ h => h) fun _ => ?_
    exact .pure fun w tr hwritten => if_neg hwritten
  refine ((hsent.and (quiet (quiet_sendMessage slot message) hemits)).pre
    fun w tr h => ⟨trivial, h⟩).bind fun r => .pure fun w tr h => ⟨?_, h.2⟩
  rw [h.1]
  rfl

lemma waitForEvent (socket : ℤ) :
    Keeps StaysConnected (Reads rs pending due) (NetworkEngine.waitForEvent socket) := by
  refine quiet (quiet_waitForEvent socket) (Emits.bind .get fun w => ?_)
  cases w.epoll socket with
  | none => exact .pure
  | some entry =>
    obtain ⟨slot, armed⟩ := entry
    cases armed with
    | false => exact .pure
    | true => exact Emits.bind .modify fun _ => .pure

lemma rearmConnection (slot : ℕ) :
    Triple StaysConnected (Reads rs pending due) (NetworkEngine.rearmConnection slot)
      fun r w tr => Reads rs pending due w tr ∧ r.userCode = none := by
  have hemits : Emits Event.Offstage (rearmSocket slot : EngineM Client _) := by
    refine Emits.bind (emits_epollCtl _ _) fun success => ?_
    cases success with
    | true => exact .pure
    | false => exact .pure
  refine Triple.bind (quiet (quiet_rearmSocket slot) hemits) fun r => ?_
  cases r with
  | none => exact .pure fun w tr h => ⟨h, rfl⟩
  | some e => exact .pure fun w tr h => ⟨h, rfl⟩

/-- The connection stays. -/
lemma releaseConnection (slot : ℕ) :
    Triple StaysConnected P (NetworkEngine.releaseConnection slot) fun _ _ _ => False :=
  Triple.bind_any fun _ => triple_resetAndRelease fun _ _ _ _ _ _ h => h

/-- The coroutine is resumed, unless the stream has ended. -/
lemma getMessage :
    Triple StaysConnected (Reads rs [] []) (BattleShips.getMessage 0) fun received w tr =>
      (received.all fun m => m.status = .disconnected) = false →
        Reads rs (received.toList.filter fun m => m.status = .data) [] w tr := by
  intro w tr h _ received hreceived hopen
  obtain rfl : ((w.receiveCo 0).resume w.results.recvmsg).result = received :=
    Option.some.inj hreceived
  obtain ⟨hevents, hrecvmsg, hreceiveCo, htype⟩ := getMessage_run 0 w
  have hends : ((w.receiveCo 0).resume w.results.recvmsg).co ≠ none := by
    intro hnone
    rw [resume_ends hnone] at hopen
    cases hopen
  obtain ⟨co, hco⟩ := Option.ne_none_iff_exists'.1 hends
  have hyields := h.yields.resume hco
  rw [List.append_nil] at hyields
  rw [hevents, List.append_nil]
  refine ⟨?_, fun slot => by rw [htype]; exact h.listener slot, h.lines⟩
  rw [hrecvmsg, hreceiveCo, hco]
  cases hresult : ((w.receiveCo 0).resume w.results.recvmsg).result with
  | none => simpa [dataMessages, hresult] using hyields
  | some m => simpa [dataMessages, hresult] using hyields

/-- The handler prints the line that is due. -/
lemma handleAction (context : ActionContext) :
    Triple StaysConnected (Reads rs pending (Client.lineOf context.receivedMessage).toList)
      (Client.handleAction context) fun r w tr => Reads rs pending [] w tr ∧ r.userCode = none := by
  have hprint : ∀ line, Triple StaysConnected (Reads rs pending [line]) (emit (.printed line))
      fun _ => Reads rs pending [] := by
    refine fun line => Triple.emit fun w tr h _ => ?_
    have hmessages : handledMessages (tr ++ [.printed line]) = handledMessages tr :=
      filterMap_offstage fun e he => by rw [List.mem_singleton.1 he]; rfl
    have hlines : printedLines (tr ++ [.printed line]) = printedLines tr ++ [line] :=
      List.filterMap_append
    refine ⟨?_, h.listener, ?_⟩
    · rw [hmessages]
      exact h.yields
    · rw [hmessages, hlines, List.append_nil]
      exact h.lines
  by_cases hscope : (Dispatcher.dispatch context.receivedMessage).scope = .broadcast
  · rw [Client.handleAction, Client.lineOf, hscope, if_pos rfl]
    have hinput : Triple StaysConnected (Reads rs pending [])
        (Client.sendInputToServer context.receivedMessage)
        fun r w tr => r = none ∧ Reads rs pending [] w tr := by
      refine Triple.bind Keeps.get fun w => ?_
      refine (sendMessageImpl _ _).bind fun r => .pure fun w tr h => ⟨?_, h.2⟩
      rw [h.1]
      rfl
    refine hinput.bind fun r => ?_
    cases r with
    | none => exact .pure fun w tr h => ⟨h.2, rfl⟩
    | some e => exact fun w tr h => by cases h.1
  · rw [Client.handleAction_of_ne_broadcast hscope, Client.lineOf, if_neg hscope,
      Client.filterAndExecute]
    cases (Dispatcher.dispatch context.receivedMessage).variant with
    | printMessage | quit =>
      exact (hprint _).bind fun _ => .pure fun w tr h => ⟨h, rfl⟩
    | _ => exact .pure fun w tr h => ⟨h, rfl⟩

/-- A message comes to the handler. -/
lemma callHandler (message : ReceivedMessage) :
    Triple StaysConnected (Reads rs [message] [])
      (NetworkEngine.callHandler Client.handleAction 0 message)
      fun r w tr => Reads rs [] [] w tr ∧ r.userCode = none := by
  refine Triple.bind (Keeps.get (I := Reads rs [message] [])) fun w₀ => ?_
  refine Triple.bind (Triple.emit (Q := fun _ => Reads rs [] (Client.lineOf message).toList)
    fun w tr h _ => ?_) fun _ => ?_
  · have hmessages : ∀ type, handledMessages (tr ++ [.received 0 type message]) =
        handledMessages tr ++ [message] := fun type => List.filterMap_append
    have hlines : ∀ type, printedLines (tr ++ [.received 0 type message]) = printedLines tr :=
      fun type => filterMap_offstage fun e he => by rw [List.mem_singleton.1 he]; rfl
    refine ⟨?_, h.listener, ?_⟩
    · rw [hmessages, List.append_nil]
      exact h.yields
    · rw [hmessages, hlines, List.filterMap_append, ← h.lines, List.append_nil]
      cases hline : Client.lineOf message with
      | none => simp [hline]
      | some line => simp [hline]
  · refine (handleAction ⟨⟨0⟩, message⟩).bind fun result => ?_
    refine Triple.bind (Triple.emit (Q := fun _ w tr => Reads rs [] [] w tr ∧
      result.userCode = none) fun w tr h _ => ⟨?_, h.2⟩) fun _ => .pure fun w tr h => h
    exact h.1.of_eq rfl rfl (fun _ => rfl) (List.forall_mem_singleton.2 ⟨rfl, rfl⟩)

/-- What has come in is processed. A stream that has ended would have the connection released. -/
lemma processMessage (message : ReceivedMessage) :
    Triple StaysConnected (fun w tr => message.status ≠ .disconnected →
        Reads rs ([message].filter fun m => m.status = .data) [] w tr)
      (NetworkEngine.processMessage Client.handleAction 0 message) fun r w tr =>
        (r.connStatus = .keep → Reads rs [] [] w tr) ∧ r.userCode = none := by
  rw [NetworkEngine.processMessage]
  cases hstatus : message.status with
  | empty | wouldBlock =>
    refine ((rearmConnection 0).pre fun w tr h => ?_).post fun r w tr h => ⟨fun _ => h.1, h.2⟩
    simpa [hstatus] using h MessageStatus.noConfusion
  | disconnected => exact .pure fun w tr _ => ⟨ConnectionStatus.noConfusion, rfl⟩
  | data =>
    refine ((callHandler message).pre fun w tr h => ?_).post fun r w tr h => ⟨fun _ => h.1, h.2⟩
    simpa [hstatus] using h MessageStatus.noConfusion

lemma concludeMessage (result : ActionResult) :
    Triple StaysConnected (fun w tr => (result.connStatus = .keep → Reads rs [] [] w tr) ∧
        result.userCode = none)
      (NetworkEngine.concludeMessage 0 result) fun _ => Reads rs [] [] := by
  refine Triple.bind (Q := fun _ w tr => result.connStatus = .keep → Reads rs [] [] w tr) ?_
    fun _ => ?_
  · refine (Triple.of_pre fun hcode => ?_).pre fun w tr h => h.symm
    rw [hcode]
    exact .pure fun w tr h => h
  · refine Triple.ite (fun _ => (releaseConnection 0).post fun _ w tr h => h.elim) fun hkeep => ?_
    refine .pure fun w tr h => h ?_
    cases hstatus : result.connStatus with
    | keep => rfl
    | release => exact absurd hstatus hkeep

lemma processNextMessage :
    Keeps StaysConnected (Reads rs [] [])
      (NetworkEngine.processNextMessage Client.handleAction 0) := by
  refine getMessage.bind fun received => ?_
  cases received with
  | none => exact Triple.bind (releaseConnection 0) fun _ w tr h => h.elim
  | some message =>
    have hprocess : Triple StaysConnected (fun w tr => message.status ≠ .disconnected →
          Reads rs ([message].filter fun m => m.status = .data) [] w tr)
        (NetworkEngine.processMessage Client.handleAction 0 message) _ := processMessage message
    refine (hprocess.pre fun w tr h hstatus => ?_).bind fun result => ?_
    · exact h (by simpa using hstatus)
    · refine (concludeMessage result).bind fun _ => ?_
      cases result.error with
      | none => exact Keeps.pure
      | some e => exact Keeps.pure

lemma processConnection :
    Keeps StaysConnected (Reads rs [] [])
      (NetworkEngine.processConnection Client.handleAction ⟨0⟩) := by
  have hloop : ∀ fuel result, Keeps StaysConnected (Reads rs [] [])
      (NetworkEngine.processConnectionLoop Client.handleAction 0 fuel result) := by
    intro fuel
    induction fuel with
    | zero => exact fun result => Keeps.pure
    | succ fuel ih =>
      refine fun result => Triple.bind Keeps.get fun w => Keeps.ite ?_ Keeps.pure
      refine Keeps.bind processNextMessage fun next => ?_
      cases next with
      | error e => exact Keeps.pure
      | ok result => exact ih result
  refine Triple.bind Keeps.get fun w => Keeps.bind (hloop _ _) fun finished => ?_
  cases finished with
  | none => exact Triple.stop
  | some e => exact Keeps.pure

/-- An operation of the threads. Tasks are for the one connection that there is, and what is typed
is not for the client itself. -/
lemma runOperation (operation : ClientOperation)
    (hslot : ∀ slot, operation = .engine (.network slot) → slot = 0)
    (hline : ∀ line, operation = .console line →
      Client.lineOf { payload := line } = none) :
    Keeps StaysConnected (Reads rs [] []) (Client.runOperation operation) := by
  cases operation with
  | engine operation =>
    cases operation with
    | event socket =>
      refine Keeps.bind (waitForEvent socket) fun slot => ?_
      cases slot with
      | none => exact Keeps.pure
      | some slot =>
        refine Triple.bind (Triple.get (Q := fun w₀ w tr => w = w₀ ∧ Reads rs [] [] w tr)
          fun w tr h => ⟨rfl, h⟩) fun w₀ => ?_
        refine Triple.ite (fun htype => ?_) fun _ => .pure fun w tr h => h.2
        rintro _ tr ⟨rfl, h⟩
        exact absurd htype (h.listener slot)
    | network slot =>
      obtain rfl := hslot slot rfl
      exact Keeps.bind processConnection fun _ => Keeps.pure
  | console line =>
    have hhandle : Triple StaysConnected (Reads rs [] (Client.lineOf { payload := line }).toList)
        (Client.handleAction ⟨{}, { payload := line }⟩) fun r w tr =>
          Reads rs [] [] w tr ∧ r.userCode = none := handleAction ⟨{}, { payload := line }⟩
    rw [hline line rfl] at hhandle
    exact hhandle.bind fun _ => .pure fun w tr h => h.1

/-! ### The start -/

lemma updateEntry (h : Reads rs pending due w tr) {f : ConnectionEntry → ConnectionEntry}
    (hhandle : ∀ e, (f e).socketHandler.receiveHandle = e.socketHandler.receiveHandle)
    (htype : ∀ e, e.connectionType ≠ .listener → (f e).connectionType ≠ .listener) :
    Reads rs pending due (w.updateEntry slot f) tr where
  yields := by
    have hco : (w.updateEntry slot f).receiveCo 0 = w.receiveCo 0 := by
      rcases eq_or_ne slot 0 with rfl | hne
      · simp [World.receiveCo, World.entry, hhandle]
      · simp [World.receiveCo, World.entry, hne.symm]
    rw [hco]
    exact h.yields
  listener s := by
    rcases eq_or_ne s slot with rfl | hne
    · simpa [World.entry] using htype _ (h.listener s)
    · simpa [World.entry, hne] using h.listener s
  lines := h.lines

/-- The descriptor goes into the handler, and the coroutine stays. -/
lemma setSocket (h : Reads rs pending due w tr) {f : SocketHandler → SocketHandler}
    (hf : ∀ handler, (f handler).receiveHandle = handler.receiveHandle) :
    Reads rs pending due (w.updateHandler slot f) tr :=
  h.updateEntry (fun e => hf e.socketHandler) fun _ => id

lemma initConnectionType (slot : ℕ) :
    Keeps StaysConnected (Reads rs pending due)
      (NetworkEngine.initConnectionType (σ := Client) .toServer slot) := by
  have hsetup : Keeps StaysConnected (Reads rs pending due) (setupClient (σ := Client) slot) := by
    refine Triple.bind Keeps.get fun w => ?_
    refine Triple.bind (Triple.modify (Q := fun _ => Reads rs pending due)
      fun w tr h => ⟨h.yields, h.listener, h.lines⟩) fun _ => ?_
    cases w.results.connect.headD .socketFailed with
    | socketFailed =>
      exact Triple.bind (Triple.modify (Q := fun _ => Reads rs pending due)
        fun w tr h => h.setSocket fun _ => rfl) fun _ => Keeps.pure
    | connectFailed socket | connected socket =>
      refine Triple.bind (Triple.modify (Q := fun _ => Reads rs pending due) fun w tr h => ?_)
        fun _ => Keeps.pure
      have hopened : Reads rs pending due (w.openDescriptors [socket] false) tr :=
        ⟨h.yields, h.listener, h.lines⟩
      exact hopened.setSocket fun _ => rfl
  refine Keeps.bind hsetup fun r => ?_
  cases r with
  | some e => exact Keeps.pure
  | none =>
    refine Triple.bind (Triple.modify (Q := fun _ => Reads rs pending due) fun w tr h => ?_)
      fun _ => Keeps.pure
    exact h.updateEntry (fun _ => rfl) fun _ _ => EndPoint.noConfusion

lemma init (results : SysResults) :
    Triple StaysConnected (fun w tr => w = World.initial {} results ∧ tr = [])
      (Client.init .toServer 0) fun _ => Reads results.recvmsg [] [] := by
  have hpush : Triple StaysConnected (fun (w : World Client) tr => w = World.initial {} results ∧
      tr = []) (pushToPool {}) fun _ => Reads results.recvmsg [] [] := by
    refine triple_pushToPool fun w tr slot w' h hpush _ => ?_
    obtain ⟨rfl, rfl⟩ := h
    have hentry : ∀ s, (w'.entry s).connectionType = .none ∧
        (w'.entry s).socketHandler.receiveHandle = none := by
      intro s
      rcases eq_or_ne s slot with rfl | hne
      · obtain ⟨htype, hhandler⟩ := World.pushToPool_entry_self hpush
        exact ⟨htype, by rw [hhandler]⟩
      · rw [World.pushToPool_entry_of_ne hpush hne]
        exact ⟨rfl, rfl⟩
    refine ⟨?_, fun s hlistener => ?_, rfl⟩
    · rw [World.receiveCo, (hentry 0).2, (World.pushToPool_rest hpush).2.2]
      exact .start
    · exact EndPoint.noConfusion ((hentry s).1.symm.trans hlistener)
  have hepoll : Keeps StaysConnected (Reads results.recvmsg [] [])
      (NetworkEngine.initEpoll (σ := Client)) := by
    have hadd : Emits Event.Offstage (addSocket 0 : EngineM Client _) := by
      refine Emits.bind (emits_epollCtl _ _) fun success => ?_
      cases success with
      | true => exact .pure
      | false => exact .pure
    refine Triple.bind Keeps.get fun w => Keeps.ite (Keeps.bind ?_ fun _ => Keeps.pure) Keeps.pure
    exact quiet (NetworkEngine.quiet_subscribeToEvents 0) (Emits.bind hadd fun _ => .pure)
  have hengine : Triple StaysConnected (fun w tr => w = World.initial {} results ∧ tr = [])
      (NetworkEngine.initEngine .toServer 0) fun _ => Reads results.recvmsg [] [] := by
    refine hpush.bind fun slot => Keeps.bind (initConnectionType slot) fun r => ?_
    cases r with
    | some e => exact Keeps.pure
    | none =>
      refine Keeps.bind hepoll fun r => ?_
      cases r with
      | some e => exact Keeps.pure
      | none => exact Keeps.pure
  have happ : Triple StaysConnected (fun w tr => w = World.initial {} results ∧ tr = [])
      (initApp .toServer 0) fun _ => Reads results.recvmsg [] [] := by
    refine hengine.bind fun r => ?_
    cases r with
    | error e => exact Keeps.pure
    | ok view => exact Keeps.pure
  refine happ.bind fun r => ?_
  cases r with
  | error e => exact Keeps.pure
  | ok view =>
    refine Triple.bind (Triple.modify (Q := fun _ => Reads results.recvmsg [] []) fun w tr h => ?_)
      fun _ => Keeps.pure
    exact ⟨h.yields, h.listener, h.lines⟩

lemma main (results : SysResults) (operations : List ClientOperation)
    (hslots : ∀ slot, .engine (.network slot) ∈ operations → slot = 0)
    (hlines : ∀ line, .console line ∈ operations → Client.lineOf { payload := line } = none) :
    Triple StaysConnected (fun w tr => w = World.initial {} results ∧ tr = [])
      (Client.main operations) fun _ => Reads results.recvmsg [] [] := by
  refine (init results).bind fun _ => Keeps.runAll fun m hm => ?_
  obtain ⟨operation, hoperation, rfl⟩ := List.mem_map.1 hm
  refine runOperation operation (fun slot heq => hslots slot ?_) fun line heq => hlines line ?_
  · rwa [← heq]
  · rwa [← heq]

end Reads

/-! ### Runs of the client -/

/-- The line that the client prints for a message that it is sent. -/
def OutgoingMessage.line (m : OutgoingMessage) : Option Bytes :=
  Client.lineOf { type := m.type, payload := m.payload }

/-- A client that gets the bytes of some messages, in which no read ends inside a payload. Its
tasks are for the one connection that it has, and what is typed is not for the client itself. -/
structure ConnectedClient (messages : List SentMessage) where
  results : SysResults
  operations : List ClientOperation
  stream : readBytes results.recvmsg = framing.stream messages
  length : ∀ m ∈ messages, m.payload.length < 256 ^ 8
  cut : IsCut results.recvmsg
  whole : CutsNoPayload messages 0 results.recvmsg
  window : WindowsRespected coReceiveFromSocket results.recvmsg
  slots : ∀ slot, .engine (.network slot) ∈ operations → slot = 0
  typed : ∀ line, .console line ∈ operations → Client.lineOf { payload := line } = none
  returned : ((Client.main operations).run (World.initial {} results)).value = some ⟨⟩
  stays : Allowed StaysConnected [] ((Client.main operations).run (World.initial {} results)).events

namespace ConnectedClient

variable {messages : List SentMessage} (c : ConnectedClient messages)

/-- The lines that it has printed. -/
def printed : List Bytes :=
  printedLines ((Client.main c.operations).run (World.initial {} c.results)).events

/-- There is nothing left to read, and it waits for more. -/
def HasReadAll : Prop :=
  let w := ((Client.main c.operations).run (World.initial {} c.results)).state
  w.results.recvmsg = [] ∧ (w.receiveCo 0).Waits

lemma delivers : Delivers coReceiveFromSocket c.results.recvmsg messages := by
  rw [coReceiveFromSocket, delivers_iff_cutsNoPayload (by simp) (by decide) c.length c.cut
    (by simpa using c.stream) c.window]
  exact c.whole

lemma reads :
    let r := (Client.main c.operations).run (World.initial {} c.results)
    Reads c.results.recvmsg [] [] r.state r.events :=
  Reads.main c.results c.operations c.slots c.typed _ [] ⟨rfl, rfl⟩ c.stays _ c.returned

end ConnectedClient

/-- What is printed for a message depends on its type and its payload only. -/
lemma Client.lineOf_eq (m : ReceivedMessage) :
    Client.lineOf m = Client.lineOf { type := m.type, payload := m.payload } := by
  rw [lineOf, lineOf, Dispatcher.dispatch_congr (m := m)
    (n := { type := m.type, payload := m.payload }) rfl rfl]

lemma filterMap_lineOf (ms : List ReceivedMessage) : ms.filterMap Client.lineOf =
    (ms.map (·.content)).filterMap fun x => Client.lineOf { type := x.1, payload := x.2 } := by
  rw [List.filterMap_map]
  exact List.filterMap_congr fun m _ => Client.lineOf_eq m

lemma filterMap_line (ms : List SentMessage) : ms.filterMap (·.line) =
    (ms.map (·.content)).filterMap fun x => Client.lineOf { type := x.1, payload := x.2 } := by
  rw [List.filterMap_map]
  rfl

/-- The lines are those of the first messages, and of all of them if there is nothing left. -/
lemma ConnectedClient.printed_eq {messages : List SentMessage} (c : ConnectedClient messages) :
    ∃ ms : List ReceivedMessage, c.printed = ms.filterMap Client.lineOf ∧
      ms.map (·.content) <+: messages.map (·.content) ∧
      (c.HasReadAll → ms.map (·.content) = messages.map (·.content)) := by
  have hreads := c.reads
  have hlines := hreads.lines
  have hyields := hreads.yields
  rw [List.append_nil] at hlines hyields
  refine ⟨_, hlines, hyields.isPrefix c.delivers, ?_⟩
  rintro ⟨hempty, hwaits⟩
  rw [hempty] at hyields
  exact hyields.eq_of_waits hwaits c.delivers

/-- **A client prints its stream in order**: the lines of the messages it has been sent, each once,
up to some message; and all of them when it has read everything. -/
theorem client_prints_inOrder (messages : List SentMessage) (c : ConnectedClient messages) :
    c.printed <+: messages.filterMap (·.line) ∧
      (c.HasReadAll → c.printed = messages.filterMap (·.line)) := by
  obtain ⟨ms, hprinted, hshorter, hall⟩ := c.printed_eq
  rw [hprinted, filterMap_lineOf, filterMap_line]
  exact ⟨hshorter.filterMap _, fun hread => by rw [hall hread]⟩

/-- The message that makes a client print "hi". -/
def printableHi : SentMessage :=
  { payload := ascii "hi", type := .printable, padding := Vector.replicate 7 0 }

/-- The one read of a client that gets it. -/
def hiReads : List RecvResult := [.received printableHi.encode none]

/-- The loop of the client takes its connection and then what came on it. -/
def hiOperations : List ClientOperation := [.engine (.event 3), .engine (.network 0)]

lemma hiOperations_network {slot : ℕ} (h : .engine (.network slot) ∈ hiOperations) :
    slot = 0 := by
  simpa [hiOperations] using h

lemma hiOperations_console {line : Bytes} (h : .console line ∈ hiOperations) :
    Client.lineOf { payload := line } = none := by
  simp [hiOperations] at h

/-- A client that gets this message in one read. -/
def hearingClient : ConnectedClient [printableHi] where
  results := { connect := [.connected 3], recvmsg := hiReads }
  operations := hiOperations
  stream := by decide
  length := by decide
  cut := by decide
  whole := by decide
  window := windowsRespected_of_le coReceiveFromSocket_ready (by decide)
  slots _ := hiOperations_network
  typed _ := hiOperations_console
  returned := by decide +kernel
  stays := by decide +kernel

/-- It prints "hi". -/
theorem client_prints_inOrder_hi :
    hearingClient.HasReadAll ∧ hearingClient.printed = [printableHi].filterMap (·.line) := by
  have hread : hearingClient.HasReadAll := ⟨by decide +kernel, by decide +kernel⟩
  exact ⟨hread, (client_prints_inOrder _ hearingClient).2 hread⟩

/-! ### The chat on the screens of the players -/

lemma printable_of_mem_chats {message : OutgoingMessage} {es : List Event}
    (h : message ∈ chats es) : ∃ text, message = { payload := text, type := .printable } := by
  obtain ⟨e, -, he⟩ := List.mem_filterMap.1 h
  cases e with
  | received slot type received =>
    simp only [Event.chat, chatOf] at he
    split_ifs at he
    obtain ⟨text, -, rfl⟩ := Option.map_eq_some_iff.1 he
    exact ⟨text, rfl⟩
  | _ => cases he

/-- A client prints a chat message that does not start like a command. -/
lemma line_printable {text : Bytes} (htext : ∀ a ∈ Dispatcher.commandAliases, ¬ a <+: text) :
    OutgoingMessage.line { payload := text, type := .printable } = some text := by
  let message : ReceivedMessage := { type := .printable, payload := text }
  have htype : message.type = .printable := rfl
  obtain ⟨action, haction, -, a, ha, hstarts⟩ | ⟨hdispatch, -⟩ :=
    Dispatcher.dispatch_printable htype
  · exact absurd hstarts (htext a (List.mem_flatMap.2 ⟨action, haction, ha⟩))
  · rw [OutgoingMessage.line, Client.lineOf, hdispatch]
    rfl

/-- A client prints the texts of the chat. -/
lemma filterMap_line_chats {es : List Event}
    (h : ∀ message ∈ chats es, ∀ a ∈ Dispatcher.commandAliases, ¬ a <+: message.payload) :
    ((chats es).map (·.content)).filterMap
      (fun x => Client.lineOf { type := x.1, payload := x.2 }) = (chats es).map (·.payload) := by
  rw [List.filterMap_map, ← List.filterMap_eq_map]
  refine List.filterMap_congr fun message hmessage => ?_
  obtain ⟨text, rfl⟩ := printable_of_mem_chats hmessage
  exact line_printable (h _ hmessage)

/-- What has been sent on the connection in the slot since it is there, after an event. -/
def sentAfter (slot : ℕ) (sent : List OutgoingMessage) : Event → List OutgoingMessage
  | .acquired s => if s = slot then [] else sent
  | .sent s message (some _) => if s = slot then sent ++ [message] else sent
  | _ => sent

def sentSoFar (slot : ℕ) (es : List Event) : List OutgoingMessage :=
  es.foldl (sentAfter slot) []

/-- **The players of a lobby read the same chat**: a player who stays in the lobby from some moment
on has been sent some messages before, such as the greeting. The player's client prints these and
then the chat that the lobby receives, up to some message; and all of it when the client has read
all that it has been sent. -/
theorem lobby_chat_printed (socket : ℤ) (results : SysResults)
    (operations operations' : List Operation) (players : Set ℕ) :
    let r := (Lobby.main socket operations).run (World.initial {} results)
    let r' := (runAll (operations'.map (Operation.run Lobby.handleAction))).run r.state
    r.value = some ⟨⟩ →
    (∀ slot ∈ players, (r.state.entry slot).connectionType = .toClient) →
    r.state.app.parentView.slot ∉ players → Allowed (Stay players) r.events r'.events →
    (∀ message ∈ chats r'.events, ∀ a ∈ Dispatcher.commandAliases, ¬ a <+: message.payload) →
      ∀ slot ∈ players, ∀ (messages : List SentMessage) (c : ConnectedClient messages),
        messages.map (·.toOutgoingMessage) <+: sentSoFar slot r.events ++ sentOn slot r'.events →
          c.printed <+: (sentSoFar slot r.events).filterMap (·.line) ++
              (chats r'.events).map (·.payload) ∧
            (messages.map (·.toOutgoingMessage) =
                sentSoFar slot r.events ++ sentOn slot r'.events → c.HasReadAll →
              c.printed = (sentSoFar slot r.events).filterMap (·.line) ++
                (chats r'.events).map (·.payload)) := by
  intro r r' hvalue hplayers hparent hstay hinert slot hslot messages c hsent
  have hchats : sentOn slot r'.events = chats r'.events :=
    (lobby_hosts hvalue hplayers hparent).operations_chats operations' hstay slot hslot
  have hlines : (sentSoFar slot r.events ++ chats r'.events).filterMap (·.line) =
      (sentSoFar slot r.events).filterMap (·.line) ++ (chats r'.events).map (·.payload) := by
    rw [List.filterMap_append, ← filterMap_line_chats hinert, List.filterMap_map]
    rfl
  have hmessages : messages.filterMap (·.line) =
      (messages.map (·.toOutgoingMessage)).filterMap (·.line) := by
    rw [List.filterMap_map]
    rfl
  rw [hchats] at hsent ⊢
  obtain ⟨ms, hprinted, hshorter, hall⟩ := c.printed_eq
  rw [hprinted, filterMap_lineOf, ← hlines]
  refine ⟨(hshorter.filterMap _).trans ?_, fun heq hread => ?_⟩
  · rw [← filterMap_line, hmessages]
    exact hsent.filterMap _
  · rw [hall hread, ← filterMap_line, hmessages, heq]

/-- What a player is sent who is greeted and then hears "hi". -/
def greetedMessages : List SentMessage :=
  [{ payload := ascii "Connected to lobby\nConnection code is:\n\t7", type := .printable,
     padding := Vector.replicate 7 0 }, printableHi]

/-- The first read takes some of the second header. -/
def greetedReads : List RecvResult :=
  [.received ((framing.stream greetedMessages).take 62) none, .wouldBlock,
    .received ((framing.stream greetedMessages).drop 62) none]

lemma greetedOperations_network {slot : ℕ}
    (h : .engine (.network slot) ∈ hiOperations ++ hiOperations) : slot = 0 := by
  simpa [hiOperations] using h

lemma greetedOperations_console {line : Bytes} (h : .console line ∈ hiOperations ++ hiOperations) :
    Client.lineOf { payload := line } = none := by
  simp [hiOperations] at h

/-- The client of the second player. -/
def greetedClient : ConnectedClient greetedMessages where
  results := { connect := [.connected 3], recvmsg := greetedReads }
  operations := hiOperations ++ hiOperations
  stream := by decide
  length := by decide
  cut := by decide
  whole := by decide
  window := windowsRespected_of_le coReceiveFromSocket_ready (by decide)
  slots _ := greetedOperations_network
  typed _ := greetedOperations_console
  returned := by decide +kernel
  stays := by decide +kernel

/-- A player is greeted, and reads what the other one has said. -/
theorem lobby_chat_printed_two :
    let r := (Lobby.main 5 [.event 5, .network 0]).run (World.initial {} twoPlayers)
    let r' := (runAll ([.event 7, .network 1].map (Operation.run Lobby.handleAction))).run r.state
    greetedMessages.map (·.toOutgoingMessage) = sentSoFar 2 r.events ++ sentOn 2 r'.events ∧
      greetedClient.printed =
        (sentSoFar 2 r.events).filterMap (·.line) ++ (chats r'.events).map (·.payload) := by
  have hsent : greetedMessages.map (·.toOutgoingMessage) =
      sentSoFar 2 ((Lobby.main 5 [.event 5, .network 0]).run
        (World.initial {} twoPlayers)).events ++
      sentOn 2 ((runAll ([.event 7, .network 1].map (Operation.run Lobby.handleAction))).run
        ((Lobby.main 5 [.event 5, .network 0]).run
          (World.initial {} twoPlayers)).state).events := by decide +kernel
  have hchat := lobby_chat_printed 5 twoPlayers [.event 5, .network 0] [.event 7, .network 1]
    {slot | slot = 2} (by decide +kernel) ?_ (by decide +kernel) (by decide +kernel)
    (by decide +kernel) 2 rfl _ greetedClient (hsent ▸ List.prefix_rfl)
  · exact ⟨hsent, hchat.2 hsent ⟨by decide +kernel, by decide +kernel⟩⟩
  · rintro slot rfl
    decide +kernel

end BattleShips
