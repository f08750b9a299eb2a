import BattleShips.Application.HandlerRules

/-!
# No live connection goes deaf

Every event of epoll is one-shot, so a socket that `process_connection` or `process_server_socket`
leaves open has to be armed again. It is, unless a handler returns an error and keeps the
connection, or `accept4` fails: these two returns come before the socket is armed.
-/

namespace BattleShips

open Traced

variable {σ : Type} {G : List Event → Event → Prop}

/-! ### Sockets are alive or released -/

def ConnectionEntry.AliveOrReleased (e : ConnectionEntry) : Prop :=
  e.socketHandler.isSocketAlive ∨
    e.connectionType = .none ∧ e.socketHandler.socketStatus = .empty

def World.AliveOrReleased (w : World σ) : Prop := ∀ slot, (w.entry slot).AliveOrReleased

lemma World.AliveOrReleased.of_update {w w' : World σ} {slot : ℕ} {e : ConnectionEntry}
    (h : w.AliveOrReleased) (hobject : w'.pool.object = Function.update w.pool.object slot e)
    (he : e.AliveOrReleased) : w'.AliveOrReleased := by
  simp only [AliveOrReleased, entry, hobject]
  exact (Function.forall_update_iff w.pool.object fun _ e => e.AliveOrReleased).2
    ⟨he, fun slot _ => h slot⟩

lemma pushToPool_aliveOrReleased {connection : ConnectionEntry}
    (hconnection : connection.AliveOrReleased) :
    Keeps G (fun (w : World σ) _ => w.AliveOrReleased) (pushToPool connection) := by
  refine triple_pushToPool fun w tr slot w' hw hpush _ => ?_
  obtain ⟨-, -, -, hobject⟩ | ⟨-, -, -, -, -, hobject⟩ := World.pushToPool_cases hpush
  · exact hw.of_update hobject hconnection
  · exact hw.of_update hobject hconnection

lemma aliveOrReleased_invariant :
    EngineInvariant G (fun (w : World σ) _ => w.AliveOrReleased) fun _ => True where
  same hsame hw slot := by
    rw [hsame.entry]
    exact hw slot
  silent _ := id
  inUse_of_type _ := trivial
  inUse_handler _ _ := trivial
  inUse_of_alive _ _ := trivial
  acquire _ := pushToPool_aliveOrReleased (.inl rfl)
  unused _ _ := .inr fun _ => trivial
  retire slot := by
    refine (resetAndRelease_object slot fun object _ => ∀ s, (object s).AliveOrReleased).pre ?_
    exact fun w tr hw => (Function.forall_update_iff w.pool.object fun _ e =>
      e.AliveOrReleased).2 ⟨.inr ⟨rfl, rfl⟩, fun slot _ => hw.1 slot⟩
  receive slot _ _ hw := World.AliveOrReleased.of_update hw rfl (hw slot)

lemma aliveOrReleased_ignoresApp :
    IgnoresApp fun (w : World σ) (_ : List Event) => w.AliveOrReleased where
  state hpool _ hw slot := by
    rw [World.entry, hpool]
    exact hw slot
  attached := id
  killed := id
  handedOff := id

lemma setupClient_aliveOrReleased (slot : ℕ) :
    Triple G (fun (w : World σ) _ => w.AliveOrReleased) (setupClient slot) fun r w _ =>
      w.AliveOrReleased ∧ (r = none → (w.entry slot).socketHandler.isSocketAlive) := by
  refine Triple.bind (Keeps.get (I := fun (w : World σ) _ => w.AliveOrReleased)) fun w₀ => ?_
  refine Triple.bind (Triple.modify (Q := fun _ (w : World σ) _ => w.AliveOrReleased)
    fun w tr hw => hw) fun _ => ?_
  cases w₀.results.connect.headD .socketFailed with
  | socketFailed | connectFailed socket =>
    refine Triple.bind (Triple.modify (Q := fun _ (w : World σ) _ => w.AliveOrReleased)
      fun w tr hw => hw.of_update rfl (hw slot)) fun _ => .pure fun w tr hw => ⟨hw, nofun⟩
  | connected socket =>
    refine Triple.bind (Triple.modify (Q := fun _ (w : World σ) _ => w.AliveOrReleased ∧
      (w.entry slot).socketHandler.isSocketAlive) fun w tr hw => ⟨hw.of_update rfl (.inl rfl), ?_⟩)
        fun _ => .pure fun w tr hw => ⟨hw.1, fun _ => hw.2⟩
    simp [World.entry, SocketHandler.isSocketAlive]

/-- Connecting to the server again. -/
lemma initConnectionType_aliveOrReleased (slot : ℕ) :
    Keeps G (fun (w : World σ) _ => w.AliveOrReleased)
      (NetworkEngine.initConnectionType .toServer slot) := by
  refine (setupClient_aliveOrReleased slot).bind fun r => ?_
  cases r with
  | some e => exact .pure fun w tr hw => hw.1
  | none =>
    exact Triple.bind (Triple.modify (Q := fun _ (w : World σ) _ => w.AliveOrReleased)
      fun w tr hw => hw.1.of_update rfl (.inl (hw.2 rfl))) fun _ => Keeps.pure

/-! ### Runs -/

/-- A state that `main` can reach: after its initialisation, and between operations of the
threads. -/
def Reachable {β : Type} (app : σ) (main : List β → EngineM σ PUnit) (w : World σ) : Prop :=
  ∃ results operations, ((main operations).run (World.initial app results)).value = some ⟨⟩ ∧
    ((main operations).run (World.initial app results)).state = w

lemma Reachable.of_triple {β : Type} {app : σ} {main : List β → EngineM σ PUnit} {w : World σ}
    {P : World σ → Prop} (h : Reachable app main w)
    (hmain : ∀ operations, Triple (fun _ _ => True) (World.IsInitial app) (main operations)
      fun _ w _ => P w) : P w := by
  obtain ⟨results, operations, hvalue, rfl⟩ := h
  exact hmain operations _ [] ⟨⟨results, rfl⟩, rfl⟩ (allowed_of_forall fun _ _ _ => trivial) _
    hvalue

lemma World.Started.aliveOrReleased {type : EndPoint} {app : σ} {w : World σ} {tr : List Event}
    (h : w.Started (fun e => e.connectionType = type ∧ e.socketHandler.isSocketAlive) app tr) :
    w.AliveOrReleased := by
  intro slot
  by_cases hslot : slot = 0
  · subst hslot
    exact .inl h.root.2
  · rw [h.other slot hslot]
    exact .inr ⟨rfl, rfl⟩

lemma server_handlerKeeps :
    HandlerKeeps G (fun w _ => w.AliveOrReleased) (fun _ => True) Server.handleAction :=
  (ServerInvariant.of_ignoresApp aliveOrReleased_invariant.toPoolInvariant
    (guardsTransfer_true _) aliveOrReleased_ignoresApp).handleAction

lemma lobby_handlerKeeps :
    HandlerKeeps G (fun w _ => w.AliveOrReleased) (fun _ => True) Lobby.handleAction :=
  .of_keep fun context => (aliveOrReleased_invariant.toPoolInvariant.lobbyHandleAction
    aliveOrReleased_ignoresApp context).post fun _ _ _ hw => ⟨hw.1, hw.2.1, hw.2.2.1⟩

lemma client_handleAction (context : ActionContext) :
    Triple G (fun w _ => w.AliveOrReleased) (Client.handleAction context) fun r w _ =>
      w.AliveOrReleased ∧ r.actionStatus = .continue ∧ r.connStatus = .keep :=
  aliveOrReleased_invariant.toPoolInvariant.clientHandleAction
    (Triple.bind (initConnectionType_aliveOrReleased 0) fun _ => Keeps.pure) context

lemma server_aliveOrReleased {w : World LobbyManager} (h : Reachable {} Server.main w) :
    w.AliveOrReleased := by
  refine h.of_triple fun operations => ?_
  have hinit : Triple (fun _ _ => True) (World.IsInitial {}) (Server.init .listener 0) fun r w _ =>
      r = none → w.AliveOrReleased := by
    refine (initApp_started (.inl rfl) 0).bind fun r => ?_
    cases r with
    | error e => exact .pure fun w tr _ => nofun
    | ok view => exact .pure fun w tr hw _ => (hw view rfl).2.aliveOrReleased
  refine hinit.bind fun r => ?_
  cases r with
  | some e => exact Triple.stop
  | none =>
    exact (aliveOrReleased_invariant.operations server_handlerKeeps operations).pre
      fun w tr hw => hw rfl

lemma lobby_aliveOrReleased {socket : ℤ} {w : World Lobby}
    (h : Reachable {} (Lobby.main socket) w) : w.AliveOrReleased := by
  refine h.of_triple fun operations => ?_
  have hinit : Triple (fun _ _ => True) (World.IsInitial {}) (Lobby.init .toParent socket)
      fun r w _ => r = none → w.AliveOrReleased := by
    refine (initApp_started (.inr (.inl rfl)) socket).bind fun r => ?_
    cases r with
    | error e => exact .pure fun w tr _ => nofun
    | ok view =>
      refine Triple.bind (Triple.modify (Q := fun _ (w : World Lobby) _ => w.AliveOrReleased)
        fun w tr hw => ?_) fun _ => .pure fun w tr hw _ => hw
      exact (hw view rfl).2.aliveOrReleased
  refine hinit.bind fun r => ?_
  cases r with
  | some e => exact Triple.stop
  | none =>
    exact (aliveOrReleased_invariant.operations lobby_handlerKeeps operations).pre
      fun w tr hw => hw rfl

lemma client_init_aliveOrReleased :
    Triple G (World.IsInitial {}) (Client.init .toServer 0) fun _ w _ => w.AliveOrReleased := by
  let P (w : World Client) (_ : List Event) : Prop := w.AliveOrReleased
  have hinitial : ∀ w tr, World.IsInitial {} w tr → P w tr := by
    rintro w tr ⟨⟨results, rfl⟩, -⟩ slot
    exact .inr ⟨rfl, rfl⟩
  have hpush : Triple G (World.IsInitial {}) (pushToPool (σ := Client)
      (if (0 : ℤ) ≠ 0 then .ofSocket .toServer 0 else {})) fun _ => P :=
    (pushToPool_aliveOrReleased (.inr ⟨rfl, rfl⟩)).pre hinitial
  have hepoll : Keeps G P NetworkEngine.initEpoll :=
    Triple.bind Keeps.get fun w => Keeps.ite (Triple.bind (aliveOrReleased_invariant.keeps_quiet
      (NetworkEngine.quiet_subscribeToEvents 0)) fun _ => Keeps.pure) Keeps.pure
  have hengine : Triple G (World.IsInitial {}) (NetworkEngine.initEngine .toServer 0)
      fun _ => P := by
    refine hpush.bind fun slot => ?_
    refine Triple.bind (initConnectionType_aliveOrReleased slot) fun r => ?_
    cases r with
    | some e => exact Keeps.pure
    | none =>
      refine Triple.bind hepoll fun r => ?_
      cases r with
      | some e => exact Keeps.pure
      | none => exact Keeps.pure
  have happ : Triple G (World.IsInitial {}) (initApp .toServer 0) fun _ => P := by
    refine hengine.bind fun r => ?_
    cases r with
    | error e => exact Keeps.pure
    | ok view => exact Keeps.pure
  refine happ.bind fun r => ?_
  cases r with
  | error e => exact Keeps.pure
  | ok view =>
    exact Triple.bind (Triple.modify (Q := fun _ => P) fun w tr hw => hw) fun _ => Keeps.pure

lemma client_aliveOrReleased {w : World Client} (h : Reachable {} Client.main w) :
    w.AliveOrReleased := by
  refine h.of_triple fun operations => ?_
  refine client_init_aliveOrReleased.bind fun _ => Keeps.runAll fun m hm => ?_
  obtain ⟨operation, -, rfl⟩ := List.mem_map.1 hm
  cases operation with
  | engine operation =>
    exact aliveOrReleased_invariant.toConnectionInvariant.operation (.of_keep client_handleAction)
      aliveOrReleased_invariant.processEvent operation
  | console line =>
    exact Triple.bind ((client_handleAction _).post fun _ _ _ hw => hw.1) fun _ => Keeps.pure

/-! ### Rearming -/

/-- The result of a handler that the event reports. -/
def Event.result : Event → Option ActionResult
  | .handled _ result => some result
  | _ => none

/-- No handler returns an error and keeps the connection. -/
def NoErrorKept (_ : List Event) (e : Event) : Prop :=
  ∀ result ∈ e.result, result.connStatus = .keep → result.error = none

instance (tr : List Event) (e : Event) : Decidable (NoErrorKept tr e) :=
  inferInstanceAs (Decidable (∀ result ∈ e.result, _))

/-- In the state `w`, no event leaves an open socket deaf: once `process_connection` or
`process_server_socket` has finished with a slot, its connection is released or armed. Connections
are only said to be so if `hconnection` holds of the events meanwhile, listeners if `hlistener`
holds of what `accept_connections` gives. -/
structure HearsOn (handleAction : ActionContext → EngineM σ ActionResult) (w : World σ) : Prop where
  connection : ∀ slot, let r := (NetworkEngine.processConnection handleAction ⟨slot⟩).run w
    r.value ≠ none → Allowed NoErrorKept [] r.events →
      r.state.Released slot ∨ r.state.Armed slot
  listener : ∀ slot, let r := (NetworkEngine.processServerSocket slot).run w
    r.value ≠ none → (acceptConnections w.results.accept4).1.isOk → r.state.Armed slot

lemma hearsOn_of_handlerKeeps {handleAction : ActionContext → EngineM σ ActionResult}
    (hhandler : HandlerKeeps NoErrorKept (fun w _ => w.AliveOrReleased) (fun _ => True)
      handleAction) {w : World σ} (hw : w.AliveOrReleased) : HearsOn handleAction w where
  connection slot := by
    intro r hvalue hevents
    obtain ⟨a, ha⟩ := Option.ne_none_iff_exists'.1 hvalue
    obtain ⟨hw', hslot⟩ := aliveOrReleased_invariant.processConnection hhandler ⟨slot⟩ w [] hw
      hevents a ha
    obtain halive | hreleased := hw' slot
    · obtain harmed | ⟨result, tr, hG, hkeep, herror⟩ := hslot halive
      · exact .inr harmed
      · exact absurd (hG result rfl hkeep) herror
    · exact .inl hreleased
  listener slot := by
    intro r hvalue haccept
    have hserver : Triple (fun _ _ => True)
        (fun w _ => (acceptConnections w.results.accept4).1.isOk)
        (NetworkEngine.processServerSocket slot) fun _ (w : World σ) _ => w.Armed slot := by
      refine Triple.bind (Triple.get (Q := fun w₀ _ _ =>
        (acceptConnections w₀.results.accept4).1.isOk) fun _ _ => id) fun w₀ => ?_
      refine Triple.bind (Triple.modify (Q := fun _ _ _ =>
        (acceptConnections w₀.results.accept4).1.isOk) fun _ _ => id) fun _ => ?_
      cases (acceptConnections w₀.results.accept4).1 with
      | error e => exact fun w tr herror => nomatch herror
      | ok sockets =>
        refine Triple.bind (Q := fun _ _ _ => True) (fun _ _ _ _ _ _ => trivial) fun _ => ?_
        refine (rearmSocket_value slot).bind fun r => ?_
        cases r with
        | none => exact .pure fun w tr harmed => harmed rfl
        | some e => exact Triple.stop
    obtain ⟨a, ha⟩ := Option.ne_none_iff_exists'.1 hvalue
    exact hserver w [] haccept (allowed_of_forall fun _ _ _ => trivial) a ha

/-- In every reachable state of the three applications, whatever socket the lobby is given. -/
theorem reachable_hearsOn (socket : ℤ) :
    (∀ w, Reachable {} Server.main w → HearsOn Server.handleAction w) ∧
    (∀ w, Reachable {} (Lobby.main socket) w → HearsOn Lobby.handleAction w) ∧
    (∀ w, Reachable {} Client.main w → HearsOn Client.handleAction w) :=
  ⟨fun _ hw => hearsOn_of_handlerKeeps server_handlerKeeps (server_aliveOrReleased hw),
    fun _ hw => hearsOn_of_handlerKeeps lobby_handlerKeeps (lobby_aliveOrReleased hw),
    fun _ hw => hearsOn_of_handlerKeeps (.of_keep client_handleAction)
      (client_aliveOrReleased hw)⟩

/-- A client connects to a server on descriptor 7 and sends `text`. -/
def clientSends (text : Bytes) : World LobbyManager :=
  let m : SentMessage := { payload := text, padding := Vector.replicate 7 0 }
  ((Server.main [.event 3, .event 7]).run (World.initial {} {
    listen := [.listening 3]
    accept4 := [.accepted 7]
    recvmsg := [.received m.encode none] })).state

/-- A chat message is answered and its connection armed again. -/
theorem reachable_hearsOn_msg :
    let r := (NetworkEngine.processConnection Server.handleAction ⟨1⟩).run
      (clientSends (ascii "\\msg hi"))
    r.state.Released 1 ∨ r.state.Armed 1 :=
  ((reachable_hearsOn 0).1 _ ⟨_, _, by decide, rfl⟩).connection 1 (by decide) (by decide)

/-- A chat message without a text leaves its connection alive and deaf. -/
theorem not_hears_msg :
    ¬ ∀ w, Reachable {} Server.main w → ∀ slot,
      let r := (NetworkEngine.processConnection Server.handleAction ⟨slot⟩).run w
      r.value ≠ none → r.state.Released slot ∨ r.state.Armed slot := by
  intro h
  have := h (clientSends (ascii "\\msg")) ⟨_, _, by decide, rfl⟩ 1 (by decide)
  revert this
  decide

end BattleShips
