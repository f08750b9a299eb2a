import BattleShips.Properties.ControlPlane

/-!
# The connection code of a lobby

The server sends a lobby its id as a decimal numeral, the lobby shows it to each player that it
accepts, and a player types it after `\join`. It is printed and read back three times on this way,
and passes two dispatchers.
-/

namespace BattleShips

open Traced

/-! ### From the code to the lobby -/

/-- The line that a client types to join the lobby with this code. -/
def joinLine (code : Bytes) : Bytes := ascii "\\join " ++ code

/-- The code brings a client to the lobby. -/
structure LeadsBack (lobbyId : ℤ) (code : Bytes) : Prop where
  /-- The client takes the line for one that it has to forward, and does so. -/
  broadcast : (Dispatcher.dispatch { payload := joinLine code }).scope = .broadcast
  forwarded : ∀ w : World Client, ∃ written,
    .sent w.app.serverView.slot { payload := joinLine code } written ∈
      ((Client.runOperation (.console (joinLine code))).run w).events
  /-- The server takes it for a request to join this lobby. -/
  requested : ∀ message : ReceivedMessage, message.type = .default →
    message.payload = joinLine code → (Dispatcher.dispatch message).variant = .joinLobby
  parsed : ∃ parsed, JoinLobbyCode.parse (joinLine code) = .ok parsed ∧ parsed.intCode = lobbyId ∧
    ∀ (m : LobbyManager) (entry : LobbyEntry), m.lobbies lobbyId = some entry →
      m.find parsed.intCode =
        .ok { lobbyId := lobbyId, controlConnection := entry.controlConnection }

lemma dispatch_joinLine {message : ReceivedMessage} {code : Bytes} (htype : message.type = .default)
    (hpayload : message.payload = joinLine code) :
    Dispatcher.dispatch message = { scope := .broadcast, variant := .joinLobby } := by
  rw [Dispatcher.dispatch_congr (n := { payload := joinLine code }) htype hpayload]
  rfl

/-- What follows the last space is the code. -/
lemma parse_joinLine {code : Bytes} (hcode : (32 : UInt8) ∉ code) :
    JoinLobbyCode.parse (joinLine code) = .ok { stringCode := code, intCode := strtol code } := by
  have hline : strtol (joinLine code) = 0 := rfl
  have hsplit : joinLine code = ascii "\\join" ++ (32 :: code) := rfl
  have hlast : (joinLine code).rtakeWhile (· ≠ 32) = code := by
    have hkept : code.reverse.takeWhile (· ≠ 32) = code.reverse := by
      refine List.takeWhile_eq_self_iff.2 fun b hb => ?_
      have hne : b ≠ 32 := fun h => hcode (h ▸ List.mem_reverse.1 hb)
      simpa using hne
    rw [hsplit, List.rtakeWhile, List.reverse_append, List.reverse_cons, List.append_assoc,
      List.takeWhile_append_of_pos (by simpa using List.takeWhile_eq_self_iff.1 hkept)]
    simp
  rw [JoinLobbyCode.parse, if_neg (by simp [hline]), if_pos (by simp [hsplit])]
  simp only [hlast]

/-- The client sends what has been typed, and nothing else before it. -/
lemma sendInputToServer_run (message : ReceivedMessage) (w : World Client) :
    ∃ value state written, (Client.sendInputToServer message).run w =
      ⟨some value, state, [.sent w.app.serverView.slot { payload := message.payload } written]⟩ :=
  ⟨_, _, _, rfl⟩

/-- The numeral of the id leads back to the lobby, whatever the id is. -/
theorem leadsBack_toDecimal {lobbyId : ℤ} (hnonneg : 0 ≤ lobbyId) (hlt : lobbyId < 2 ^ 63) :
    LeadsBack lobbyId (toDecimal lobbyId) := by
  have hspace : (32 : UInt8) ∉ toDecimal lobbyId := by
    obtain ⟨n, rfl⟩ := Int.eq_ofNat_of_zero_le hnonneg
    intro hmem
    exact absurd (isDigit_of_mem_decimal hmem) (by decide)
  constructor
  · rw [dispatch_joinLine rfl rfl]
  · intro w
    obtain ⟨value, state, written, hrun⟩ := sendInputToServer_run
      { payload := joinLine (toDecimal lobbyId) } w
    refine ⟨written, ?_⟩
    apply mem_events_bind
    rw [Client.handleAction, dispatch_joinLine rfl rfl]
    apply mem_events_bind
    rw [hrun]
    exact List.mem_singleton_self _
  · intro message htype hpayload
    rw [dispatch_joinLine htype hpayload]
  · refine ⟨_, parse_joinLine hspace, strtol_toDecimal hnonneg hlt, ?_⟩
    intro m entry hentry
    rw [strtol_toDecimal hnonneg hlt]
    exact LobbyManager.find_eq_ok.2 ⟨entry, hentry, rfl⟩

/-! ### What a lobby shows to its players -/

/-- The greeting with a code. -/
def greeting (code : Bytes) : OutgoingMessage where
  payload := ascii "Connected to lobby\nConnection code is:\n\t" ++ code
  type := .printable

/-- The notice to a connection that could not be registered. -/
def registrationFailed : OutgoingMessage where
  payload := userMessage .generic
  type := .printable

/-- The message passes a connection to the lobby. -/
def PassesConnection (message : ReceivedMessage) : Prop :=
  (Dispatcher.dispatch message).variant = .acceptSocket ∧ message.socket ≠ none

instance (message : ReceivedMessage) : Decidable (PassesConnection message) :=
  inferInstanceAs (Decidable (_ ∧ _))

/-- The connection code after some events, whoever has sent the messages. -/
def codeAfter (lobbyId : ℤ) : List Event → ℤ
  | [] => lobbyId
  | .received _ _ message :: es => codeAfter (lobbyIdAfter lobbyId message) es
  | _ :: es => codeAfter lobbyId es

/-- Whether the last message passes a connection. -/
def acceptsAfter (accepts : Bool) : List Event → Bool
  | [] => accepts
  | .received _ _ message :: es => acceptsAfter (decide (PassesConnection message)) es
  | _ :: es => acceptsAfter accepts es

/-- The greetings: what is sent while the lobby has a message that passes a connection, but for
notices of failure. Each comes with the connection code at its time. -/
def greetings (lobbyId : ℤ) (accepts : Bool) : List Event → List (ℤ × OutgoingMessage)
  | [] => []
  | .received _ _ message :: es =>
    greetings (lobbyIdAfter lobbyId message) (decide (PassesConnection message)) es
  | .sent _ message _ :: es =>
    if accepts ∧ message ≠ registrationFailed then
      (lobbyId, message) :: greetings lobbyId accepts es
    else greetings lobbyId accepts es
  | _ :: es => greetings lobbyId accepts es

lemma codeAfter_append (lobbyId : ℤ) (es es' : List Event) :
    codeAfter lobbyId (es ++ es') = codeAfter (codeAfter lobbyId es) es' := by
  induction es generalizing lobbyId with
  | nil => rfl
  | cons e es ih => cases e <;> exact ih _

lemma greetings_append (lobbyId : ℤ) (accepts : Bool) (es es' : List Event) :
    greetings lobbyId accepts (es ++ es') = greetings lobbyId accepts es ++
      greetings (codeAfter lobbyId es) (acceptsAfter accepts es) es' := by
  induction es generalizing lobbyId accepts with
  | nil => rfl
  | cons e es ih =>
    cases e with
    | sent slot message written =>
      rw [List.cons_append, greetings, greetings, ih]
      split_ifs <;> rfl
    | _ => exact ih _ _

/-- Every greeting shows the connection code of its time. -/
structure Greets (w : World Lobby) (es : List Event) (w' : World Lobby) : Prop where
  lobbyId : w'.app.lobbyId = codeAfter w.app.lobbyId es
  shown : ∀ accepts, ∀ x ∈ greetings w.app.lobbyId accepts es, x.2 = greeting (toDecimal x.1)

lemma greets_composable : Composable Greets where
  refl _ := ⟨rfl, nofun⟩
  trans h h' := by
    constructor
    · rw [h'.lobbyId, h.lobbyId, codeAfter_append]
    · intro accepts x hx
      rw [greetings_append, ← h.lobbyId] at hx
      rcases List.mem_append.1 hx with hx | hx
      · exact h.shown accepts x hx
      · exact h'.shown _ x hx

/-! ### What the handler sends -/

/-- An event of a call of the handler, with a message that passes a connection or not. -/
def Event.OfCall (accepts : Prop) (lobbyId : ℤ) : Event → Prop
  | .received _ _ _ => False
  | .sent _ message _ =>
    accepts → message = registrationFailed ∨ message = greeting (toDecimal lobbyId)
  | _ => True

/-- The connection code stays, and all that is sent while a connection is accepted is its greeting
or a notice of failure. -/
structure Calls (accepts : Prop) (w : World Lobby) (es : List Event) (w' : World Lobby) :
    Prop where
  lobbyId : w'.app.lobbyId = w.app.lobbyId
  events : ∀ e ∈ es, e.OfCall accepts w.app.lobbyId

lemma calls_composable (accepts : Prop) : Composable (Calls accepts) where
  refl _ := ⟨rfl, nofun⟩
  trans h h' := by
    refine ⟨h'.lobbyId.trans h.lobbyId, List.forall_mem_append.2 ⟨h.events, fun e he => ?_⟩⟩
    rw [← h.lobbyId]
    exact h'.events e he

lemma Event.Aside.ofCall {accepts : Prop} {lobbyId : ℤ} {e : Event} (h : e.Aside) :
    e.OfCall accepts lobbyId := by
  cases e with
  | received slot type message => exact h
  | sent slot message written => exact h.elim
  | _ => trivial

lemma codeAfter_ofCall {accepts : Prop} {n : ℤ} {es : List Event} (h : ∀ e ∈ es, e.OfCall accepts n)
    (lobbyId : ℤ) : codeAfter lobbyId es = lobbyId := by
  induction es with
  | nil => rfl
  | cons e es ih =>
    have he := h e List.mem_cons_self
    have hes := ih fun e' he' => h e' (List.mem_cons_of_mem _ he')
    cases e with
    | received slot type message => exact he.elim
    | _ => exact hes

lemma greetings_ofCall {accepts : Bool} {lobbyId : ℤ} {es : List Event}
    (h : ∀ e ∈ es, e.OfCall (accepts = true) lobbyId) :
    ∀ x ∈ greetings lobbyId accepts es, x.2 = greeting (toDecimal x.1) := by
  induction es with
  | nil => exact fun x hx => absurd hx List.not_mem_nil
  | cons e es ih =>
    have he := h e List.mem_cons_self
    have hes := ih fun e' he' => h e' (List.mem_cons_of_mem _ he')
    cases e with
    | received slot type message => exact he.elim
    | sent slot message written =>
      intro x hx
      rw [greetings] at hx
      split_ifs at hx with hsent
      · rcases List.mem_cons.1 hx with rfl | hx
        · exact (he hsent.1).resolve_left hsent.2
        · exact hes x hx
      · exact hes x hx
    | _ => exact hes

section Handler

variable {G : List Event → Event → Prop} {P : World Lobby → List Event → Prop} {accepts : Prop}

lemma Aside.calls {α : Type} {m : EngineM Lobby α} (hm : Aside m) :
    Effect G P m (Calls accepts) := by
  intro w tr _ _
  exact ⟨by rw [(hm w).1], fun e he => ((hm w).2 e he).ofCall⟩

/-- Registration sends nothing but a notice of failure. -/
lemma attachSocket_calls (socket : ℤ) :
    Effect G P (NetworkEngine.attachSocket socket .toClient) (Calls accepts) := by
  have hR := calls_composable accepts
  have hregister : Effect G P (NetworkEngine.registerConnection .toClient socket)
      (Calls accepts) := by
    refine .bind_of_forall hR (Aside.calls (aside_pushToPool _)) fun slot => ?_
    refine .bind_of_forall hR (Aside.calls (NetworkEngine.aside_subscribeToEvents slot)) fun r => ?_
    cases r with
    | none => exact .pure hR
    | some e =>
      refine .bind_of_forall hR (R := Calls accepts) ?_ fun _ =>
        .bind_of_forall hR (Aside.calls (aside_resetAndRelease slot)) fun _ => .pure hR
      intro w tr _ _
      exact ⟨rfl, List.forall_mem_singleton.2 fun _ => .inl rfl⟩
  refine .bind_of_forall hR hregister fun r => ?_
  cases r with
  | error e => exact .pure hR
  | ok slot => exact .pure hR

/-- What the handler does, unless the message names the lobby. -/
lemma handleAction_calls {context : ActionContext}
    (hname : (Dispatcher.dispatch context.receivedMessage).variant ≠ .setLobbyId) :
    Effect G P (Lobby.handleAction context)
      (Calls (PassesConnection context.receivedMessage)) := by
  have hR := calls_composable (PassesConnection context.receivedMessage)
  rw [Lobby.handleAction]
  cases hvariant : (Dispatcher.dispatch context.receivedMessage).variant with
  | setLobbyId => exact absurd hvariant hname
  | chatMessage =>
    change Effect G P (executeChatMessage context) _
    intro w tr _ hG
    have hbroadcast := executeChatMessage_broadcast (P := fun _ _ => True)
      (t := (parse context.receivedMessage.payload).toOption.getD [])
      (fun t' ht' => by rw [ht']; rfl) w tr trivial hG
    refine ⟨by rw [hbroadcast.app], fun e he => ?_⟩
    have hevent := hbroadcast.events e he
    cases e with
    | received slot type message => exact hevent
    | sent slot message written =>
      intro haccepts
      exact absurd haccepts.1 (by simp [hvariant])
    | _ => trivial
  | acceptSocket =>
    change Effect G _ (Lobby.executeAcceptSocket context) _
    rw [Lobby.executeAcceptSocket]
    cases hsocket : context.receivedMessage.socket with
    | none =>
      intro w tr _ _
      exact ⟨rfl, List.forall_mem_singleton.2 fun haccepts => absurd hsocket haccepts.2⟩
    | some socket =>
      refine .bind_of_forall hR (attachSocket_calls socket) fun r => ?_
      cases r with
      | error e => exact .pure hR
      | ok clientView =>
        refine .bind_of_forall hR (R := Calls (PassesConnection context.receivedMessage)) ?_
          fun r => ?_
        · intro w tr _ _
          exact ⟨rfl, List.forall_mem_singleton.2 fun _ => .inr rfl⟩
        cases r with
        | none => exact .pure hR
        | some e =>
          refine .bind_of_forall hR (.get_bind fun w => ?_) fun _ => .pure hR
          exact .ite (fun _ => Aside.calls (NetworkEngine.aside_releaseConnection _))
            fun _ => .pure hR
  | _ => exact .pure hR

/-- A message, and all that the lobby does with it. -/
lemma callHandler_greets (slot : ℕ) (message : ReceivedMessage) :
    Effect G P (NetworkEngine.callHandler Lobby.handleAction slot message) Greets := by
  refine .get_bind fun w₀ => ?_
  by_cases hname : (Dispatcher.dispatch message).variant = .setLobbyId
  · intro w tr _ _
    rw [Lobby.handleAction, hname]
    have hid : strtol message.payload = lobbyIdAfter w.app.lobbyId message := (if_pos hname).symm
    exact ⟨hid, fun accepts x hx => absurd hx List.not_mem_nil⟩
  · refine .emit_bind (S := Calls (PassesConnection message)) ?_ ?_
    · refine .bind_of_forall (calls_composable _) (handleAction_calls hname) fun result => ?_
      refine .bind_of_forall (calls_composable _) (.emit ?_) fun _ => .pure (calls_composable _)
      exact fun w tr _ _ => ⟨rfl, List.forall_mem_singleton.2 trivial⟩
    · intro w tr es w' _ h
      have hid : lobbyIdAfter w.app.lobbyId message = w.app.lobbyId := if_neg hname
      constructor
      · rw [h.lobbyId, codeAfter, hid, codeAfter_ofCall h.events]
      · intro accepts x hx
        rw [greetings, hid] at hx
        exact greetings_ofCall (fun e he => by simpa using h.events e he) x hx

end Handler

/-! ### Runs of the lobby -/

/-- A lobby listens to nobody. -/
def NoListener (w : World Lobby) (_ : List Event) : Prop :=
  ∀ slot, (w.entry slot).connectionType ≠ .listener

section Runs

variable {G : List Event → Event → Prop}

lemma noListener_invariant : ConnectionInvariant G NoListener fun _ => True where
  same hsame h slot := by rw [hsame.entry]; exact h slot
  silent _ := id
  inUse_of_type _ := trivial
  inUse_handler _ := id
  inUse_of_alive _ _ := trivial
  retire slot := by
    apply triple_resetAndRelease
    rintro w tr room w' ⟨h, -⟩ hretired - s
    by_cases hs : s = slot
    · rw [hs, hretired.entry_self]
      exact nofun
    · rw [hretired.entry_of_ne hs]
      exact h s
  receive slot handle tape h s := by
    by_cases hs : s = slot
    · subst hs
      simpa [World.entry] using h s
    · simpa [World.entry, hs] using h s

lemma attachSocket_noListener (socket : ℤ) :
    Keeps G NoListener (NetworkEngine.attachSocket socket .toClient) := by
  have hpush : Keeps G NoListener (pushToPool (.ofSocket .toClient socket)) := by
    apply triple_pushToPool
    intro w tr slot w' h hpush _ s
    by_cases hs : s = slot
    · rw [hs, (World.pushToPool_entry_self hpush).1]
      exact nofun
    · rw [World.pushToPool_entry_of_ne hpush hs]
      exact h s
  have hregister : Keeps G NoListener (NetworkEngine.registerConnection .toClient socket) := by
    refine hpush.bind fun slot => ?_
    refine (noListener_invariant.keeps_quiet
      (NetworkEngine.quiet_subscribeToEvents slot)).bind fun r => ?_
    cases r with
    | none => exact Keeps.pure
    | some e =>
      refine (noListener_invariant.keeps_quiet
        (NetworkEngine.quiet_sendMessageImpl slot _)).bind fun _ => ?_
      refine Keeps.bind ?_ fun _ => Keeps.pure
      exact (noListener_invariant.retire slot).pre fun _ _ h => ⟨h, trivial⟩
  refine hregister.bind fun r => ?_
  cases r with
  | error e => exact Keeps.pure
  | ok slot => exact Keeps.pure

lemma noListener_handlerKeeps :
    HandlerKeeps G NoListener (fun _ => True) Lobby.handleAction := by
  refine .of_keep fun context => ?_
  refine (noListener_invariant.toReleaseInvariant.lobbyHandleAction context (fun _ _ => id)
    (fun lobbyId => Triple.modify fun w tr h => h) fun socket _ _ =>
      attachSocket_noListener socket).post fun r w tr h => ⟨h.1, h.2.1, h.2.2.1⟩

lemma lobby_greets : ConnectionEffect G NoListener (fun _ => True) Lobby.handleAction Greets where
  toComposable := greets_composable
  aside {w w' es} happ hes := by
    have hcall : ∀ accepts, ∀ e ∈ es, e.OfCall accepts w.app.lobbyId :=
      fun accepts e he => (hes e he).ofCall
    constructor
    · rw [happ, codeAfter_ofCall (hcall True)]
    · exact fun accepts => greetings_ofCall (hcall (accepts = true))
  callHandler := callHandler_greets
  userCode := lobby_userCode

/-- In every run of a lobby, every greeting shows the connection code of its time. -/
lemma lobby_main_greets (socket : ℤ) (operations : List Operation) :
    Effect G (World.IsInitial {}) (Lobby.main socket operations) Greets := by
  have hinit : Effect G (World.IsInitial {}) (Lobby.init .toParent socket) Greets := by
    refine .bind_of_forall greets_composable
      (lobby_greets.of_aside (aside_initApp_toParent socket)) fun r => ?_
    cases r with
    | error e => exact .pure greets_composable
    | ok view =>
      exact .bind_of_forall greets_composable (.modify fun w tr _ => ⟨rfl, nofun⟩)
        fun _ => .pure greets_composable
  refine hinit.bind greets_composable (lobby_init_shape socket) fun r => ?_
  cases r with
  | some e => exact .stop greets_composable
  | none =>
    exact (lobby_greets.operations noListener_invariant noListener_handlerKeeps
      (fun w tr slot h => h slot) operations).pre fun w tr h slot => (h rfl).ne_listener slot

end Runs

/-! ### Introductions -/

/-- The message of the parent that names the lobby. -/
def Event.Names (lobbyId : ℤ) : Event → Prop
  | .received _ .toParent message =>
    (Dispatcher.dispatch message).variant = .setLobbyId ∧ message.payload = toDecimal lobbyId
  | _ => False

/-- The parent sends no other name than this id, and nobody passes a connection before it has. -/
def Introduced (lobbyId : ℤ) (tr : List Event) : Event → Prop
  | .received _ type message =>
    (type = .toParent → (Dispatcher.dispatch message).variant = .setLobbyId →
      message.payload = toDecimal lobbyId) ∧
    ((Dispatcher.dispatch message).variant = .acceptSocket → ∃ e ∈ tr, e.Names lobbyId)
  | _ => True

/-- Nobody but the parent names the lobby. -/
def ParentNames (_ : List Event) : Event → Prop
  | .received _ type message =>
    type ≠ .toParent → (Dispatcher.dispatch message).variant ≠ .setLobbyId
  | _ => True

instance (lobbyId : ℤ) : ∀ e : Event, Decidable (e.Names lobbyId)
  | .received _ .toParent _ => inferInstanceAs (Decidable (_ ∧ _))
  | .received _ .none _ | .received _ .toClient _ | .received _ .toLobby _
  | .received _ .listener _ | .received _ .toServer _ => isFalse id
  | .acquired _ | .exhausted | .released _ _ | .sent _ _ _ | .handled _ _ | .acceptFailed _
  | .handedOff _ _ _ | .transferFailed _ _ _ | .recoverFailed _ | .attached _ _ _ | .killed _
  | .printed _ => isFalse id

instance (lobbyId : ℤ) (tr : List Event) : ∀ e, Decidable (Introduced lobbyId tr e)
  | .received _ _ _ => inferInstanceAs (Decidable (_ ∧ _))
  | .acquired _ | .exhausted | .released _ _ | .sent _ _ _ | .handled _ _ | .acceptFailed _
  | .handedOff _ _ _ | .transferFailed _ _ _ | .recoverFailed _ | .attached _ _ _ | .killed _
  | .printed _ => isTrue trivial

instance (tr : List Event) : ∀ e, Decidable (ParentNames tr e)
  | .received _ type message =>
    inferInstanceAs (Decidable (type ≠ .toParent →
      (Dispatcher.dispatch message).variant ≠ .setLobbyId))
  | .acquired _ | .exhausted | .released _ _ | .sent _ _ _ | .handled _ _ | .acceptFailed _
  | .handedOff _ _ _ | .transferFailed _ _ _ | .recoverFailed _ | .attached _ _ _ | .killed _
  | .printed _ => isTrue trivial

/-- Where only the parent names the lobby, it has its name whenever it greets. -/
lemma greetings_introduced {lobbyId : ℤ} (hnonneg : 0 ≤ lobbyId) (hlt : lobbyId < 2 ^ 63)
    {tr es : List Event} (hintroduced : Allowed (Introduced lobbyId) tr es)
    (hparent : Allowed ParentNames tr es) {code : ℤ} {accepts : Bool}
    (hcode : (∃ e ∈ tr, e.Names lobbyId) → code = lobbyId) (haccepts : accepts → code = lobbyId) :
    ∀ x ∈ greetings code accepts es, x.1 = lobbyId := by
  induction es generalizing tr code accepts with
  | nil => exact fun x hx => absurd hx List.not_mem_nil
  | cons e es ih =>
    obtain ⟨he, hes⟩ := hintroduced
    obtain ⟨hp, hps⟩ := hparent
    have hother : ¬ e.Names lobbyId → ∀ x ∈ greetings code accepts es, x.1 = lobbyId := by
      intro hnames
      apply ih hes hps _ haccepts
      rintro ⟨e', he', hnames'⟩
      rcases List.mem_append.1 he' with he' | he'
      · exact hcode ⟨e', he', hnames'⟩
      · rw [List.mem_singleton.1 he'] at hnames'
        exact absurd hnames' hnames
    cases e with
    | received slot type message =>
      by_cases hname : (Dispatcher.dispatch message).variant = .setLobbyId
      · -- the new code is the one that the parent sends
        have htype : type = .toParent := by
          by_contra htype
          exact hp htype hname
        have hafter : lobbyIdAfter code message = lobbyId := by
          rw [lobbyIdAfter, if_pos hname, he.1 htype hname, strtol_toDecimal hnonneg hlt]
        exact ih hes hps (fun _ => hafter) fun _ => hafter
      · have hafter : lobbyIdAfter code message = code := if_neg hname
        rw [greetings, hafter]
        apply ih hes hps
        · rintro ⟨e', he', hnames⟩
          rcases List.mem_append.1 he' with he' | he'
          · exact hcode ⟨e', he', hnames⟩
          · rw [List.mem_singleton.1 he'] at hnames
            cases type with
            | toParent => exact absurd hnames.1 hname
            | _ => exact hnames.elim
        · intro hpasses
          exact hcode (he.2 (of_decide_eq_true hpasses).1)
    | sent slot message written =>
      intro x hx
      rw [greetings] at hx
      split_ifs at hx with hsent
      · rcases List.mem_cons.1 hx with rfl | hx
        · exact haccepts hsent.1
        · exact hother id x hx
      · exact hother id x hx
    | _ => exact hother id

/-- **The way back.** In every run of a lobby in which nobody but its parent names it, every
greeting shows a code that leads back to the lobby, if its id has arrived before any connection. -/
theorem greetings_leadBack {lobbyId : ℤ} (hnonneg : 0 ≤ lobbyId) (hlt : lobbyId < 2 ^ 63)
    (socket : ℤ) (results : SysResults) (operations : List Operation) :
    let r := (Lobby.main socket operations).run (World.initial {} results)
    Allowed (Introduced lobbyId) [] r.events → Allowed ParentNames [] r.events →
      ∀ x ∈ greetings 0 false r.events,
        ∃ code, x.2 = greeting code ∧ LeadsBack lobbyId code := by
  intro r hintroduced hparent x hx
  have hgreets := lobby_main_greets (G := fun _ _ => True) socket operations _ []
    ⟨⟨results, rfl⟩, rfl⟩ (allowed_of_forall fun _ _ _ => trivial)
  refine ⟨toDecimal x.1, hgreets.shown false x hx, ?_⟩
  rw [greetings_introduced hnonneg hlt hintroduced hparent (by simp) (by simp) x hx]
  exact leadsBack_toDecimal hnonneg hlt

/-- A lobby that is named and gets a player. -/
theorem greetings_leadBack_one :
    let r := (Lobby.main 5 [.event 5, .network 0]).run
      (World.initial {} (playerAttached (toDecimal 54321)))
    greetings 0 false r.events = [(54321, greeting (ascii "54321"))] ∧
      ∀ x ∈ greetings 0 false r.events, ∃ code, x.2 = greeting code ∧ LeadsBack 54321 code :=
  ⟨by decide, @greetings_leadBack 54321 (by decide) (by decide) _ _ _ (by decide) (by decide)⟩

/-- What the lobby of `playerAttached` is going to get if the player renames it before another
player comes. -/
def playerRenames : SysResults :=
  let m : SentMessage :=
    { payload := ascii "77", type := .lobbyId, padding := Vector.replicate 7 0 }
  let player : SentMessage :=
    { payload := ascii "\\socket", type := .socket, padding := Vector.replicate 7 0 }
  { playerAttached (toDecimal 54321) with
    recvmsg := (playerAttached (toDecimal 54321)).recvmsg ++
      [.wouldBlock, .received m.encode none, .wouldBlock, .received player.encode (some 8)] }

/-- A player names the lobby 77, and the next player is shown this code. -/
theorem greetings_mislead :
    ¬ ∀ lobbyId : ℤ, 0 ≤ lobbyId → lobbyId < 2 ^ 63 → ∀ socket results operations,
      let r := (Lobby.main socket operations).run (World.initial {} results)
      Allowed (Introduced lobbyId) [] r.events → ∀ x ∈ greetings 0 false r.events,
        ∃ code, x.2 = greeting code ∧ LeadsBack lobbyId code := by
  intro h
  have hlead := h 54321 (by decide) (by decide) 5 playerRenames
    [.event 5, .network 0, .event 7, .network 1, .event 5, .network 0] (by decide)
    (77, greeting (ascii "77")) (by decide)
  obtain ⟨code, hcode, hleads⟩ := hlead
  obtain rfl : ascii "77" = code :=
    List.append_cancel_left (congrArg OutgoingMessage.payload hcode)
  obtain ⟨parsed, hparsed, hid, -⟩ := hleads.parsed
  have hcomputed : JoinLobbyCode.parse (joinLine (ascii "77")) =
      .ok { stringCode := ascii "77", intCode := 77 } := by decide
  rw [hcomputed] at hparsed
  rw [← Except.ok.inj hparsed] at hid
  exact absurd hid (by decide)

end BattleShips
