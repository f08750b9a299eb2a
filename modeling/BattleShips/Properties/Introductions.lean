import BattleShips.Net.ReceiveStream
import BattleShips.Properties.ConnectionCode
import BattleShips.Properties.LobbyRegistry

/-!
# The introduction of a lobby

The server tells a lobby its id before it passes it a player, and nothing that it sends to the lobby
later changes that. The lobby believes its parent. So whatever the two processes do, a player who
is shown a connection code and types it is led to the lobby that has shown it.
-/

namespace BattleShips

open Traced

/-! ### What a lobby is sent -/

/-- The message that names a lobby. -/
def introduction (lobbyId : ℤ) : OutgoingMessage where
  payload := toDecimal lobbyId
  type := .lobbyId

/-- A message that passes a connection, or a notice of failure, which is for users. -/
def OutgoingMessage.Later (message : OutgoingMessage) : Prop :=
  (message.type = .socket ∧ message.payload = ascii "\\socket") ∨
    ∃ code, message = { payload := userMessage code, type := .printable }

/-- The lobby that has the slot for its control connection, and what it has been sent on it, after
an event. -/
def lineAfter (slot : ℕ) (line : Option (ℤ × List OutgoingMessage)) :
    Event → Option (ℤ × List OutgoingMessage)
  | .attached lobbyId s _ => if s = slot then some (lobbyId, []) else line
  | .acquired s | .released s _ => if s = slot then none else line
  | .sent s message (some _) => if s = slot then line.map fun x => (x.1, x.2 ++ [message]) else line
  | _ => line

def controlLine (slot : ℕ) (es : List Event) : Option (ℤ × List OutgoingMessage) :=
  es.foldl (lineAfter slot) none

/-- The event concerns no control connection. -/
def Event.OffLine (e : Event) : Prop := ∀ slot line, lineAfter slot line e = line

/-- A message that names a lobby goes out, and as a whole. -/
def IntroductionsSucceed (_ : List Event) : Event → Prop
  | .sent _ message written =>
    message.type = .lobbyId → written = some (headerSize + message.payload.length)
  | _ => True

instance (tr : List Event) : DecidablePred (IntroductionsSucceed tr) := fun e =>
  match e with
  | .sent _ message written =>
    inferInstanceAs (Decidable
      (message.type = .lobbyId → written = some (headerSize + message.payload.length)))
  | .acquired _ | .exhausted | .released _ _ | .received _ _ _ | .handled _ _ | .acceptFailed _
  | .handedOff _ _ _ | .transferFailed _ _ _ | .recoverFailed _ | .attached _ _ _ | .killed _
  | .printed _ => isTrue trivial

/-- The messages begin with the introduction, which is the only one among them. -/
def Introduces (lobbyId : ℤ) (messages : List OutgoingMessage) : Prop :=
  ∃ later, messages = introduction lobbyId :: later ∧ ∀ message ∈ later, message.Later

section Lines

variable {slot : ℕ} {tr es : List Event} {e : Event} {lobbyId : ℤ}
  {messages : List OutgoingMessage} {message : OutgoingMessage}

lemma controlLine_concat : controlLine slot (tr ++ [e]) = lineAfter slot (controlLine slot tr) e :=
  List.foldl_append

lemma controlLine_offLine (h : ∀ e ∈ es, e.OffLine) :
    controlLine slot (tr ++ es) = controlLine slot tr := by
  induction es generalizing tr with
  | nil => rw [List.append_nil]
  | cons e es ih =>
    rw [List.append_cons, ih fun e' he' => h e' (List.mem_cons_of_mem _ he'), controlLine_concat]
    exact h e List.mem_cons_self slot _

lemma Event.offLine_of_aside (hsilent : e.Silent) (haside : e.Aside) : e.OffLine := by
  cases e with
  | acquired s | released s room | attached id s pid => exact hsilent.elim
  | sent s message written => exact haside.elim
  | _ => exact fun _ _ => rfl

lemma Introduces.concat (h : Introduces lobbyId messages) (hmessage : message.Later) :
    Introduces lobbyId (messages ++ [message]) := by
  obtain ⟨later, rfl, hlater⟩ := h
  exact ⟨later ++ [message], rfl,
    List.forall_mem_append.2 ⟨hlater, List.forall_mem_singleton.2 hmessage⟩⟩

end Lines

lemma LobbyManager.find_insert {m : LobbyManager} {lobbyId id : ℤ} {entry : LobbyEntry}
    {view : LobbyView} (hnone : m.lobbies lobbyId = none) (hfind : m.find id = .ok view) :
    (m.insert lobbyId entry).find id = .ok view := by
  obtain ⟨entry', hentry', hview⟩ := find_eq_ok.1 hfind
  have hne : id ≠ lobbyId := by
    rintro rfl
    rw [hnone] at hentry'
    cases hentry'
  exact find_eq_ok.2 ⟨entry', by simpa [insert, hne] using hentry', hview⟩

/-- The code is a `long` that is not negative. -/
lemma generateConnCode_range (now : Time) :
    0 ≤ generateConnCode now ∧ generateConnCode now < 2 ^ 63 := by
  refine ⟨?_, (fitsLong_strtol _).2⟩
  have hne : (decimal now.seconds).drop ((decimal now.seconds).length - 5) ≠ [] := by
    have := List.length_pos_of_ne_nil (decimal_ne_nil now.seconds)
    rw [ne_eq, List.drop_eq_nil_iff]
    omega
  have hdigits : ∀ b ∈ (decimal now.seconds).drop ((decimal now.seconds).length - 5), isDigit b :=
    fun b hb => isDigit_of_mem_decimal (List.mem_of_mem_drop hb)
  rw [generateConnCode, strtol_numeral (.unsigned hne hdigits), clampLong]
  omega

/-! ### The invariant of the server -/

/-- The lobby is in the table, with the connection in the slot. -/
structure World.Registered (w : World LobbyManager) (slot : ℕ) (lobbyId : ℤ) : Prop where
  type : (w.entry slot).connectionType = .toLobby
  find : w.app.find lobbyId = .ok { lobbyId := lobbyId, controlConnection := ⟨slot⟩ }
  nonneg : 0 ≤ lobbyId
  lt : lobbyId < 2 ^ 63

/-- Every control connection is that of a lobby in the table, on which the lobby has been introduced
first, unless it is the one of `fresh`, on which nothing has been sent. -/
def Controls (fresh : Option ℕ) (w : World LobbyManager) (tr : List Event) : Prop :=
  ∀ slot lobbyId messages, controlLine slot tr = some (lobbyId, messages) →
    w.Registered slot lobbyId ∧
      if fresh = some slot then messages = [] else Introduces lobbyId messages

namespace Controls

variable {G : List Event → Event → Prop} {fresh : Option ℕ} {w w' : World LobbyManager}
  {tr es : List Event} {slot : ℕ} {e : Event}

lemma introduces {lobbyId : ℤ} {messages : List OutgoingMessage} (h : Controls none w tr)
    (hline : controlLine slot tr = some (lobbyId, messages)) :
    w.Registered slot lobbyId ∧ Introduces lobbyId messages := by
  have hslot := h slot lobbyId messages hline
  rwa [if_neg (Option.some_ne_none slot).symm] at hslot

lemma of_eq (h : Controls fresh w tr)
    (htype : ∀ slot, (w'.entry slot).connectionType = (w.entry slot).connectionType)
    (happ : ∀ lobbyId view, w.app.find lobbyId = .ok view → w'.app.find lobbyId = .ok view)
    (hes : ∀ e ∈ es, e.OffLine) : Controls fresh w' (tr ++ es) := by
  intro slot lobbyId messages hline
  rw [controlLine_offLine hes] at hline
  obtain ⟨hregistered, hmessages⟩ := h slot lobbyId messages hline
  refine ⟨⟨?_, happ _ _ hregistered.find, hregistered.nonneg, hregistered.lt⟩, hmessages⟩
  rw [htype]
  exact hregistered.type

/-- The connection in the slot is another one. -/
lemma taken (h : Controls fresh w tr) (hentry : ∀ s, s ≠ slot → w'.entry s = w.entry s)
    (happ : w'.app = w.app)
    (hline : ∀ s line, lineAfter s line e = if slot = s then none else line) :
    Controls fresh w' (tr ++ [e]) := by
  intro s lobbyId messages hs
  rw [controlLine_concat, hline] at hs
  by_cases heq : slot = s
  · rw [if_pos heq] at hs
    cases hs
  · rw [if_neg heq] at hs
    obtain ⟨hregistered, hmessages⟩ := h s lobbyId messages hs
    refine ⟨⟨?_, ?_, hregistered.nonneg, hregistered.lt⟩, hmessages⟩
    · rw [hentry s fun hs' => heq hs'.symm]
      exact hregistered.type
    · rw [happ]
      exact hregistered.find

/-- A lobby is only sent what may come later. -/
lemma sent {message : OutgoingMessage} {written : Option ℕ} (h : Controls none w tr)
    (hmessage : message.Later ∨ (w.entry slot).connectionType ≠ .toLobby) :
    Controls none w (tr ++ [.sent slot message written]) := by
  cases written with
  | none =>
    exact h.of_eq (fun _ => rfl) (fun _ _ => id) (List.forall_mem_singleton.2 fun _ _ => rfl)
  | some n =>
    intro s lobbyId messages hs
    rw [controlLine_concat, lineAfter] at hs
    rw [if_neg (Option.some_ne_none s).symm]
    split_ifs at hs with heq
    · obtain ⟨⟨id, before⟩, hline, hx⟩ := Option.map_eq_some_iff.1 hs
      obtain ⟨rfl, rfl⟩ := Prod.mk.inj hx
      obtain ⟨hregistered, hbefore⟩ := h.introduces hline
      rw [heq] at hmessage
      exact ⟨hregistered, hbefore.concat (hmessage.resolve_right fun hne => hne hregistered.type)⟩
    · exact h.introduces hs

/-- The slot is that of a lobby that has been put into the table. -/
lemma attached {lobbyId : ℤ} {pid : ℕ} (h : Controls none w tr)
    (hregistered : w.Registered slot lobbyId) :
    Controls (some slot) w (tr ++ [.attached lobbyId slot pid]) := by
  intro s id messages hs
  rw [controlLine_concat, lineAfter] at hs
  split_ifs at hs with heq
  · obtain ⟨rfl, rfl⟩ := Prod.mk.inj (Option.some.inj hs)
    rw [← heq, if_pos rfl]
    exact ⟨hregistered, rfl⟩
  · rw [if_neg fun hsome => heq (Option.some.inj hsome)]
    exact h.introduces hs

/-- It is introduced. -/
lemma introduced {lobbyId : ℤ} {n : ℕ} (h : Controls (some slot) w tr)
    (hline : controlLine slot tr = some (lobbyId, [])) :
    Controls none w (tr ++ [.sent slot (introduction lobbyId) (some n)]) := by
  intro s id messages hs
  rw [controlLine_concat, lineAfter] at hs
  rw [if_neg (Option.some_ne_none s).symm]
  split_ifs at hs with heq
  · rw [← heq, hline] at hs
    obtain ⟨rfl, rfl⟩ := Prod.mk.inj (Option.some.inj hs)
    rw [← heq]
    exact ⟨(h slot _ _ hline).1, [], rfl, fun m hm => absurd hm List.not_mem_nil⟩
  · have hother := h s id messages hs
    rwa [if_neg fun hsome => heq (Option.some.inj hsome)] at hother

/-! ### The operations of the engine -/

/-- What only changes the rest of the process. -/
lemma modify {f : World LobbyManager → World LobbyManager} (hpool : ∀ w, (f w).pool = w.pool)
    (happ : ∀ w, (f w).app = w.app) : Keeps G (Controls fresh) (Traced.modify f) := by
  refine Triple.modify fun w tr h => ?_
  rw [← List.append_nil tr]
  exact h.of_eq (fun slot => by rw [World.entry, hpool, World.entry])
    (fun _ _ => by rw [happ]; exact id) fun e he => absurd he List.not_mem_nil

lemma emit (h : e.OffLine) : Keeps G (Controls fresh) (Traced.emit e) :=
  Triple.emit fun _ _ hcontrols _ => hcontrols.of_eq (fun _ => rfl) (fun _ _ => id)
    (List.forall_mem_singleton.2 h)

lemma quiet {α : Type} {m : EngineM LobbyManager α} (hm : Quiet m) (haside : Aside m) :
    Keeps G (Controls fresh) m := by
  intro w tr h _ a _
  obtain ⟨hsame, hsilent⟩ := hm w
  refine h.of_eq (fun slot => by rw [hsame.entry]) (fun _ _ => by rw [hsame.app]; exact id) ?_
  exact fun e he => Event.offLine_of_aside (hsilent e he) ((haside w).2 e he)

/-- To show that a message may be sent, show it of the event. -/
lemma sendMessageImpl {message : OutgoingMessage} {P : World LobbyManager → List Event → Prop}
    (h : ∀ w tr written, P w tr → G tr (.sent slot message written) →
      Controls none w (tr ++ [.sent slot message written])) :
    Triple G P (NetworkEngine.sendMessageImpl slot message) fun _ => Controls none := by
  intro w tr hw hG r _
  obtain ⟨⟨written, hevents⟩, hsame⟩ := NetworkEngine.sendMessageImpl_run slot message w
  rw [hevents] at hG
  rw [hevents, ← List.append_nil (tr ++ _)]
  exact (h w tr written hw hG.1).of_eq (fun slot => by rw [hsame.entry])
    (fun _ _ => by rw [hsame.app]; exact id) fun e he => absurd he List.not_mem_nil

lemma sendLater (slot : ℕ) {message : OutgoingMessage} (hmessage : message.Later) :
    Keeps G (Controls none) (NetworkEngine.sendMessageImpl slot message) :=
  sendMessageImpl fun _ _ _ h _ => h.sent (.inl hmessage)

lemma later_notice (code : UserError) :
    OutgoingMessage.Later { payload := userMessage code, type := .printable } := .inr ⟨code, rfl⟩

lemma resetAndRelease (slot : ℕ) : Keeps G (Controls none) (BattleShips.resetAndRelease slot) :=
  triple_resetAndRelease fun _ _ _ _ h hretired _ =>
    h.taken (fun _ hs => hretired.entry_of_ne hs) hretired.app fun _ _ => rfl

lemma releaseConnection (slot : ℕ) :
    Keeps G (Controls none) (NetworkEngine.releaseConnection slot) :=
  Keeps.bind (quiet (NetworkEngine.quiet_unsubscribeFromEvents slot)
    (NetworkEngine.aside_unsubscribeFromEvents slot)) fun _ => resetAndRelease slot

lemma registerConnection (type : EndPoint) (socket : ℤ) :
    Keeps G (Controls none) (NetworkEngine.registerConnection type socket) := by
  have hpush : Keeps G (Controls none) (pushToPool (.ofSocket type socket)) :=
    triple_pushToPool fun w tr slot w' h hpush _ =>
      h.taken (fun s hs => World.pushToPool_entry_of_ne hpush hs) (World.pushToPool_rest hpush).1
        fun _ _ => rfl
  refine Keeps.bind hpush fun slot => Keeps.bind (quiet (NetworkEngine.quiet_subscribeToEvents slot)
    (NetworkEngine.aside_subscribeToEvents slot)) fun r => ?_
  cases r with
  | none => exact Keeps.pure
  | some e =>
    exact Keeps.bind (sendLater slot (later_notice .generic)) fun _ =>
      Keeps.bind (resetAndRelease slot) fun _ => Keeps.pure

lemma processServerSocket (slot : ℕ) :
    Keeps G (Controls none) (NetworkEngine.processServerSocket (σ := LobbyManager) slot) := by
  have hconnections : ∀ sockets report, Keeps G (Controls none)
      (NetworkEngine.registerConnections sockets report) := by
    intro sockets
    induction sockets with
    | nil => exact fun report => Keeps.pure
    | cons socket sockets ih =>
      refine fun report => Keeps.bind (registerConnection .toClient socket) fun r => ?_
      cases r with
      | ok slot => exact ih _
      | error e => exact ih _
  refine Keeps.bind Keeps.get fun w₀ => ?_
  refine Keeps.bind (modify (fun _ => rfl) fun _ => rfl) fun _ => ?_
  cases (acceptConnections w₀.results.accept4).1 with
  | error e => exact emit fun _ _ => rfl
  | ok sockets =>
    refine Keeps.bind (hconnections sockets {}) fun _ => Keeps.bind (quiet (quiet_rearmSocket slot)
      (aside_rearmSocket slot)) fun r => ?_
    cases r with
    | none => exact Keeps.pure
    | some e => exact Triple.stop

lemma sendMessage (message : OutgoingMessage) : Keeps G (Controls none)
    (NetworkEngine.sendMessage message fun connection => connection.type = .toClient) := by
  refine Keeps.bind Keeps.get fun w => ?_
  generalize ({} : DeliveryReport) = report
  induction List.range w.pool.counter generalizing report with
  | nil => exact Keeps.pure
  | cons index indices ih =>
    refine (Triple.get (Q := fun w₀ w tr => w = w₀ ∧ Controls none w tr)
      fun w tr h => ⟨rfl, h⟩).bind fun w₀ => ?_
    refine Triple.ite (fun hfilter => ?_) fun _ => (ih _).pre fun w tr h => h.2
    refine Triple.bind (Q := fun _ => Controls none) (sendMessageImpl ?_) fun r => ?_
    · rintro w tr written ⟨rfl, h⟩ -
      refine h.sent (.inr fun hlobby => ?_)
      have hclient : (w.entry index).connectionType = .toClient := of_decide_eq_true hfilter.2
      exact EndPoint.noConfusion (hlobby.symm.trans hclient)
    cases r with
    | none => exact ih _
    | some e => exact Keeps.bind (resetAndRelease index) fun _ => ih _

lemma transfer (destinationView sourceView : ConnectionView) : Keeps G (Controls none)
    (NetworkEngine.transfer (σ := LobbyManager) destinationView sourceView) := by
  refine Keeps.bind (quiet (NetworkEngine.quiet_unsubscribeFromEvents _)
    (NetworkEngine.aside_unsubscribeFromEvents _)) fun _ => Keeps.bind Keeps.get fun w => ?_
  refine Keeps.bind (sendLater _ (.inl ⟨rfl, rfl⟩)) fun r => ?_
  cases r with
  | none => exact Keeps.bind (resetAndRelease _) fun _ => Keeps.pure
  | some e =>
    refine Keeps.bind (emit fun _ _ => rfl) fun _ => Keeps.bind (releaseConnection _) fun _ => ?_
    refine Keeps.bind (quiet (NetworkEngine.quiet_subscribeToEvents _)
      (NetworkEngine.aside_subscribeToEvents _)) fun r => ?_
    cases r with
    | none => exact Keeps.pure
    | some e =>
      exact Keeps.bind (emit fun _ _ => rfl) fun _ => Keeps.bind (releaseConnection _) fun _ =>
        Keeps.pure

/-! ### The operations of the server -/

lemma killLobby (lobbyId : ℤ) : Keeps G (Controls none) (LobbyManager.killLobby lobbyId) := by
  refine (Triple.get (Q := fun w₀ w tr => w.app = w₀.app ∧ Controls none w tr)
    fun w tr h => ⟨rfl, h⟩).bind fun w₀ => ?_
  cases hentry : w₀.app.lobbies lobbyId with
  | some entry => exact Triple.pre (emit fun _ _ => rfl) fun w tr h => h.2
  | none =>
    refine Triple.bind (Triple.modify (Q := fun _ => Controls none) ?_)
      fun _ => emit fun _ _ => rfl
    rintro w tr ⟨happ, h⟩
    rw [← happ] at hentry
    rw [← List.append_nil tr]
    exact h.of_eq (fun _ => rfl) (fun _ _ => LobbyManager.find_insert hentry)
      fun e he => absurd he List.not_mem_nil

/-- The table gets a lobby, on whose control connection nothing has been sent. -/
lemma attach (pid : ℕ) (control : ConnectionView) :
    Triple G (fun w tr => Controls none w tr ∧ (w.entry control.slot).connectionType = .toLobby)
      (LobbyManager.attach pid control) fun r w tr =>
        (∀ e, r = .error e → Controls none w tr) ∧ ∀ view, r = .ok view →
          view.controlConnection = control ∧ Controls (some control.slot) w tr ∧
            controlLine control.slot tr = some (view.lobbyId, []) := by
  let P (w : World LobbyManager) (tr : List Event) : Prop :=
    Controls none w tr ∧ (w.entry control.slot).connectionType = .toLobby
  refine (Triple.get (Q := fun w₀ w tr => w.app = w₀.app ∧ P w tr)
    fun w tr h => ⟨rfl, h⟩).bind fun w₀ => ?_
  refine Triple.bind (Triple.modify (Q := fun _ w tr => w.app = w₀.app ∧ P w tr) ?_) fun _ => ?_
  · rintro w tr ⟨happ, h, htype⟩
    rw [← List.append_nil tr]
    exact ⟨happ, h.of_eq (fun _ => rfl) (fun _ _ => id) fun e he => absurd he List.not_mem_nil,
      htype⟩
  dsimp only
  cases hentry : w₀.app.lobbies (generateConnCode (w₀.results.time.headD default)) with
  | some entry =>
    refine Triple.bind (Triple.pre (emit fun _ _ => rfl) fun w tr h => h.2.1) fun _ => ?_
    exact .pure fun w tr h => ⟨fun _ _ => h, fun view hview => by cases hview⟩
  | none =>
    set lobbyId := generateConnCode (w₀.results.time.headD default)
    refine Triple.bind (Triple.modify (Q := fun _ w tr => Controls none w tr ∧
      w.Registered control.slot lobbyId) ?_) fun _ => ?_
    · rintro w tr ⟨happ, h, htype⟩
      rw [← happ] at hentry
      obtain ⟨hnonneg, hlt⟩ := generateConnCode_range (w₀.results.time.headD default)
      refine ⟨?_, htype, LobbyManager.find_eq_ok.2 ⟨⟨pid, control⟩, ?_, rfl⟩, hnonneg, hlt⟩
      · rw [← List.append_nil tr]
        exact h.of_eq (fun _ => rfl) (fun _ _ => LobbyManager.find_insert hentry)
          fun e he => absurd he List.not_mem_nil
      · exact Function.update_self ..
    · refine Triple.bind (Triple.emit (Q := fun _ w tr => Controls (some control.slot) w tr ∧
        controlLine control.slot tr = some (lobbyId, [])) fun w tr h _ => ⟨h.1.attached h.2, ?_⟩)
          fun _ => .pure fun w tr h => ⟨fun _ herror => ?_, fun view hview => ?_⟩
      · rw [controlLine_concat]
        exact if_pos rfl
      · cases herror
      · obtain rfl := Except.ok.inj hview
        exact ⟨rfl, h⟩

lemma attachSocket (socket : ℤ) :
    Triple G (Controls none)
      (NetworkEngine.attachSocket (σ := LobbyManager) socket .toLobby) fun r w tr =>
        Controls none w tr ∧ ∀ view, r = .ok view →
          (w.entry view.slot).connectionType = .toLobby := by
  have hkeeps : Keeps G (Controls none) (NetworkEngine.attachSocket socket .toLobby) := by
    refine Keeps.bind (registerConnection .toLobby socket) fun r => ?_
    cases r with
    | ok slot => exact Keeps.pure
    | error e => exact Keeps.pure
  have hpool : PoolInvariant G (fun (_ : World LobbyManager) _ => True) fun _ => True := {
    same := fun _ => id
    silent := fun _ => id
    inUse_of_type := fun _ => trivial
    inUse_handler := fun _ => id
    inUse_of_alive := fun _ _ => trivial
    retire := fun _ _ _ _ _ _ _ => trivial
    acquire := fun _ _ _ _ _ _ _ => trivial
    unused := fun _ _ => .inr fun _ => trivial }
  exact (hkeeps.and (hpool.attachSocket socket (by decide) ∅)).conseq
    (fun w tr h => ⟨h, trivial, fun _ _ => trivial⟩)
    fun r w tr h => ⟨h.1, fun view hview => (h.2.2.2 view hview).1⟩

lemma createLobby :
    Triple G (Controls none) Server.createLobby fun r w tr =>
      (∀ e, r = .error e → Controls none w tr) ∧ ∀ view, r = .ok view →
        Controls (some view.controlConnection.slot) w tr ∧
          controlLine view.controlConnection.slot tr = some (view.lobbyId, []) := by
  have hspawn : Keeps G (Controls none) (LobbyManager.spawnLobby (σ := LobbyManager)) := by
    refine Keeps.bind Keeps.get fun w => Keeps.bind (modify (fun _ => rfl) fun _ => rfl) fun _ => ?_
    cases w.results.spawn.headD .socketpairFailed with
    | socketpairFailed => exact Keeps.pure
    | forkFailed sv0 sv1 | spawned sv0 sv1 =>
      exact Keeps.bind (modify (fun _ => rfl) fun _ => rfl) fun _ => Keeps.pure
  refine Triple.bind hspawn fun r => ?_
  cases r with
  | error e => exact .pure fun w tr h => ⟨fun _ _ => h, fun view hview => by cases hview⟩
  | ok spawned =>
    refine (attachSocket spawned.controlSocket).bind fun r => ?_
    cases r with
    | error e => exact .pure fun w tr h => ⟨fun _ _ => h.1, fun view hview => by cases hview⟩
    | ok control =>
      refine ((attach spawned.pid control).pre fun w tr h =>
        ⟨h.1, h.2 control rfl⟩).bind fun r => ?_
      cases r with
      | error e =>
        exact .pure fun w tr h => ⟨fun _ _ => h.1 e rfl, fun view hview => by cases hview⟩
      | ok lobbyView =>
        refine .pure fun w tr h => ⟨fun _ herror => ?_, fun view hview => ?_⟩
        · cases herror
        · obtain rfl := Except.ok.inj hview
          obtain ⟨hcontrol, hattached⟩ := h.2 lobbyView rfl
          rwa [hcontrol]

/-- The lobby is introduced before anything else is sent to it. -/
lemma initLobby (view : LobbyView) :
    Triple IntroductionsSucceed (fun w tr => Controls (some view.controlConnection.slot) w tr ∧
        controlLine view.controlConnection.slot tr = some (view.lobbyId, []))
      (Server.initLobby view) fun _ => Controls none := by
  refine Triple.bind (sendMessageImpl fun w tr written h hG => ?_) fun _ => Keeps.pure
  obtain rfl := hG rfl
  exact h.1.introduced h.2

lemma performTransfer (recipient : LobbyView) (context : ActionContext) :
    Keeps G (Controls none) (Server.performTransfer recipient context) := by
  refine Keeps.bind (emit fun _ _ => rfl) fun _ => Keeps.bind (transfer _ _) fun result => ?_
  exact Keeps.ite Keeps.pure (Keeps.bind (killLobby _) fun _ => Keeps.pure)

lemma handleAction (context : ActionContext) :
    Keeps IntroductionsSucceed (Controls none) (Server.handleAction context) := by
  rw [Server.handleAction]
  cases filterVariant ServerAction.ofVariant
      (Dispatcher.dispatch context.receivedMessage).variant with
  | error e => exact Keeps.pure
  | ok action =>
    cases action with
    | createLobby =>
      refine Triple.bind createLobby fun r => ?_
      cases r with
      | error e => exact .pure fun w tr h => h.1 e rfl
      | ok lobbyView =>
        refine Triple.bind ((initLobby lobbyView).pre fun w tr h => h.2 lobbyView rfl) fun r => ?_
        cases r with
        | none => exact performTransfer lobbyView context
        | some e => exact Keeps.pure
    | joinLobby =>
      change Keeps IntroductionsSucceed _ (Server.executeJoinLobby context)
      rw [Server.executeJoinLobby]
      cases JoinLobbyCode.parse context.receivedMessage.payload with
      | error e => exact Keeps.pure
      | ok code =>
        refine Keeps.bind Keeps.get fun w => ?_
        cases w.app.find code.intCode with
        | error e => exact Keeps.pure
        | ok lobbyView => exact performTransfer lobbyView context
    | chatMessage =>
      change Keeps IntroductionsSucceed _ (executeChatMessage context)
      rw [executeChatMessage]
      cases parse context.receivedMessage.payload with
      | error e => exact Keeps.pure
      | ok text => exact Keeps.bind (sendMessage _) fun _ => Keeps.pure
    | generalAction =>
      refine Keeps.bind (sendLater _ (later_notice .unknownCommand)) fun r => ?_
      cases r with
      | none => exact Keeps.pure
      | some e => exact Keeps.pure

/-! ### Runs of the server -/

lemma processNextMessage (slot : ℕ) :
    Keeps IntroductionsSucceed (Controls none)
      (NetworkEngine.processNextMessage Server.handleAction slot) := by
  have hget : Keeps IntroductionsSucceed (Controls none) (getMessage (σ := LobbyManager) slot) := by
    intro w tr h _ _ _
    exact h.of_eq (fun s => getMessage_connectionType slot s w)
      (fun _ _ => by rw [(aside_getMessage slot w).1]; exact id)
      fun e he => absurd he List.not_mem_nil
  have hprocess : ∀ message, Keeps IntroductionsSucceed (Controls none)
      (NetworkEngine.processMessage Server.handleAction slot message) := by
    intro message
    rw [NetworkEngine.processMessage]
    cases message.status with
    | empty | wouldBlock =>
      refine Keeps.bind (quiet (quiet_rearmSocket slot) (aside_rearmSocket slot)) fun r => ?_
      cases r with
      | none => exact Keeps.pure
      | some e => exact Keeps.pure
    | disconnected => exact Keeps.pure
    | data =>
      refine Keeps.bind Keeps.get fun w => Keeps.bind (emit fun _ _ => rfl) fun _ => ?_
      exact Keeps.bind (handleAction _) fun result => Keeps.bind (emit fun _ _ => rfl)
        fun _ => Keeps.pure
  have hconclude : ∀ result, Keeps IntroductionsSucceed (Controls none)
      (NetworkEngine.concludeMessage (σ := LobbyManager) slot result) := by
    refine fun result => Keeps.bind ?_ fun _ => Keeps.ite (releaseConnection slot) Keeps.pure
    cases result.userCode with
    | none => exact Keeps.pure
    | some code => exact sendLater slot (later_notice code)
  refine Keeps.bind hget fun received => ?_
  cases received with
  | none => exact Keeps.bind (releaseConnection slot) fun _ => Keeps.pure
  | some message =>
    refine Keeps.bind (hprocess message) fun result => Keeps.bind (hconclude result) fun _ => ?_
    cases result.error with
    | none => exact Keeps.pure
    | some e => exact Keeps.pure

lemma operation (operation : Operation) :
    Keeps IntroductionsSucceed (Controls none) (operation.run Server.handleAction) := by
  cases operation with
  | event socket =>
    refine Keeps.bind (quiet (quiet_waitForEvent socket) (NetworkEngine.aside_waitForEvent socket))
      fun slot => ?_
    cases slot with
    | none => exact Keeps.pure
    | some slot =>
      exact Keeps.bind Keeps.get fun w => Keeps.ite (processServerSocket slot) Keeps.pure
  | network slot =>
    have hloop : ∀ fuel result, Keeps IntroductionsSucceed (Controls none)
        (NetworkEngine.processConnectionLoop Server.handleAction slot fuel result) := by
      intro fuel
      induction fuel with
      | zero => exact fun result => Keeps.pure
      | succ fuel ih =>
        refine fun result => Keeps.bind Keeps.get fun w => Keeps.ite ?_ Keeps.pure
        refine Keeps.bind (processNextMessage slot) fun next => ?_
        cases next with
        | error e => exact Keeps.pure
        | ok result => exact ih result
    refine Keeps.bind (Keeps.bind Keeps.get fun w => Keeps.bind (hloop _ _) fun finished => ?_)
      fun _ => Keeps.pure
    cases finished with
    | none => exact Triple.stop
    | some e => exact Keeps.pure

/-- A server that has just started has no lobbies. -/
lemma of_started {root : ConnectionEntry → Prop} (h : w.Started root {} tr) :
    Controls none w tr := by
  have hnone : ∀ slot line e, Event.Silent e → line = none → lineAfter slot line e = none := by
    rintro slot line e he rfl
    cases e with
    | acquired s | released s room | attached id s pid => exact he.elim
    | sent s message written =>
      cases written with
      | none => rfl
      | some n => exact ite_self _
    | _ => rfl
  have hsilent : ∀ slot (es : List Event), (∀ e ∈ es, e.Silent) → controlLine slot es = none := by
    intro slot es hes
    induction es using List.reverseRecOn with
    | nil => rfl
    | append_singleton es e ih =>
      obtain ⟨hes, he⟩ := List.forall_mem_append.1 hes
      rw [controlLine_concat]
      exact hnone slot _ e (List.forall_mem_singleton.1 he) (ih hes)
  obtain ⟨es, hes, rfl⟩ := h.events
  intro slot lobbyId messages hline
  rw [controlLine, List.foldl_cons, lineAfter, ite_self, ← controlLine,
    hsilent slot es hes] at hline
  cases hline

end Controls

lemma server_main_controls (operations : List Operation) :
    Triple IntroductionsSucceed (World.IsInitial {}) (Server.main operations)
      fun _ => Controls none := by
  have hinit : Triple IntroductionsSucceed (World.IsInitial {}) (Server.init .listener 0)
      fun r w tr => r = none → Controls none w tr := by
    refine (initApp_started (.inl rfl) 0).bind fun r => ?_
    cases r with
    | error e => exact .pure fun w tr _ hnone => by cases hnone
    | ok view => exact .pure fun w tr hw _ => .of_started (hw view rfl).2
  refine hinit.bind fun r => ?_
  cases r with
  | some e => exact Triple.stop
  | none =>
    refine Triple.pre (Keeps.runAll fun m hm => ?_) fun w tr hw => hw rfl
    obtain ⟨operation, -, rfl⟩ := List.mem_map.1 hm
    exact Controls.operation operation

/-- In every run of the server in which no message that names a lobby fails, every control
connection is that of a lobby in the table, and the first that the lobby has been sent on it is its
id, and then nothing but connections and notices. -/
theorem server_introduces_lobbies (results : SysResults) (operations : List Operation) :
    let r := (Server.main operations).run (World.initial {} results)
    r.value = some ⟨⟩ → Allowed IntroductionsSucceed [] r.events → ∀ slot lobbyId messages,
      controlLine slot r.events = some (lobbyId, messages) →
        r.state.app.find lobbyId = .ok { lobbyId := lobbyId, controlConnection := ⟨slot⟩ } ∧
          Introduces lobbyId messages := by
  intro r hvalue hsucceed slot lobbyId messages hline
  have hcontrols := server_main_controls operations _ [] ⟨⟨results, rfl⟩, rfl⟩ hsucceed _ hvalue
  obtain ⟨hregistered, hintroduces⟩ := hcontrols.introduces hline
  exact ⟨hregistered.find, hintroduces⟩

/-- The lobby that a client has asked for is introduced and gets the client. -/
theorem server_introduces_lobbies_create :
    let r := (Server.main [.event 3, .event 7, .network 1]).run (World.initial {} lobbyCreated)
    let player : OutgoingMessage :=
      { payload := ascii "\\socket", type := .socket, socket := some 7 }
    controlLine 2 r.events = some (54321, [introduction 54321, player]) ∧
      Introduces 54321 [introduction 54321, player] := by
  have hline : controlLine 2 ((Server.main [.event 3, .event 7, .network 1]).run
      (World.initial {} lobbyCreated)).events = some (54321, [introduction 54321,
        { payload := ascii "\\socket", type := .socket, socket := some 7 }]) := by
    decide +kernel
  exact ⟨hline, (server_introduces_lobbies _ _ (by decide +kernel) (by decide +kernel) _ _ _
    hline).2⟩

/-! ### What a lobby makes of it -/

/-- The lobby takes its introduction for one. -/
lemma dispatch_introduction {message : ReceivedMessage} {lobbyId : ℤ}
    (h : message.content = (introduction lobbyId).content) :
    (Dispatcher.dispatch message).variant = .setLobbyId := by
  obtain ⟨htype, hpayload⟩ := Prod.mk.inj h
  have haliases : ∀ action ∈ Dispatcher.actions, ∀ a ∈ action.textAliases, 92 ∈ a := by decide
  -- an id does not start like a command
  have hmatch : ∀ action ∈ Dispatcher.actions, Dispatcher.matchAction action message =
      decide (action.type = some .lobbyId) := by
    intro action haction
    have hany : action.textAliases.any (·.isPrefixOf message.payload) = false := by
      refine List.any_eq_false.2 fun a ha hstarts => ?_
      have hmem := (List.isPrefixOf_iff_prefix.1 hstarts).subset (haliases action haction a ha)
      rw [hpayload] at hmem
      obtain h | h | h := (numeral_toDecimal lobbyId).mem hmem <;> revert h <;> decide
    rw [Dispatcher.matchAction, hany, Bool.or_false, htype]
    rfl
  rw [Dispatcher.dispatch, List.find?_congr hmatch]
  rfl

/-- It takes what comes later for no introduction. -/
lemma dispatch_later {message : ReceivedMessage} {sent : OutgoingMessage} (hlater : sent.Later)
    (h : message.content = sent.content) :
    (Dispatcher.dispatch message).variant ≠ .setLobbyId := by
  obtain ⟨htype, hpayload⟩ := Prod.mk.inj h
  obtain ⟨hsocket, htext⟩ | ⟨code, rfl⟩ := hlater
  · rw [Dispatcher.dispatch_congr (n := { type := .socket, payload := ascii "\\socket" })
      (htype.trans hsocket) (hpayload.trans htext)]
    decide
  · rw [Dispatcher.dispatch_congr (n := { type := .printable, payload := userMessage code })
      htype hpayload]
    cases code <;> decide

/-- Nobody but the parent has messages for the control plane. -/
def ParentControls (_ : List Event) : Event → Prop
  | .received _ type message => type ≠ .toParent → ¬ IsControl message
  | _ => True

instance (tr : List Event) : ∀ e, Decidable (ParentControls tr e)
  | .received _ type message =>
    inferInstanceAs (Decidable (type ≠ .toParent → ¬ IsControl message))
  | .acquired _ | .exhausted | .released _ _ | .sent _ _ _ | .handled _ _ | .acceptFailed _
  | .handedOff _ _ _ | .transferFailed _ _ _ | .recoverFailed _ | .attached _ _ _ | .killed _
  | .printed _ => isTrue trivial

/-- What the lobby has got from its parent is the beginning of these messages. -/
def FromParent (messages : List OutgoingMessage) (es : List Event) : Prop :=
  (parentMessages es).map (·.content) <+: messages.map (·.content)

section FromParent

variable {messages : List OutgoingMessage} {es : List Event} {lobbyId : ℤ}

/-- The first message of the parent names the lobby. -/
lemma names_of_fromParent (hmessages : Introduces lobbyId messages) (h : FromParent messages es)
    (hsome : parentMessages es ≠ []) : ∃ e ∈ es, e.Names lobbyId := by
  obtain ⟨later, rfl, -⟩ := hmessages
  obtain ⟨first, rest, hfirst⟩ := List.exists_cons_of_ne_nil hsome
  obtain ⟨e, he, hmessage⟩ := List.mem_filterMap.1 (hfirst ▸ List.mem_cons_self : first ∈ _)
  rw [FromParent, hfirst, List.map_cons, List.map_cons, List.cons_prefix_cons] at h
  refine ⟨e, he, ?_⟩
  cases e with
  | received slot type message =>
    cases type with
    | toParent =>
      obtain rfl := Option.some.inj hmessage
      exact ⟨dispatch_introduction h.1, (Prod.mk.inj h.1).2⟩
    | _ => cases hmessage
  | _ => cases hmessage

lemma introduced_of_fromParent (hmessages : Introduces lobbyId messages)
    (hparent : Allowed ParentControls [] es) (h : FromParent messages es) :
    Allowed (Introduced lobbyId) [] es := by
  induction es using List.reverseRecOn with
  | nil => trivial
  | append_singleton es e ih =>
    obtain ⟨hparents, hcontrols, -⟩ := allowed_append.1 hparent
    have hbefore : FromParent messages es := by
      refine List.IsPrefix.trans ?_ h
      rw [parentMessages, parentMessages, List.filterMap_append, List.map_append]
      exact List.prefix_append _ _
    refine allowed_append.2 ⟨ih hparents hbefore, ?_, trivial⟩
    cases e with
    | received slot type message =>
      by_cases htype : type = .toParent
      · obtain ⟨later, rfl, hlater⟩ := id hmessages
        subst htype
        rw [FromParent, parentMessages, List.filterMap_append, ← parentMessages] at h
        cases hfirst : parentMessages es with
        | nil =>
          have hcontent : message.content = (introduction lobbyId).content := by
            rw [hfirst] at h
            exact (List.cons_prefix_cons.1 h).1
          refine ⟨fun _ _ => (Prod.mk.inj hcontent).2, fun haccept => ?_⟩
          rw [dispatch_introduction hcontent] at haccept
          cases haccept
        | cons first rest =>
          have hmem : message.content ∈ later.map (·.content) := by
            rw [hfirst, List.cons_append] at h
            refine (List.cons_prefix_cons.1 h).2.subset ?_
            rw [List.map_append]
            exact List.mem_append_right _ List.mem_cons_self
          obtain ⟨sent, hsent, hcontent⟩ := List.mem_map.1 hmem
          have hnames : ∃ e ∈ es, e.Names lobbyId := by
            refine names_of_fromParent hmessages hbefore ?_
            rw [hfirst]
            exact List.cons_ne_nil first rest
          exact ⟨fun _ hname => absurd hname (dispatch_later (hlater sent hsent) hcontent.symm),
            fun _ => hnames⟩
      · have hcontrol := hcontrols htype
        exact ⟨fun hparent => absurd hparent htype, fun haccept => absurd (.inl haccept) hcontrol⟩
    | _ => trivial

lemma parentNames_of_parentControls {tr : List Event} (h : Allowed ParentControls tr es) :
    Allowed ParentNames tr es := by
  induction es generalizing tr with
  | nil => trivial
  | cons e es ih =>
    refine ⟨?_, ih h.2⟩
    have he := h.1
    cases e with
    | received slot type message => exact fun htype hname => he htype (.inr hname)
    | _ => trivial

end FromParent

/-- **Two processes.** A server has sent messages to a lobby, and what the lobby has got from its
parent is the beginning of them. Whatever both of them have done, every code that the lobby has
shown to a player is one under which the server finds this lobby, if no message that names a lobby
has failed and no player has sent messages for the control plane. -/
theorem lobby_shows_itsCode (results : SysResults) (operations : List Operation) (slot : ℕ)
    (lobbyId : ℤ) (messages : List OutgoingMessage) (socket : ℤ) (results' : SysResults)
    (operations' : List Operation) :
    let r := (Server.main operations).run (World.initial {} results)
    let r' := (Lobby.main socket operations').run (World.initial {} results')
    r.value = some ⟨⟩ → Allowed IntroductionsSucceed [] r.events →
      controlLine slot r.events = some (lobbyId, messages) → FromParent messages r'.events →
        Allowed ParentControls [] r'.events →
        ∀ x ∈ greetings 0 false r'.events, ∃ code parsed, x.2 = greeting code ∧
          LeadsBack lobbyId code ∧ JoinLobbyCode.parse (joinLine code) = .ok parsed ∧
            r.state.app.find parsed.intCode =
              .ok { lobbyId := lobbyId, controlConnection := ⟨slot⟩ } := by
  intro r r' hvalue hsucceed hline hparent hcontrols x hx
  have hserver := server_main_controls operations _ [] ⟨⟨results, rfl⟩, rfl⟩ hsucceed _ hvalue
  obtain ⟨hregistered, hmessages⟩ := hserver.introduces hline
  have hgreets := lobby_main_greets (G := fun _ _ => True) socket operations' _ []
    ⟨⟨results', rfl⟩, rfl⟩ (allowed_of_forall fun _ _ _ => trivial)
  have hcode : x.1 = lobbyId := greetings_introduced hregistered.nonneg hregistered.lt
    (introduced_of_fromParent hmessages hcontrols hparent)
    (parentNames_of_parentControls hcontrols) (by simp) (by simp) x hx
  have hleads := leadsBack_toDecimal hregistered.nonneg hregistered.lt
  obtain ⟨parsed, hparsed, hid, -⟩ := hleads.parsed
  refine ⟨toDecimal lobbyId, parsed, ?_, hleads, hparsed, ?_⟩
  · rw [← hcode]
    exact hgreets.shown false x hx
  · rw [hid]
    exact hregistered.find

/-- A server that creates a lobby for a client, and the lobby, which greets it. -/
theorem lobby_shows_itsCode_create :
    let r := (Server.main [.event 3, .event 7, .network 1]).run (World.initial {} lobbyCreated)
    let r' := (Lobby.main 5 [.event 5, .network 0]).run
      (World.initial {} (playerAttached (toDecimal 54321)))
    greetings 0 false r'.events = [(54321, greeting (ascii "54321"))] ∧
      ∀ x ∈ greetings 0 false r'.events, ∃ code parsed, x.2 = greeting code ∧
        LeadsBack 54321 code ∧ JoinLobbyCode.parse (joinLine code) = .ok parsed ∧
          r.state.app.find parsed.intCode =
            .ok { lobbyId := 54321, controlConnection := ⟨2⟩ } := by
  have hline : controlLine 2 ((Server.main [.event 3, .event 7, .network 1]).run
      (World.initial {} lobbyCreated)).events = some (54321, [introduction 54321,
        { payload := ascii "\\socket", type := .socket, socket := some 7 }]) := by
    decide +kernel
  have hparent : FromParent [introduction 54321,
      { payload := ascii "\\socket", type := .socket, socket := some 7 }]
        ((Lobby.main 5 [.event 5, .network 0]).run
          (World.initial {} (playerAttached (toDecimal 54321)))).events := by
    rw [FromParent]
    decide +kernel
  exact ⟨by decide +kernel, lobby_shows_itsCode lobbyCreated _ 2 54321 _ 5 _ _ (by decide +kernel)
    (by decide +kernel) hline hparent (by decide +kernel)⟩

end BattleShips
