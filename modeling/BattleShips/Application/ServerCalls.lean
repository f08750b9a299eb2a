import BattleShips.Application.OperationRules
import BattleShips.Application.Server
import BattleShips.Lib.Transition
import BattleShips.Net.DescriptorRules

/-!
# The calls of a server

A server as its threads run it: they accept clients, receive and send messages, create lobbies, and
transfer and release connections. Each call is one step, and they come in any order.
-/

namespace BattleShips

open Traced

/-- What the threads of a server call. -/
inductive ServerCall
  | createLobby
  | accept (slot : ℕ)
  | receive (slot : ℕ)
  | send (slot : ℕ) (message : OutgoingMessage)
  | transfer (destination source : ℕ)
  | release (slot : ℕ)

namespace ServerCall

def program : ServerCall → EngineM LobbyManager PUnit
  | .createLobby => do
    let _ ← Server.createLobby
  | .accept slot => NetworkEngine.processServerSocket slot
  | .receive slot => do
    let _ ← BattleShips.getMessage slot
  | .send slot message => do
    let _ ← NetworkEngine.sendMessageTo ⟨slot⟩ message
  | .transfer destination source => do
    let _ ← NetworkEngine.transfer ⟨destination⟩ ⟨source⟩
  | .release slot => NetworkEngine.releaseConnection slot

/-- The slots that it names. -/
def named : ServerCall → List ℕ
  | .createLobby => []
  | .accept slot | .receive slot | .send slot _ | .release slot => [slot]
  | .transfer destination source => [destination, source]

/-- It opens descriptors that the server keeps no record of: the ends of a socket pair when there is
no child, and a descriptor that comes with a message. -/
def leaks (w : World LobbyManager) : ServerCall → Bool
  | .createLobby => match w.results.spawn.headD .socketpairFailed with
    | .forkFailed _ _ => true
    | .socketpairFailed | .spawned _ _ => false
  | .receive slot =>
    (((w.entry slot).socketHandler.receiveHandle.getD coReceiveFromSocket).resume
      w.results.recvmsg).sockets ≠ []
  | .accept _ | .send _ _ | .transfer _ _ | .release _ => false

end ServerCall

/-- A server, and whether one of its calls has opened descriptors that it keeps no record of. -/
structure ServerRun where
  world : World LobbyManager
  leaked : Bool

/-- A server that has started, and the calls of its threads, in any order. The slots have been
issued. -/
def serverCalls : System ServerRun ServerCall where
  initial s := s.leaked = false ∧ ∃ results,
    let r := (Server.init .listener 0).run (World.initial {} results)
    r.value = some none ∧ r.state = s.world
  step s call :=
    if ∀ slot ∈ call.named, slot < s.world.pool.lastNotIssuedIndex then
      (call.program.run s.world).value.map fun _ =>
        { world := (call.program.run s.world).state
          leaked := s.leaked || call.leaks s.world }
    else none

lemma serverCalls_step {s s' : ServerRun} {call : ServerCall} : serverCalls.step s call = some s' ↔
    (∀ slot ∈ call.named, slot < s.world.pool.lastNotIssuedIndex) ∧
      (call.program.run s.world).value = some ⟨⟩ ∧
        s' = { world := (call.program.run s.world).state
               leaked := s.leaked || call.leaks s.world } := by
  simp only [serverCalls]
  split_ifs with hslots
  · rw [Option.map_eq_some_iff]
    constructor
    · rintro ⟨⟨⟩, hvalue, hs'⟩
      exact ⟨hslots, hvalue, hs'.symm⟩
    · rintro ⟨-, hvalue, hs'⟩
      exact ⟨⟨⟩, hvalue, hs'.symm⟩
  · simp [hslots]

/-! ### The start -/

section Start

variable {G : List Event → Event → Prop}

/-- The one descriptor of the process is that of its listener, in the slot 0. -/
def World.Listening (w : World LobbyManager) : Prop := ∀ fd, w.descriptors fd =
  if fd = (w.entry 0).socketHandler.socket then some { closeOnExec := true } else none

lemma setupListener_listening :
    Triple G (fun (w : World LobbyManager) _ => w.descriptors = fun _ => none) (setupListener 0)
      fun r w _ => r = none → w.Listening := by
  refine Triple.bind (Triple.get (Q := fun _ w _ => w.descriptors = fun _ => none)
    fun w tr h => h) fun w₀ => ?_
  refine Triple.ite (fun _ => .pure fun w tr _ hnone => nomatch hnone) fun _ => ?_
  have hfailed : ∀ (f : World LobbyManager → World LobbyManager) (e : Error),
      Triple G (fun w _ => w.descriptors = fun _ => none)
        (do
          Traced.modify f
          return some e) fun r w _ => r = none → w.Listening :=
    fun f e => Triple.bind (Triple.modify (Q := fun _ _ _ => True) fun _ _ _ => trivial)
      fun _ => .pure fun w tr _ hnone => nomatch hnone
  refine Triple.bind (Triple.modify (Q := fun _ (w : World LobbyManager) _ =>
    w.descriptors = fun _ => none) fun w tr h => h) fun _ => ?_
  cases w₀.results.listen.headD .socketFailed with
  | socketFailed => exact .pure fun w tr _ hnone => nomatch hnone
  | setsockoptFailed socket => exact hfailed _ _
  | bindFailed socket => exact hfailed _ _
  | listenFailed socket => exact hfailed _ _
  | listening socket =>
    refine Triple.bind (Triple.modify (Q := fun _ w _ => w.Listening) fun w tr h fd => ?_)
      fun _ => .pure fun w tr h _ => h
    have hsocket : (((w.openDescriptors [socket] true).updateHandler 0
        ({ · with socket := socket, socketStatus := .alive })).entry 0).socketHandler.socket =
          socket := by
      simp [World.entry]
    rw [hsocket]
    by_cases hfd : fd = socket
    · rw [if_pos hfd]
      exact World.openDescriptors_of_mem (List.mem_singleton.2 hfd)
    · rw [if_neg hfd]
      have hother : (w.openDescriptors [socket] true).descriptors fd = w.descriptors fd :=
        World.openDescriptors_of_notMem fun hmem => hfd (List.mem_singleton.1 hmem)
      exact hother.trans (congrFun h fd)

lemma initApp_listening : Triple G (World.IsInitial ({} : LobbyManager)) (initApp .listener 0)
    fun r w _ => ∀ view, r = .ok view → w.Listening := by
  have hepoll : Keeps G (fun w _ => w.Listening)
      (NetworkEngine.initEpoll : EngineM LobbyManager _) := by
    refine Triple.bind (Keeps.get (I := fun (w : World LobbyManager) _ => w.Listening)) fun w₀ => ?_
    refine Triple.ite (fun _ => ?_) fun _ => Keeps.pure
    refine Triple.bind (Q := fun _ w _ => w.Listening) ?_ fun r => .pure fun w tr h => h
    intro w tr h _ _ _
    rw [World.Listening, (LeavesDescriptors.subscribeToEvents 0 w).1,
      (NetworkEngine.quiet_subscribeToEvents 0 w).1.entry]
    exact h
  have hpush : Triple G (World.IsInitial ({} : LobbyManager)) (pushToPool {})
      fun slot w _ => slot = 0 ∧ w.descriptors = fun _ => none := by
    refine triple_pushToPool fun w tr slot w' hw hpush _ => ?_
    obtain ⟨⟨results, rfl⟩, -⟩ := hw
    obtain ⟨hslot, hw'⟩ := Prod.mk.inj (Option.some.inj hpush)
    exact ⟨hslot.symm, by rw [← hw']; rfl⟩
  have hengine : Triple G (World.IsInitial ({} : LobbyManager))
      (NetworkEngine.initEngine .listener 0) fun r w _ => ∀ view, r = .ok view → w.Listening := by
    refine Triple.bind hpush fun slot => Triple.of_pre ?_
    rintro rfl
    refine Triple.bind (Q := fun r w _ => r = none → w.Listening) ?_ fun result => ?_
    · refine Triple.bind setupListener_listening fun r => ?_
      cases r with
      | some e => exact .pure fun w tr _ hnone => by cases hnone
      | none =>
        refine Triple.bind (Triple.modify (Q := fun _ w _ => w.Listening) fun w tr h => ?_)
          fun _ => .pure fun w tr h _ => h
        have hlistening := h rfl
        intro fd
        rw [World.entry, World.updateEntry_pool, ObjectPool.setObject_object,
          Function.update_self]
        exact hlistening fd
    cases result with
    | some e => exact .pure fun w tr _ view hview => by cases hview
    | none =>
      refine Triple.bind (hepoll.pre fun w tr h => h rfl) fun r => ?_
      cases r with
      | some e => exact .pure fun w tr _ view hview => by cases hview
      | none => exact .pure fun w tr h view _ => h
  refine Triple.bind hengine fun r => ?_
  cases r with
  | error e => exact .pure fun w tr _ view hview => by cases hview
  | ok view => exact .pure fun w tr h view' _ => h view rfl

/-- A server that has started holds its listener and nothing else. -/
lemma initial_started {s : ServerRun} (h : serverCalls.initial s) : s.world.Listening ∧
    ∃ tr, s.world.Started (fun e => e.connectionType = .listener ∧ e.socketHandler.isSocketAlive)
      {} tr := by
  have hinit : Triple (fun _ _ => True) (World.IsInitial ({} : LobbyManager))
      (Server.init .listener 0) fun r w tr => r = none → w.Listening ∧ w.Started
        (fun e => e.connectionType = .listener ∧ e.socketHandler.isSocketAlive) {} tr := by
    refine Triple.bind ((initApp_listening.and (initApp_started (.inl rfl) 0)).pre
      fun w tr hw => ⟨hw, hw⟩) fun r => ?_
    cases r with
    | error e => exact .pure fun w tr _ hnone => nomatch hnone
    | ok view => exact .pure fun w tr hw _ => ⟨hw.1 view rfl, (hw.2 view rfl).2⟩
  obtain ⟨-, results, hvalue, hstate⟩ := h
  have hstarted := hinit (World.initial {} results) [] ⟨⟨results, rfl⟩, rfl⟩
    (allowed_of_forall fun _ _ _ => trivial) none hvalue rfl
  rw [hstate] at hstarted
  exact ⟨hstarted.1, _, hstarted.2⟩

end Start

/-! ### Descriptors -/

namespace DescriptorInvariant

variable {ι : Type} {J : ι → List ℕ → World LobbyManager → Prop}
  {Takes : EndPoint → ℤ → ι → ι → Prop} {G : List Event → Event → Prop} {l : ι} {S : List ℕ}

lemma attach (h : DescriptorInvariant J Takes) (pid : ℕ) (view : ConnectionView) :
    Keeps G (fun w _ => J l S w) (LobbyManager.attach pid view) := by
  refine Triple.bind (Keeps.get (I := fun w _ => J l S w)) fun w₀ => ?_
  refine Triple.bind (Triple.modify (Q := fun _ w _ => J l S w)
    fun w tr hJ => h.same hJ rfl rfl rfl) fun _ => ?_
  dsimp only
  cases w₀.app.lobbies (generateConnCode (w₀.results.time.headD default)) with
  | none =>
    refine Triple.bind (Triple.modify (Q := fun _ w _ => J l S w)
      fun w tr hJ => h.same hJ rfl rfl rfl) fun _ => ?_
    exact Triple.bind (Triple.emit (Q := fun _ w _ => J l S w) fun w tr hJ _ => hJ)
      fun _ => .pure fun w tr hJ => hJ
  | some entry =>
    exact Triple.bind (Triple.emit (Q := fun _ w _ => J l S w) fun w tr hJ _ => hJ)
      fun _ => .pure fun w tr hJ => hJ

/-- `f` says what is on its way when the server has got its end of a socket pair. -/
lemma createLobby (h : DescriptorInvariant J Takes) {P : World LobbyManager → List Event → Prop}
    {f : ℤ → ι} (htakes : ∀ socket, Takes .toLobby socket (f socket) l)
    (hspawn : Triple G P LobbyManager.spawnLobby fun result w _ =>
      J (result.toOption.elim l fun process => f process.controlSocket) S w) :
    Triple G P Server.createLobby fun _ w _ => J l S w := by
  refine Triple.bind hspawn fun spawned => ?_
  cases spawned with
  | error e => exact .pure fun w tr hJ => hJ
  | ok process =>
    refine Triple.bind (h.attachSocket (htakes process.controlSocket)) fun attached => ?_
    cases attached with
    | error e => exact .pure fun w tr hJ => hJ
    | ok view =>
      refine Triple.bind (h.attach process.pid view) fun result => ?_
      cases result with
      | ok lobby => exact .pure fun w tr hJ => hJ
      | error e => exact .pure fun w tr hJ => hJ

end DescriptorInvariant

end BattleShips
