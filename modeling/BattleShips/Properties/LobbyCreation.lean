import BattleShips.Properties.AcceptedDescriptors

/-!
# All or nothing

A lobby takes a socket pair, a child, a slot of the pool and an entry of `lobbies_`, one after the
other. Of what fails on the way only `socketpair` leaves nothing to undo, and of what there is to
undo the server undoes little: the ends of the socket pair stay open if `fork` fails, the child
lives on if its control connection is not subscribed, and the connection stays if the connection
code is taken or the id of the lobby is not sent.
-/

namespace BattleShips

open Function Traced NetworkEngine

variable {w w' : World LobbyManager} {slot : ℕ} {sv0 sv1 : ℤ}

/-- The process when `spawn_lobby` has a child and has closed the end of the child. -/
def World.forked (w : World LobbyManager) (sv0 sv1 : ℤ) : World LobbyManager :=
  let w := { w with results.spawn := w.results.spawn.tail }
  { (w.openDescriptors [sv0, sv1] false).close sv0 with nextPid := w.nextPid + 1 }

/-- The server has what it had before: of a lobby that it could not create nothing is left. -/
structure World.Undoes (w w' : World LobbyManager) (events : List Event) : Prop where
  lobbies : w'.app.lobbies = w.app.lobbies
  connections : ∀ slot, (w'.entry slot).socketHandler.isSocketAlive = true →
    (w.entry slot).socketHandler.isSocketAlive = true
  ends : ∀ sv0 sv1, w.results.spawn.headD .socketpairFailed = .forkFailed sv0 sv1 ∨
    w.results.spawn.headD .socketpairFailed = .spawned sv0 sv1 →
      w'.descriptors sv0 = none ∧ w'.descriptors sv1 = none
  child : ∀ sv0 sv1, w.results.spawn.headD .socketpairFailed = .spawned sv0 sv1 →
    .killed w.nextPid ∈ events

/-- If the server can not create a lobby, nothing is left of it. (Without a slot for the connection
the code goes on with an empty allocation result.) -/
def World.CreatesAllOrNothing (w : World LobbyManager) (context : ActionContext) : Prop :=
  let r := (Server.executeCreateLobby context).run w
  .exhausted ∉ r.events ∧ ∀ result, r.value = some result →
    result.userCode = some .cantCreateLobby → w.Undoes r.state r.events

/-- `epoll_ctl` adds the descriptor. -/
def World.adds (w : World LobbyManager) (socket : ℤ) : Bool :=
  w.epollPossible .add socket && w.results.epollCtl.headD true

/-- Nothing fails when there is something to undo. -/
def World.NothingToUndo (w : World LobbyManager) : Prop :=
  match w.results.spawn.headD .socketpairFailed with
  | .socketpairFailed => True
  | .forkFailed _ _ => False
  | .spawned _ sv1 =>
    ¬ w.pool.Exhausted ∧ w.adds sv1 ∧
      w.app.lobbies (generateConnCode (w.results.time.headD default)) = none ∧
        w.results.sendmsg.head? ≠ some none

/-! ### The queue of the free slots -/

/-- The queue has no more free slots than cells. -/
def World.FitsRing {σ : Type} (w : World σ) : Prop :=
  w.pool.availableSlots.items.length ≤ ringBufferSize

namespace World.FitsRing

variable {σ : Type} {w w' : World σ} {slot : ℕ} {G : List Event → Event → Prop}

lemma of_eq (h : w.FitsRing) (havailable : w'.pool.availableSlots = w.pool.availableSlots) :
    w'.FitsRing := by
  rw [FitsRing, havailable]
  exact h

lemma push {connection : ConnectionEntry} (h : w.FitsRing)
    (hpush : w.pushToPool connection = some (slot, w')) : w'.FitsRing := by
  obtain ⟨hitems, -⟩ | ⟨-, havailable, -⟩ := World.pushToPool_cases hpush
  · rw [FitsRing, hitems, List.length_cons] at h
    rw [FitsRing]
    omega
  · exact h.of_eq havailable

/-- After `push_to_pool` there is a cell for the slot that it has returned. -/
lemma release_ne_none {connection : ConnectionEntry} (h : w.FitsRing)
    (hpush : w.pushToPool connection = some (slot, w')) : w'.pool.release slot ≠ none := by
  have hroom : w'.pool.availableSlots.items.length < ringBufferSize := by
    obtain ⟨hitems, -⟩ | ⟨hnil, havailable, -⟩ := World.pushToPool_cases hpush
    · rw [FitsRing, hitems, List.length_cons] at h
      omega
    · rw [havailable, hnil]
      decide
  rw [ObjectPool.release, AtomicQueue.tryPush, if_pos hroom]
  split_ifs
  · exact Option.some_ne_none _
  · exact Option.some_ne_none _

lemma invariant : DescriptorInvariant (fun (_ : Unit) _ (w : World σ) => w.FitsRing)
    fun _ _ _ _ => True where
  same h hpool _ _ := h.of_eq (by rw [hpool])
  subset h _ := h
  reset h slot := h.of_eq (World.reset_cleared _ slot).availableSlots
  release {_ _ w slot pool} h _ hrelease := by
    rw [ObjectPool.release] at hrelease
    cases hpush : w.pool.availableSlots.tryPush slot with
    | waiting => simp [hpush] at hrelease
    | refused =>
      obtain rfl : w.pool = pool := by simpa [hpush] using hrelease
      exact h
    | accepted q =>
      obtain rfl : { w.pool with availableSlots := q } = pool := by simpa [hpush] using hrelease
      rw [AtomicQueue.tryPush] at hpush
      split_ifs at hpush with hfull hroom
      obtain rfl := AtomicQueue.PushResult.accepted.inj hpush
      rw [FitsRing, List.length_append, List.length_singleton]
      exact hroom
  push h _ hpush := h.push hpush

lemma processServerSocket (slot : ℕ) :
    Keeps G (fun (w : World σ) _ => w.FitsRing) (NetworkEngine.processServerSocket slot) := by
  refine Triple.bind Keeps.get fun w₀ => ?_
  refine Triple.bind (Triple.modify (Q := fun _ w _ => w.FitsRing) fun w tr h => h.of_eq rfl)
    fun _ => ?_
  cases (acceptConnections w₀.results.accept4).1 with
  | error e => exact Triple.emit fun w tr h _ => h
  | ok sockets =>
    refine Triple.bind (invariant.registerConnections (f := fun _ => ()) (S := []) sockets
      (fun _ _ _ => trivial) {}) fun _ => ?_
    refine Triple.bind (invariant.quiet (l := ()) (S := []) (quiet_rearmSocket slot)
      (.rearmSocket slot)) fun result => ?_
    cases result with
    | none => exact .pure fun w tr h => h
    | some e => exact Triple.stop

lemma getMessage (slot : ℕ) :
    Keeps G (fun (w : World σ) _ => w.FitsRing) (BattleShips.getMessage slot) := by
  rintro w tr h _ message -
  exact h.of_eq rfl

lemma createLobby :
    Keeps G (fun w _ => w.FitsRing) Server.createLobby := by
  have hspawn : Keeps G (fun (w : World LobbyManager) _ => w.FitsRing)
      (LobbyManager.spawnLobby : EngineM LobbyManager _) := by
    refine Triple.bind Keeps.get fun w₀ => ?_
    have hmodify : ∀ f : World LobbyManager → World LobbyManager, (∀ w, (f w).pool = w.pool) →
        Keeps G (fun (w : World LobbyManager) _ => w.FitsRing) (Traced.modify f) :=
      fun f hf => Triple.modify fun w tr h => h.of_eq (by rw [hf])
    refine Triple.bind (hmodify _ fun _ => rfl) fun _ => ?_
    cases w₀.results.spawn.headD .socketpairFailed with
    | socketpairFailed => exact Keeps.pure
    | forkFailed sv0 sv1 => exact Keeps.bind (hmodify _ fun _ => rfl) fun _ => Keeps.pure
    | spawned sv0 sv1 => exact Keeps.bind (hmodify _ fun _ => rfl) fun _ => Keeps.pure
  exact invariant.createLobby (f := fun _ => ()) (l := ()) (S := []) (fun _ => trivial) hspawn

lemma call (call : ServerCall) : Keeps G (fun w _ => w.FitsRing) call.program := by
  cases call with
  | createLobby => exact Keeps.bind createLobby fun _ => Keeps.pure
  | accept slot => exact processServerSocket slot
  | receive slot => exact Keeps.bind (getMessage slot) fun _ => Keeps.pure
  | send slot message =>
    exact Keeps.bind (invariant.quiet (l := ()) (S := []) (quiet_sendMessageImpl slot message)
      (.sendMessageImpl slot message)) fun _ => Keeps.pure
  | transfer destination source =>
    exact Keeps.bind (invariant.transfer (l := ()) (S := [destination, source]) (by simp)
      (by simp)) fun _ => Keeps.pure
  | release slot => exact invariant.releaseConnection (l := ()) (S := [slot]) (by simp)

end World.FitsRing

lemma serverCalls_fitsRing {G : ServerRun → ServerCall → Prop} {s : ServerRun}
    (h : serverCalls.Reachable G s) : s.world.FitsRing := by
  refine h.invariant (I := fun s => s.world.FitsRing) ?_ ?_
  · intro s hinit
    obtain ⟨-, tr, hstarted⟩ := initial_started hinit
    rw [World.FitsRing, hstarted.availableSlots]
    exact Nat.zero_le _
  · rintro s call s' - hs - hstep
    obtain ⟨-, hvalue, rfl⟩ := serverCalls_step.1 hstep
    exact World.FitsRing.call (G := fun _ _ => True) call s.world [] hs
      (allowed_of_forall fun _ _ _ => trivial) ⟨⟩ hvalue

/-! ### The steps -/

/-- What a call of `epoll_ctl` leaves alone. -/
structure World.Subscribed (w w' : World LobbyManager) : Prop where
  pool : w'.pool = w.pool
  descriptors : w'.descriptors = w.descriptors
  app : w'.app = w.app
  sendmsg : w'.results.sendmsg = w.results.sendmsg
  time : w'.results.time = w.results.time

lemma subscribeToEvents_adds (h : w.adds (w.entry slot).socketHandler.socket = true) :
    ∃ w', (subscribeToEvents slot).run w = { value := some none, state := w', events := [] } ∧
      w.Subscribed w' := by
  rw [World.adds] at h
  simp only [subscribeToEvents, addSocket, epollCtl, run_bind, run_get, run_modify, run_pure,
    Outcome.andThen, h, if_true]
  exact ⟨_, rfl, rfl, rfl, rfl, rfl, rfl⟩

lemma subscribeToEvents_fails (h : w.adds (w.entry slot).socketHandler.socket = false) :
    ∃ e w', (subscribeToEvents slot).run w =
      { value := some (some e), state := w', events := [] } ∧ w.Subscribed w' := by
  rw [World.adds] at h
  simp only [subscribeToEvents, addSocket, epollCtl, run_bind, run_get, run_modify, run_pure,
    Outcome.andThen, h, Bool.false_eq_true, if_false]
  exact ⟨_, _, rfl, rfl, rfl, rfl, rfl, rfl⟩

lemma pushToPool_run {connection : ConnectionEntry}
    (h : w.pushToPool connection = some (slot, w')) :
    (pushToPool connection).run w =
      { value := some slot, state := w', events := [.acquired slot] } := by
  simp only [pushToPool, run_bind, run_get, run_modify, run_emit, run_pure, Outcome.andThen, h]
  rfl

lemma release_eq_none_iff {α : Type} {pool : ObjectPool α} :
    pool.release slot = none ↔ pool.availableSlots.tryPush slot = .waiting := by
  rw [ObjectPool.release]
  cases pool.availableSlots.tryPush slot <;> simp

/-- `ObjectPool::release` returns if the queue of free slots does not wait. -/
lemma resetAndRelease_value (w : World LobbyManager) (slot : ℕ) :
    ((resetAndRelease slot).run w).value = none ↔ w.pool.release slot = none := by
  have hslots : (w.reset slot).pool.availableSlots = w.pool.availableSlots := by
    rw [World.reset_pool, ObjectPool.setObject_availableSlots]
  rw [release_eq_none_iff, ← hslots, ← release_eq_none_iff]
  simp only [resetAndRelease, releaseSlot, run_bind, run_get, run_modify, run_emit, Outcome.andThen]
  cases (w.reset slot).pool.release slot with
  | none => simp
  | some pool => simp

section AttachSocket

variable {type : EndPoint} {socket : ℤ}

lemma attachSocket_adds (hpush : w.pushToPool (.ofSocket type socket) = some (slot, w'))
    (hadds : w'.adds socket = true) : ∃ w'', (attachSocket socket type).run w =
      { value := some (.ok ⟨slot⟩), state := w'', events := [.acquired slot] } ∧
        w'.Subscribed w'' := by
  have hsocket : (w'.entry slot).socketHandler.socket = socket := by
    rw [(World.pushToPool_entry_self hpush).2]
    rfl
  obtain ⟨w'', hrun, hsubscribed⟩ := subscribeToEvents_adds (hsocket ▸ hadds)
  refine ⟨w'', ?_, hsubscribed⟩
  simp only [attachSocket, registerConnection, run_bind, Outcome.andThen, pushToPool_run hpush,
    hrun, run_pure, List.append_nil]

lemma Quiet.emits_notExhausted {α : Type} {m : EngineM LobbyManager α} (hm : Quiet m) :
    Emits (· ≠ Event.exhausted) m := by
  rintro w e he rfl
  exact (hm w).2 _ he

lemma resetAndRelease_emits_notExhausted (slot : ℕ) :
    Emits (· ≠ Event.exhausted) (resetAndRelease slot : EngineM LobbyManager _) := by
  rintro w e he rfl
  obtain ⟨room, hevents⟩ := (resetAndRelease_run slot w).1
  rw [hevents] at he
  cases List.mem_singleton.1 he

/-- The pool has nothing to hand out. -/
lemma pushToPool_exhausts_iff {connection : ConnectionEntry} :
    .exhausted ∈ ((pushToPool connection).run w).events ↔ w.pool.Exhausted := by
  have heq : w.pushToPool connection = none ↔ w.pool.Exhausted := World.pushToPool_eq_none
  rw [← heq]
  cases hpush : w.pushToPool connection with
  | none => simp [pushToPool, Outcome.andThen, hpush]
  | some pushed =>
    obtain ⟨slot, w'⟩ := pushed
    rw [pushToPool_run hpush]
    simp

lemma attachSocket_exhausts_iff :
    .exhausted ∈ ((attachSocket socket type).run w).events ↔ w.pool.Exhausted := by
  refine (mem_events_bind_iff fun registered => ?_).trans
    ((mem_events_bind_iff fun slot => ?_).trans pushToPool_exhausts_iff)
  · cases registered with
    | ok slot => exact .pure
    | error e => exact .pure
  · refine Emits.bind (quiet_subscribeToEvents slot).emits_notExhausted fun r => ?_
    cases r with
    | none => exact .pure
    | some e =>
      refine Emits.bind (quiet_sendMessageImpl slot _).emits_notExhausted fun _ => ?_
      exact Emits.bind (resetAndRelease_emits_notExhausted slot) fun _ => .pure

/-- The connection is given back, and nothing else is done. -/
lemma attachSocket_fails (hpush : w.pushToPool (.ofSocket type socket) = some (slot, w'))
    (hadds : w'.adds socket = false) :
    let r := (attachSocket socket type).run w
    (r.value = none ↔ w'.pool.release slot = none) ∧
      (∀ result, r.value = some result → ∃ e, result = .error e) ∧
        ∀ pid, .killed pid ∉ r.events := by
  have hsocket : (w'.entry slot).socketHandler.socket = socket := by
    rw [(World.pushToPool_entry_self hpush).2]
    rfl
  obtain ⟨e, w₁, hrun, hsubscribed⟩ := subscribeToEvents_fails (hsocket ▸ hadds)
  obtain ⟨sent, w₂, e', hsend, he', hpool⟩ : ∃ sent w₂ e',
      (sendMessageImpl slot { payload := userMessage .generic, type := .printable }).run w₁ =
        { value := some sent, state := w₂, events := [e'] } ∧ e'.Silent ∧ w₂.pool = w₁.pool :=
    ⟨_, _, _, rfl, trivial, rfl⟩
  have hkilled : ∀ pid, .killed pid ≠ e' := by
    rintro pid rfl
    exact he'
  obtain ⟨⟨room, hevents⟩, -⟩ := resetAndRelease_run slot w₂
  have hvalue := resetAndRelease_value w₂ slot
  rw [hpool, hsubscribed.pool] at hvalue
  cases hreset : ((resetAndRelease slot).run w₂).value with
  | none =>
    simp only [attachSocket, registerConnection, run_bind, Outcome.andThen, pushToPool_run hpush,
      hrun, hsend, hreset, hevents]
    simp [hvalue.1 hreset, hkilled]
  | some _ =>
    have hreturns : w'.pool.release slot ≠ none := fun hnone => by
      rw [hvalue.2 hnone] at hreset
      cases hreset
    simp only [attachSocket, registerConnection, run_bind, Outcome.andThen, pushToPool_run hpush,
      hrun, hsend, hreset, hevents, run_pure]
    simp [hreturns, hkilled]

end AttachSocket

namespace Server

variable {context : ActionContext}

lemma executeCreateLobby_of_error (context : ActionContext) {e : Error}
    (h : (createLobby.run w).value = some (.error e)) :
    ∃ result, ((executeCreateLobby context).run w).value = some result ∧
      result.userCode = some .cantCreateLobby ∧
      ((executeCreateLobby context).run w).state = (createLobby.run w).state ∧
      ((executeCreateLobby context).run w).events = (createLobby.run w).events := by
  simp [executeCreateLobby, Outcome.andThen, h]

lemma performTransfer_userCode (view : LobbyView) (w : World LobbyManager) :
    ∀ result ∈ ((performTransfer view context).run w).value, result.userCode = none := by
  have htriple : Triple (fun _ _ => True) (fun _ _ => True) (performTransfer view context)
      fun result _ _ => result.userCode = none := by
    refine Triple.bind (Q := fun _ _ _ => True) (fun _ _ _ _ _ _ => trivial) fun _ => ?_
    refine Triple.bind (Q := fun _ _ _ => True) (fun _ _ _ _ _ _ => trivial) fun result => ?_
    refine Triple.ite (fun _ => .pure fun w tr _ => rfl) fun _ => ?_
    exact Triple.bind (Q := fun _ _ _ => True) (fun _ _ _ _ _ _ => trivial)
      fun _ => .pure fun w tr _ => rfl
  intro result hresult
  exact htriple w [] trivial (allowed_of_forall fun _ _ _ => trivial) result hresult

lemma createLobby_of_socketpairFailed
    (h : w.results.spawn.headD .socketpairFailed = .socketpairFailed) :
    ∃ e, createLobby.run w = { value := some (.error e)
                               state := { w with results.spawn := w.results.spawn.tail }
                               events := [] } := by
  simp only [createLobby, LobbyManager.spawnLobby, run_bind, run_get, run_modify, run_pure,
    Outcome.andThen, h]
  exact ⟨_, rfl⟩

lemma createLobby_of_forkFailed
    (h : w.results.spawn.headD .socketpairFailed = .forkFailed sv0 sv1) :
    ∃ e, createLobby.run w =
      { value := some (.error e)
        state := { w with results.spawn := w.results.spawn.tail }.openDescriptors [sv0, sv1] false
        events := [] } := by
  simp only [createLobby, LobbyManager.spawnLobby, run_bind, run_get, run_modify, run_pure,
    Outcome.andThen, h]
  exact ⟨_, rfl⟩

/-- The control connection, in the process that has a child. -/
def attachedEnd (w : World LobbyManager) (sv0 sv1 : ℤ) :
    Outcome (World LobbyManager) Event (Except Error ConnectionView) :=
  (attachSocket sv1 .toLobby).run (w.forked sv0 sv1)

lemma createLobby_of_error {e : Error}
    (h : w.results.spawn.headD .socketpairFailed = .spawned sv0 sv1)
    (herror : (attachedEnd w sv0 sv1).value = some (.error e)) :
    ∃ e', createLobby.run w = { value := some (.error e')
                                state := (attachedEnd w sv0 sv1).state
                                events := (attachedEnd w sv0 sv1).events } := by
  rw [attachedEnd, World.forked] at herror ⊢
  simp only [createLobby, LobbyManager.spawnLobby, run_bind, run_get, run_modify, run_pure,
    Outcome.andThen, h, herror, List.append_nil, List.nil_append]
  exact ⟨_, rfl⟩

/-- The connection code is taken: the child is killed. -/
lemma createLobby_of_taken {view : ConnectionView} {entry : LobbyEntry}
    (h : w.results.spawn.headD .socketpairFailed = .spawned sv0 sv1)
    (hview : (attachedEnd w sv0 sv1).value = some (.ok view))
    (htaken : (attachedEnd w sv0 sv1).state.app.lobbies
      (generateConnCode ((attachedEnd w sv0 sv1).state.results.time.headD default)) = some entry) :
    ∃ e, (createLobby.run w).value = some (.error e) ∧
      (createLobby.run w).state.descriptors = (attachedEnd w sv0 sv1).state.descriptors := by
  rw [attachedEnd, World.forked] at hview htaken ⊢
  simp only [createLobby, LobbyManager.spawnLobby, LobbyManager.attach, run_bind, run_get,
    run_modify, run_emit, run_pure, Outcome.andThen, h, hview, htaken]
  exact ⟨_, rfl, trivial⟩

/-- The connection code is new. -/
lemma createLobby_of_new {view : ConnectionView}
    (h : w.results.spawn.headD .socketpairFailed = .spawned sv0 sv1)
    (hview : (attachedEnd w sv0 sv1).value = some (.ok view))
    (hnew : (attachedEnd w sv0 sv1).state.app.lobbies
      (generateConnCode ((attachedEnd w sv0 sv1).state.results.time.headD default)) = none) :
    ∃ lobbyView, (createLobby.run w).value = some (.ok lobbyView) ∧
      lobbyView.controlConnection = view ∧
      (createLobby.run w).state.app = (attachedEnd w sv0 sv1).state.app.insert lobbyView.lobbyId
        { pid := w.nextPid, controlConnection := view } ∧
      lobbyView.lobbyId =
        generateConnCode ((attachedEnd w sv0 sv1).state.results.time.headD default) ∧
      (createLobby.run w).state.pool = (attachedEnd w sv0 sv1).state.pool ∧
      (createLobby.run w).state.results.sendmsg =
        (attachedEnd w sv0 sv1).state.results.sendmsg := by
  rw [attachedEnd, World.forked] at hview hnew ⊢
  simp only [createLobby, LobbyManager.spawnLobby, LobbyManager.attach, run_bind, run_get,
    run_modify, run_emit, run_pure, Outcome.andThen, h, hview, hnew]
  exact ⟨_, rfl, rfl, rfl, rfl, trivial, trivial⟩

lemma performTransfer_emits_notExhausted (view : LobbyView) :
    Emits (· ≠ Event.exhausted) (performTransfer view context) := by
  have hrelease : ∀ slot,
      Emits (· ≠ Event.exhausted) (releaseConnection slot : EngineM LobbyManager _) := fun slot =>
    Emits.bind (quiet_unsubscribeFromEvents slot).emits_notExhausted fun _ =>
      resetAndRelease_emits_notExhausted slot
  have htransfer : Emits (· ≠ Event.exhausted) (transfer (σ := LobbyManager)
      view.controlConnection context.pendingView) := by
    refine Emits.bind (quiet_unsubscribeFromEvents _).emits_notExhausted fun _ => ?_
    refine Emits.bind .get fun w => ?_
    refine Emits.bind (quiet_sendMessageImpl _ _).emits_notExhausted fun sent => ?_
    cases sent with
    | none => exact Emits.bind (resetAndRelease_emits_notExhausted _) fun _ => .pure
    | some e =>
      refine Emits.bind (.emit nofun) fun _ => Emits.bind (hrelease _) fun _ => ?_
      refine Emits.bind (quiet_subscribeToEvents _).emits_notExhausted fun recovered => ?_
      cases recovered with
      | none => exact .pure
      | some e => exact Emits.bind (.emit nofun) fun _ => Emits.bind (hrelease _) fun _ => .pure
  have hkill : Emits (· ≠ Event.exhausted) (LobbyManager.killLobby view.lobbyId) := by
    refine Emits.bind .get fun w => ?_
    cases w.app.lobbies view.lobbyId with
    | none => exact Emits.bind .modify fun _ => .emit nofun
    | some entry => exact .emit nofun
  refine Emits.bind (.emit nofun) fun _ => Emits.bind htransfer fun result => ?_
  dsimp only
  split_ifs
  · exact .pure
  · exact .pure
  · exact Emits.bind hkill fun _ => .pure
  · exact Emits.bind hkill fun _ => .pure

/-- Only the slot for the control connection can be missing. -/
lemma executeCreateLobby_exhausts_iff :
    .exhausted ∈ ((executeCreateLobby context).run w).events ↔
      .exhausted ∈ (createLobby.run w).events := by
  refine mem_events_bind_iff fun created => ?_
  cases created with
  | error e => exact .pure
  | ok view =>
    refine Emits.bind (Emits.bind (quiet_sendMessageImpl _ _).emits_notExhausted fun _ => .pure)
      fun sent => ?_
    cases sent with
    | some e => exact .pure
    | none => exact performTransfer_emits_notExhausted view

lemma attach_emits_notExhausted (pid : ℕ) (view : ConnectionView) :
    Emits (· ≠ .exhausted) (LobbyManager.attach pid view) := by
  refine Emits.bind .get fun w => Emits.bind .modify fun _ => ?_
  dsimp only
  cases w.app.lobbies (generateConnCode (w.results.time.headD default)) with
  | none => exact Emits.bind .modify fun _ => Emits.bind (.emit nofun) fun _ => .pure
  | some entry => exact Emits.bind (.emit nofun) fun _ => .pure

lemma createLobby_exhausts_iff (h : w.results.spawn.headD .socketpairFailed = .spawned sv0 sv1) :
    .exhausted ∈ (createLobby.run w).events ↔ w.pool.Exhausted := by
  have hspawn : (LobbyManager.spawnLobby : EngineM LobbyManager _).run w =
      { value := some (.ok { pid := w.nextPid, controlSocket := sv1 })
        state := w.forked sv0 sv1
        events := [] } := by
    simp only [LobbyManager.spawnLobby, run_bind, run_get, run_modify, run_pure, Outcome.andThen, h,
      List.append_nil]
    rfl
  have hexhausted : (w.forked sv0 sv1).pool.Exhausted ↔ w.pool.Exhausted := Iff.rfl
  rw [createLobby, run_bind, hspawn]
  simp only [Outcome.andThen, List.nil_append]
  refine (mem_events_bind_iff fun attached => ?_).trans
    (attachSocket_exhausts_iff.trans hexhausted)
  cases attached with
  | error e => exact .pure
  | ok view =>
    refine Emits.bind (attach_emits_notExhausted _ view) fun r => ?_
    cases r with
    | error e => exact .pure
    | ok lobbyView => exact .pure

/-- The id of the lobby is not sent. -/
lemma executeCreateLobby_of_unsent (context : ActionContext) {view : LobbyView}
    (h : (createLobby.run w).value = some (.ok view))
    (hsocket : ((createLobby.run w).state.entry view.controlConnection.slot).socketHandler.socket ≠
      -1)
    (hsend : (createLobby.run w).state.results.sendmsg.head? = some none) :
    ∃ result, ((executeCreateLobby context).run w).value = some result ∧
      result.userCode = some .cantCreateLobby ∧
      ((executeCreateLobby context).run w).state.app = (createLobby.run w).state.app := by
  have hunsent : ∃ e w' es, (initLobby view).run (createLobby.run w).state =
      { value := some (some e), state := w', events := es } ∧
        w'.app = (createLobby.run w).state.app := by
    simp only [initLobby, sendMessageTo, sendMessageImpl, BattleShips.sendMessage, run_bind,
      run_get, run_modify, run_emit, run_pure, Outcome.andThen, hsocket, if_false,
      headD_eq_none.2 hsend, if_true]
    exact ⟨_, _, _, rfl, rfl⟩
  obtain ⟨e, w', es, hrun, happ⟩ := hunsent
  simp [executeCreateLobby, Outcome.andThen, h, hrun, happ]

lemma executeCreateLobby_of_sent {view : LobbyView}
    (h : (createLobby.run w).value = some (.ok view))
    (hsocket : ((createLobby.run w).state.entry view.controlConnection.slot).socketHandler.socket ≠
      -1)
    (hsend : (createLobby.run w).state.results.sendmsg.head? ≠ some none) :
    ∀ result ∈ ((executeCreateLobby context).run w).value, result.userCode = none := by
  have hsent : ∃ w' es, (initLobby view).run (createLobby.run w).state =
      { value := some none, state := w', events := es } := by
    simp only [initLobby, sendMessageTo, sendMessageImpl, BattleShips.sendMessage, run_bind,
      run_get, run_modify, run_emit, run_pure, Outcome.andThen, hsocket, if_false,
      mt headD_eq_none.1 hsend]
    exact ⟨_, _, rfl⟩
  obtain ⟨w', es, hrun⟩ := hsent
  intro result hresult
  simp only [executeCreateLobby, run_bind, Outcome.andThen, h, hrun] at hresult
  cases hvalue : ((performTransfer view context).run w').value with
  | none => simp [hvalue] at hresult
  | some result' =>
    obtain rfl : result' = result := by simpa [hvalue] using hresult
    exact performTransfer_userCode view w' result' hvalue

end Server

/-! ### The control connection -/

/-- What the process with a child has when the control connection has its slot. -/
structure World.HasEnd (w w' : World LobbyManager) (sv1 : ℤ) (slot : ℕ) : Prop where
  socket : (w'.entry slot).socketHandler.socket = sv1
  opened : w'.descriptors sv1 ≠ none
  adds : w'.adds sv1 = w.adds sv1
  app : w'.app = w.app
  time : w'.results.time = w.results.time
  sendmsg : w'.results.sendmsg = w.results.sendmsg

lemma World.pushToPool_epoll {fd : ℤ} {connection : ConnectionEntry}
    (h : w.pushToPool connection = some (slot, w'))
    (hunheld : ∀ slot, (w.entry slot).socketHandler.socket ≠ fd) : w'.epoll fd = w.epoll fd := by
  obtain ⟨⟨slot', pool⟩, -, hw'⟩ := Option.map_eq_some_iff.1 h
  obtain ⟨rfl, rfl⟩ := Prod.mk.inj hw'
  cases w.pool.availableSlots.tryPop with
  | none => rfl
  | some popped =>
    change (w.closeSocket popped.1).epoll fd = w.epoll fd
    rw [closeSocket]
    split_ifs with hsocket
    · rfl
    · exact update_of_ne (hunheld popped.1).symm _ _

lemma World.hasEnd_of_pushToPool (howns : w.OwnsSockets [] []) (hne : sv0 ≠ sv1)
    (hnew : sv1 ≠ -1 ∧ w.descriptors sv1 = none)
    (hpush : (w.forked sv0 sv1).pushToPool (.ofSocket .toLobby sv1) = some (slot, w')) :
    w.HasEnd w' sv1 slot := by
  have hunheld : ∀ slot, ((w.forked sv0 sv1).entry slot).socketHandler.socket ≠ sv1 := by
    intro slot hslot
    have hslot' : (w.entry slot).socketHandler.socket = sv1 := hslot
    exact howns.opened slot (hslot' ▸ hnew.1) (hslot' ▸ hnew.2)
  obtain ⟨happ, -, hresults⟩ := World.pushToPool_rest hpush
  have hopened : (w.forked sv0 sv1).descriptors sv1 = some ⟨false⟩ := by
    simp [forked, close, World.openDescriptors, hne.symm]
  have hepoll : w'.epoll sv1 = w.epoll sv1 := by
    rw [World.pushToPool_epoll hpush hunheld]
    simp [forked, close, World.openDescriptors, hne.symm]
  constructor
  · rw [(World.pushToPool_entry_self hpush).2]
    rfl
  · rw [(World.pushed_of_pushToPool hpush).descriptors sv1 hnew.1,
      if_neg fun hold => hunheld slot hold.2, hopened]
    exact Option.some_ne_none _
  · rw [World.adds, World.adds, World.epollPossible, World.epollPossible, hepoll, hresults]
    rfl
  · exact happ
  · rw [hresults]
    rfl
  · rw [hresults]
    rfl

/-! ### Every state -/

variable {context : ActionContext}

lemma World.not_createsAllOrNothing_of_unsubscribed (hfits : w.FitsRing)
    (hspawn : w.results.spawn.headD .socketpairFailed = .spawned sv0 sv1)
    (hpush : (w.forked sv0 sv1).pushToPool (.ofSocket .toLobby sv1) = some (slot, w'))
    (hadds : w'.adds sv1 = false) : ¬ w.CreatesAllOrNothing context := by
  obtain ⟨hvalue, hresult, hkilled⟩ := attachSocket_fails hpush hadds
  have hforked : (w.forked sv0 sv1).FitsRing := hfits.of_eq rfl
  have hreturns : w'.pool.release slot ≠ none := hforked.release_ne_none hpush
  rintro ⟨-, hall⟩
  obtain ⟨result, hsome⟩ := Option.ne_none_iff_exists'.1 (mt hvalue.1 hreturns)
  obtain ⟨e, rfl⟩ := hresult result hsome
  obtain ⟨e', hcreate⟩ := Server.createLobby_of_error hspawn hsome
  obtain ⟨r, hr, hcode, -, hevents⟩ := Server.executeCreateLobby_of_error context
    (congrArg Outcome.value hcreate)
  have hchild := (hall r hr hcode).child sv0 sv1 hspawn
  rw [hevents, hcreate] at hchild
  exact hkilled _ hchild

lemma World.createsAllOrNothing_of_subscribed (hend : w.HasEnd w' sv1 slot) (hne : sv1 ≠ -1)
    (hspawn : w.results.spawn.headD .socketpairFailed = .spawned sv0 sv1)
    (hpush : (w.forked sv0 sv1).pushToPool (.ofSocket .toLobby sv1) = some (slot, w'))
    (hadds : w'.adds sv1 = true) (hslot : ¬ w.pool.Exhausted) :
    w.CreatesAllOrNothing context ↔
      w.app.lobbies (generateConnCode (w.results.time.headD default)) = none ∧
        w.results.sendmsg.head? ≠ some none := by
  obtain ⟨w'', hrun, hsubscribed⟩ := attachSocket_adds hpush hadds
  have hview : (Server.attachedEnd w sv0 sv1).value = some (.ok ⟨slot⟩) :=
    congrArg Outcome.value hrun
  have hstate : (Server.attachedEnd w sv0 sv1).state = w'' := congrArg Outcome.state hrun
  have hlobbies : (Server.attachedEnd w sv0 sv1).state.app = w.app := by
    rw [hstate, hsubscribed.app, hend.app]
  have htime : (Server.attachedEnd w sv0 sv1).state.results.time = w.results.time := by
    rw [hstate, hsubscribed.time, hend.time]
  cases hentry : w.app.lobbies (generateConnCode (w.results.time.headD default)) with
  | some entry =>
    rw [← hlobbies, ← htime] at hentry
    obtain ⟨e, hcreate, hdescriptors⟩ := Server.createLobby_of_taken hspawn hview hentry
    obtain ⟨r, hr, hcode, hstate', -⟩ :=
      Server.executeCreateLobby_of_error context hcreate
    refine iff_of_false (fun hall => ?_) fun hnew => by cases hnew.1
    have hclosed := ((hall.2 r hr hcode).ends sv0 sv1 (.inr hspawn)).2
    rw [hstate', hdescriptors, hstate, hsubscribed.descriptors] at hclosed
    exact hend.opened hclosed
  | none =>
    rw [← hlobbies, ← htime] at hentry
    obtain ⟨lobbyView, hcreate, hcontrol, happ, hid, hpool, hsendmsg⟩ :=
      Server.createLobby_of_new hspawn hview hentry
    have hsocket : ((Server.createLobby.run w).state.entry
        lobbyView.controlConnection.slot).socketHandler.socket ≠ -1 := by
      rw [hcontrol, World.entry, hpool, hstate, hsubscribed.pool]
      exact hend.socket.trans_ne hne
    rw [hstate, hsubscribed.sendmsg, hend.sendmsg] at hsendmsg
    by_cases hsend : w.results.sendmsg.head? = some none
    · obtain ⟨r, hr, hcode, happ'⟩ := Server.executeCreateLobby_of_unsent context
        hcreate hsocket (hsendmsg ▸ hsend)
      refine iff_of_false (fun hall => ?_) fun hnew => hnew.2 hsend
      have hsame := congrFun (hall.2 r hr hcode).lobbies lobbyView.lobbyId
      have hinserted : (w.app.insert lobbyView.lobbyId
          { pid := w.nextPid, controlConnection := ⟨slot⟩ }).lobbies lobbyView.lobbyId =
            some { pid := w.nextPid, controlConnection := ⟨slot⟩ } := update_self _ _ _
      rw [happ', happ, hlobbies, hinserted, hid, ← hlobbies, hentry] at hsame
      cases hsame
    · refine iff_of_true ⟨?_, fun r hr hcode => ?_⟩ ⟨rfl, hsend⟩
      · rwa [Server.executeCreateLobby_exhausts_iff, Server.createLobby_exhausts_iff hspawn]
      · rw [Server.executeCreateLobby_of_sent hcreate hsocket (hsendmsg ▸ hsend) r hr] at hcode
        cases hcode

/-- **All or nothing** is what creating a lobby is just if nothing fails when there is something to
undo. -/
theorem executeCreateLobby_allOrNothing_iff {s : ServerRun}
    (h : serverCalls.Reachable freshCalls s) (hfresh : freshCalls s .createLobby)
    (context : ActionContext) :
    s.world.CreatesAllOrNothing context ↔ s.world.NothingToUndo := by
  have howns := serverCalls_ownsSockets h
  have hfits := serverCalls_fitsRing h
  rw [World.NothingToUndo]
  cases hspawn : s.world.results.spawn.headD .socketpairFailed with
  | socketpairFailed =>
    obtain ⟨e, hcreate⟩ := Server.createLobby_of_socketpairFailed hspawn
    obtain ⟨r, -, -, hstate, hevents⟩ := Server.executeCreateLobby_of_error context
      (congrArg Outcome.value hcreate)
    refine iff_of_true ⟨?_, fun result hvalue _ => ?_⟩ trivial
    · rw [hevents, hcreate]
      exact List.not_mem_nil
    rw [hstate, hcreate]
    constructor
    · rfl
    · exact fun slot => id
    · rintro sv0 sv1 (hpair | hpair) <;> rw [hspawn] at hpair <;> cases hpair
    · intro sv0 sv1 hpair
      rw [hspawn] at hpair
      cases hpair
  | forkFailed sv0 sv1 =>
    refine iff_of_false (fun hall => ?_) id
    obtain ⟨e, hcreate⟩ := Server.createLobby_of_forkFailed hspawn
    obtain ⟨r, hr, hcode, hstate, -⟩ := Server.executeCreateLobby_of_error context
      (congrArg Outcome.value hcreate)
    have hclosed := ((hall.2 r hr hcode).ends sv0 sv1 (.inl hspawn)).1
    rw [hstate, hcreate, World.openDescriptors_of_mem (List.mem_cons_self)] at hclosed
    cases hclosed
  | spawned sv0 sv1 =>
    obtain ⟨hnodup, hnew⟩ := hfresh sv0 sv1 hspawn
    have hne : sv0 ≠ sv1 := by simpa using hnodup
    have hnew₁ := hnew sv1 (by simp)
    by_cases hslot : s.world.pool.Exhausted
    · refine iff_of_false (fun hall => hall.1 ?_) fun hnothing => hnothing.1 hslot
      rwa [Server.executeCreateLobby_exhausts_iff, Server.createLobby_exhausts_iff hspawn]
    have hpushes : (s.world.forked sv0 sv1).pushToPool (.ofSocket .toLobby sv1) ≠ none :=
      mt World.pushToPool_eq_none.1 hslot
    obtain ⟨⟨slot, w'⟩, hpush⟩ := Option.ne_none_iff_exists'.1 hpushes
    have hend := World.hasEnd_of_pushToPool howns hne hnew₁ hpush
    cases hadds : s.world.adds sv1 with
    | true =>
      rw [World.createsAllOrNothing_of_subscribed hend hnew₁.1 hspawn hpush
        (hend.adds.trans hadds) hslot]
      simp [hslot, hadds]
    | false =>
      refine iff_of_false (World.not_createsAllOrNothing_of_unsubscribed hfits hspawn hpush
        (hend.adds.trans hadds)) fun hnothing => ?_
      have hsubscribes := hnothing.2.1
      rw [hadds] at hsubscribes
      cases hsubscribes

/-- A server that has just started, and what `spawn_lobby` is going to get. -/
def creatingServer (spawn : List SpawnResult) : ServerRun where
  world := ((Server.init .listener 0).run
    (World.initial {} { listen := [.listening 3], spawn := spawn, time := [default] })).state
  leaked := false

lemma reachable_creatingServer (spawn : List SpawnResult) :
    serverCalls.Reachable freshCalls (creatingServer spawn) :=
  .of_initial ⟨rfl, { listen := [.listening 3], spawn := spawn, time := [default] }, rfl, rfl⟩

/-- A client that asks for a lobby. -/
def createRequest : ActionContext where
  pendingView := ⟨1⟩
  receivedMessage := { payload := ascii "\\create" }

theorem executeCreateLobby_allOrNothing_iff_spawned :
    (creatingServer [.spawned 4 5]).world.CreatesAllOrNothing createRequest := by
  have hfresh : freshCalls (creatingServer [.spawned 4 5]) .createLobby := by
    intro sv0 sv1 hspawn
    obtain ⟨rfl, rfl⟩ := SpawnResult.spawned.inj hspawn
    refine ⟨by decide, fun fd hmem => ?_⟩
    obtain rfl | rfl : fd = 4 ∨ fd = 5 := by simpa using hmem
    · exact ⟨by decide, rfl⟩
    · exact ⟨by decide, rfl⟩
  refine (executeCreateLobby_allOrNothing_iff (reachable_creatingServer [.spawned 4 5]) hfresh
    createRequest).2 ⟨fun hslot => absurd hslot.2 (by decide), rfl, rfl, ?_⟩
  exact (Option.some_ne_none _).symm

/-- There is no child, and both ends of the socket pair are open. -/
theorem executeCreateLobby_not_allOrNothing :
    let w := (creatingServer [.forkFailed 4 5]).world
    let r := (Server.executeCreateLobby createRequest).run w
    (∃ result, r.value = some result ∧ result.userCode = some .cantCreateLobby) ∧
      w.descriptors 4 = none ∧ w.descriptors 5 = none ∧
      r.state.descriptors 4 = some { closeOnExec := false } ∧
      r.state.descriptors 5 = some { closeOnExec := false } ∧
      ¬ w.CreatesAllOrNothing createRequest := by
  refine ⟨⟨_, rfl, rfl⟩, rfl, rfl, rfl, rfl, fun hall => ?_⟩
  have hclosed := ((hall.2 _ rfl rfl).ends 4 5 (.inl rfl)).1
  cases hclosed

end BattleShips
