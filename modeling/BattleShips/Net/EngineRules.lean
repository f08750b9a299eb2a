import BattleShips.Net.NetworkEngine

/-!
# Rules for the network engine

What the operations of `NetworkEngine` do to the pool of connections, once for every property.
Programs that only send and call epoll are quiet. The others acquire slots and give them back; a
`PoolInvariant` says what that takes, and the rules say that each operation then keeps it, whatever
the system calls give and whatever a handler that keeps it does.
-/

namespace BattleShips

open Traced

variable {σ α β : Type}

/-! ### Quiet programs -/

/-- The two processes have the same connections, with the same bytes to receive. -/
structure World.SameConnections (w w' : World σ) : Prop where
  pool : w'.pool = w.pool
  app : w'.app = w.app
  nextPid : w'.nextPid = w.nextPid
  recvmsg : w'.results.recvmsg = w.results.recvmsg

lemma World.SameConnections.refl (w : World σ) : w.SameConnections w := ⟨rfl, rfl, rfl, rfl⟩

lemma World.SameConnections.trans {w w' w'' : World σ} (h : w.SameConnections w')
    (h' : w'.SameConnections w'') : w.SameConnections w'' :=
  ⟨h'.pool.trans h.pool, h'.app.trans h.app, h'.nextPid.trans h.nextPid,
    h'.recvmsg.trans h.recvmsg⟩

lemma World.SameConnections.entry {w w' : World σ} (h : w.SameConnections w') (slot : ℕ) :
    w'.entry slot = w.entry slot := by
  simp [World.entry, h.pool]

/-- An event that has nothing to do with slots or lobbies changing hands. -/
def Event.Silent : Event → Prop
  | .acquired _ | .exhausted | .released _ _ | .handedOff _ _ _ | .attached _ _ _ | .killed _ =>
    False
  | _ => True

/-- The program leaves the connections as they are. -/
def Quiet (m : EngineM σ α) : Prop :=
  ∀ w, w.SameConnections (m.run w).state ∧ ∀ e ∈ (m.run w).events, e.Silent

lemma Quiet.pure (a : α) : Quiet (Pure.pure a : EngineM σ α) :=
  fun w => ⟨.refl w, by simp⟩

lemma Quiet.bind {m : EngineM σ α} {f : α → EngineM σ β} (hm : Quiet m) (hf : ∀ a, Quiet (f a)) :
    Quiet (m >>= f) := by
  intro w
  obtain ⟨hsame, hsilent⟩ := hm w
  rw [run_bind, Outcome.andThen]
  cases hvalue : (m.run w).value with
  | none => exact ⟨hsame, hsilent⟩
  | some a =>
    obtain ⟨hsame', hsilent'⟩ := hf a (m.run w).state
    refine ⟨hsame.trans hsame', fun e he => ?_⟩
    exact (List.mem_append.1 he).elim (hsilent e) (hsilent' e)

lemma Quiet.ite {c : Prop} [Decidable c] {m m' : EngineM σ α} (h : Quiet m) (h' : Quiet m') :
    Quiet (if c then m else m') := by
  split_ifs
  · exact h
  · exact h'

/-- A quiet program leaves the members of the application alone. -/
lemma Quiet.app {G : List Event → Event → Prop} {m : EngineM σ α} (hm : Quiet m)
    (J : σ → Prop) : Triple G (fun w _ => J w.app) m fun _ w _ => J w.app := by
  intro w tr hJ _ a _
  rwa [(hm w).1.app]

lemma quiet_sendMessage (slot : ℕ) (msg : OutgoingMessage) :
    Quiet (sendMessage slot msg : EngineM σ _) :=
  fun w => ⟨⟨rfl, rfl, rfl, rfl⟩, by simp [sendMessage, Outcome.andThen, Event.Silent]⟩

lemma quiet_epollCtl (op : EpollOp) (slot : ℕ) : Quiet (epollCtl op slot : EngineM σ _) :=
  fun w => ⟨⟨rfl, rfl, rfl, rfl⟩, by simp [epollCtl, Outcome.andThen]⟩

lemma quiet_addSocket (slot : ℕ) : Quiet (addSocket slot : EngineM σ _) :=
  (quiet_epollCtl _ _).bind fun _ => .ite (.pure _) (.pure _)

lemma quiet_rearmSocket (slot : ℕ) : Quiet (rearmSocket slot : EngineM σ _) :=
  (quiet_epollCtl _ _).bind fun _ => .ite (.pure _) (.pure _)

lemma quiet_removeSocket (slot : ℕ) : Quiet (removeSocket slot : EngineM σ _) :=
  (quiet_epollCtl _ _).bind fun _ => .ite (.pure _) (.pure _)

namespace NetworkEngine

lemma quiet_subscribeToEvents (slot : ℕ) : Quiet (subscribeToEvents slot : EngineM σ _) :=
  (quiet_addSocket slot).bind fun _ => .pure _

lemma quiet_unsubscribeFromEvents (slot : ℕ) : Quiet (unsubscribeFromEvents slot : EngineM σ _) :=
  (quiet_removeSocket slot).bind fun _ => .pure _

lemma quiet_sendMessageImpl (slot : ℕ) (message : OutgoingMessage) :
    Quiet (sendMessageImpl slot message : EngineM σ _) :=
  (quiet_sendMessage slot message).bind fun _ => .pure _

lemma quiet_answerUser (slot : ℕ) (code : Option UserError) :
    Quiet (answerUser slot code : EngineM σ _) := by
  cases code with
  | none => exact .pure _
  | some code => exact quiet_sendMessageImpl _ _

end NetworkEngine

/-! ### What the primitive operations do -/

section Effects

variable {G : List Event → Event → Prop}

/-- A successful `epoll_ctl` needs a socket, and sets its entry in the interest list. -/
lemma epollCtl_value (op : EpollOp) (slot : ℕ) :
    Triple (σ := World σ) G (fun _ _ => True) (epollCtl op slot) fun success w _ => success = true →
      (w.entry slot).socketHandler.socket ≠ -1 ∧
        (op ≠ .del → w.Armed slot) := by
  intro w tr _ _ success hsuccess htrue
  simp only [epollCtl, run_bind, Outcome.andThen, run_get, run_modify, run_pure, Option.some.injEq]
    at hsuccess ⊢
  rw [htrue] at hsuccess
  have hsocket : (w.entry slot).socketHandler.socket ≠ -1 := by
    simp only [World.epollPossible, Bool.and_eq_true, decide_eq_true_eq] at hsuccess
    exact hsuccess.1.1
  refine ⟨hsocket, fun hop => ?_⟩
  cases op with
  | del => exact absurd rfl hop
  | add | mod =>
    simp only [World.Armed, hsuccess, if_true]
    exact Function.update_self ..

/-- A socket that epoll accepts is one. -/
lemma subscribeToEvents_value (slot : ℕ) :
    Triple (σ := World σ) G (fun _ _ => True) (NetworkEngine.subscribeToEvents slot)
      fun r w _ => r = none → (w.entry slot).socketHandler.socket ≠ -1 := by
  have hadd : Triple (σ := World σ) G (fun _ _ => True) (addSocket slot)
      fun r w _ => r = none → (w.entry slot).socketHandler.socket ≠ -1 :=
    (epollCtl_value .add slot).bind fun success => Triple.ite
      (fun htrue => .pure fun w _ h _ => (h htrue).1) fun _ => .pure fun _ _ _ h => by cases h
  exact hadd.bind fun r => .pure fun w _ h hnone => h (Option.map_eq_none_iff.1 hnone)

/-- A socket that is successfully rearmed is armed. -/
lemma rearmSocket_value (slot : ℕ) :
    Triple (σ := World σ) G (fun _ _ => True) (rearmSocket slot)
      fun r w _ => r = none → w.Armed slot :=
  (epollCtl_value .mod slot).bind fun success => Triple.ite
    (fun htrue => .pure fun w _ h _ => (h htrue).2 (by decide)) fun _ => .pure fun _ _ _ h => by
      cases h

/-- What resetting and releasing a slot does to the process, if it does not wait for ever: the slot
is free if there was room for it. -/
structure World.Retired (slot : ℕ) (room : Bool) (w w' : World σ) : Prop where
  object : w'.pool.object = Function.update w.pool.object slot (w.entry slot).cleared
  counter : w'.pool.counter = w.pool.counter
  lastNotIssuedIndex : w'.pool.lastNotIssuedIndex = w.pool.lastNotIssuedIndex
  items : w'.pool.availableSlots.items =
    if room then w.pool.availableSlots.items ++ [slot] else w.pool.availableSlots.items
  results : w'.results = w.results
  nextPid : w'.nextPid = w.nextPid
  app : w'.app = w.app

lemma World.Retired.entry_self {slot : ℕ} {room : Bool} {w w' : World σ}
    (h : w.Retired slot room w') : w'.entry slot = (w.entry slot).cleared := by
  rw [World.entry, h.object, Function.update_self]

lemma World.Retired.entry_of_ne {slot s : ℕ} {room : Bool} {w w' : World σ}
    (h : w.Retired slot room w') (hs : s ≠ slot) : w'.entry s = w.entry s := by
  rw [World.entry, h.object, Function.update_of_ne hs, World.entry]

lemma ObjectPool.release_items {α : Type} {pool pool' : ObjectPool α} {slot : ℕ}
    (h : pool.release slot = some pool') :
    pool' = { pool with availableSlots := pool'.availableSlots } ∧
      pool'.availableSlots.items =
        if decide ¬ looksFull pool.availableSlots.tail pool.availableSlots.head then
          pool.availableSlots.items ++ [slot] else pool.availableSlots.items := by
  rw [release, AtomicQueue.tryPush] at h
  by_cases hfull : looksFull pool.availableSlots.tail pool.availableSlots.head
  · simp only [hfull, if_true, Option.some.injEq] at h
    subst h
    simp [hfull]
  · simp only [hfull, if_false] at h
    split_ifs at h with hroom
    · simp only [Option.some.injEq] at h
      subst h
      simp [hfull]

/-- To show what giving back a slot comes to, show it of the process it leaves behind. -/
lemma triple_resetAndRelease {slot : ℕ} {P : World σ → List Event → Prop}
    {Q : PUnit → World σ → List Event → Prop}
    (h : ∀ w tr room w', P w tr → w.Retired slot room w' → G tr (.released slot room) →
      Q ⟨⟩ w' (tr ++ [.released slot room])) : Triple G P (resetAndRelease slot) Q := by
  refine Triple.bind (Triple.modify (Q := fun _ w tr => ∃ w₀, P w₀ tr ∧ w = w₀.reset slot)
    fun w tr hP => ⟨w, hP, rfl⟩) fun _ => ?_
  refine Triple.bind (Triple.get (Q := fun w' w tr => w = w' ∧ ∃ w₀, P w₀ tr ∧ w = w₀.reset slot)
    fun w tr hP => ⟨rfl, hP⟩) fun w' => ?_
  set room := decide ¬ looksFull w'.pool.availableSlots.tail w'.pool.availableSlots.head
  refine Triple.bind (Triple.emit (Q := fun _ w tr => w = w' ∧ ∃ tr' w₀, P w₀ tr' ∧
    w = w₀.reset slot ∧ G tr' (.released slot room) ∧ tr = tr' ++ [.released slot room]) ?_)
    fun _ => ?_
  · rintro w tr ⟨rfl, w₀, hP, hw⟩ hG
    exact ⟨rfl, tr, w₀, hP, hw, hG, rfl⟩
  cases hrelease : w'.pool.release slot with
  | none => exact Triple.stop
  | some pool =>
    refine Triple.modify ?_
    rintro w tr ⟨rfl, tr, w₀, hP, rfl, hG, rfl⟩
    obtain ⟨hpool, hitems⟩ := ObjectPool.release_items hrelease
    obtain ⟨hresults, hnextPid, happ⟩ := w₀.reset_rest slot
    refine h w₀ tr room _ hP ?_ hG
    have havailable : (w₀.reset slot).pool.availableSlots = w₀.pool.availableSlots := by
      rw [World.reset_pool]
      rfl
    rw [World.reset_pool] at hpool
    exact {
      object := by rw [hpool]; rfl
      counter := by rw [hpool]; rfl
      lastNotIssuedIndex := by rw [hpool]; rfl
      items := by simp only [hitems, room, havailable]
      results := hresults
      nextPid := hnextPid
      app := happ }

/-- What giving back a slot does in any case. -/
lemma resetAndRelease_run (slot : ℕ) (w : World σ) :
    (∃ room, ((resetAndRelease slot).run w).events = [.released slot room]) ∧
      ((resetAndRelease slot).run w).state.app = w.app ∧
      ((resetAndRelease slot).run w).state.pool.object =
        Function.update w.pool.object slot (w.entry slot).cleared := by
  have happ := (w.reset_rest slot).2.2
  have hobject : (w.reset slot).pool.object =
      Function.update w.pool.object slot (w.entry slot).cleared := by
    rw [World.reset_pool]
    rfl
  simp only [resetAndRelease, releaseSlot, run_bind, run_modify, run_get, run_emit,
    Outcome.andThen]
  cases hrelease : (w.reset slot).pool.release slot with
  | none => exact ⟨⟨_, rfl⟩, happ, hobject⟩
  | some pool =>
    refine ⟨⟨_, rfl⟩, happ, ?_⟩
    rw [← hobject, (ObjectPool.release_items hrelease).1]
    rfl

/-- The descriptors of other connections are still in the interest list. -/
lemma resetAndRelease_epoll {slot : ℕ} {socket : ℤ} {w : World σ}
    (hne : (w.entry slot).socketHandler.socket ≠ socket) :
    ((resetAndRelease slot).run w).state.epoll socket = w.epoll socket := by
  have hreset : (w.reset slot).epoll socket = w.epoll socket := by
    -- the object is closed after two updates that leave its socket alone
    let w' := (w.updateEntry slot ({ · with connectionType := .none })).updateHandler slot
      ({ · with receiveHandle := none })
    have hsocket : (w'.entry slot).socketHandler.socket = (w.entry slot).socketHandler.socket := by
      simp [w', World.entry]
    change (w'.closeSocket slot).epoll socket = w.epoll socket
    rw [World.closeSocket, hsocket]
    split_ifs
    · rfl
    · exact Function.update_of_ne hne.symm ..
  simp only [resetAndRelease, releaseSlot, run_bind, run_modify, run_get, run_emit,
    Outcome.andThen]
  cases (w.reset slot).pool.release slot with
  | none => exact hreset
  | some pool => exact hreset

/-- Giving back a slot clears its connection and leaves the others alone. -/
lemma resetAndRelease_object (slot : ℕ) (K : (ℕ → ConnectionEntry) → SysResults → Prop) :
    Triple (σ := World σ) G
      (fun w _ => K (Function.update w.pool.object slot (w.entry slot).cleared) w.results)
      (resetAndRelease slot) fun _ w _ => K w.pool.object w.results :=
  triple_resetAndRelease fun w tr room w' hK hretired _ => by
    rwa [hretired.object, hretired.results]

/-- What `push_to_pool` does: it takes the first free slot or else a new one. -/
lemma World.pushToPool_cases {w w' : World σ} {connection : ConnectionEntry} {slot : ℕ}
    (h : w.pushToPool connection = some (slot, w')) :
    (w.pool.availableSlots.items = slot :: w'.pool.availableSlots.items ∧
      w'.pool.counter = w.pool.counter ∧ w'.pool.lastNotIssuedIndex = w.pool.lastNotIssuedIndex ∧
      w'.pool.object = Function.update w.pool.object slot
        { connection with generation := (w.entry slot).generation }) ∨
    (w.pool.availableSlots.items = [] ∧ w'.pool.availableSlots = w.pool.availableSlots ∧
      slot = w.pool.lastNotIssuedIndex ∧ w'.pool.counter = w.pool.counter + 1 ∧
      w'.pool.lastNotIssuedIndex = w.pool.lastNotIssuedIndex + 1 ∧
      w'.pool.object = Function.update w.pool.object slot connection) := by
  cases hpop : w.pool.availableSlots.tryPop with
  | none =>
    simp only [pushToPool, ObjectPool.pushToPool, hpop, ObjectPool.allocate] at h
    split_ifs at h with hfull
    · simp at h
    · simp only [Option.map_some, Option.some.injEq, Prod.mk.injEq] at h
      obtain ⟨rfl, rfl⟩ := h
      exact .inr ⟨AtomicQueue.tryPop_eq_none.1 hpop, rfl, rfl, rfl, rfl, rfl⟩
  | some popped =>
    obtain ⟨slot', q⟩ := popped
    simp only [pushToPool, ObjectPool.pushToPool, hpop, closeSocket_pool,
      ObjectPool.setObject_availableSlots, Option.map_some, Option.some.injEq, Prod.mk.injEq] at h
    obtain ⟨rfl, rfl⟩ := h
    refine .inl ⟨(AtomicQueue.tryPop_eq_some.1 hpop).1, rfl, rfl, ?_⟩
    simp [ObjectPool.setObject, ConnectionEntry.moveAssign, World.entry]

lemma World.pushToPool_eq_none {w : World σ} {connection : ConnectionEntry} :
    w.pushToPool connection = none ↔ w.pool.Exhausted := by
  rw [pushToPool, Option.map_eq_none_iff, ObjectPool.pushToPool_eq_none]
  cases w.pool.availableSlots.tryPop with
  | none => rfl
  | some popped => simp only [ObjectPool.Exhausted, closeSocket_pool,
      ObjectPool.setObject_availableSlots, ObjectPool.setObject_lastNotIssuedIndex]

lemma World.pushToPool_entry_self {w w' : World σ} {connection : ConnectionEntry} {slot : ℕ}
    (h : w.pushToPool connection = some (slot, w')) :
    (w'.entry slot).connectionType = connection.connectionType ∧
      (w'.entry slot).socketHandler = connection.socketHandler := by
  obtain ⟨-, -, -, hobject⟩ | ⟨-, -, -, -, -, hobject⟩ := World.pushToPool_cases h
  · simp [World.entry, hobject]
  · simp [World.entry, hobject]

lemma World.pushToPool_entry_of_ne {w w' : World σ} {connection : ConnectionEntry} {slot s : ℕ}
    (h : w.pushToPool connection = some (slot, w')) (hs : s ≠ slot) : w'.entry s = w.entry s := by
  obtain ⟨-, -, -, hobject⟩ | ⟨-, -, -, -, -, hobject⟩ := World.pushToPool_cases h
  · rw [World.entry, hobject, Function.update_of_ne hs, World.entry]
  · rw [World.entry, hobject, Function.update_of_ne hs, World.entry]

lemma World.pushToPool_rest {w w' : World σ} {connection : ConnectionEntry} {slot : ℕ}
    (h : w.pushToPool connection = some (slot, w')) :
    w'.app = w.app ∧ w'.nextPid = w.nextPid ∧ w'.results = w.results := by
  obtain ⟨⟨slot', pool⟩, -, hw'⟩ := Option.map_eq_some_iff.1 h
  obtain ⟨rfl, rfl⟩ := Prod.mk.inj hw'
  cases hpop : w.pool.availableSlots.tryPop with
  | none => exact ⟨rfl, rfl, rfl⟩
  | some popped =>
    obtain ⟨hresults, hnextPid, happ⟩ := w.closeSocket_rest popped.1
    exact ⟨happ, hnextPid, hresults⟩

/-- To show what `push_to_pool` gives, show it of the process it leaves behind. -/
lemma triple_pushToPool {P : World σ → List Event → Prop} {connection : ConnectionEntry}
    {Q : ℕ → World σ → List Event → Prop}
    (h : ∀ w tr slot w', P w tr → w.pushToPool connection = some (slot, w') →
      G tr (.acquired slot) → Q slot w' (tr ++ [.acquired slot])) :
    Triple G P (pushToPool connection) Q := by
  refine (Triple.get (Q := fun w' w tr => w' = w ∧ P w tr) fun _ _ hP => ⟨rfl, hP⟩).bind
    fun w₀ => ?_
  cases hpush : w₀.pushToPool connection with
  | none =>
    refine (Triple.emit (Q := fun _ _ _ => True) ?_).bind fun _ => Triple.stop
    exact fun _ _ _ _ => trivial
  | some pushed =>
    obtain ⟨slot, w'⟩ := pushed
    refine (Triple.modify (Q := fun _ w tr => w = w' ∧ P w₀ tr) ?_).bind fun _ => ?_
    · rintro w tr ⟨rfl, hP⟩
      exact ⟨rfl, hP⟩
    · refine (Triple.emit (Q := fun _ w tr => Q slot w tr) ?_).bind fun _ => .pure fun _ _ => id
      rintro w tr ⟨rfl, hP⟩ hG
      exact h w₀ tr slot w hP hpush hG

/-- The slot that `push_to_pool` returns holds the new connection. -/
lemma pushToPool_entry (connection : ConnectionEntry) :
    Triple (σ := World σ) G (fun _ _ => True) (pushToPool connection) fun slot w _ =>
      (w.entry slot).connectionType = connection.connectionType ∧
        (w.entry slot).socketHandler = connection.socketHandler :=
  triple_pushToPool fun _ _ _ _ _ hpush _ => World.pushToPool_entry_self hpush

end Effects

/-! ### Invariants of the pool -/

/-- What an assertion `I` needs so that the operations of the engine that acquire nothing keep it:
it depends on the connections and on who holds which slot, and giving back a slot that is in use
keeps it. -/
structure ReleaseInvariant (G : List Event → Event → Prop) (I : World σ → List Event → Prop)
    (InUse : ConnectionEntry → Prop) : Prop where
  same : ∀ {w w' tr}, w.SameConnections w' → I w tr → I w' tr
  silent : ∀ {w tr e}, e.Silent → I w tr → I w (tr ++ [e])
  inUse_of_type : ∀ {e : ConnectionEntry}, e.connectionType ≠ .none → InUse e
  inUse_handler : ∀ {e : ConnectionEntry} (h : SocketHandler), InUse e →
    InUse { e with socketHandler := h }
  inUse_of_alive : ∀ {w tr slot}, I w tr → (w.entry slot).socketHandler.isSocketAlive →
    InUse (w.entry slot)
  retire : ∀ slot, Triple G (fun w tr => I w tr ∧ InUse (w.entry slot)) (resetAndRelease slot)
    fun _ => I

/-- What it needs for the other operations: acquiring a slot keeps it, and only happens to a slot
that is not in use. -/
structure PoolInvariant (G : List Event → Event → Prop) (I : World σ → List Event → Prop)
    (InUse : ConnectionEntry → Prop) : Prop extends ReleaseInvariant G I InUse where
  acquire : ∀ {type socket}, type ≠ .none → Keeps G I (pushToPool (.ofSocket type socket))
  unused : ∀ {w w' tr connection slot}, I w tr → w.pushToPool connection = some (slot, w') →
    ¬ InUse (w.entry slot) ∨ ∀ e, InUse e

/-- The guard excludes the two places of `transfer` that may give back a slot that is not in use,
if there are such slots. -/
structure GuardsTransfer (G : List Event → Event → Prop) (InUse : ConnectionEntry → Prop) :
    Prop where
  destination : ∀ {tr destination source inUse},
    G tr (.transferFailed destination source inUse) → inUse = true ∨ ∀ e, InUse e
  recover : ∀ {tr source}, G tr (.recoverFailed source) → ∀ e, InUse e

lemma guardsTransfer_true (G : List Event → Event → Prop) : GuardsTransfer G fun _ => True :=
  ⟨fun _ => .inr fun _ => trivial, fun _ _ => trivial⟩

section InvariantRules

open NetworkEngine

variable {G : List Event → Event → Prop} {I : World σ → List Event → Prop}
  {InUse : ConnectionEntry → Prop}

namespace ReleaseInvariant

lemma silent_all (h : ReleaseInvariant G I InUse) {w : World σ} {tr es : List Event}
    (hes : ∀ e ∈ es, e.Silent) (hI : I w tr) : I w (tr ++ es) := by
  induction es generalizing tr with
  | nil => simpa using hI
  | cons e es ih =>
    rw [List.append_cons]
    exact ih (fun e' he' => hes e' (by simp [he'])) (h.silent (hes e (by simp)) hI)

/-- A quiet program keeps the invariant and all that is known of the connections. -/
lemma quiet (h : ReleaseInvariant G I InUse) {m : EngineM σ α} (hm : Quiet m)
    (K : (ℕ → ConnectionEntry) → Prop) :
    Triple G (fun w tr => I w tr ∧ K w.pool.object) m fun _ w tr => I w tr ∧ K w.pool.object := by
  intro w tr ⟨hI, hK⟩ _ a _
  obtain ⟨hsame, hsilent⟩ := hm w
  exact ⟨h.silent_all hsilent (h.same hsame hI), by rwa [hsame.pool]⟩

lemma keeps_quiet (h : ReleaseInvariant G I InUse) {m : EngineM σ α} (hm : Quiet m) : Keeps G I m :=
  (h.quiet hm fun _ => True).conseq (fun _ _ hI => ⟨hI, trivial⟩) fun _ _ _ hI => hI.1

lemma retire_object (h : ReleaseInvariant G I InUse) (slot : ℕ) (K : (ℕ → ConnectionEntry) → Prop) :
    Triple G
      (fun w tr => (I w tr ∧ InUse (w.entry slot)) ∧
        K (Function.update w.pool.object slot (w.entry slot).cleared))
      (resetAndRelease slot) fun _ w tr => I w tr ∧ K w.pool.object :=
  (h.retire slot).and (resetAndRelease_object slot fun object _ => K object)

lemma releaseConnection_object (h : ReleaseInvariant G I InUse) (slot : ℕ)
    (K : (ℕ → ConnectionEntry) → Prop) :
    Triple G
      (fun w tr => (I w tr ∧ InUse (w.entry slot)) ∧
        K (Function.update w.pool.object slot (w.entry slot).cleared))
      (releaseConnection slot) fun _ w tr => I w tr ∧ K w.pool.object := by
  refine Triple.bind ?_ fun _ => h.retire_object slot K
  exact (h.quiet (quiet_unsubscribeFromEvents slot) fun object =>
    InUse (object slot) ∧ K (Function.update object slot (object slot).cleared)).conseq
      (fun _ _ hI => ⟨hI.1.1, hI.1.2, hI.2⟩) fun _ _ _ hI => ⟨⟨hI.1, hI.2.1⟩, hI.2.2⟩

/-- `transfer` takes a connection in use, and when it does not preserve it, it is still in use. Only
when the descriptor could not be sent, the destination is not preserved. -/
lemma transfer (h : ReleaseInvariant G I InUse) (hguard : GuardsTransfer G InUse)
    (destinationView sourceView : ConnectionView) :
    Triple G (fun w tr => I w tr ∧ InUse (w.entry sourceView.slot))
      (transfer destinationView sourceView) fun r w tr =>
        I w tr ∧ (r.sourceConnPreserved = false → InUse (w.entry sourceView.slot)) ∧
          (r.destinationConnPreserved = false → ∃ tr destination source inUse,
            G tr (.transferFailed destination source inUse)) := by
  obtain ⟨destination⟩ := destinationView
  obtain ⟨source⟩ := sourceView
  refine (h.quiet (quiet_unsubscribeFromEvents source) fun object =>
    InUse (object source)).bind fun _ => ?_
  refine (Triple.get (Q := fun w₀ w tr => I w tr ∧ w.pool.object = w₀.pool.object ∧
    InUse (w₀.entry source)) fun w tr hI => ⟨hI.1, rfl, hI.2⟩).bind fun w₀ => ?_
  refine (h.quiet (quiet_sendMessageImpl destination _) fun object =>
    object = w₀.pool.object ∧ InUse (w₀.entry source)).bind fun r => ?_
  cases r with
  | none =>
    refine Triple.bind ((h.retire source).pre fun w tr hI => ⟨hI.1, ?_⟩)
      fun _ => .pure fun w tr hI => ⟨hI, nofun, nofun⟩
    rw [World.entry, hI.2.1]
    exact hI.2.2
  | some e =>
    let failed : Prop := ∃ tr destination source inUse,
      G tr (.transferFailed destination source inUse)
    refine (Triple.emit (Q := fun _ w tr => failed ∧ (I w tr ∧ InUse (w.entry destination)) ∧
      w.pool.object = w₀.pool.object ∧ InUse (w₀.entry source)) ?_).bind fun _ => .of_pre
        fun hfailed => ?_
    · rintro w tr ⟨hI, hobject, hsource⟩ hG
      refine ⟨⟨_, _, _, _, hG⟩, ⟨h.silent trivial hI, ?_⟩, hobject, hsource⟩
      obtain hinUse | hall := hguard.destination hG
      · rw [World.entry, hobject]
        exact h.inUse_of_type (of_decide_eq_true hinUse)
      · exact hall _
    -- a source that is its own destination has no socket any more
    refine ((h.releaseConnection_object destination fun object =>
      (object source).socketHandler.socket ≠ -1 → InUse (object source)).pre ?_).bind fun _ => ?_
    · rintro w tr ⟨hI, hobject, hsource⟩
      refine ⟨hI, fun hsocket => ?_⟩
      by_cases heq : source = destination
      · subst heq
        simp [ConnectionEntry.cleared] at hsocket
      · rw [Function.update_of_ne heq, hobject]
        exact hsource
    refine (((h.quiet (quiet_subscribeToEvents source) fun object =>
      (object source).socketHandler.socket ≠ -1 → InUse (object source)).and
      (subscribeToEvents_value source)).pre fun w tr hI => ⟨hI, trivial⟩).bind fun r => ?_
    cases r with
    | none =>
      exact .pure fun w tr hI => ⟨hI.1.1, fun _ => hI.1.2 (hI.2 rfl), fun _ => hfailed⟩
    | some e =>
      refine (Triple.emit (Q := fun _ w tr => I w tr ∧ ∀ e, InUse e) ?_).bind fun _ => ?_
      · exact fun w tr hI hG => ⟨h.silent trivial hI.1.1, hguard.recover hG⟩
      refine ((h.releaseConnection_object source fun _ => ∀ e, InUse e).pre ?_).bind fun _ => ?_
      · exact fun w tr hI => ⟨⟨hI.1, hI.2 _⟩, hI.2⟩
      · exact .pure fun w tr hI => ⟨hI.1, fun _ => hI.2 _, fun _ => hfailed⟩

lemma releaseConnectionByView (h : ReleaseInvariant G I InUse) (view : ConnectionView) :
    Keeps G I (releaseConnectionByView view) := by
  refine (Triple.get (Q := fun w₀ w tr => w = w₀ ∧ I w tr) fun w tr hI => ⟨rfl, hI⟩).bind
    fun w₀ => ?_
  refine Triple.ite (fun halive => ?_) fun _ => .pure fun w tr hI => hI.2
  refine (h.releaseConnection_object view.slot fun _ => True).conseq ?_ fun _ _ _ hI => hI.1
  rintro w tr ⟨rfl, hI⟩
  exact ⟨⟨hI, h.inUse_of_alive hI halive⟩, trivial⟩

lemma sendMessage (h : ReleaseInvariant G I InUse) (message : OutgoingMessage)
    (filter : ConnectionMeta → Bool) : Keeps G I (NetworkEngine.sendMessage message filter) := by
  refine Triple.bind (Keeps.get (I := I)) fun w => ?_
  generalize ({} : DeliveryReport) = report
  induction List.range w.pool.counter generalizing report with
  | nil => exact Keeps.pure
  | cons index indices ih =>
    refine (Triple.get (Q := fun w₀ w tr => w = w₀ ∧ I w tr) fun w tr hI => ⟨rfl, hI⟩).bind
      fun w₀ => ?_
    refine Triple.ite (fun hfilter => ?_) fun _ => (ih _).pre fun w tr hI => hI.2
    refine Triple.bind ((h.quiet (quiet_sendMessageImpl index message) fun object =>
      InUse (object index)).pre ?_) fun r => ?_
    · rintro w tr ⟨rfl, hI⟩
      exact ⟨hI, h.inUse_of_type hfilter.1⟩
    cases r with
    | none => exact (ih _).pre fun w tr hI => hI.1
    | some e => exact Triple.bind (h.retire index) fun _ => ih _

end ReleaseInvariant

namespace PoolInvariant

/-- The new connection is the one that was asked for, and what is in use stays in use. -/
lemma acquire_inUse (h : PoolInvariant G I InUse) {type : EndPoint} (htype : type ≠ .none)
    (socket : ℤ) (S : Set ℕ) :
    Triple G (fun w tr => I w tr ∧ ∀ s ∈ S, InUse (w.entry s))
      (pushToPool (.ofSocket type socket)) fun slot w tr => I w tr ∧
        ((w.entry slot).connectionType = type ∧
          (w.entry slot).socketHandler = .ofSocket socket) ∧
        (slot ∉ S ∨ ∀ e, InUse e) ∧ ∀ s ∈ S, InUse (w.entry s) := by
  refine (((h.acquire htype).and ((pushToPool_entry _).and (triple_pushToPool
    (P := fun w tr => I w tr ∧ ∀ s ∈ S, InUse (w.entry s))
    (Q := fun slot w _ => (slot ∉ S ∨ ∀ e, InUse e) ∧
      ∀ s ∈ S, InUse (w.entry s)) ?_))).conseq (fun w tr hI => ⟨hI.1, trivial, hI⟩)
        fun slot w tr hI => hI)
  rintro w tr slot w' ⟨hI, hS⟩ hpush -
  have hslot : slot ∉ S ∨ ∀ e, InUse e := by
    refine (h.unused hI hpush).imp_left fun hunused hmem => hunused (hS slot hmem)
  refine ⟨hslot, fun s hs => ?_⟩
  obtain hslot | hall := hslot
  · have hne : s ≠ slot := fun heq => hslot (heq ▸ hs)
    rw [World.pushToPool_entry_of_ne hpush hne]
    exact hS s hs
  · exact hall _

/-- A registered connection is the one that was asked for, and what is in use stays in use. -/
lemma registerConnection (h : PoolInvariant G I InUse) {type : EndPoint} (htype : type ≠ .none)
    (socket : ℤ) (S : Set ℕ) :
    Triple G (fun w tr => I w tr ∧ ∀ s ∈ S, InUse (w.entry s)) (registerConnection type socket)
      fun r w tr => I w tr ∧ (∀ s ∈ S, InUse (w.entry s)) ∧ ∀ slot, r = .ok slot →
        (w.entry slot).connectionType = type ∧
          (w.entry slot).socketHandler = .ofSocket socket := by
  refine (h.acquire_inUse htype socket S).bind fun slot => ?_
  let K : (ℕ → ConnectionEntry) → Prop := fun object =>
    ((object slot).connectionType = type ∧ (object slot).socketHandler = .ofSocket socket) ∧
      (slot ∉ S ∨ ∀ e, InUse e) ∧ ∀ s ∈ S, InUse (object s)
  refine (h.quiet (quiet_subscribeToEvents slot) K).bind fun r => ?_
  cases r with
  | none =>
    refine .pure fun w tr hI => ⟨hI.1, hI.2.2.2, fun slot' hslot => ?_⟩
    obtain rfl : slot = slot' := by cases hslot; rfl
    exact hI.2.1
  | some e =>
    refine (h.quiet (quiet_sendMessageImpl slot _) K).bind fun _ => ?_
    refine Triple.bind ((h.retire_object slot fun object => ∀ s ∈ S, InUse (object s)).pre
      fun w tr hI => ?_) fun _ => .pure fun w tr hI => ⟨hI.1, hI.2, nofun⟩
    obtain ⟨hI, ⟨htype', -⟩, hslot, hS⟩ := hI
    refine ⟨⟨hI, h.inUse_of_type ?_⟩, fun s hs => ?_⟩
    · rw [World.entry, htype']
      exact htype
    · obtain hslot | hall := hslot
      · have hne : s ≠ slot := fun heq => hslot (heq ▸ hs)
        rw [Function.update_of_ne hne]
        exact hS s hs
      · exact hall _

lemma attachSocket (h : PoolInvariant G I InUse) (socket : ℤ) {type : EndPoint}
    (htype : type ≠ .none) (S : Set ℕ) :
    Triple G (fun w tr => I w tr ∧ ∀ s ∈ S, InUse (w.entry s)) (attachSocket socket type)
      fun r w tr => I w tr ∧ (∀ s ∈ S, InUse (w.entry s)) ∧ ∀ view, r = .ok view →
        (w.entry view.slot).connectionType = type ∧
          (w.entry view.slot).socketHandler = .ofSocket socket := by
  refine (h.registerConnection htype socket S).bind fun r => ?_
  cases r with
  | error e => exact .pure fun w tr hI => ⟨hI.1, hI.2.1, nofun⟩
  | ok slot =>
    refine .pure fun w tr hI => ⟨hI.1, hI.2.1, fun view hview => ?_⟩
    obtain rfl : ⟨slot⟩ = view := by cases hview; rfl
    exact hI.2.2 slot rfl

lemma registerConnections (h : PoolInvariant G I InUse) (sockets : List ℤ)
    (report : RegistrationReport) : Keeps G I (registerConnections sockets report) := by
  induction sockets generalizing report with
  | nil => exact Keeps.pure
  | cons socket sockets ih =>
    refine Triple.bind ((h.registerConnection (by decide) socket ∅).conseq
      (fun _ _ hI => ⟨hI, nofun⟩) fun _ _ _ hI => hI.1) fun r => ?_
    cases r with
    | ok slot => exact ih _
    | error e => exact ih _

lemma processServerSocket (h : PoolInvariant G I InUse) (serverSlot : ℕ) :
    Triple G I (processServerSocket serverSlot) fun _ => I := by
  refine Triple.bind (Keeps.get (I := I)) fun w₀ => ?_
  refine Triple.bind (Triple.modify (Q := fun _ => I) fun w tr hI =>
    h.same (w := w) ⟨rfl, rfl, rfl, rfl⟩ hI) fun _ => ?_
  cases (acceptConnections w₀.results.accept4).1 with
  | error e => exact Triple.emit fun w tr hI _ => h.silent trivial hI
  | ok sockets =>
    refine Triple.bind (h.registerConnections sockets {}) fun _ => ?_
    refine Triple.bind (h.keeps_quiet (quiet_rearmSocket serverSlot)) fun r => ?_
    cases r with
    | none => exact Keeps.pure
    | some e => exact Triple.stop

end PoolInvariant

end InvariantRules

end BattleShips
