import BattleShips.Application.Application
import BattleShips.Net.ConnectionEffects
import BattleShips.Net.PoolSoundness

/-!
# Rules for the threads of an application

The operations of the threads keep what the network engine and the handler keep, and so does a run
of them. A run starts from the state that the initialisation leaves behind.
-/

namespace BattleShips

open Traced

variable {σ : Type} {G : List Event → Event → Prop} {InUse : ConnectionEntry → Prop}

/-! ### Operations -/

section Operations

variable {I : World σ → List Event → Prop}
  {handleAction : ActionContext → EngineM σ ActionResult}

lemma quiet_waitForEvent (socket : ℤ) :
    Quiet (NetworkEngine.waitForEvent socket : EngineM σ _) := by
  intro w
  simp only [NetworkEngine.waitForEvent, run_bind, Outcome.andThen, run_get]
  split
  · exact ⟨⟨rfl, rfl, rfl, rfl⟩, by simp [Outcome.andThen]⟩
  · exact ⟨.refl w, by simp⟩

lemma ConnectionInvariant.operation (h : ConnectionInvariant G I InUse)
    (hhandler : HandlerKeeps G I InUse handleAction)
    (hevent : ∀ slot, Keeps G I (NetworkEngine.processEvent slot)) (operation : Operation) :
    Keeps G I (operation.run handleAction) := by
  cases operation with
  | event socket =>
    refine Triple.bind (h.keeps_quiet (quiet_waitForEvent socket)) fun slot => ?_
    cases slot with
    | none => exact Keeps.pure
    | some slot => exact hevent slot
  | network slot =>
    exact Triple.bind ((h.processConnection hhandler ⟨slot⟩).post fun _ _ _ hI => hI.1)
      fun _ => Keeps.pure

lemma PoolInvariant.processEvent (h : PoolInvariant G I InUse) (slot : ℕ) :
    Keeps G I (NetworkEngine.processEvent slot) :=
  Triple.bind (Keeps.get (I := I)) fun _ => Keeps.ite (h.processServerSocket slot) Keeps.pure

lemma ConnectionInvariant.operations (h : ConnectionInvariant G I InUse)
    (hhandler : HandlerKeeps G I InUse handleAction)
    (hevent : ∀ slot, Keeps G I (NetworkEngine.processEvent slot)) (operations : List Operation) :
    Keeps G I (runAll (operations.map (Operation.run handleAction))) := by
  refine Keeps.runAll fun m hm => ?_
  obtain ⟨operation, -, rfl⟩ := List.mem_map.1 hm
  exact h.operation hhandler hevent operation

lemma EngineInvariant.operations (h : EngineInvariant G I InUse)
    (hhandler : HandlerKeeps G I InUse handleAction) (operations : List Operation) :
    Keeps G I (runAll (operations.map (Operation.run handleAction))) :=
  h.toConnectionInvariant.operations hhandler h.processEvent operations

/-- Without a listener the event loop does nothing itself. -/
lemma processEvent_of_ne_listener
    (hlistener : ∀ w tr slot, I w tr → (w.entry slot).connectionType ≠ .listener) (slot : ℕ) :
    Keeps G I (NetworkEngine.processEvent slot) := by
  refine Triple.bind (Triple.get (Q := fun w₀ w tr => w = w₀ ∧ I w tr)
    fun w tr hw => ⟨rfl, hw⟩) fun w₀ => ?_
  refine Triple.ite (fun htype => ?_) fun _ => .pure fun w tr hw => hw.2
  rintro _ tr ⟨rfl, hw⟩
  exact absurd htype (hlistener _ _ _ hw)

/-- What the calls of the handler do, the operations of a process without a listener do. -/
lemma ConnectionEffect.operations {R : World σ → List Event → World σ → Prop}
    (h : ConnectionEffect G I InUse handleAction R) (hI : ConnectionInvariant G I InUse)
    (hhandler : HandlerKeeps G I InUse handleAction)
    (hlistener : ∀ w tr slot, I w tr → (w.entry slot).connectionType ≠ .listener)
    (operations : List Operation) :
    Effect G I (runAll (operations.map (Operation.run handleAction))) R := by
  have hprocess : ∀ slot w₀, Effect G (fun w tr => w = w₀ ∧ I w tr)
      (if (w₀.entry slot).connectionType = .listener then NetworkEngine.processServerSocket slot
        else Pure.pure ⟨⟩) R := by
    rintro slot _ w tr ⟨rfl, hw⟩ _
    rw [if_neg (hlistener w tr slot hw)]
    exact h.refl w
  refine Effect.runAll h.toComposable (fun m hm => ?_) fun m hm => ?_
  · obtain ⟨operation, -, rfl⟩ := List.mem_map.1 hm
    exact hI.operation hhandler (processEvent_of_ne_listener hlistener) operation
  · obtain ⟨operation, -, rfl⟩ := List.mem_map.1 hm
    cases operation with
    | event socket =>
      refine Effect.bind h.toComposable (h.of_aside (NetworkEngine.aside_waitForEvent socket))
        (hI.keeps_quiet (quiet_waitForEvent socket)) fun slot => ?_
      cases slot with
      | none => exact .pure h.toComposable
      | some slot => exact .get_bind (hprocess slot)
    | network slot =>
      exact .bind_of_forall h.toComposable (h.processConnection hI hhandler ⟨slot⟩)
        fun _ => .pure h.toComposable

end Operations

/-! ### The start -/

/-- The processes at the start of `main`, whatever the system calls are going to give. -/
def World.IsInitial (app : σ) (w : World σ) (tr : List Event) : Prop :=
  (∃ results, w = World.initial app results) ∧ tr = []

/-- A process whose pool holds the root connection only. -/
structure World.Started (root : ConnectionEntry → Prop) (app : σ) (w : World σ)
    (tr : List Event) : Prop where
  availableSlots : w.pool.availableSlots = {}
  counter : w.pool.counter = 1
  lastNotIssuedIndex : w.pool.lastNotIssuedIndex = 1
  root : root (w.entry 0)
  other : ∀ slot, slot ≠ 0 → w.entry slot = {}
  app : w.app = app
  events : ∃ es, (∀ e ∈ es, e.Silent) ∧ tr = .acquired 0 :: es

section Start

variable {app : σ} {type : EndPoint} {socket : ℤ}

lemma World.Started.updateEntry {root root' : ConnectionEntry → Prop} {w : World σ}
    {tr : List Event} (h : w.Started root app tr) {f : ConnectionEntry → ConnectionEntry}
    (hf : ∀ e, root e → root' (f e)) : (w.updateEntry 0 f).Started root' app tr where
  availableSlots := h.availableSlots
  counter := h.counter
  lastNotIssuedIndex := h.lastNotIssuedIndex
  root := by simpa [World.entry] using hf _ h.root
  other slot hslot := by
    simpa [World.entry, hslot] using h.other slot hslot
  app := h.app
  events := h.events

lemma World.Started.openDescriptors {root : ConnectionEntry → Prop} {w : World σ} {tr : List Event}
    (h : w.Started root app tr) (sockets : List ℤ) (closeOnExec : Bool) :
    (w.openDescriptors sockets closeOnExec).Started root app tr where
  availableSlots := h.availableSlots
  counter := h.counter
  lastNotIssuedIndex := h.lastNotIssuedIndex
  root := h.root
  other := h.other
  app := h.app
  events := h.events

lemma World.Started.results {root : ConnectionEntry → Prop} {w : World σ} {tr : List Event}
    (h : w.Started root app tr) (results : SysResults) :
    { w with results := results }.Started root app tr :=
  ⟨h.availableSlots, h.counter, h.lastNotIssuedIndex, h.root, h.other, h.app, h.events⟩

lemma World.Started.imp {root root' : ConnectionEntry → Prop} {w : World σ} {tr : List Event}
    (h : w.Started root app tr) (hroot : ∀ e, root e → root' e) : w.Started root' app tr :=
  { h with root := hroot _ h.root }

lemma World.Started.quiet {root : ConnectionEntry → Prop} {α : Type} {m : EngineM σ α}
    (hm : Quiet m) : Triple G (World.Started root app) m fun _ => World.Started root app := by
  intro w tr h _ a _
  obtain ⟨hsame, hsilent⟩ := hm w
  obtain ⟨es, hes, rfl⟩ := h.events
  exact {
    availableSlots := by rw [hsame.pool, h.availableSlots]
    counter := by rw [hsame.pool, h.counter]
    lastNotIssuedIndex := by rw [hsame.pool, h.lastNotIssuedIndex]
    root := by rw [hsame.entry]; exact h.root
    other := fun slot hslot => by rw [hsame.entry, h.other slot hslot]
    app := by rw [hsame.app, h.app]
    events := ⟨es ++ _, fun e he => (List.mem_append.1 he).elim (hes e) (hsilent e), rfl⟩ }

lemma World.Started.connectionType_eq_none {w : World σ} {tr : List Event} (htype : type ≠ .none)
    (h : w.Started (fun e => e.connectionType = type ∧ e.socketHandler.isSocketAlive) app tr)
    (slot : ℕ) : (w.entry slot).connectionType = .none ↔ slot ≠ 0 := by
  by_cases hslot : slot = 0
  · subst hslot
    simp [h.root.1, htype]
  · simp [h.other slot hslot, hslot]

lemma World.Started.poolSound {w : World σ} {tr : List Event} (htype : type ≠ .none)
    (h : w.Started (fun e => e.connectionType = type ∧ e.socketHandler.isSocketAlive) app tr) :
    w.PoolSound where
  nodup := by simp [h.availableSlots]
  free := by simp [h.availableSlots]
  unissued slot hslot := by
    rw [h.lastNotIssuedIndex] at hslot
    exact (h.connectionType_eq_none htype slot).2 (by omega)
  status slot hslot := by
    rw [h.other slot ((h.connectionType_eq_none htype slot).1 hslot)]

lemma pushToPool_started (connection : ConnectionEntry) :
    Triple G (World.IsInitial app) (pushToPool connection) fun slot w tr =>
      slot = 0 ∧ w.Started (· = connection) app tr := by
  refine triple_pushToPool fun w tr slot w' hw hpush _ => ?_
  obtain ⟨⟨results, rfl⟩, rfl⟩ := hw
  have happ := (World.pushToPool_rest hpush).1
  obtain ⟨hitems, -⟩ | ⟨-, havailable, hslot, hcounter, hlast, hobject⟩ :=
    World.pushToPool_cases hpush
  · cases hitems
  · refine ⟨hslot, havailable, hcounter, hlast, ?_, fun slot' hslot' => ?_, happ, [], nofun, ?_⟩
    · rw [World.entry, hobject, hslot]
      exact Function.update_self ..
    · rw [World.entry, hobject, hslot]
      exact Function.update_of_ne hslot' ..
    · rw [hslot]
      rfl

/-- A root connection that has a socket is alive. -/
def AliveIfSocket (e : ConnectionEntry) : Prop :=
  e.socketHandler.socket ≠ -1 → e.socketHandler.isSocketAlive

lemma setupListener_started :
    Triple G (World.Started (σ := σ) AliveIfSocket app) (setupListener 0) fun r w tr =>
      r = none → w.Started AliveIfSocket app tr := by
  refine Triple.bind (Triple.get (Q := fun _ => World.Started AliveIfSocket app) fun _ _ => id)
    fun w₀ => ?_
  refine Triple.ite (fun _ => .pure fun w tr _ hnone => nomatch hnone) fun _ => ?_
  have hfailed : ∀ (f : World σ → World σ) (e : Error),
      Triple G (World.Started (σ := σ) AliveIfSocket app)
        (do
          Traced.modify f
          return some e) fun r w tr => r = none → w.Started AliveIfSocket app tr :=
    fun f e => Triple.bind (Triple.modify (Q := fun _ _ _ => True) fun _ _ _ => trivial)
      fun _ => .pure fun w tr _ hnone => nomatch hnone
  refine Triple.bind (Triple.modify (Q := fun _ => World.Started AliveIfSocket app)
    fun w tr hw => hw.results _) fun _ => ?_
  cases w₀.results.listen.headD .socketFailed with
  | socketFailed => exact .pure fun w tr _ hnone => nomatch hnone
  | setsockoptFailed socket => exact hfailed _ _
  | bindFailed socket => exact hfailed _ _
  | listenFailed socket => exact hfailed _ _
  | listening socket =>
    exact Triple.bind (Triple.modify (Q := fun _ => World.Started AliveIfSocket app)
      fun w tr hw => (hw.openDescriptors [socket] true).updateEntry fun e _ _ => rfl)
      fun _ => .pure fun w tr hw _ => hw

lemma setupClient_started :
    Triple G (World.Started (σ := σ) AliveIfSocket app) (setupClient 0) fun r w tr =>
      r = none → w.Started AliveIfSocket app tr := by
  refine Triple.bind (Triple.get (Q := fun _ => World.Started AliveIfSocket app) fun _ _ => id)
    fun w₀ => ?_
  refine Triple.bind (Triple.modify (Q := fun _ => World.Started AliveIfSocket app)
    fun w tr hw => hw.results _) fun _ => ?_
  cases w₀.results.connect.headD .socketFailed with
  | socketFailed | connectFailed socket =>
    exact Triple.bind (Triple.modify (Q := fun _ _ _ => True) fun _ _ _ => trivial)
      fun _ => .pure fun w tr _ hnone => nomatch hnone
  | connected socket =>
    exact Triple.bind (Triple.modify (Q := fun _ => World.Started AliveIfSocket app)
      fun w tr hw => (hw.openDescriptors [socket] false).updateEntry fun e _ _ => rfl)
      fun _ => .pure fun w tr hw _ => hw

/-- The kinds of sockets that the three applications start with. -/
def IsRootType (type : EndPoint) : Prop :=
  type = .listener ∨ type = .toParent ∨ type = .toServer

lemma initConnectionType_started (htype : IsRootType type) :
    Triple G (World.Started (σ := σ) AliveIfSocket app)
      (NetworkEngine.initConnectionType type 0) fun r w tr => r = none →
        w.Started (fun e => e.connectionType = type ∧ AliveIfSocket e) app tr := by
  have hset : ∀ type, Triple G (World.Started (σ := σ) AliveIfSocket app)
      (NetworkEngine.setConnectionType type 0) fun _ => World.Started (fun e =>
        e.connectionType = type ∧ AliveIfSocket e) app :=
    fun type => Triple.modify fun w tr hw => hw.updateEntry fun e he => ⟨rfl, he⟩
  obtain rfl | rfl | rfl := htype
  · refine setupListener_started.bind fun r => ?_
    cases r with
    | some e => exact .pure fun w tr _ hnone => nomatch hnone
    | none =>
      exact Triple.bind ((hset _).pre fun w tr hw => hw rfl) fun _ => .pure fun w tr hw _ => hw
  · exact (hset _).bind fun _ => .pure fun w tr hw _ => hw
  · refine setupClient_started.bind fun r => ?_
    cases r with
    | some e => exact .pure fun w tr _ hnone => nomatch hnone
    | none =>
      exact Triple.bind ((hset _).pre fun w tr hw => hw rfl) fun _ => .pure fun w tr hw _ => hw

/-- An application that has started holds a root connection, which is alive. -/
lemma initApp_started (htype : IsRootType type) (socket : ℤ) :
    Triple G (World.IsInitial app) (initApp type socket) fun r w tr => ∀ view, r = .ok view →
      view = ⟨0⟩ ∧ w.Started (fun e => e.connectionType = type ∧
        e.socketHandler.isSocketAlive) app tr := by
  have hengine : Triple G (World.IsInitial app) (NetworkEngine.initEngine type socket)
      fun r w tr => ∀ view, r = .ok view → view = ⟨0⟩ ∧ w.Started (fun e =>
        e.connectionType = type ∧ e.socketHandler.isSocketAlive) app tr := by
    refine (pushToPool_started _).bind fun slot => ?_
    refine Triple.of_pre ?_
    rintro rfl
    refine Triple.bind ((initConnectionType_started htype).pre fun w tr hw =>
      hw.imp fun e he => ?_) fun r => ?_
    · rw [he]
      split_ifs
      · exact fun _ => rfl
      · exact fun hsocket => absurd rfl hsocket
    cases r with
    | some e => exact .pure fun w tr _ => nofun
    | none =>
      have hepoll : Triple G (World.Started (σ := σ) (fun e => e.connectionType = type ∧
          AliveIfSocket e) app) NetworkEngine.initEpoll fun r w tr => r = none →
            w.Started (fun e => e.connectionType = type ∧ e.socketHandler.isSocketAlive) app
              tr := by
        refine Triple.bind (Keeps.get (I := World.Started _ app)) fun w₀ => ?_
        refine Triple.ite (fun _ => ?_) fun _ => .pure fun w tr _ hnone => nomatch hnone
        refine Triple.bind (((World.Started.quiet (NetworkEngine.quiet_subscribeToEvents 0)).and
          (subscribeToEvents_value 0)).pre fun w tr hw => ⟨hw, trivial⟩) fun r => ?_
        refine .pure fun w tr hw hnone => ?_
        have hroot := hw.1.root
        exact { hw.1 with root := ⟨hroot.1, hroot.2 (hw.2 (Option.map_eq_none_iff.1 hnone))⟩ }
      refine Triple.bind (hepoll.pre fun w tr hw => hw rfl) fun r => ?_
      cases r with
      | some e => exact .pure fun w tr _ => nofun
      | none => exact .pure fun w tr hw view hview => ⟨by cases hview; rfl, hw rfl⟩
  refine hengine.bind fun r => ?_
  cases r with
  | error e => exact .pure fun w tr _ => nofun
  | ok view => exact .pure fun w tr hw => hw

end Start

end BattleShips
