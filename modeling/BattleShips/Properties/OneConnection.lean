import BattleShips.Application.Server
import BattleShips.Net.ConnectionRules
import BattleShips.Net.DescriptorRules
import BattleShips.Net.ProcessingLoop

/-!
# One run of the loop, one connection

The loop holds on to its slot, and only looks whether the socket in it is alive. It serves the
connection that it has been called for as long as nobody else gets the slot while it may still touch
it: a slot that has been released is not handed out, and no handler puts another socket into the
slot of the root connection.
-/

namespace BattleShips

open Traced NetworkEngine

variable {σ α : Type} {w w' : World σ} {slot : ℕ} {fd : ℤ} {tr : List Event} {s s' : LoopRun σ}

/-- Whatever the loop has done, it has done to the connection that it was called for: nobody else
had got the slot by then, and the descriptor in it was still the same if it was not closed. -/
def LoopRun.ServesOne (slot : ℕ) (s : LoopRun σ) : Prop :=
  ∀ act ∈ s.acts, .acquired slot ∉ act.events ∧ act.replaced = false ∧
    (act.socket = s.started ∨ act.socket = -1)

/-- `push_to_pool` does not return the slot once it has been released. -/
def NotReused (slot : ℕ) (tr : List Event) (e : Event) : Prop :=
  e = .acquired slot → ∀ room, .released slot room ∉ tr

/-- Nobody else has got the slot of the loop. -/
def LoopRun.Kept (slot : ℕ) (s : LoopRun σ) : Prop :=
  Allowed (NotReused slot) [] s.events ∧ s.replaced = false

/-- After the step nobody else has got the slot, or the loop does not touch it any more. -/
def KeepsSlot (slot : ℕ) (s : LoopRun σ) (a : LoopAction) : Prop :=
  ∀ s' ∈ s.step slot a, s'.Kept slot ∨ ¬ s'.worker.MayAct

instance (slot : ℕ) (tr : List Event) (e : Event) : Decidable (NotReused slot tr e) :=
  inferInstanceAs (Decidable (_ → _))

instance (slot : ℕ) (s : LoopRun σ) : Decidable (s.Kept slot) := inferInstanceAs (Decidable (_ ∧ _))

instance (slot : ℕ) (s : LoopRun σ) (a : LoopAction) : Decidable (KeepsSlot slot s a) :=
  inferInstanceAs (Decidable (∀ s' ∈ s.step slot a, s'.Kept slot ∨ ¬ s'.worker.MayAct))

/-! ### Who has the slot -/

/-- Nobody has got the slot, and as long as it has not been released it is occupied. The descriptor
in it is this one, or it has been closed. -/
structure Unshared (slot : ℕ) (fd : ℤ) (w : World σ) (tr : List Event) : Prop where
  acquired : .acquired slot ∉ tr
  occupied : (∀ room, .released slot room ∉ tr) → w.Occupies slot
  socket : (w.entry slot).socketHandler.socket = fd ∨ (w.entry slot).socketHandler.socket = -1

lemma World.socket_updateEntry {i : ℕ} {f : ConnectionEntry → ConnectionEntry}
    (hf : (f (w.entry i)).socketHandler.socket = (w.entry i).socketHandler.socket) (slot : ℕ) :
    ((w.updateEntry i f).entry slot).socketHandler.socket =
      (w.entry slot).socketHandler.socket := by
  rcases eq_or_ne slot i with rfl | hne
  · simpa [entry, updateEntry] using hf
  · simp [entry, updateEntry, Function.update_of_ne hne]

lemma World.entry_updateHandler_of_ne {i : ℕ} (f : SocketHandler → SocketHandler) (h : slot ≠ i) :
    (w.updateHandler i f).entry slot = w.entry slot := by
  simp [entry, updateHandler, updateEntry, Function.update_of_ne h]

namespace Unshared

lemma congr (h : Unshared slot fd w tr)
    (havailable : w'.pool.availableSlots = w.pool.availableSlots)
    (hlast : w'.pool.lastNotIssuedIndex = w.pool.lastNotIssuedIndex)
    (hsocket : (w'.entry slot).socketHandler.socket = (w.entry slot).socketHandler.socket ∨
      (w'.entry slot).socketHandler.socket = -1) : Unshared slot fd w' tr := by
  refine ⟨h.acquired, fun hkept => ?_, ?_⟩
  · rw [World.Occupies, havailable, hlast]
    exact h.occupied hkept
  · rcases hsocket with hsame | hclosed
    · rw [hsame]
      exact h.socket
    · exact .inr hclosed

lemma reset (h : Unshared slot fd w tr) (i : ℕ) : Unshared slot fd (w.reset i) tr := by
  have hcleared := w.reset_cleared i
  refine h.congr hcleared.availableSlots hcleared.lastNotIssuedIndex ?_
  rw [hcleared.entry]
  split_ifs
  · exact .inr rfl
  · exact .inl rfl

lemma silent {e : Event} (h : Unshared slot fd w tr) (he : e.Silent) :
    Unshared slot fd w (tr ++ [e]) := by
  refine ⟨?_, fun hkept => h.occupied fun room hmem => hkept room (List.mem_append_left _ hmem),
    h.socket⟩
  intro hmem
  rcases List.mem_append.1 hmem with hmem | hmem
  · exact h.acquired hmem
  · rw [← List.mem_singleton.1 hmem] at he
    exact he

/-- What is occupied is not handed out. -/
lemma acquire {connection : ConnectionEntry} {i : ℕ} (h : Unshared slot fd w tr)
    (hpush : w.pushToPool connection = some (i, w')) (hG : NotReused slot tr (.acquired i)) :
    Unshared slot fd w' (tr ++ [.acquired i]) := by
  have hne : i ≠ slot := by
    rintro rfl
    obtain ⟨hlt, hfree⟩ := h.occupied (hG rfl)
    rcases World.pushToPool_cases hpush with ⟨hitems, -⟩ | ⟨-, -, hi, -⟩
    · exact hfree (hitems ▸ List.mem_cons_self)
    · omega
  constructor
  · simpa using ⟨h.acquired, hne.symm⟩
  · intro hkept
    obtain ⟨hlt, hfree⟩ := h.occupied fun room hmem => hkept room (List.mem_append_left _ hmem)
    rcases World.pushToPool_cases hpush with ⟨hitems, -, hlast, -⟩ | ⟨-, havailable, -, -, hlast, -⟩
    · rw [hitems] at hfree
      exact ⟨hlast ▸ hlt, fun hmem => hfree (List.mem_cons_of_mem _ hmem)⟩
    · exact ⟨by omega, havailable ▸ hfree⟩
  · rw [World.pushToPool_entry_of_ne hpush hne.symm]
    exact h.socket

end Unshared

variable {G : List Event → Event → Prop}

lemma unshared_releaseSlot (i : ℕ) : Keeps G (Unshared (σ := σ) slot fd) (releaseSlot i) := by
  rintro w tr h - a hvalue
  simp only [releaseSlot, run_bind, run_get, run_emit, Outcome.andThen] at hvalue ⊢
  cases hrelease : w.pool.release i with
  | none => simp [hrelease] at hvalue
  | some pool =>
    obtain ⟨hpool, hitems⟩ := ObjectPool.release_items hrelease
    simp only [run_modify, List.append_nil, List.nil_append]
    constructor
    · simpa using h.acquired
    · intro hkept
      have hne : slot ≠ i := by
        rintro rfl
        exact hkept _ (List.mem_append_right _ List.mem_cons_self)
      obtain ⟨hlt, hfree⟩ := h.occupied fun room hmem => hkept room (List.mem_append_left _ hmem)
      refine ⟨by rw [hpool]; exact hlt, ?_⟩
      rw [hitems]
      split_ifs
      · simpa using ⟨hfree, hne⟩
      · exact hfree
    · rw [World.entry, hpool]
      exact h.socket

lemma unshared_invariant :
    EngineInvariant (NotReused slot) (Unshared (σ := σ) slot fd) fun _ => True where
  same hsame h := h.congr (by rw [hsame.pool]) (by rw [hsame.pool]) (.inl (by rw [hsame.entry]))
  silent he h := h.silent he
  inUse_of_type _ := trivial
  inUse_handler _ _ := trivial
  inUse_of_alive _ _ := trivial
  retire i := Triple.bind (Triple.modify (Q := fun _ => Unshared slot fd)
    fun _ _ h => h.1.reset i) fun _ => unshared_releaseSlot i
  acquire _ := triple_pushToPool fun _ _ _ _ h hpush hG => h.acquire hpush hG
  unused _ _ := .inr fun _ => trivial
  receive {w _} i handle tape h := h.congr rfl rfl (.inl (World.socket_updateEntry rfl slot))

/-! ### What a handler does -/

/-- A change that leaves the pool alone but for what is in its slots, and the socket in this one. -/
lemma unshared_modify {f : World σ → World σ} {a : α}
    (hf : ∀ w, (f w).pool.availableSlots = w.pool.availableSlots ∧
      (f w).pool.lastNotIssuedIndex = w.pool.lastNotIssuedIndex ∧
      ((f w).entry slot).socketHandler.socket = (w.entry slot).socketHandler.socket) :
    Keeps G (Unshared (σ := σ) slot fd) (do
      Traced.modify f
      return a) :=
  Triple.bind (Triple.modify (Q := fun _ => Unshared slot fd) fun w _ h =>
    h.congr (hf w).1 (hf w).2.1 (.inl (hf w).2.2)) fun _ => Keeps.pure

lemma World.entry_close (w : World σ) (fd : ℤ) (slot : ℕ) :
    (w.close fd).entry slot = w.entry slot := rfl

lemma World.socket_updateHandler_of_ne {i : ℕ} (f : SocketHandler → SocketHandler) (h : slot ≠ i) :
    ((w.updateHandler i f).entry slot).socketHandler.socket =
      (w.entry slot).socketHandler.socket := by
  rw [World.entry_updateHandler_of_ne f h]

lemma unshared_setupListener (i : ℕ) :
    Triple G (fun w tr => (slot = i → (w.entry i).socketHandler.socket = -1 →
      w.results.listen.headD .socketFailed = .socketFailed) ∧ Unshared (σ := σ) slot fd w tr)
      (setupListener i) fun _ => Unshared slot fd := by
  refine Triple.bind (Triple.get (Q := fun w₀ w tr => (slot = i →
    (w₀.entry i).socketHandler.socket = -1 →
      w₀.results.listen.headD .socketFailed = .socketFailed) ∧ Unshared slot fd w tr)
    fun _ _ => id) fun w₀ => Triple.of_pre fun hnone => ?_
  refine Triple.ite (fun _ => Keeps.pure) fun hsocket => ?_
  refine Triple.bind (Triple.modify (Q := fun _ => Unshared slot fd)
    fun w _ h => h.congr rfl rfl (.inl rfl)) fun _ => ?_
  have hother : w₀.results.listen.headD .socketFailed ≠ .socketFailed → slot ≠ i :=
    fun hopened hslot => hopened (hnone hslot (not_not.1 hsocket))
  cases hlisten : w₀.results.listen.headD .socketFailed with
  | socketFailed => exact Keeps.pure
  | setsockoptFailed socket | listening socket =>
    have hne := hother (by rw [hlisten]; exact ListenResult.noConfusion)
    exact unshared_modify fun w => ⟨rfl, rfl, World.socket_updateHandler_of_ne _ hne⟩
  | bindFailed socket | listenFailed socket =>
    have hne := hother (by rw [hlisten]; exact ListenResult.noConfusion)
    refine unshared_modify fun w => ⟨rfl, rfl, ?_⟩
    rw [World.entry_close]
    exact World.socket_updateHandler_of_ne _ hne

lemma unshared_setupClient (i : ℕ) :
    Triple G (fun w tr => (slot = i → w.results.connect.headD .socketFailed = .socketFailed) ∧
      Unshared (σ := σ) slot fd w tr) (setupClient i) fun _ => Unshared slot fd := by
  refine Triple.bind (Triple.get (Q := fun w₀ w tr =>
    (slot = i → w₀.results.connect.headD .socketFailed = .socketFailed) ∧ Unshared slot fd w tr)
    fun _ _ => id) fun w₀ => Triple.of_pre fun hnone => ?_
  refine Triple.bind (Triple.modify (Q := fun _ => Unshared slot fd)
    fun w _ h => h.congr rfl rfl (.inl rfl)) fun _ => ?_
  cases hconnect : w₀.results.connect.headD .socketFailed with
  | socketFailed =>
    refine Triple.bind (Triple.modify (Q := fun _ => Unshared slot fd) fun w _ h =>
      h.congr rfl rfl ?_) fun _ => Keeps.pure
    rcases eq_or_ne slot i with rfl | hne
    · exact .inr (by simp [World.entry])
    · exact .inl (World.socket_updateHandler_of_ne _ hne)
  | connectFailed socket | connected socket =>
    have hne : slot ≠ i := fun hslot => by
      rw [hnone hslot] at hconnect
      cases hconnect
    exact unshared_modify fun w => ⟨rfl, rfl, World.socket_updateHandler_of_ne _ hne⟩

/-- The call puts no socket into this slot. -/
lemma unshared_initConnectionType (socketType : EndPoint) :
    Triple G (fun w tr => (slot = 0 →
      (EngineCall.resetBaseConnection socketType).replacesRoot w = false) ∧
        Unshared (σ := σ) slot fd w tr) (initConnectionType socketType 0)
      fun _ => Unshared slot fd := by
  have htype : ∀ {w : World σ} (type : EndPoint),
      ((w.updateEntry 0 ({ · with connectionType := type })).entry slot).socketHandler.socket =
        (w.entry slot).socketHandler.socket := fun type => World.socket_updateEntry rfl slot
  cases socketType with
  | none | toClient | toLobby => exact Triple.pure fun _ _ h => h.2
  | toParent =>
    exact Triple.pre (unshared_modify fun w => ⟨rfl, rfl, htype _⟩) fun _ _ h => h.2
  | listener =>
    refine Triple.bind ((unshared_setupListener 0).pre fun w tr h => ⟨?_, h.2⟩) fun r => ?_
    · intro hslot hsocket
      simpa [EngineCall.replacesRoot, hsocket] using h.1 hslot
    cases r with
    | none => exact unshared_modify fun w => ⟨rfl, rfl, htype _⟩
    | some e => exact Keeps.pure
  | toServer =>
    refine Triple.bind ((unshared_setupClient 0).pre fun w tr h => ⟨?_, h.2⟩) fun r => ?_
    · intro hslot
      simpa [EngineCall.replacesRoot] using h.1 hslot
    cases r with
    | none => exact unshared_modify fun w => ⟨rfl, rfl, htype _⟩
    | some e => exact Keeps.pure

lemma unshared_registerConnection (socketType : EndPoint) (socket : ℤ) :
    Keeps (NotReused slot) (Unshared (σ := σ) slot fd) (registerConnection socketType socket) := by
  refine Triple.bind (triple_pushToPool fun w tr i w' h hpush hG => h.acquire hpush hG) fun i => ?_
  refine Triple.bind (unshared_invariant.keeps_quiet (quiet_subscribeToEvents i)) fun r => ?_
  cases r with
  | none => exact Keeps.pure
  | some e =>
    refine Triple.bind (unshared_invariant.keeps_quiet (quiet_sendMessageImpl i _)) fun _ => ?_
    refine Triple.bind ((unshared_invariant.retire i).pre fun _ _ h => ⟨h, trivial⟩) fun _ => ?_
    exact Keeps.pure

lemma unshared_engineCall (call : EngineCall) :
    Triple (NotReused slot) (fun w tr => (slot = 0 → call.replacesRoot w = false) ∧
      Unshared (σ := σ) slot fd w tr) call.program fun _ => Unshared slot fd := by
  cases call with
  | attachSocket socket socketType =>
    refine Triple.pre (Triple.bind (Triple.bind (unshared_registerConnection socketType socket)
      fun r => ?_) fun _ => Keeps.pure) fun _ _ h => h.2
    cases r with
    | ok slot => exact Keeps.pure
    | error e => exact Keeps.pure
  | transfer destinationView sourceView =>
    exact Triple.bind ((unshared_invariant.transfer (guardsTransfer_true _) destinationView
      sourceView).conseq (fun _ _ h => ⟨h.2, trivial⟩) fun _ _ _ h => h.1) fun _ => Keeps.pure
  | sendMessageTo recipientView message =>
    exact Triple.pre (Triple.bind (unshared_invariant.keeps_quiet (quiet_sendMessageImpl _ message))
      fun _ => Keeps.pure) fun _ _ h => h.2
  | sendMessage message filter =>
    exact Triple.pre (Triple.bind (unshared_invariant.sendMessage message filter)
      fun _ => Keeps.pure) fun _ _ h => h.2
  | releaseConnectionByView view =>
    exact (unshared_invariant.releaseConnectionByView view).pre fun _ _ h => h.2
  | resetBaseConnection socketType =>
    exact Triple.bind (Triple.bind (unshared_initConnectionType socketType) fun _ => Keeps.pure)
      fun _ => Keeps.pure

/-- No call of the handler puts a socket into this slot. -/
lemma unshared_runAll (calls : List EngineCall) :
    Triple (NotReused slot) (fun w tr => (slot = 0 → callsReplaceRoot w calls = false) ∧
      Unshared (σ := σ) slot fd w tr) (Traced.runAll (calls.map EngineCall.program))
      fun _ => Unshared slot fd := by
  induction calls with
  | nil => exact Triple.pure fun _ _ h => h.2
  | cons call calls ih =>
    refine Triple.bind ?_ fun _ => ih
    rintro w tr ⟨hroot, h⟩ hallowed a hvalue
    have hcall : slot = 0 → call.replacesRoot w = false ∧
        callsReplaceRoot (call.program.run w).state calls = false := fun hslot => by
      simpa [callsReplaceRoot] using hroot hslot
    exact ⟨fun hslot => (hcall hslot).2,
      unshared_engineCall call w tr ⟨fun hslot => (hcall hslot).1, h⟩ hallowed a hvalue⟩

lemma unshared_rearmConnection (i : ℕ) :
    Keeps (NotReused slot) (Unshared (σ := σ) slot fd) (rearmConnection i) := by
  refine Triple.bind (unshared_invariant.keeps_quiet (quiet_rearmSocket i)) fun r => ?_
  cases r with
  | none => exact Keeps.pure
  | some e => exact Keeps.pure

lemma unshared_processMessage (calls : List EngineCall) (result : ActionResult) (i : ℕ)
    (message : ReceivedMessage) :
    Triple (NotReused slot) (fun w tr => (message.status = .data → slot = 0 →
      callsReplaceRoot w calls = false) ∧ Unshared (σ := σ) slot fd w tr)
      (processMessage (handlerOf calls result) i message) fun _ => Unshared slot fd := by
  rw [processMessage]
  cases hstatus : message.status with
  | empty | wouldBlock => exact (unshared_rearmConnection i).pre fun _ _ h => h.2
  | disconnected => exact Triple.pure fun _ _ h => h.2
  | data =>
    have hserve : ∀ context, Triple (NotReused slot) (fun w tr =>
        (slot = 0 → callsReplaceRoot w calls = false) ∧ Unshared (σ := σ) slot fd w tr)
        (handlerOf calls result context) fun _ => Unshared slot fd := fun context =>
      Triple.bind (unshared_runAll calls) fun _ => Keeps.pure
    refine Triple.bind (Triple.get (Q := fun _ w tr =>
      (slot = 0 → callsReplaceRoot w calls = false) ∧ Unshared slot fd w tr)
      fun w tr h => ⟨h.1 rfl, h.2⟩) fun w₀ => ?_
    refine Triple.bind (Triple.emit (Q := fun _ w tr =>
      (slot = 0 → callsReplaceRoot w calls = false) ∧ Unshared slot fd w tr)
      fun w tr h _ => ⟨h.1, h.2.silent trivial⟩) fun _ => ?_
    refine Triple.bind (hserve _) fun r => ?_
    exact Triple.bind (Triple.emit (Q := fun _ => Unshared slot fd)
      fun w tr h _ => h.silent trivial) fun _ => Keeps.pure

lemma unshared_getMessage (i : ℕ) : Keeps G (Unshared (σ := σ) slot fd) (getMessage i) := by
  intro w tr h _ a _
  have hpool : ((getMessage i).run w).state.pool.availableSlots = w.pool.availableSlots ∧
      ((getMessage i).run w).state.pool.lastNotIssuedIndex = w.pool.lastNotIssuedIndex ∧
      ((getMessage i).run w).events = [] := ⟨rfl, rfl, rfl⟩
  obtain ⟨havailable, hlast, hevents⟩ := hpool
  rw [hevents, List.append_nil]
  exact h.congr havailable hlast (.inl (World.socket_updateEntry rfl slot))

/-! ### Every step -/

namespace LoopRun

/-- The loop has served one connection, and either nobody else has got its slot or it does not touch
it any more. -/
structure Serving (slot : ℕ) (s : LoopRun σ) : Prop where
  serves : s.ServesOne slot
  unshared : (Unshared slot s.started s.world s.events ∧ s.replaced = false) ∨ ¬ s.worker.MayAct

/-- What the loop does to its slot while nobody else has got it. -/
lemma servesOne_act (h : s.ServesOne slot) (hunshared : Unshared slot s.started s.world s.events)
    (hreplaced : s.replaced = false) : (s.act slot).ServesOne slot := by
  intro act hmem
  rcases List.mem_append.1 hmem with hmem | hmem
  · exact h act hmem
  · rw [List.mem_singleton.1 hmem]
    exact ⟨hunshared.acquired, hreplaced, hunshared.socket⟩

lemma servesOne_exec {m : EngineM σ α} {r : α × LoopRun σ} (h : s.ServesOne slot)
    (hexec : s.exec m = some r) : r.2.ServesOne slot := by
  obtain ⟨a, -, rfl⟩ := Option.map_eq_some_iff.1 hexec
  exact h

lemma worker_exec {m : EngineM σ α} {r : α × LoopRun σ} (hexec : s.exec m = some r) :
    r.2.worker = s.worker := by
  obtain ⟨a, -, rfl⟩ := Option.map_eq_some_iff.1 hexec
  rfl

lemma replaced_exec {m : EngineM σ α} {r : α × LoopRun σ} (hexec : s.exec m = some r) :
    r.2.replaced = s.replaced := by
  obtain ⟨a, -, rfl⟩ := Option.map_eq_some_iff.1 hexec
  rfl

/-- A program, from a state in which nobody else has got the slot. -/
lemma unshared_exec {m : EngineM σ α} {r : α × LoopRun σ} {P : World σ → Prop}
    (h : Unshared slot s.started s.world s.events)
    (hm : Triple (NotReused slot) (fun w tr => P w ∧ Unshared slot s.started w tr) m
      fun _ => Unshared slot s.started)
    (hexec : s.exec m = some r) (hP : P s.world) (hkept : r.2.Kept slot) :
    Unshared slot r.2.started r.2.world r.2.events ∧ r.2.replaced = false := by
  refine ⟨?_, hkept.2⟩
  obtain ⟨a, hvalue, rfl⟩ := Option.map_eq_some_iff.1 hexec
  obtain ⟨-, hstep⟩ := allowed_append.1 hkept.1
  exact hm s.world s.events ⟨hP, h⟩ hstep a hvalue

/-- A program of the worker. -/
lemma Serving.worker_exec {m : EngineM σ α} {r : α × LoopRun σ} {pc : LoopPc}
    (hserves : s.ServesOne slot) (h : Unshared slot s.started s.world s.events)
    (hm : Keeps (NotReused slot) (Unshared slot s.started) m) (hexec : s.exec m = some r)
    (hkept : r.2.Kept slot ∨ ¬ pc.MayAct) : { r.2 with worker := pc }.Serving slot :=
  ⟨servesOne_exec hserves hexec, hkept.imp_left fun hkept =>
    unshared_exec (P := fun _ => True) h (hm.pre fun _ _ h => h.2) hexec trivial hkept⟩

/-- A program of the event loop. -/
lemma Serving.eventLoop_exec {m : EngineM σ α} {r : α × LoopRun σ} {pc : RegisterPc}
    (h : s.Serving slot) (hm : Keeps (NotReused slot) (Unshared slot s.started) m)
    (hexec : s.exec m = some r) (hkept : r.2.Kept slot ∨ ¬ r.2.worker.MayAct) :
    { r.2 with eventLoop := pc }.Serving slot := by
  refine ⟨servesOne_exec h.serves hexec, ?_⟩
  rcases h.unshared with ⟨hunshared, -⟩ | hends
  · exact hkept.imp_left fun hkept => unshared_exec (P := fun _ => True) hunshared
      (hm.pre fun _ _ h => h.2) hexec trivial hkept
  · exact .inr (LoopRun.worker_exec hexec ▸ hends)

end LoopRun

lemma LoopPc.not_mayAct_ofResult {processResult : ActionResult}
    (h : ¬ (LoopPc.answerUser processResult).MayAct) : ¬ (ofResult processResult).MayAct := by
  obtain ⟨-, hkeep, hends⟩ : ¬ processResult.userCode.isSome ∧
      ¬ processResult.connStatus = .release ∧ ¬ (processResult.error.isSome = false ∧
        processResult.actionStatus = .continue) := by
    simpa only [MayAct, not_or] using h
  rw [ofResult, if_neg hkeep]
  cases herror : processResult.error with
  | some e => exact id
  | none => exact fun hcontinue => hends ⟨by rw [herror]; rfl, hcontinue⟩

namespace LoopRun

lemma Serving.workerStep {calls : List EngineCall} {result : ActionResult} (h : s.Serving slot)
    (hstep : s.workerStep slot calls result = some s')
    (hkept : s'.Kept slot ∨ ¬ s'.worker.MayAct) : s'.Serving slot := by
  have hserves := h.serves
  cases hpc : s.worker with
  | condition processResult =>
    simp only [LoopRun.workerStep, hpc] at hstep
    split_ifs at hstep with hcontinue
    · obtain rfl := Option.some.inj hstep
      exact ⟨hserves, h.unshared.imp_right fun hends => absurd (hpc ▸ hcontinue.2) hends⟩
    · obtain rfl := Option.some.inj hstep
      exact ⟨hserves, .inr id⟩
  | getMessage =>
    simp only [LoopRun.workerStep, hpc] at hstep
    obtain ⟨r, hexec, rfl⟩ := Option.map_eq_some_iff.1 hstep
    obtain ⟨hunshared, hreplaced⟩ := h.unshared.resolve_right (by rw [hpc]; exact not_not.2 trivial)
    exact .worker_exec (servesOne_act hserves hunshared hreplaced) hunshared
      (unshared_getMessage slot) hexec hkept
  | processMessage message =>
    simp only [LoopRun.workerStep, hpc] at hstep
    obtain ⟨r, hexec, rfl⟩ := Option.map_eq_some_iff.1 hstep
    obtain ⟨hunshared, hreplaced⟩ := h.unshared.resolve_right (by rw [hpc]; exact not_not.2 trivial)
    have hprocess : Triple (NotReused slot) (fun w tr => (message.status = .data → slot = 0 →
        callsReplaceRoot w calls = false) ∧ Unshared (σ := σ) slot s.started w tr)
        (NetworkEngine.processMessage (handlerOf calls result) slot message)
        fun _ => Unshared slot s.started :=
      unshared_processMessage calls result slot message
    split_ifs at hexec with hrearms hdata
    · refine ⟨servesOne_exec (servesOne_act hserves hunshared hreplaced) hexec,
        hkept.imp_left (unshared_exec (s := s.act slot) hunshared hprocess hexec fun hdata => ?_)⟩
      rw [hdata] at hrearms
      simp at hrearms
    · refine ⟨servesOne_exec (s := s.calling slot calls) hserves hexec, hkept.imp_left fun hkept =>
        unshared_exec (s := s.calling slot calls) hunshared hprocess hexec
          (fun _ hslot => ?_) hkept⟩
      have hcalls : (s.calling slot calls).replaced = false := by
        rw [← replaced_exec hexec]
        exact hkept.2
      simpa [calling, hreplaced, hslot] using hcalls
    · exact ⟨servesOne_exec hserves hexec,
        hkept.imp_left (unshared_exec hunshared hprocess hexec fun hdata' => absurd hdata' hdata)⟩
  | answerUser processResult =>
    simp only [LoopRun.workerStep, hpc] at hstep
    obtain ⟨r, hexec, rfl⟩ := Option.map_eq_some_iff.1 hstep
    have hquiet : Keeps (NotReused slot) (Unshared (σ := σ) slot s.started)
        (NetworkEngine.answerUser slot processResult.userCode) :=
      unshared_invariant.keeps_quiet (quiet_answerUser slot _)
    rcases h.unshared with ⟨hunshared, hreplaced⟩ | hends
    · split_ifs at hexec
      · exact .worker_exec (servesOne_act hserves hunshared hreplaced) hunshared hquiet hexec hkept
      · exact .worker_exec hserves hunshared hquiet hexec hkept
    · rw [hpc] at hends
      rw [if_neg fun hcode => hends (.inl hcode)] at hexec
      exact ⟨servesOne_exec hserves hexec, .inr (LoopPc.not_mayAct_ofResult hends)⟩
  | unsubscribe next =>
    simp only [LoopRun.workerStep, hpc] at hstep
    obtain ⟨r, hexec, rfl⟩ := Option.map_eq_some_iff.1 hstep
    obtain ⟨hunshared, hreplaced⟩ := h.unshared.resolve_right (by rw [hpc]; exact not_not.2 trivial)
    exact .worker_exec (servesOne_act hserves hunshared hreplaced) hunshared
      (unshared_invariant.keeps_quiet (quiet_unsubscribeFromEvents slot)) hexec hkept
  | reset next =>
    simp only [LoopRun.workerStep, hpc] at hstep
    obtain rfl := Option.some.inj hstep
    obtain ⟨hunshared, hreplaced⟩ := h.unshared.resolve_right (by rw [hpc]; exact not_not.2 trivial)
    exact ⟨servesOne_act hserves hunshared hreplaced, .inl ⟨hunshared.reset slot, hreplaced⟩⟩
  | releaseSlot next =>
    simp only [LoopRun.workerStep, hpc] at hstep
    obtain ⟨r, hexec, rfl⟩ := Option.map_eq_some_iff.1 hstep
    obtain ⟨hunshared, hreplaced⟩ := h.unshared.resolve_right (by rw [hpc]; exact not_not.2 trivial)
    exact .worker_exec (servesOne_act hserves hunshared hreplaced) hunshared
      (unshared_releaseSlot slot) hexec hkept
  | returned =>
    simp only [LoopRun.workerStep, hpc] at hstep
    cases hstep

lemma Serving.eventLoopStep (h : s.Serving slot) (hstep : s.eventLoopStep = some s')
    (hkept : s'.Kept slot ∨ ¬ s'.worker.MayAct) : s'.Serving slot := by
  cases hpc : s.eventLoop with
  | idle =>
    simp only [LoopRun.eventLoopStep, hpc] at hstep
    cases hstep
  | subscribe i =>
    simp only [LoopRun.eventLoopStep, hpc] at hstep
    obtain ⟨r, hexec, rfl⟩ := Option.map_eq_some_iff.1 hstep
    exact h.eventLoop_exec (unshared_invariant.keeps_quiet (quiet_subscribeToEvents i)) hexec hkept
  | refuse i =>
    simp only [LoopRun.eventLoopStep, hpc] at hstep
    obtain ⟨r, hexec, rfl⟩ := Option.map_eq_some_iff.1 hstep
    exact h.eventLoop_exec (unshared_invariant.keeps_quiet (quiet_sendMessageImpl i _)) hexec hkept
  | reset i =>
    simp only [LoopRun.eventLoopStep, hpc] at hstep
    obtain rfl := Option.some.inj hstep
    exact ⟨h.serves, h.unshared.imp_left fun hunshared => ⟨hunshared.1.reset i, hunshared.2⟩⟩
  | releaseSlot i =>
    simp only [LoopRun.eventLoopStep, hpc] at hstep
    obtain ⟨r, hexec, rfl⟩ := Option.map_eq_some_iff.1 hstep
    exact h.eventLoop_exec (unshared_releaseSlot i) hexec hkept

lemma Serving.acceptStep {socket : ℤ} (h : s.Serving slot) (hstep : s.acceptStep socket = some s')
    (hkept : s'.Kept slot ∨ ¬ s'.worker.MayAct) : s'.Serving slot := by
  rw [LoopRun.acceptStep] at hstep
  split_ifs at hstep
  obtain ⟨r, hexec, rfl⟩ := Option.map_eq_some_iff.1 hstep
  exact h.eventLoop_exec (unshared_invariant.acquire (by decide)) hexec hkept

lemma Serving.step {a : LoopAction} (h : s.Serving slot) (hkeeps : KeepsSlot slot s a)
    (hstep : (processingLoop σ slot).step s a = some s') : s'.Serving slot := by
  have hstep' : s.step slot a = some s' := by
    simp only [processingLoop] at hstep
    split at hstep
    · cases hstep
    · exact hstep
  have hkept := hkeeps s' hstep'
  cases a with
  | worker calls result => exact h.workerStep hstep' hkept
  | accept socket => exact h.acceptStep hstep' hkept
  | eventLoop => exact h.eventLoopStep hstep' hkept

/-- **One run of the loop serves one connection** if nobody else gets its slot as long as the loop
may still touch it. -/
theorem processingLoop_servesOne (h : (processingLoop σ slot).Reachable (KeepsSlot slot) s) :
    s.ServesOne slot := by
  have hserving : s.Serving slot := by
    refine h.invariant (I := Serving slot) ?_ fun s a s' _ hs hkeeps hstep => hs.step hkeeps hstep
    rintro s ⟨hoccupied, -, hstarted, hevents, hreplaced, hacts⟩
    constructor
    · rw [ServesOne, hacts]
      exact List.forall_mem_nil _
    · refine .inl ⟨⟨?_, fun _ => hoccupied, .inl hstarted.symm⟩, hreplaced⟩
      rw [hevents]
      exact List.not_mem_nil
  exact hserving.serves

/-- A server with a client in the slot 1, which has closed its connection. -/
def leavingClient : LoopRun LobbyManager where
  world := ((Server.main [.event 3]).run (World.initial {} {
    listen := [.listening 3]
    accept4 := [.accepted 7]
    recvmsg := [.received [] none] })).state
  started := 7

lemma leavingClient_initial : (processingLoop LobbyManager 1).initial leavingClient :=
  ⟨by decide, rfl, rfl, rfl, rfl, rfl⟩

/-- The worker, in a round without the handler. -/
def workerOnly : LoopAction := .worker [] {}

/-- Another client comes before the slot has been released, and gets another one. -/
theorem processingLoop_servesOne_leave : ∃ s, (processingLoop LobbyManager 1).run leavingClient
    (.accept 8 :: .eventLoop :: List.replicate 8 workerOnly) = some s ∧
      s.events = [.acquired 2, .released 1 true] ∧ s.acts.length = 4 ∧ s.ServesOne 1 := by
  obtain ⟨s, hrun, hevents, hacts⟩ : ∃ s, (processingLoop LobbyManager 1).run leavingClient
      (.accept 8 :: .eventLoop :: List.replicate 8 workerOnly) = some s ∧
        s.events = [.acquired 2, .released 1 true] ∧ s.acts.length = 4 := ⟨_, rfl, rfl, rfl⟩
  have hkeeps : (processingLoop LobbyManager 1).Meets (KeepsSlot 1) leavingClient
      (.accept 8 :: .eventLoop :: List.replicate 8 workerOnly) := by decide
  have hreachable := (System.Reachable.of_initial leavingClient_initial).run hkeeps hrun
  exact ⟨s, hrun, hevents, hacts, processingLoop_servesOne hreachable⟩

/-- Another client comes after the slot has been released, and the loop receives from it. -/
theorem processingLoop_not_servesOne : ∃ s, (processingLoop LobbyManager 1).Reachable
    System.anyStep s ∧ s.acts.getLast? = some
      { socket := 8, events := [.released 1 true, .acquired 1], replaced := false } ∧
        s.started = 7 ∧ ¬ s.ServesOne 1 := by
  obtain ⟨s, hrun, hacts, hstarted⟩ : ∃ s, (processingLoop LobbyManager 1).run leavingClient
      (List.replicate 7 workerOnly ++ [.accept 8, .eventLoop, workerOnly, workerOnly]) = some s ∧
        s.acts.getLast? = some
          { socket := 8, events := [.released 1 true, .acquired 1], replaced := false } ∧
            s.started = 7 := ⟨_, rfl, rfl, rfl⟩
  have hreachable := (System.Reachable.of_initial leavingClient_initial).run
    (System.meets_of_labels (G := fun _ => True) fun _ _ => trivial) hrun
  refine ⟨s, hreachable, hacts, hstarted, fun hserves => ?_⟩
  exact (hserves _ (List.mem_of_getLast? hacts)).1 (by simp)

end LoopRun

end BattleShips
