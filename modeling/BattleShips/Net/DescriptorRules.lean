import BattleShips.Net.EngineRules
import BattleShips.Services.LobbyManager

/-!
# What the engine does to descriptors

Most programs neither open nor close a descriptor. A connection that is reset closes its own one,
and so does the old connection of a slot that is used again. Whatever holds of the descriptors and
is kept by these two is kept by the operations of the engine.
-/

namespace BattleShips

open Function Traced

variable {σ α β : Type} {w w' : World σ} {slot : ℕ} {fd : ℤ}

/-- The program opens and closes nothing. -/
def LeavesDescriptors (m : EngineM σ α) : Prop :=
  ∀ w, (m.run w).state.descriptors = w.descriptors ∧ (m.run w).state.closed = w.closed

namespace LeavesDescriptors

lemma pure (a : α) : LeavesDescriptors (Pure.pure a : EngineM σ α) := fun _ => ⟨rfl, rfl⟩

lemma bind {m : EngineM σ α} {f : α → EngineM σ β} (hm : LeavesDescriptors m)
    (hf : ∀ a, LeavesDescriptors (f a)) : LeavesDescriptors (m >>= f) := by
  intro w
  rw [run_bind, Outcome.andThen]
  cases (m.run w).value with
  | none => exact hm w
  | some a => exact ⟨(hf a _).1.trans (hm w).1, (hf a _).2.trans (hm w).2⟩

lemma ite {c : Prop} [Decidable c] {m m' : EngineM σ α} (h : LeavesDescriptors m)
    (h' : LeavesDescriptors m') : LeavesDescriptors (if c then m else m') := by
  split_ifs
  · exact h
  · exact h'

lemma sendMessage (slot : ℕ) (msg : OutgoingMessage) :
    LeavesDescriptors (sendMessage slot msg : EngineM σ _) := fun _ => ⟨rfl, rfl⟩

lemma epollCtl (op : EpollOp) (slot : ℕ) : LeavesDescriptors (epollCtl op slot : EngineM σ _) :=
  fun _ => ⟨rfl, rfl⟩

lemma addSocket (slot : ℕ) : LeavesDescriptors (addSocket slot : EngineM σ _) :=
  (epollCtl _ _).bind fun _ => .ite (.pure _) (.pure _)

lemma rearmSocket (slot : ℕ) : LeavesDescriptors (rearmSocket slot : EngineM σ _) :=
  (epollCtl _ _).bind fun _ => .ite (.pure _) (.pure _)

lemma removeSocket (slot : ℕ) : LeavesDescriptors (removeSocket slot : EngineM σ _) :=
  (epollCtl _ _).bind fun _ => .ite (.pure _) (.pure _)

lemma sendMessageImpl (slot : ℕ) (message : OutgoingMessage) :
    LeavesDescriptors (NetworkEngine.sendMessageImpl slot message : EngineM σ _) :=
  (sendMessage slot message).bind fun _ => .pure _

lemma subscribeToEvents (slot : ℕ) :
    LeavesDescriptors (NetworkEngine.subscribeToEvents slot : EngineM σ _) :=
  (addSocket slot).bind fun _ => .pure _

lemma unsubscribeFromEvents (slot : ℕ) :
    LeavesDescriptors (NetworkEngine.unsubscribeFromEvents slot : EngineM σ _) :=
  (removeSocket slot).bind fun _ => .pure _

end LeavesDescriptors

/-! ### Closing -/

lemma World.closeSocket_descriptors (w : World σ) (slot : ℕ) (fd : ℤ) (hfd : fd ≠ -1) :
    (w.closeSocket slot).descriptors fd =
      if (w.entry slot).socketHandler.socket = fd then none else w.descriptors fd := by
  by_cases hsocket : (w.entry slot).socketHandler.socket = -1
  · rw [closeSocket, if_pos hsocket, hsocket, if_neg hfd.symm]
  · have hclose : (w.closeSocket slot).descriptors =
        update w.descriptors (w.entry slot).socketHandler.socket none := by
      rw [closeSocket, if_neg hsocket]
      rfl
    rw [hclose, update_apply]
    simp only [eq_comm]

lemma World.count_closed_closeSocket (w : World σ) (slot : ℕ) (fd : ℤ) (hfd : fd ≠ -1) :
    (w.closeSocket slot).closed.count fd =
      w.closed.count fd + if (w.entry slot).socketHandler.socket = fd then 1 else 0 := by
  by_cases hsocket : (w.entry slot).socketHandler.socket = -1
  · rw [closeSocket, if_pos hsocket, hsocket, if_neg hfd.symm]
    rfl
  · have hclose : (w.closeSocket slot).closed =
        w.closed ++ [(w.entry slot).socketHandler.socket] := by
      rw [closeSocket, if_neg hsocket]
      rfl
    rw [hclose, List.count_append, List.count_singleton]
    simp only [beq_iff_eq]

/-- What a connection that is reset leaves of the process: the rest of the pool, and of the
descriptors all but its own. -/
structure World.Cleared (w w' : World σ) (slot : ℕ) : Prop where
  entry : ∀ slot', w'.entry slot' = if slot' = slot then (w.entry slot).cleared else w.entry slot'
  descriptors : ∀ fd, fd ≠ -1 → w'.descriptors fd =
    if (w.entry slot).socketHandler.socket = fd then none else w.descriptors fd
  closed : ∀ fd, fd ≠ -1 → w'.closed.count fd =
    w.closed.count fd + if (w.entry slot).socketHandler.socket = fd then 1 else 0
  availableSlots : w'.pool.availableSlots = w.pool.availableSlots
  lastNotIssuedIndex : w'.pool.lastNotIssuedIndex = w.pool.lastNotIssuedIndex

lemma World.reset_cleared (w : World σ) (slot : ℕ) : w.Cleared (w.reset slot) slot := by
  -- the object is closed after two updates that leave its socket alone
  let w' := (w.updateEntry slot ({ · with connectionType := .none })).updateHandler slot
    ({ · with receiveHandle := none })
  have hsocket : (w'.entry slot).socketHandler.socket = (w.entry slot).socketHandler.socket := by
    simp [w', entry, updateHandler, updateEntry]
  constructor
  · intro slot'
    rw [entry, reset_pool, ObjectPool.setObject_object, update_apply]
    rfl
  · intro fd hfd
    rw [← hsocket]
    exact closeSocket_descriptors w' slot fd hfd
  · intro fd hfd
    rw [← hsocket]
    exact count_closed_closeSocket w' slot fd hfd
  · rw [reset_pool, ObjectPool.setObject_availableSlots]
  · rw [reset_pool, ObjectPool.setObject_lastNotIssuedIndex]

/-- What `push_to_pool` leaves of the process. The old connection of a slot that is used again
closes its descriptor. -/
structure World.Pushed (w w' : World σ) (slot : ℕ) : Prop where
  descriptors : ∀ fd, fd ≠ -1 → w'.descriptors fd =
    if w.pool.availableSlots.items ≠ [] ∧ (w.entry slot).socketHandler.socket = fd then none
    else w.descriptors fd
  closed : ∀ fd, fd ≠ -1 → w'.closed.count fd = w.closed.count fd +
    if w.pool.availableSlots.items ≠ [] ∧ (w.entry slot).socketHandler.socket = fd then 1 else 0

lemma World.pushed_of_pushToPool {connection : ConnectionEntry}
    (h : w.pushToPool connection = some (slot, w')) : w.Pushed w' slot := by
  obtain ⟨⟨slot', pool⟩, hpush, hw'⟩ := Option.map_eq_some_iff.1 h
  obtain ⟨rfl, rfl⟩ := Prod.mk.inj hw'
  cases hpop : w.pool.availableSlots.tryPop with
  | none =>
    have hitems : w.pool.availableSlots.items = [] := AtomicQueue.tryPop_eq_none.1 hpop
    constructor
    · intro fd _
      rw [if_neg fun hsome => hsome.1 hitems]
    · intro fd _
      rw [if_neg fun hsome => hsome.1 hitems]
      rfl
  | some popped =>
    obtain ⟨popped, q⟩ := popped
    have hitems : w.pool.availableSlots.items ≠ [] := by
      rw [(AtomicQueue.tryPop_eq_some.1 hpop).1]
      exact List.cons_ne_nil _ _
    simp only [hpop] at hpush ⊢
    obtain rfl : popped = slot' := by
      simp only [ObjectPool.pushToPool, closeSocket_pool, ObjectPool.setObject_availableSlots,
        hpop, Option.some.injEq, Prod.mk.injEq] at hpush
      exact hpush.1
    constructor
    · intro fd hfd
      rw [closeSocket_descriptors _ _ _ hfd]
      simp only [hitems, ne_eq, not_false_eq_true, true_and]
    · intro fd hfd
      rw [count_closed_closeSocket _ _ _ hfd]
      simp only [hitems, ne_eq, not_false_eq_true, true_and]

/-- Which slots there are after `push_to_pool`. -/
lemma World.issued_of_pushToPool {slots : List ℕ} {connection : ConnectionEntry}
    (hissued : ∀ slot, slot ∈ w.pool.availableSlots.items ∨ slot ∈ slots →
      slot < w.pool.lastNotIssuedIndex)
    (hpush : w.pushToPool connection = some (slot, w')) :
    (w.pool.availableSlots.items = [] → w.pool.lastNotIssuedIndex ≤ slot) ∧
      w.pool.lastNotIssuedIndex ≤ w'.pool.lastNotIssuedIndex ∧
      ∀ slot', slot' ∈ w'.pool.availableSlots.items ∨ slot' ∈ slot :: slots →
        slot' < w'.pool.lastNotIssuedIndex := by
  obtain ⟨hitems, -, hlast, -⟩ | ⟨-, havailable, hnew, -, hlast, -⟩ := World.pushToPool_cases hpush
  · refine ⟨fun hnil => by simp [hnil] at hitems, hlast.ge, fun slot' hslot' => ?_⟩
    rw [hlast]
    rcases hslot' with hmem | hmem
    · exact hissued slot' (.inl (by simp [hitems, hmem]))
    · rcases List.mem_cons.1 hmem with rfl | hmem
      · exact hissued slot' (.inl (by simp [hitems]))
      · exact hissued slot' (.inr hmem)
  · refine ⟨fun _ => hnew.ge, by omega, fun slot' hslot' => ?_⟩
    rw [hlast]
    rcases hslot' with hmem | hmem
    · exact Nat.lt_succ_of_lt (hissued slot' (.inl (havailable ▸ hmem)))
    · rcases List.mem_cons.1 hmem with rfl | hmem
      · omega
      · exact Nat.lt_succ_of_lt (hissued slot' (.inr hmem))

/-- Which slots there are after `ObjectPool::release`. -/
lemma World.issued_of_release {slots : List ℕ} {pool : ObjectPool ConnectionEntry}
    (hissued : ∀ slot, slot ∈ w.pool.availableSlots.items ∨ slot ∈ slots →
      slot < w.pool.lastNotIssuedIndex)
    (hslot : slot ∈ slots) (hrelease : w.pool.release slot = some pool) :
    pool.object = w.pool.object ∧ pool.lastNotIssuedIndex = w.pool.lastNotIssuedIndex ∧
      ∀ slot', slot' ∈ pool.availableSlots.items ∨ slot' ∈ slots →
        slot' < pool.lastNotIssuedIndex := by
  obtain ⟨hpool, hitems⟩ := ObjectPool.release_items hrelease
  have hlast : pool.lastNotIssuedIndex = w.pool.lastNotIssuedIndex := by rw [hpool]
  refine ⟨by rw [hpool], hlast, fun slot' hslot' => ?_⟩
  rw [hlast]
  apply hissued
  rcases hslot' with hmem | hmem
  · rw [hitems] at hmem
    split_ifs at hmem
    · rcases List.mem_append.1 hmem with hmem | hmem
      · exact .inl hmem
      · exact .inr (List.mem_singleton.1 hmem ▸ hslot)
    · exact .inl hmem
  · exact .inr hmem

/-! ### Invariants of the descriptors -/

/-- What an assertion about the descriptors needs so that the operations of the engine keep it. It
knows what is on its way to a connection, and some slots that have been issued; `Takes` says what
becomes of what is on its way when a connection of this type takes a descriptor. -/
structure DescriptorInvariant {ι : Type} (J : ι → List ℕ → World σ → Prop)
    (Takes : EndPoint → ℤ → ι → ι → Prop) : Prop where
  same : ∀ {l slots w w'}, J l slots w → w'.pool = w.pool → w'.descriptors = w.descriptors →
    w'.closed = w.closed → J l slots w'
  subset : ∀ {l slots slots' w}, J l slots w → slots' ⊆ slots → J l slots' w
  reset : ∀ {l slots w}, J l slots w → ∀ slot, J l slots (w.reset slot)
  release : ∀ {l slots w slot pool}, J l slots w → slot ∈ slots →
    w.pool.release slot = some pool → J l slots { w with pool := pool }
  push : ∀ {l l' slots w w' slot type socket}, J l slots w → Takes type socket l l' →
    w.pushToPool (.ofSocket type socket) = some (slot, w') → J l' (slot :: slots) w'

namespace DescriptorInvariant

variable {ι : Type} {J : ι → List ℕ → World σ → Prop} {Takes : EndPoint → ℤ → ι → ι → Prop}
  {G : List Event → Event → Prop} {l l' : ι} {S : List ℕ} {type : EndPoint} {socket : ℤ}

lemma quiet (h : DescriptorInvariant J Takes) {m : EngineM σ α} (hquiet : Quiet m)
    (hleaves : LeavesDescriptors m) : Keeps G (fun w _ => J l S w) m :=
  fun w _ hJ _ _ _ => h.same hJ (hquiet w).1.pool (hleaves w).1 (hleaves w).2

lemma resetAndRelease (h : DescriptorInvariant J Takes) (hslot : slot ∈ S) :
    Keeps G (fun w _ => J l S w) (resetAndRelease slot) := by
  refine Triple.bind (Triple.modify (Q := fun _ w _ => J l S w)
    fun w tr hJ => h.reset hJ slot) fun _ => ?_
  refine Triple.bind (Triple.get (Q := fun w₀ w _ => w = w₀ ∧ J l S w)
    fun w tr hJ => ⟨rfl, hJ⟩) fun w₀ => ?_
  refine Triple.bind (Triple.emit (Q := fun _ w _ => w = w₀ ∧ J l S w)
    fun w tr hJ _ => hJ) fun _ => ?_
  cases hrelease : w₀.pool.release slot with
  | none => exact Triple.stop
  | some pool =>
    apply Triple.modify
    rintro w tr ⟨rfl, hJ⟩
    exact h.release hJ hslot hrelease

lemma registerConnection (h : DescriptorInvariant J Takes) (htakes : Takes type socket l l') :
    Triple G (fun w _ => J l S w) (NetworkEngine.registerConnection type socket)
      fun _ w _ => J l' S w := by
  refine Triple.bind (Q := fun slot w _ => J l' (slot :: S) w) ?_ fun slot => ?_
  · exact triple_pushToPool fun w tr slot w' hJ hpush _ => h.push hJ htakes hpush
  refine Triple.bind (h.quiet (NetworkEngine.quiet_subscribeToEvents slot)
    (.subscribeToEvents slot)) fun result => ?_
  have hsub : S ⊆ slot :: S := List.subset_cons_self slot S
  cases result with
  | none => exact .pure fun w tr hJ => h.subset hJ hsub
  | some e =>
    refine Triple.bind (h.quiet (NetworkEngine.quiet_sendMessageImpl slot _)
      (.sendMessageImpl slot _)) fun _ => ?_
    refine Triple.bind (h.resetAndRelease List.mem_cons_self) fun _ => ?_
    exact .pure fun w tr hJ => h.subset hJ hsub

/-- `f` says what is on its way while these sockets are left. -/
lemma registerConnections (h : DescriptorInvariant J Takes) {f : List ℤ → ι} (sockets : List ℤ)
    (htakes : ∀ socket rest, (socket :: rest) <:+ sockets →
      Takes .toClient socket (f (socket :: rest)) (f rest)) (report : RegistrationReport) :
    Triple G (fun w _ => J (f sockets) S w)
      (NetworkEngine.registerConnections sockets report) fun _ w _ => J (f []) S w := by
  induction sockets generalizing report with
  | nil => exact Keeps.pure
  | cons socket sockets ih =>
    have hrest := ih fun socket' rest hsuffix =>
      htakes socket' rest (hsuffix.trans (List.suffix_cons socket sockets))
    refine Triple.bind (h.registerConnection (htakes socket sockets List.suffix_rfl))
      fun result => ?_
    cases result with
    | ok slot => exact hrest _
    | error e => exact hrest _

lemma attachSocket (h : DescriptorInvariant J Takes) (htakes : Takes type socket l l') :
    Triple G (fun w _ => J l S w) (NetworkEngine.attachSocket socket type)
      fun _ w _ => J l' S w := by
  refine Triple.bind (h.registerConnection htakes) fun result => ?_
  cases result with
  | ok slot => exact .pure fun w tr hJ => hJ
  | error e => exact .pure fun w tr hJ => hJ

lemma releaseConnection (h : DescriptorInvariant J Takes) (hslot : slot ∈ S) :
    Keeps G (fun w _ => J l S w) (NetworkEngine.releaseConnection slot) :=
  Triple.bind (h.quiet (NetworkEngine.quiet_unsubscribeFromEvents slot)
    (.unsubscribeFromEvents slot)) fun _ => h.resetAndRelease hslot

lemma transfer (h : DescriptorInvariant J Takes) {destination source : ConnectionView}
    (hdestination : destination.slot ∈ S) (hsource : source.slot ∈ S) :
    Keeps G (fun w _ => J l S w) (NetworkEngine.transfer destination source) := by
  refine Triple.bind (h.quiet (NetworkEngine.quiet_unsubscribeFromEvents source.slot)
    (.unsubscribeFromEvents source.slot)) fun _ => ?_
  refine Triple.bind Keeps.get fun w₀ => ?_
  refine Triple.bind (h.quiet (NetworkEngine.quiet_sendMessageImpl destination.slot _)
    (.sendMessageImpl destination.slot _)) fun sent => ?_
  cases sent with
  | none => exact Triple.bind (h.resetAndRelease hsource) fun _ => Keeps.pure
  | some e =>
    refine Triple.bind (Triple.emit (Q := fun _ w _ => J l S w) fun w tr hJ _ => hJ)
      fun _ => ?_
    refine Triple.bind (h.releaseConnection hdestination) fun _ => ?_
    refine Triple.bind (h.quiet (NetworkEngine.quiet_subscribeToEvents source.slot)
      (.subscribeToEvents source.slot)) fun recovered => ?_
    cases recovered with
    | none => exact Keeps.pure
    | some e =>
      refine Triple.bind (Triple.emit (Q := fun _ w _ => J l S w) fun w tr hJ _ => hJ)
        fun _ => ?_
      exact Triple.bind (h.releaseConnection hsource) fun _ => Keeps.pure

end DescriptorInvariant

end BattleShips
