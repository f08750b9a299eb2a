import BattleShips.Application.OperationRules
import BattleShips.Application.ServerCalls
import BattleShips.Net.DescriptorRules

/-!
# Accepted descriptors

A listener event accepts clients until there are none. Each descriptor goes to a connection, or is
closed with the connection that could not be subscribed. But if `accept4` fails after it has given
descriptors, the vector that holds them is dropped.
-/

namespace BattleShips

open Function Traced NetworkEngine

variable {σ α : Type} {w w' : World σ} {slot n : ℕ} {loose : List ℤ} {slots : List ℕ}
  {socket fd : ℤ} {G : List Event → Event → Prop}

/-! ### The sockets of a server -/

/-- The connections have open descriptors, each of them its own, and the loose descriptors are open
and no connection has them. What has never been issued has no descriptor, and the slots have been
issued. -/
structure World.OwnsSockets (loose : List ℤ) (slots : List ℕ) (w : World σ) : Prop where
  opened : ∀ slot, (w.entry slot).socketHandler.socket ≠ -1 →
    w.descriptors (w.entry slot).socketHandler.socket ≠ none
  once : ∀ slot slot', (w.entry slot).socketHandler.socket = (w.entry slot').socketHandler.socket →
    (w.entry slot).socketHandler.socket ≠ -1 → slot = slot'
  unheld : ∀ fd ∈ loose, fd ≠ -1 ∧ w.descriptors fd ≠ none ∧
    ∀ slot, (w.entry slot).socketHandler.socket ≠ fd
  nodup : loose.Nodup
  unissued : ∀ slot, w.pool.lastNotIssuedIndex ≤ slot →
    (w.entry slot).socketHandler.socket = -1
  issued : ∀ slot, slot ∈ w.pool.availableSlots.items ∨ slot ∈ slots →
    slot < w.pool.lastNotIssuedIndex

namespace World.OwnsSockets

/-- The connections keep their sockets and nothing is closed. -/
lemma of_le (h : w.OwnsSockets loose slots)
    (hsocket : ∀ slot, (w'.entry slot).socketHandler.socket = (w.entry slot).socketHandler.socket)
    (hopen : ∀ fd, w.descriptors fd ≠ none → w'.descriptors fd ≠ none)
    (hlast : w'.pool.lastNotIssuedIndex = w.pool.lastNotIssuedIndex)
    (hissued : ∀ slot, slot ∈ w'.pool.availableSlots.items ∨ slot ∈ slots →
      slot < w'.pool.lastNotIssuedIndex) : w'.OwnsSockets loose slots where
  opened slot hslot := by
    rw [hsocket] at hslot ⊢
    exact hopen _ (h.opened slot hslot)
  once slot slot' := by
    rw [hsocket, hsocket]
    exact h.once slot slot'
  unheld fd hfd := by
    obtain ⟨hne, hopened, hunheld⟩ := h.unheld fd hfd
    exact ⟨hne, hopen fd hopened, fun slot => hsocket slot ▸ hunheld slot⟩
  nodup := h.nodup
  unissued slot hslot := by
    rw [hsocket]
    exact h.unissued slot (hlast ▸ hslot)
  issued := hissued

lemma congr (h : w.OwnsSockets loose slots) (hpool : w'.pool = w.pool)
    (hdescriptors : w'.descriptors = w.descriptors) : w'.OwnsSockets loose slots := by
  apply h.of_le
  · intro slot
    rw [World.entry, World.entry, hpool]
  · rw [hdescriptors]
    exact fun fd => id
  · rw [hpool]
  · rw [hpool]
    exact h.issued

lemma reset (h : w.OwnsSockets loose slots) (slot : ℕ) :
    (w.reset slot).OwnsSockets loose slots := by
  have hcleared := w.reset_cleared slot
  have hentry : ∀ slot', ((w.reset slot).entry slot').socketHandler.socket =
      if slot' = slot then -1 else (w.entry slot').socketHandler.socket := by
    intro slot'
    rw [hcleared.entry]
    split_ifs
    · rfl
    · rfl
  constructor
  · intro slot' hslot'
    rw [hentry] at hslot' ⊢
    split_ifs at hslot' ⊢ with hne
    · exact absurd rfl hslot'
    rw [hcleared.descriptors _ hslot', if_neg]
    · exact h.opened slot' hslot'
    · intro hsame
      exact hne (h.once slot slot' hsame (hsame ▸ hslot')).symm
  · intro slot₁ slot₂ hsame hne
    rw [hentry] at hne
    rw [hentry, hentry] at hsame
    split_ifs at hsame hne with h₁ h₂ h₂
    · exact absurd rfl hne
    · exact absurd rfl hne
    · exact absurd hsame hne
    · exact h.once slot₁ slot₂ hsame hne
  · intro fd hfd
    obtain ⟨hne, hopened, hunheld⟩ := h.unheld fd hfd
    refine ⟨hne, ?_, fun slot' => ?_⟩
    · rw [hcleared.descriptors fd hne, if_neg (hunheld slot)]
      exact hopened
    · rw [hentry]
      split_ifs
      · exact hne.symm
      · exact hunheld slot'
  · exact h.nodup
  · intro slot' hslot'
    rw [hcleared.lastNotIssuedIndex] at hslot'
    rw [hentry]
    split_ifs
    · rfl
    · exact h.unissued slot' hslot'
  · rw [hcleared.lastNotIssuedIndex, hcleared.availableSlots]
    exact h.issued

/-- A new connection takes a loose descriptor. -/
lemma push {type : EndPoint} (h : w.OwnsSockets (socket :: loose) slots)
    (hpush : w.pushToPool (.ofSocket type socket) = some (slot, w')) :
    w'.OwnsSockets loose (slot :: slots) := by
  obtain ⟨hnew, hle, hissued⟩ := World.issued_of_pushToPool h.issued hpush
  have hlt : slot < w'.pool.lastNotIssuedIndex := hissued slot (.inr List.mem_cons_self)
  have hentry : ∀ slot', (w'.entry slot').socketHandler.socket =
      if slot' = slot then socket else (w.entry slot').socketHandler.socket := by
    intro slot'
    split_ifs with heq
    · rw [heq, (World.pushToPool_entry_self hpush).2]
      rfl
    · rw [World.pushToPool_entry_of_ne hpush heq]
  have hdescriptors := (World.pushed_of_pushToPool hpush).descriptors
  obtain ⟨hsocket, hopened, hunheld⟩ := h.unheld socket List.mem_cons_self
  obtain ⟨hnotMem, hnodup⟩ := List.nodup_cons.1 h.nodup
  constructor
  · intro slot' hslot'
    rw [hentry] at hslot' ⊢
    split_ifs at hslot' ⊢ with hne
    · rw [hdescriptors socket hsocket, if_neg fun hold => hunheld slot hold.2]
      exact hopened
    rw [hdescriptors _ hslot', if_neg]
    · exact h.opened slot' hslot'
    · rintro ⟨-, hsame⟩
      exact hne (h.once slot slot' hsame (hsame ▸ hslot')).symm
  · intro slot₁ slot₂ hsame hne
    rw [hentry] at hne
    rw [hentry, hentry] at hsame
    split_ifs at hsame hne with h₁ h₂ h₂
    · exact h₁.trans h₂.symm
    · exact absurd hsame.symm (hunheld slot₂)
    · exact absurd hsame (hunheld slot₁)
    · exact h.once slot₁ slot₂ hsame hne
  · intro fd hfd
    obtain ⟨hne, hopened, hunheld⟩ := h.unheld fd (List.mem_cons_of_mem _ hfd)
    refine ⟨hne, ?_, fun slot' => ?_⟩
    · rw [hdescriptors fd hne, if_neg fun hold => hunheld slot hold.2]
      exact hopened
    · rw [hentry]
      split_ifs
      · rintro rfl
        exact hnotMem hfd
      · exact hunheld slot'
  · exact hnodup
  · intro slot' hslot'
    rw [hentry, if_neg (by omega)]
    exact h.unissued slot' (by omega)
  · exact hissued

/-- A connection takes the first of the loose descriptors. -/
def Takes (_ : EndPoint) (socket : ℤ) (loose loose' : List ℤ) : Prop := loose = socket :: loose'

lemma invariant : DescriptorInvariant
    (fun loose slots (w : World σ) => w.OwnsSockets loose slots) Takes where
  same h hpool hdescriptors _ := h.congr hpool hdescriptors
  subset h hsub := { h with
    issued := fun slot hslot => h.issued slot (hslot.imp_right fun hmem => hsub hmem) }
  reset h slot := h.reset slot
  release h hslot hrelease := by
    obtain ⟨hobject, hlast, hissued⟩ := World.issued_of_release h.issued hslot hrelease
    apply h.of_le
    · intro slot
      rw [World.entry, World.entry, hobject]
    · exact fun fd => id
    · exact hlast
    · exact hissued
  push h htakes hpush := by
    obtain rfl := htakes
    exact h.push hpush

/-- Open descriptors stay open. -/
lemma openDescriptors (h : w.OwnsSockets loose slots) (sockets : List ℤ) (closeOnExec : Bool) :
    (w.openDescriptors sockets closeOnExec).OwnsSockets loose slots := by
  apply h.of_le
  · exact fun slot => rfl
  · intro fd hopen
    by_cases hmem : fd ∈ sockets
    · rw [World.openDescriptors_of_mem hmem]
      exact Option.some_ne_none _
    · rwa [World.openDescriptors_of_notMem hmem]
  · rfl
  · exact h.issued

/-- Descriptors that were not open are on their way to connections. -/
lemma opens (h : w.OwnsSockets [] slots) {sockets : List ℤ} (hnodup : sockets.Nodup)
    (hfresh : ∀ fd ∈ sockets, fd ≠ -1 ∧ w.descriptors fd = none) (closeOnExec : Bool) :
    (w.openDescriptors sockets closeOnExec).OwnsSockets sockets slots := by
  refine { h.openDescriptors sockets closeOnExec with unheld := fun fd hfd => ?_, nodup := hnodup }
  obtain ⟨hne, hclosed⟩ := hfresh fd hfd
  refine ⟨hne, ?_, fun slot hslot => ?_⟩
  · rw [World.openDescriptors_of_mem hfd]
    exact Option.some_ne_none _
  · exact h.opened slot (hslot ▸ hne) (hslot ▸ hclosed)

/-- A loose descriptor may be closed. -/
lemma close (h : w.OwnsSockets (fd :: loose) slots) : (w.close fd).OwnsSockets loose slots := by
  obtain ⟨hnotMem, hnodup⟩ := List.nodup_cons.1 h.nodup
  obtain ⟨-, -, hunheld⟩ := h.unheld fd List.mem_cons_self
  have hdescriptors : ∀ fd', fd' ≠ fd → (w.close fd).descriptors fd' = w.descriptors fd' :=
    fun fd' hne => update_of_ne hne _ _
  constructor
  · intro slot hslot
    exact (hdescriptors _ (hunheld slot)).trans_ne (h.opened slot hslot)
  · exact h.once
  · intro fd' hfd'
    obtain ⟨hne, hopened, hunheld'⟩ := h.unheld fd' (List.mem_cons_of_mem _ hfd')
    refine ⟨hne, ?_, hunheld'⟩
    exact (hdescriptors fd' fun heq => hnotMem (heq ▸ hfd')).trans_ne hopened
  · exact hnodup
  · exact h.unissued
  · exact h.issued

end World.OwnsSockets

/-! ### The calls of a server -/

/-- The kernel opens descriptors that are not open, each once. -/
def ServerCall.Fresh (w : World LobbyManager) : ServerCall → Prop
  | .accept _ => (acceptedSockets w.results.accept4).Nodup ∧
    ∀ fd ∈ acceptedSockets w.results.accept4, fd ≠ -1 ∧ w.descriptors fd = none
  | .createLobby => ∀ sv0 sv1, w.results.spawn.headD .socketpairFailed = .spawned sv0 sv1 →
    [sv0, sv1].Nodup ∧ ∀ fd ∈ [sv0, sv1], fd ≠ -1 ∧ w.descriptors fd = none
  | .receive _ | .send _ _ | .transfer _ _ | .release _ => True

/-- `accept_connections` gives up just if an error comes before there is nothing to accept. -/
lemma acceptConnections_cases (rs : List AcceptResult) :
    (acceptConnections rs).1 = .ok (acceptedSockets rs) ∧
      (∀ (sockets : List ℤ) rest, rs ≠ sockets.map .accepted ++ .failed :: rest) ∨
    (∃ e, (acceptConnections rs).1 = .error e) ∧
      ∃ rest, rs = (acceptedSockets rs).map .accepted ++ .failed :: rest := by
  induction rs with
  | nil => exact .inl ⟨rfl, by simp⟩
  | cons r rs ih =>
    cases r with
    | wouldBlock =>
      refine .inl ⟨rfl, fun sockets rest => ?_⟩
      cases sockets <;> simp
    | failed => exact .inr ⟨⟨_, rfl⟩, rs, rfl⟩
    | accepted socket =>
      rcases ih with ⟨hok, hnone⟩ | ⟨⟨e, herror⟩, rest, hrest⟩
      · refine .inl ⟨by simp [acceptConnections, acceptedSockets, hok, Except.map], ?_⟩
        intro sockets rest
        cases sockets with
        | nil => simp
        | cons socket' sockets => simpa using fun _ => hnone sockets rest
      · refine .inr ⟨⟨e, by simp [acceptConnections, herror, Except.map]⟩, rest, ?_⟩
        simpa [acceptedSockets] using hrest

lemma acceptedSockets_append (sockets : List ℤ) (rest : List AcceptResult) :
    acceptedSockets (sockets.map .accepted ++ .failed :: rest) = sockets := by
  induction sockets with
  | nil => rfl
  | cons socket sockets ih => simp [acceptedSockets, ih]

/-- The process when `accept_connections` has returned. -/
def World.afterAccept (w : World σ) : World σ :=
  { w with results.accept4 := (acceptConnections w.results.accept4).2 }.openDescriptors
    (acceptedSockets w.results.accept4) true

namespace World.OwnsSockets

lemma afterAccept (h : w.OwnsSockets [] slots)
    (hnodup : (acceptedSockets w.results.accept4).Nodup)
    (hfresh : ∀ fd ∈ acceptedSockets w.results.accept4, fd ≠ -1 ∧ w.descriptors fd = none) :
    w.afterAccept.OwnsSockets (acceptedSockets w.results.accept4) slots := by
  apply opens
  · exact h.congr rfl rfl
  · exact hnodup
  · exact hfresh

lemma processServerSocket (slot : ℕ) :
    Triple G (fun (w : World LobbyManager) _ => w.OwnsSockets [] slots ∧
      (ServerCall.accept slot).Fresh w) (NetworkEngine.processServerSocket slot)
      fun _ w _ => w.OwnsSockets [] slots := by
  refine Triple.bind (Triple.get (Q := fun w₀ w _ => w = w₀ ∧ w.OwnsSockets [] slots ∧
    (ServerCall.accept slot).Fresh w) fun w tr h => ⟨rfl, h⟩) fun w₀ => ?_
  refine Triple.bind (Triple.modify (Q := fun _ w _ =>
    w.OwnsSockets (acceptedSockets w₀.results.accept4) slots) ?_) fun _ => ?_
  · rintro w tr ⟨rfl, h, hnodup, hfresh⟩
    exact h.afterAccept hnodup hfresh
  rcases acceptConnections_cases w₀.results.accept4 with ⟨hok, -⟩ | ⟨⟨e, herror⟩, -⟩
  · simp only [hok]
    refine Triple.bind (invariant.registerConnections (f := id) _ (fun _ _ _ => rfl) {})
      fun _ => ?_
    refine Triple.bind (invariant.quiet (quiet_rearmSocket slot) (.rearmSocket slot))
      fun result => ?_
    cases result with
    | none => exact .pure fun w tr h => h
    | some e => exact Triple.stop
  · simp only [herror]
    exact Triple.emit fun w tr h _ => { h with unheld := nofun, nodup := List.nodup_nil }

/-- Descriptors that come with a message go to no connection. -/
lemma getMessage (slot : ℕ) :
    Keeps G (fun (w : World σ) _ => w.OwnsSockets loose slots) (BattleShips.getMessage slot) := by
  rintro w tr h _ message -
  simp only [BattleShips.getMessage, run_bind, Outcome.andThen, run_get, run_modify, run_pure]
  set r := ((w.entry slot).socketHandler.receiveHandle.getD coReceiveFromSocket).resume
    w.results.recvmsg
  have hopened : ({ w with results.recvmsg := r.pending }.openDescriptors r.sockets
      false).OwnsSockets loose slots := by
    apply openDescriptors
    exact h.congr rfl rfl
  apply hopened.of_le
  · intro slot'
    rw [World.entry, World.updateHandler_pool, ObjectPool.setObject_object]
    rcases eq_or_ne slot' slot with rfl | hne
    · rw [update_self]
    · rw [update_of_ne hne]
      rfl
  · exact fun fd => id
  · rfl
  · exact hopened.issued

lemma createLobby :
    Triple G (fun (w : World LobbyManager) _ => w.OwnsSockets [] slots ∧
      ServerCall.createLobby.Fresh w) Server.createLobby fun _ w _ => w.OwnsSockets [] slots := by
  have hspawn : Triple G (fun (w : World LobbyManager) _ => w.OwnsSockets [] slots ∧
      ServerCall.createLobby.Fresh w) (LobbyManager.spawnLobby : EngineM LobbyManager _)
      fun result w _ => w.OwnsSockets
        (result.toOption.elim [] fun process => [process.controlSocket]) slots := by
    refine Triple.bind (Triple.get (Q := fun w₀ w _ => w = w₀ ∧ w.OwnsSockets [] slots ∧
      ServerCall.createLobby.Fresh w) fun w tr h => ⟨rfl, h⟩) fun w₀ => ?_
    refine Triple.bind (Triple.modify (Q := fun _ w _ => w.OwnsSockets [] slots ∧
      w.descriptors = w₀.descriptors ∧ ServerCall.createLobby.Fresh w₀) ?_) fun _ => ?_
    · rintro w tr ⟨rfl, h, hfresh⟩
      exact ⟨by exact h.congr rfl rfl, rfl, hfresh⟩
    cases hhead : w₀.results.spawn.headD .socketpairFailed with
    | socketpairFailed => exact .pure fun w tr h => h.1
    | forkFailed sv0 sv1 =>
      exact Triple.bind (Triple.modify (Q := fun _ w _ => w.OwnsSockets [] slots)
        fun w tr h => h.1.openDescriptors _ _) fun _ => .pure fun w tr h => h
    | spawned sv0 sv1 =>
      refine Triple.bind (Triple.modify (Q := fun _ w _ => w.OwnsSockets [sv1] slots)
        fun w tr h => ?_) fun _ => .pure fun w tr h => h
      obtain ⟨howns, hdescriptors, hfresh⟩ := h
      obtain ⟨hnodup, hfresh⟩ := hfresh sv0 sv1 hhead
      exact (howns.opens hnodup (hdescriptors ▸ hfresh) false).close.congr rfl rfl
  exact invariant.createLobby (f := fun socket => [socket]) (fun socket => rfl) hspawn

/-- A call to which the kernel gives new descriptors. -/
lemma call {call : ServerCall} (hnamed : ∀ slot ∈ call.named, slot ∈ slots) :
    Triple G (fun w _ => w.OwnsSockets [] slots ∧ call.Fresh w) call.program
      fun _ w _ => w.OwnsSockets [] slots := by
  cases call with
  | createLobby => exact Triple.bind createLobby fun _ => .pure fun w tr h => h
  | accept slot => exact processServerSocket slot
  | receive slot =>
    exact Triple.bind ((getMessage slot).pre fun w tr h => h.1) fun _ => .pure fun w tr h => h
  | send slot message =>
    refine Triple.bind ((invariant.quiet (quiet_sendMessageImpl slot message)
      (.sendMessageImpl slot message)).pre fun w tr h => h.1) fun _ => .pure fun w tr h => h
  | transfer destination source =>
    refine Triple.bind ((invariant.transfer ?_ ?_).pre fun w tr h => h.1)
      fun _ => .pure fun w tr h => h
    · exact hnamed _ (by simp [ServerCall.named])
    · exact hnamed _ (by simp [ServerCall.named])
  | release slot =>
    refine (invariant.releaseConnection ?_).pre fun w tr h => h.1
    exact hnamed _ (by simp [ServerCall.named])

lemma initial {s : ServerRun} (h : serverCalls.initial s) : s.world.OwnsSockets [] [] := by
  obtain ⟨hlistening, tr, hstarted⟩ := initial_started h
  have hother : ∀ slot, slot ≠ 0 → (s.world.entry slot).socketHandler.socket = -1 := by
    intro slot hne
    rw [hstarted.other slot hne]
  constructor
  · intro slot hslot
    rcases eq_or_ne slot 0 with rfl | hne
    · rw [hlistening, if_pos rfl]
      exact Option.some_ne_none _
    · exact absurd (hother slot hne) hslot
  · intro slot slot' hsame hslot
    have hzero : slot = 0 := by_contra fun hne => hslot (hother slot hne)
    have hzero' : slot' = 0 := by_contra fun hne => hslot (hsame.trans (hother slot' hne))
    rw [hzero, hzero']
  · exact nofun
  · exact List.nodup_nil
  · intro slot hslot
    rw [hstarted.lastNotIssuedIndex] at hslot
    exact hother slot (by omega)
  · rintro slot (hmem | hmem)
    · rw [hstarted.availableSlots] at hmem
      cases hmem
    · cases hmem

end World.OwnsSockets

/-- The runs in which the kernel opens new descriptors. -/
def freshCalls (s : ServerRun) (call : ServerCall) : Prop := call.Fresh s.world

lemma serverCalls_ownsSockets {s : ServerRun} (h : serverCalls.Reachable freshCalls s) :
    s.world.OwnsSockets [] [] := by
  refine h.invariant (I := fun s => s.world.OwnsSockets [] []) ?_ ?_
  · exact fun s hinit => World.OwnsSockets.initial hinit
  · rintro s call s' - hs hfresh hstep
    obtain ⟨hissued, hvalue, rfl⟩ := serverCalls_step.1 hstep
    have howns : s.world.OwnsSockets [] call.named :=
      { hs with
        issued := fun slot hslot => hslot.elim (fun hmem => hs.issued slot (.inl hmem))
          (hissued slot) }
    exact World.OwnsSockets.invariant.subset (World.OwnsSockets.call (G := fun _ _ => True)
      (fun _ => id) s.world [] ⟨howns, hfresh⟩ (allowed_of_forall fun _ _ _ => trivial) ⟨⟩ hvalue)
      (List.nil_subset _)

/-! ### What becomes of a descriptor -/

/-- A live connection has the descriptor, and no other one. -/
def World.HeldBy (w : World σ) (fd : ℤ) (slot : ℕ) : Prop :=
  (w.entry slot).connectionType ≠ .none ∧ (w.entry slot).socketHandler.isSocketAlive ∧
    ∀ slot', (w.entry slot').socketHandler.socket = fd ↔ slot' = slot

def World.Unheld (w : World σ) (fd : ℤ) : Prop :=
  ∀ slot, (w.entry slot).socketHandler.socket ≠ fd

/-- The descriptor has been closed `n` times before: since then a live connection has got it, or it
has been closed once more. -/
def World.Settled (w : World σ) (fd : ℤ) (n : ℕ) : Prop :=
  (∃ slot, w.HeldBy fd slot) ∧ w.closed.count fd = n ∨ w.Unheld fd ∧ w.closed.count fd = n + 1

/-- A descriptor on its way to a connection, or settled. -/
def World.Stage (w : World σ) (fd : ℤ) (n : ℕ) (pending : Bool) : Prop :=
  if pending then w.Unheld fd ∧ w.closed.count fd = n else w.Settled fd n

lemma World.HeldBy.not_unheld (h : w.HeldBy fd slot) : ¬ w.Unheld fd :=
  fun hunheld => hunheld slot ((h.2.2 slot).2 rfl)

/-- A connection gives up its descriptor, which is closed. -/
lemma World.Stage.drop {pending : Bool} (h : w.Stage fd n pending)
    (hentry : ∀ slot', slot' ≠ slot → w'.entry slot' = w.entry slot')
    (hslot : (w'.entry slot).socketHandler.socket ≠ fd)
    (hclosed : w'.closed.count fd =
      w.closed.count fd + if (w.entry slot).socketHandler.socket = fd then 1 else 0) :
    w'.Stage fd n pending := by
  have hunheld : w.Unheld fd → w'.Unheld fd ∧ w'.closed.count fd = w.closed.count fd := by
    intro hnone
    constructor
    · intro slot'
      rcases eq_or_ne slot' slot with rfl | hne
      · exact hslot
      · rw [hentry slot' hne]
        exact hnone slot'
    · rw [hclosed, if_neg (hnone slot), add_zero]
  cases pending with
  | true =>
    obtain ⟨hnone, hcount⟩ := h
    obtain ⟨hnone', hcount'⟩ := hunheld hnone
    exact ⟨hnone', hcount'.trans hcount⟩
  | false =>
    rcases h with ⟨⟨holder, hheld⟩, hcount⟩ | ⟨hnone, hcount⟩
    · obtain ⟨htype, halive, honly⟩ := hheld
      rcases eq_or_ne holder slot with rfl | hne
      · right
        constructor
        · intro slot' hslot'
          rcases eq_or_ne slot' holder with rfl | hne'
          · exact hslot hslot'
          · rw [hentry slot' hne'] at hslot'
            exact hne' ((honly slot').1 hslot')
        · rw [hclosed, if_pos ((honly holder).2 rfl), hcount]
      · left
        refine ⟨⟨holder, ?_, ?_, fun slot' => ?_⟩, ?_⟩
        · rwa [hentry holder hne]
        · rwa [hentry holder hne]
        · rcases eq_or_ne slot' slot with rfl | hne'
          · simp [hslot, hne.symm]
          · rw [hentry slot' hne']
            exact honly slot'
        · rw [hclosed, if_neg fun hsame => hne ((honly slot).1 hsame).symm, hcount, add_zero]
    · obtain ⟨hnone', hcount'⟩ := hunheld hnone
      exact .inr ⟨hnone', hcount'.trans hcount⟩

/-- A descriptor on its way to a connection, or settled; the slots have been issued, also the one of
the connection. -/
structure World.Tracked (fd : ℤ) (n : ℕ) (pending : Bool) (slots : List ℕ) (w : World σ) :
    Prop where
  stage : w.Stage fd n pending
  holder : ∀ slot, (w.entry slot).socketHandler.socket = fd → slot < w.pool.lastNotIssuedIndex
  issued : ∀ slot, slot ∈ w.pool.availableSlots.items ∨ slot ∈ slots →
    slot < w.pool.lastNotIssuedIndex

namespace World.Tracked

variable {pending pending' : Bool}

/-- The connections are as they were. -/
lemma of_entry (h : w.Tracked fd n pending slots) (hentry : w'.entry = w.entry)
    (hclosed : w'.closed = w.closed)
    (hlast : w'.pool.lastNotIssuedIndex = w.pool.lastNotIssuedIndex)
    (hissued : ∀ slot, slot ∈ w'.pool.availableSlots.items ∨ slot ∈ slots →
      slot < w'.pool.lastNotIssuedIndex) : w'.Tracked fd n pending slots where
  stage := by
    have hstage := h.stage
    simp only [World.Stage, World.Settled, World.HeldBy, World.Unheld] at hstage ⊢
    rw [hentry, hclosed]
    exact hstage
  holder := by
    rw [hentry, hlast]
    exact h.holder
  issued := hissued

lemma reset (hfd : fd ≠ -1) (h : w.Tracked fd n pending slots) (slot : ℕ) :
    (w.reset slot).Tracked fd n pending slots := by
  have hcleared := w.reset_cleared slot
  have hentry : ∀ slot', slot' ≠ slot → (w.reset slot).entry slot' = w.entry slot' := by
    intro slot' hne
    rw [hcleared.entry, if_neg hne]
  have hslot : ((w.reset slot).entry slot).socketHandler.socket ≠ fd := by
    rw [hcleared.entry, if_pos rfl]
    exact hfd.symm
  constructor
  · exact h.stage.drop hentry hslot (hcleared.closed fd hfd)
  · intro slot' hslot'
    have hne : slot' ≠ slot := by
      rintro rfl
      exact hslot hslot'
    rw [hentry slot' hne] at hslot'
    rw [hcleared.lastNotIssuedIndex]
    exact h.holder slot' hslot'
  · rw [hcleared.lastNotIssuedIndex, hcleared.availableSlots]
    exact h.issued

/-- What a connection that takes a descriptor does to the one that is looked at. -/
def Takes (fd : ℤ) (type : EndPoint) (socket : ℤ) (pending pending' : Bool) : Prop :=
  if socket = fd then type ≠ .none ∧ pending = true ∧ pending' = false else pending' = pending

lemma push (hfd : fd ≠ -1) {type : EndPoint} (h : w.Tracked fd n pending slots)
    (htakes : Takes fd type socket pending pending')
    (hpush : w.pushToPool (.ofSocket type socket) = some (slot, w')) :
    w'.Tracked fd n pending' (slot :: slots) := by
  obtain ⟨hnew, hle, hissued⟩ := World.issued_of_pushToPool h.issued hpush
  obtain ⟨htype, hhandler⟩ := World.pushToPool_entry_self hpush
  have hsocket : (w'.entry slot).socketHandler.socket = socket := by
    rw [hhandler]
    rfl
  have hentry : ∀ slot', slot' ≠ slot → w'.entry slot' = w.entry slot' :=
    fun slot' hne => World.pushToPool_entry_of_ne hpush hne
  -- a new slot holds no descriptor
  have hclosed : w'.closed.count fd =
      w.closed.count fd + if (w.entry slot).socketHandler.socket = fd then 1 else 0 := by
    rw [(World.pushed_of_pushToPool hpush).closed fd hfd]
    by_cases hold : (w.entry slot).socketHandler.socket = fd
    · have hlt := h.holder slot hold
      have hitems : w.pool.availableSlots.items ≠ [] := by
        intro hnil
        have hge := hnew hnil
        omega
      rw [if_pos ⟨hitems, hold⟩, if_pos hold]
    · rw [if_neg fun hboth => hold hboth.2, if_neg hold]
  constructor
  · rw [Takes] at htakes
    split_ifs at htakes with heq
    · obtain ⟨hnone, rfl, rfl⟩ := htakes
      obtain ⟨hunheld, hcount⟩ := h.stage
      left
      refine ⟨⟨slot, htype ▸ hnone, ?_, fun slot' => ?_⟩, ?_⟩
      · rw [hhandler]
        rfl
      · rcases eq_or_ne slot' slot with rfl | hne
        · simp [hsocket, heq]
        · rw [hentry slot' hne]
          simp [hunheld slot', hne]
      · rw [hclosed, if_neg (hunheld slot), hcount, add_zero]
    · rw [htakes]
      exact h.stage.drop hentry (hsocket ▸ heq) hclosed
  · intro slot' hslot'
    rcases eq_or_ne slot' slot with rfl | hne
    · exact hissued slot' (.inr List.mem_cons_self)
    · rw [hentry slot' hne] at hslot'
      exact (h.holder slot' hslot').trans_le hle
  · exact hissued

lemma invariant (hfd : fd ≠ -1) : DescriptorInvariant
    (fun pending slots (w : World σ) => w.Tracked fd n pending slots) (Takes fd) where
  same h hpool _ hclosed := by
    apply h.of_entry
    · funext slot
      rw [World.entry, World.entry, hpool]
    · exact hclosed
    · rw [hpool]
    · rw [hpool]
      exact h.issued
  subset h hsub := { h with
    issued := fun slot hslot => h.issued slot (hslot.imp_right fun hmem => hsub hmem) }
  reset h slot := h.reset hfd slot
  release h hslot hrelease := by
    obtain ⟨hobject, hlast, hissued⟩ := World.issued_of_release h.issued hslot hrelease
    apply h.of_entry
    · funext slot
      rw [World.entry, World.entry, hobject]
    · rfl
    · exact hlast
    · exact hissued
  push h htakes hpush := h.push hfd htakes hpush

end World.Tracked

/-! ### A listener event -/

/-- What `process_server_socket` reports: nobody is registered if `accept_connections` gives up. -/
def registrationReport (w : World σ) : Option RegistrationReport :=
  match (acceptConnections w.results.accept4).1 with
  | .error _ => some {}
  | .ok sockets => ((NetworkEngine.registerConnections sockets {}).run w.afterAccept).value

/-- When `process_server_socket` has finished, each of the accepted descriptors is owned by one live
connection or has been closed once, and all of them have been counted. -/
structure World.AccountsForAccepted (w : World σ) (slot : ℕ) : Prop where
  settled : ((NetworkEngine.processServerSocket slot).run w).value = some ⟨⟩ →
    ∀ fd ∈ acceptedSockets w.results.accept4,
      ((NetworkEngine.processServerSocket slot).run w).state.Settled fd (w.closed.count fd)
  counted : ∀ report, registrationReport w = some report →
    report.registered + report.failed = (acceptedSockets w.results.accept4).length

lemma registerConnections_counts (sockets : List ℤ) (report : RegistrationReport) :
    Triple (σ := World σ) G (fun _ _ => True) (NetworkEngine.registerConnections sockets report)
      fun report' _ _ => report'.registered + report'.failed =
        report.registered + report.failed + sockets.length := by
  induction sockets generalizing report with
  | nil => exact .pure fun w tr _ => rfl
  | cons socket sockets ih =>
    refine Triple.bind_any fun result => ?_
    cases result with
    | ok slot =>
      refine (ih _).post fun report' w tr hreport => ?_
      rw [hreport, List.length_cons]
      dsimp only
      omega
    | error e =>
      refine (ih _).post fun report' w tr hreport => ?_
      rw [hreport, List.length_cons]
      dsimp only
      omega

/-- Descriptors that are all registered. -/
lemma processServerSocket_settles (h : w.OwnsSockets [] [])
    (hnodup : (acceptedSockets w.results.accept4).Nodup)
    (hfresh : ∀ fd ∈ acceptedSockets w.results.accept4, fd ≠ -1 ∧ w.descriptors fd = none)
    (hok : (acceptConnections w.results.accept4).1 = .ok (acceptedSockets w.results.accept4))
    (hmem : fd ∈ acceptedSockets w.results.accept4) :
    Triple G (fun w' _ => w' = w) (NetworkEngine.processServerSocket slot)
      fun _ w' _ => w'.Settled fd (w.closed.count fd) := by
  obtain ⟨hfd, hclosed⟩ := hfresh fd hmem
  have hunheld : w.Unheld fd :=
    fun slot' hslot' => h.opened slot' (hslot' ▸ hfd) (hslot' ▸ hclosed)
  have hstart : w.afterAccept.Tracked fd (w.closed.count fd) true [] := by
    refine ⟨⟨hunheld, rfl⟩, fun slot' hslot' => absurd hslot' (hunheld slot'), h.issued⟩
  -- `fd` is pending as long as it is among the sockets that are left
  have htakes : ∀ socket rest, (socket :: rest) <:+ acceptedSockets w.results.accept4 →
      World.Tracked.Takes fd .toClient socket (fd ∈ socket :: rest) (fd ∈ rest) := by
    intro socket rest hsuffix
    have hnotMem := (List.nodup_cons.1 (hnodup.sublist hsuffix.sublist)).1
    rw [World.Tracked.Takes]
    split_ifs with heq
    · subst heq
      simp [hnotMem]
    · simp [List.mem_cons, Ne.symm heq]
  refine Triple.bind (Triple.get (Q := fun w₀ w' _ => w' = w ∧ w₀ = w)
    fun w' tr hw => ⟨hw, hw⟩) fun w₀ => ?_
  refine Triple.bind (Triple.modify (Q := fun _ w' _ => w₀ = w ∧ w' = w.afterAccept) ?_)
    fun _ => Triple.of_pre ?_
  · rintro w' tr ⟨rfl, rfl⟩
    exact ⟨rfl, rfl⟩
  rintro rfl
  simp only [hok]
  have hregister : Triple G
      (fun (w : World σ) _ => World.Tracked fd (w₀.closed.count fd)
        (fd ∈ acceptedSockets w₀.results.accept4) [] w)
      (NetworkEngine.registerConnections (acceptedSockets w₀.results.accept4) {})
      fun _ w _ => World.Tracked fd (w₀.closed.count fd) (fd ∈ ([] : List ℤ)) [] w :=
    (World.Tracked.invariant hfd).registerConnections (f := fun rest => fd ∈ rest)
      (acceptedSockets w₀.results.accept4) htakes {}
  refine Triple.bind (hregister.pre fun w' tr hw => by simpa [hw, hmem] using hstart)
    fun report => ?_
  refine Triple.bind ((World.Tracked.invariant hfd).quiet (quiet_rearmSocket slot)
    (.rearmSocket slot)) fun result => ?_
  cases result with
  | none => exact .pure fun w tr htracked => by simpa [World.Stage] using htracked.stage
  | some e => exact Triple.stop

/-- If `accept4` fails, nothing is done about what it has given before. -/
lemma processServerSocket_gives_up {e : Error} (slot : ℕ)
    (herror : (acceptConnections w.results.accept4).1 = .error e) :
    (NetworkEngine.processServerSocket slot).run w =
      { value := some ⟨⟩, state := w.afterAccept, events := [.acceptFailed slot] } := by
  simp only [NetworkEngine.processServerSocket, run_bind, run_get, run_modify, Outcome.andThen,
    herror]
  rfl

/-- **Accepted descriptors** are all accounted for just if `accept4` does not fail after it has
given some. -/
theorem processServerSocket_accountsForAccepted_iff {s : ServerRun}
    (h : serverCalls.Reachable freshCalls s) (slot : ℕ) (hfresh : freshCalls s (.accept slot)) :
    s.world.AccountsForAccepted slot ↔ ∀ (sockets : List ℤ) rest,
      s.world.results.accept4 = sockets.map .accepted ++ .failed :: rest → sockets = [] := by
  have howns := serverCalls_ownsSockets h
  obtain ⟨hnodup, hnew⟩ := hfresh
  obtain ⟨hok, hnone⟩ | ⟨⟨e, herror⟩, rest, heq⟩ :=
    acceptConnections_cases s.world.results.accept4
  · constructor
    · exact fun _ sockets rest heq => absurd heq (hnone sockets rest)
    · intro _
      constructor
      · intro hvalue fd hmem
        exact processServerSocket_settles (G := fun _ _ => True) howns hnodup hnew hok hmem s.world
          [] rfl (allowed_of_forall fun _ _ _ => trivial) ⟨⟩ hvalue
      · intro report hreport
        rw [registrationReport, hok] at hreport
        have hcounts := registerConnections_counts (G := fun _ _ => True)
          (acceptedSockets s.world.results.accept4) {} s.world.afterAccept [] trivial
          (allowed_of_forall fun _ _ _ => trivial) report hreport
        simpa using hcounts
  · have hrun := processServerSocket_gives_up slot herror
    constructor
    · intro haccounts sockets rest' heq'
      have hsockets : acceptedSockets s.world.results.accept4 = sockets := by
        rw [heq', acceptedSockets_append]
      rw [← hsockets]
      apply List.eq_nil_iff_forall_not_mem.2
      intro fd hmem
      have hsettled := haccounts.settled (by rw [hrun]) fd hmem
      rw [hrun] at hsettled
      have hunheld : s.world.afterAccept.Unheld fd := fun slot' hslot' =>
        howns.opened slot' (hslot' ▸ (hnew fd hmem).1) (hslot' ▸ (hnew fd hmem).2)
      rcases hsettled with ⟨⟨holder, hheld⟩, -⟩ | ⟨-, hcount⟩
      · exact hheld.not_unheld hunheld
      · exact absurd hcount (Nat.ne_of_lt (Nat.lt_succ_self _))
    · intro hnil
      have hsockets := hnil _ rest heq
      constructor
      · intro _ fd hmem
        rw [hsockets] at hmem
        cases hmem
      · intro report hreport
        rw [registrationReport, herror] at hreport
        cases hreport
        rw [hsockets]
        rfl

/-- A server that has just started, and what `accept4` is going to give. -/
def acceptingServer (accept4 : List AcceptResult) : ServerRun where
  world := ((Server.init .listener 0).run
    (World.initial {} { listen := [.listening 3], accept4 := accept4 })).state
  leaked := false

lemma reachable_acceptingServer (accept4 : List AcceptResult) :
    serverCalls.Reachable freshCalls (acceptingServer accept4) :=
  .of_initial ⟨rfl, { listen := [.listening 3], accept4 := accept4 }, rfl, rfl⟩

/-- One client, and nobody else. -/
theorem processServerSocket_accountsForAccepted_iff_one :
    (acceptingServer [.accepted 4, .wouldBlock]).world.AccountsForAccepted 0 := by
  refine (processServerSocket_accountsForAccepted_iff
    (reachable_acceptingServer [.accepted 4, .wouldBlock]) 0 ⟨by decide, ?_⟩).2 ?_
  · intro fd hmem
    obtain rfl : fd = 4 := List.mem_singleton.1 hmem
    exact ⟨by decide, rfl⟩
  · intro sockets rest heq
    have heq' : [.accepted 4, .wouldBlock] = sockets.map .accepted ++ .failed :: rest := heq
    match sockets with
    | [] => rfl
    | [socket] => simp at heq'
    | socket :: socket' :: sockets => simp at heq'

/-- One client, and then an error: descriptor 4 is open, no connection has it and nobody has closed
it. -/
theorem processServerSocket_not_accountsForAccepted :
    (∃ w, (NetworkEngine.processServerSocket 0).run (acceptingServer [.accepted 4, .failed]).world =
        { value := some ⟨⟩, state := w, events := [.acceptFailed 0] } ∧
      w.descriptors 4 = some { closeOnExec := true } ∧ w.closed = [] ∧
      (w.entry 0).socketHandler.socket = 3 ∧ w.pool.counter = 1) ∧
    ¬ (acceptingServer [.accepted 4, .failed]).world.AccountsForAccepted 0 := by
  refine ⟨⟨_, rfl, rfl, rfl, rfl, rfl⟩, fun haccounts => ?_⟩
  have hcounted := haccounts.counted {} rfl
  exact absurd hcounted (by decide)

end BattleShips
