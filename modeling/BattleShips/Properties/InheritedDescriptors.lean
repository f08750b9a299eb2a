import BattleShips.Application.ServerCalls

/-!
# What a lobby inherits

`spawn_lobby` makes the socket pair without `SOCK_CLOEXEC`, and nobody sets the flag afterwards. The
child closes the end that the server keeps, but it knows nothing of the ends that the server keeps
for the lobbies before it: `exec` leaves them open.
-/

namespace BattleShips

open Function Traced NetworkEngine

variable {σ α : Type} {w w' : World σ} {slot : ℕ} {loose : Option ℤ} {slots : List ℕ} {sv0 sv1 : ℤ}
  {G : List Event → Event → Prop}

/-- What `exec` leaves open in the child of `spawn_lobby`, which has closed `sv[1]`. -/
def World.inherited (w : World σ) (sv0 sv1 : ℤ) : Set ℤ :=
  {fd | 0 ≤ fd ∧ fd ≠ sv1 ∧
    (w.openDescriptors [sv0, sv1] false).descriptors fd = some { closeOnExec := false }}

/-- What `exec` leaves open is the socket of a connection to a lobby, or else the loose one. What
has never been issued holds no connection, and the slots have been issued. -/
structure World.EndsHeld (loose : Option ℤ) (slots : List ℕ) (w : World σ) : Prop where
  held : ∀ fd, 0 ≤ fd → w.descriptors fd = some { closeOnExec := false } → loose = some fd ∨
    ∃ slot, (w.entry slot).connectionType = .toLobby ∧ (w.entry slot).socketHandler.socket = fd
  unissued : ∀ slot, w.pool.lastNotIssuedIndex ≤ slot → (w.entry slot).connectionType = .none
  issued : ∀ slot, slot ∈ w.pool.availableSlots.items ∨ slot ∈ slots →
    slot < w.pool.lastNotIssuedIndex

namespace World.EndsHeld

lemma congr (h : w.EndsHeld loose slots) (hpool : w'.pool = w.pool)
    (hdescriptors : w'.descriptors = w.descriptors) : w'.EndsHeld loose slots := by
  have hentry : w'.entry = w.entry := by
    funext slot
    rw [World.entry, World.entry, hpool]
  constructor
  · rw [hdescriptors, hentry]
    exact h.held
  · rw [hpool, hentry]
    exact h.unissued
  · rw [hpool]
    exact h.issued

/-- Descriptors that `exec` closes. -/
lemma openDescriptors (h : w.EndsHeld loose slots) (sockets : List ℤ) :
    (w.openDescriptors sockets true).EndsHeld loose slots where
  held fd hfd hopen := by
    by_cases hmem : fd ∈ sockets
    · rw [World.openDescriptors_of_mem hmem] at hopen
      cases hopen
    · rw [World.openDescriptors_of_notMem hmem] at hopen
      exact h.held fd hfd hopen
  unissued := h.unissued
  issued := h.issued

/-- The end of a socket pair that the server keeps. -/
lemma spawned (h : w.EndsHeld none slots) :
    ((w.openDescriptors [sv0, sv1] false).close sv0).EndsHeld (some sv1) slots where
  held fd hfd hopen := by
    have hne : fd ≠ sv0 := by
      rintro rfl
      simp [World.close] at hopen
    have hopen' : (w.openDescriptors [sv0, sv1] false).descriptors fd =
        some { closeOnExec := false } := by
      simpa [World.close, hne] using hopen
    rcases eq_or_ne fd sv1 with rfl | hne'
    · exact .inl rfl
    · rw [World.openDescriptors_of_notMem (by simp [hne, hne'])] at hopen'
      exact .inr ((h.held fd hfd hopen').resolve_left fun hnone => by cases hnone)
  unissued := h.unissued
  issued := h.issued

/-- A connection that keeps its socket. -/
lemma updateHandler (h : w.EndsHeld loose slots) {f : SocketHandler → SocketHandler}
    (hf : ∀ handler, (f handler).socket = handler.socket) :
    (w.updateHandler slot f).EndsHeld loose slots := by
  have hentry : ∀ slot', ((w.updateHandler slot f).entry slot').connectionType =
      (w.entry slot').connectionType ∧ ((w.updateHandler slot f).entry slot').socketHandler.socket =
        (w.entry slot').socketHandler.socket := by
    intro slot'
    rw [World.entry, World.updateHandler_pool, ObjectPool.setObject_object]
    rcases eq_or_ne slot' slot with rfl | hne
    · rw [update_self]
      exact ⟨rfl, hf _⟩
    · rw [update_of_ne hne]
      exact ⟨rfl, rfl⟩
  constructor
  · intro fd hfd hopen
    simp only [hentry]
    exact h.held fd hfd hopen
  · intro slot' hslot'
    rw [(hentry slot').1]
    exact h.unissued slot' hslot'
  · exact h.issued

/-- A connection that is reset gives up its socket, which is closed. -/
lemma reset (h : w.EndsHeld loose slots) (slot : ℕ) : (w.reset slot).EndsHeld loose slots := by
  have hcleared := w.reset_cleared slot
  constructor
  · intro fd hfd hopen
    rw [hcleared.descriptors fd (by omega)] at hopen
    split_ifs at hopen with hsocket
    apply (h.held fd hfd hopen).imp_right
    rintro ⟨slot', htype, hslot'⟩
    have hne : slot' ≠ slot := by
      rintro rfl
      exact hsocket hslot'
    exact ⟨slot', by rw [hcleared.entry, if_neg hne]; exact ⟨htype, hslot'⟩⟩
  · intro slot' hslot'
    rw [hcleared.lastNotIssuedIndex] at hslot'
    rw [hcleared.entry]
    split_ifs
    · rfl
    · exact h.unissued slot' hslot'
  · rw [hcleared.lastNotIssuedIndex, hcleared.availableSlots]
    exact h.issued

lemma release (h : w.EndsHeld loose slots) (hslot : slot ∈ slots)
    {pool : ObjectPool ConnectionEntry} (hrelease : w.pool.release slot = some pool) :
    { w with pool := pool }.EndsHeld loose slots := by
  obtain ⟨hobject, hlast, hissued⟩ := World.issued_of_release h.issued hslot hrelease
  have hentry : ∀ slot', ({ w with pool := pool } : World σ).entry slot' = w.entry slot' := by
    intro slot'
    rw [World.entry, World.entry, hobject]
  constructor
  · intro fd hfd hopen
    simp only [hentry]
    exact h.held fd hfd hopen
  · intro slot' hslot'
    rw [hentry]
    exact h.unissued slot' (hlast ▸ hslot')
  · exact hissued

/-- The loose end gets a connection of its own. -/
lemma push {type : EndPoint} {socket : ℤ} (h : w.EndsHeld loose slots)
    (hloose : ∀ fd, loose = some fd → type = .toLobby ∧ socket = fd)
    (hpush : w.pushToPool (.ofSocket type socket) = some (slot, w')) :
    w'.EndsHeld none (slot :: slots) := by
  obtain ⟨htype, hhandler⟩ := World.pushToPool_entry_self hpush
  obtain ⟨hnew, hle, hissued⟩ := World.issued_of_pushToPool h.issued hpush
  have hlt : slot < w'.pool.lastNotIssuedIndex := hissued slot (.inr List.mem_cons_self)
  have hsocket : (w'.entry slot).socketHandler.socket = socket := by
    rw [hhandler]
    rfl
  constructor
  · intro fd hfd hopen
    rw [(World.pushed_of_pushToPool hpush).descriptors fd (by omega)] at hopen
    split_ifs at hopen with hclosed
    right
    rcases h.held fd hfd hopen with hfd' | ⟨slot', hlobby, hheld⟩
    · obtain ⟨hlobby, rfl⟩ := hloose fd hfd'
      exact ⟨slot, htype.trans hlobby, hsocket⟩
    · have hne : slot' ≠ slot := by
        rintro rfl
        by_cases hnil : w.pool.availableSlots.items = []
        · rw [h.unissued slot' (hnew hnil)] at hlobby
          cases hlobby
        · exact hclosed ⟨hnil, hheld⟩
      exact ⟨slot', by rw [World.pushToPool_entry_of_ne hpush hne]; exact ⟨hlobby, hheld⟩⟩
  · intro slot' hslot'
    rw [World.pushToPool_entry_of_ne hpush (by omega)]
    exact h.unissued slot' (by omega)
  · exact hissued

/-- A connection takes the loose end if there is one. -/
def Takes (type : EndPoint) (socket : ℤ) (loose loose' : Option ℤ) : Prop :=
  loose' = none ∧ ∀ fd, loose = some fd → type = .toLobby ∧ socket = fd

lemma invariant : DescriptorInvariant (fun loose slots (w : World σ) => w.EndsHeld loose slots)
    Takes where
  same h hpool hdescriptors _ := h.congr hpool hdescriptors
  subset h hsub := {
    held := h.held
    unissued := h.unissued
    issued := fun slot hslot => h.issued slot (hslot.imp_right fun hmem => hsub hmem) }
  reset h slot := h.reset slot
  release h hslot hrelease := h.release hslot hrelease
  push h htakes hpush := by
    obtain ⟨rfl, hloose⟩ := htakes
    exact h.push hloose hpush

/-! ### The operations of the engine -/

lemma processServerSocket (slot : ℕ) :
    Keeps (σ := World σ) G (fun w _ => w.EndsHeld none slots)
      (NetworkEngine.processServerSocket slot) := by
  refine Triple.bind (Keeps.get (I := fun (w : World σ) _ => w.EndsHeld none slots)) fun w₀ => ?_
  refine Triple.bind (Triple.modify (Q := fun _ w _ => w.EndsHeld none slots) ?_) fun _ => ?_
  · intro w tr h
    have hresults : ({ w with results.accept4 := (acceptConnections w.results.accept4).2 } :
        World σ).EndsHeld none slots := h.congr rfl rfl
    exact hresults.openDescriptors _
  cases (acceptConnections w₀.results.accept4).1 with
  | error e => exact Triple.emit fun w tr h _ => h
  | ok sockets =>
    refine Triple.bind (invariant.registerConnections (f := fun _ => none) sockets
      (fun _ _ _ => ⟨rfl, nofun⟩) {}) fun _ => ?_
    refine Triple.bind (invariant.quiet (quiet_rearmSocket slot) (.rearmSocket slot))
      fun result => ?_
    cases result with
    | none => exact Keeps.pure
    | some e => exact Triple.stop

/-- A message that comes without a descriptor. -/
lemma getMessage (slot : ℕ) :
    Triple (σ := World σ) G (fun w _ => w.EndsHeld loose slots ∧
        (((w.entry slot).socketHandler.receiveHandle.getD coReceiveFromSocket).resume
          w.results.recvmsg).sockets = []) (BattleShips.getMessage slot)
      fun _ w _ => w.EndsHeld loose slots := by
  rintro w tr ⟨h, hnone⟩ _ message -
  simp only [BattleShips.getMessage, run_bind, Outcome.andThen, run_get, run_modify, run_pure,
    hnone]
  apply updateHandler
  · apply h.congr
    · rfl
    · funext fd
      exact World.openDescriptors_of_notMem List.not_mem_nil
  · exact fun _ => rfl

lemma createLobby :
    Triple G (fun w _ => w.EndsHeld none slots ∧
      ∀ sv0 sv1, w.results.spawn.headD .socketpairFailed ≠ .forkFailed sv0 sv1)
      Server.createLobby fun _ w _ => w.EndsHeld none slots := by
  have hspawn : Triple G (fun w _ => w.EndsHeld none slots ∧
      ∀ sv0 sv1, w.results.spawn.headD .socketpairFailed ≠ .forkFailed sv0 sv1)
      (LobbyManager.spawnLobby : EngineM LobbyManager _) fun result w _ =>
        w.EndsHeld (result.toOption.elim none fun process => some process.controlSocket) slots := by
    refine Triple.bind (Triple.get (Q := fun w₀ w _ => w = w₀ ∧ w.EndsHeld none slots ∧
      ∀ sv0 sv1, w₀.results.spawn.headD .socketpairFailed ≠ .forkFailed sv0 sv1)
      fun w tr h => ⟨rfl, h.1, h.2⟩) fun w₀ => ?_
    refine Triple.bind (Triple.modify (Q := fun _ w _ => w.EndsHeld none slots ∧
      ∀ sv0 sv1, w₀.results.spawn.headD .socketpairFailed ≠ .forkFailed sv0 sv1)
      fun w tr h => ⟨by exact h.2.1.congr rfl rfl, h.2.2⟩) fun _ => ?_
    cases w₀.results.spawn.headD .socketpairFailed with
    | socketpairFailed => exact .pure fun w tr h => h.1
    | forkFailed sv0 sv1 =>
      rintro w tr ⟨-, hfork⟩
      exact absurd rfl (hfork sv0 sv1)
    | spawned sv0 sv1 =>
      refine Triple.bind (Triple.modify (Q := fun _ w _ => w.EndsHeld (some sv1) slots)
        fun w tr h => ?_) fun _ => .pure fun w tr h => h
      exact h.1.spawned.congr rfl rfl
  exact invariant.createLobby (f := some)
    (fun socket => ⟨rfl, fun fd hfd => ⟨rfl, Option.some.inj hfd⟩⟩) hspawn

end World.EndsHeld

/-! ### The server and its children -/

/-- At the next fork the child inherits its own end of the socket pair, which is a new one, and
nothing else. -/
def ServerRun.InheritsOwnEnd (s : ServerRun) : Prop :=
  ∀ sv0 sv1, s.world.results.spawn.headD .socketpairFailed = .spawned sv0 sv1 →
    0 ≤ sv0 → sv0 ≠ sv1 → s.world.inherited sv0 sv1 = {sv0}

/-- The server holds no end of a socket pair: no connection to a lobby, and nothing unrecorded. -/
structure ServerRun.HoldsNoEnd (s : ServerRun) : Prop where
  leaked : s.leaked = false
  lobby : ∀ slot, (s.world.entry slot).connectionType ≠ .toLobby

/-! ### Every run -/

variable {s s' : ServerRun} {call : ServerCall}

/-- A call that leaks nothing. -/
lemma ServerCall.keeps_endsHeld {slots : List ℕ} (hnamed : ∀ slot ∈ call.named, slot ∈ slots) :
    Triple G (fun w _ => w.EndsHeld none slots ∧ call.leaks w = false) call.program
      fun _ w _ => w.EndsHeld none slots := by
  cases call with
  | createLobby =>
    refine Triple.bind (World.EndsHeld.createLobby.pre fun w tr h => ⟨h.1, ?_⟩)
      fun _ => .pure fun w tr h => h
    intro sv0 sv1 hspawn
    have hleaks := h.2
    rw [leaks, hspawn] at hleaks
    cases hleaks
  | accept slot => exact (World.EndsHeld.processServerSocket slot).pre fun w tr h => h.1
  | receive slot =>
    refine Triple.bind ((World.EndsHeld.getMessage slot).pre fun w tr h => ⟨h.1, ?_⟩)
      fun _ => .pure fun w tr h => h
    simpa [leaks] using h.2
  | send slot message =>
    refine Triple.bind ((World.EndsHeld.invariant.quiet (quiet_sendMessageImpl slot message)
      (.sendMessageImpl slot message)).pre fun w tr h => h.1) fun _ => .pure fun w tr h => h
  | transfer destination source =>
    refine Triple.bind ((World.EndsHeld.invariant.transfer ?_ ?_).pre fun w tr h => h.1)
      fun _ => .pure fun w tr h => h
    · exact hnamed _ (by simp [named])
    · exact hnamed _ (by simp [named])
  | release slot =>
    exact (World.EndsHeld.invariant.releaseConnection (hnamed _ (by simp [named]))).pre
      fun w tr h => h.1

/-- A server that has started holds its listener only. -/
lemma initial_holdsNoEnd (h : serverCalls.initial s) :
    s.world.EndsHeld none [] ∧ s.HoldsNoEnd := by
  obtain ⟨hlistening, tr, hstarted⟩ := initial_started h
  constructor
  · constructor
    · intro fd _ hopen
      rw [hlistening fd] at hopen
      split_ifs at hopen
      cases hopen
    · intro slot hslot
      rw [hstarted.lastNotIssuedIndex] at hslot
      rw [hstarted.other slot (by omega)]
    · rintro slot (hmem | hmem)
      · rw [hstarted.availableSlots] at hmem
        cases hmem
      · cases hmem
  · refine ⟨h.1, fun slot hlobby => ?_⟩
    rcases eq_or_ne slot 0 with rfl | hne
    · rw [hstarted.root.1] at hlobby
      cases hlobby
    · rw [hstarted.other slot hne] at hlobby
      cases hlobby

/-- While nothing has leaked, what `exec` leaves open belongs to the connections to lobbies. -/
lemma serverCalls_endsHeld (h : serverCalls.Reachable System.anyStep s) :
    s.leaked = false → s.world.EndsHeld none [] := by
  refine h.invariant (I := fun s => s.leaked = false → s.world.EndsHeld none []) ?_ ?_
  · exact fun s hinit _ => (initial_holdsNoEnd hinit).1
  · rintro s call s' - ih - hstep hleaked
    obtain ⟨hissued, hvalue, rfl⟩ := serverCalls_step.1 hstep
    obtain ⟨hbefore, hcall⟩ := Bool.or_eq_false_iff.1 hleaked
    have hheld : s.world.EndsHeld none call.named :=
      { ih hbefore with
        issued := fun slot hslot => hslot.elim (fun hmem => (ih hbefore).issued slot (.inl hmem))
          (hissued slot) }
    exact World.EndsHeld.invariant.subset (ServerCall.keeps_endsHeld (G := fun _ _ => True)
      (fun _ => id) s.world [] ⟨hheld, hcall⟩ (allowed_of_forall fun _ _ _ => trivial) ⟨⟩ hvalue)
      (List.nil_subset _)

/-- **What a lobby inherits** is its own end of the socket pair, if the server holds no other end
when it forks. -/
theorem serverCalls_inheritsOwnEnd {s : ServerRun} (h : serverCalls.Reachable System.anyStep s)
    (hnone : s.HoldsNoEnd) : s.InheritsOwnEnd := by
  intro sv0 sv1 _ hnonneg hne
  have hheld := serverCalls_endsHeld h hnone.leaked
  ext fd
  simp only [World.inherited, Set.mem_ofPred_eq, Set.mem_singleton_iff]
  constructor
  · rintro ⟨hfd, hfd1, hopen⟩
    by_contra hfd0
    rw [World.openDescriptors_of_notMem (by simp [hfd0, hfd1])] at hopen
    obtain ⟨slot, hlobby, -⟩ := (hheld.held fd hfd hopen).resolve_left nofun
    exact hnone.lobby slot hlobby
  · rintro rfl
    exact ⟨hnonneg, hne, World.openDescriptors_of_mem (by simp)⟩

/-- What the system calls of a server return that accepts a client and creates two lobbies. -/
def lobbyResults : SysResults where
  listen := [.listening 3]
  accept4 := [.accepted 8]
  spawn := [.spawned 4 5, .spawned 6 7]
  time := [default, default]

/-- A server that has just started. -/
def startedServer : ServerRun where
  world := ((Server.init .listener 0).run (World.initial {} lobbyResults)).state
  leaked := false

lemma startedServer_initial : serverCalls.initial startedServer :=
  ⟨rfl, lobbyResults, rfl, rfl⟩

/-- It accepts a client, creates a lobby and loses it again. Nothing of that is left when it creates
the next one. -/
theorem serverCalls_inheritsOwnEnd_startedServer :
    ∃ s, serverCalls.run startedServer [.accept 0, .createLobby, .release 2] = some s ∧
      s.world.results.spawn = [.spawned 6 7] ∧ s.world.inherited 6 7 = {6} := by
  obtain ⟨s, hrun, hspawn, hleaked, hlobby⟩ : ∃ s,
      serverCalls.run startedServer [.accept 0, .createLobby, .release 2] = some s ∧
      s.world.results.spawn = [.spawned 6 7] ∧ s.leaked = false ∧
      ∀ slot, (s.world.entry slot).connectionType ≠ .toLobby := by
    refine ⟨_, rfl, rfl, rfl, fun slot hlobby => ?_⟩
    match slot with
    | 0 | 1 | 2 | _ + 3 => cases hlobby
  have hreachable := System.Reachable.run (.of_initial startedServer_initial)
    (System.meets_of_labels fun _ _ => trivial) hrun
  exact ⟨s, hrun, hspawn, serverCalls_inheritsOwnEnd hreachable ⟨hleaked, hlobby⟩ 6 7
    (by rw [hspawn]; rfl) (by decide) (by decide)⟩

/-- The second lobby inherits the control socket of the first one. -/
theorem serverCalls_not_inheritsOwnEnd :
    ∃ s, serverCalls.run startedServer [.createLobby] = some s ∧
      s.world.results.spawn = [.spawned 6 7] ∧ 5 ∈ s.world.inherited 6 7 ∧
      ¬ s.InheritsOwnEnd := by
  obtain ⟨s, hrun, hspawn, hopen⟩ : ∃ s, serverCalls.run startedServer [.createLobby] = some s ∧
      s.world.results.spawn = [.spawned 6 7] ∧
      (s.world.openDescriptors [6, 7] false).descriptors 5 = some { closeOnExec := false } :=
    ⟨_, rfl, rfl, rfl⟩
  have hinherited : (5 : ℤ) ∈ s.world.inherited 6 7 := ⟨by decide, by decide, hopen⟩
  refine ⟨s, hrun, hspawn, hinherited, fun hown => ?_⟩
  rw [hown 6 7 (by rw [hspawn]; rfl) (by decide) (by decide)] at hinherited
  exact absurd hinherited (by decide)

end BattleShips
