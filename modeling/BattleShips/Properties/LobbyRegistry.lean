import BattleShips.Properties.Rearming

/-!
# The table of lobbies

An entry of `lobbies_` is never erased. So the table agrees with the connection pool, and `\join`
hands a player over to the lobby that was asked for, as long as no lobby loses its control
connection and no transfer fails: in a run without these events, every lobby that is found is
served by the connection that was attached for it, which is alive, and has not been killed.
-/

namespace BattleShips

open Traced

/-! ### Lobbies along a trace -/

/-- The slot that the event makes the control connection of a lobby. -/
def Event.controlSlot : Event → Option ℕ
  | .attached _ slot _ => some slot
  | _ => none

/-- The control connections of lobbies are not released, and no transfer fails. (A failed one
comes before the failure to recover its source.) -/
def LobbiesStay (tr : List Event) : Event → Prop
  | .released slot _ => ∀ e ∈ tr, e.controlSlot ≠ some slot
  | .transferFailed _ _ _ | .recoverFailed _ => False
  | _ => True

instance (tr : List Event) : ∀ e, Decidable (LobbiesStay tr e)
  | .released slot _ => inferInstanceAs (Decidable (∀ e ∈ tr, e.controlSlot ≠ some slot))
  | .transferFailed _ _ _ | .recoverFailed _ => isFalse id
  | .acquired _ | .exhausted | .sent _ _ _ | .received _ _ _ | .handled _ _ | .acceptFailed _
  | .handedOff _ _ _ | .attached _ _ _ | .killed _ | .printed _ => isTrue trivial

/-- After the event the slot may hold another connection. -/
def Event.Takes (slot : ℕ) : Event → Prop
  | .acquired s | .released s _ => s = slot
  | _ => False

/-- The process that the event attaches or kills. -/
def Event.pid : Event → Option ℕ
  | .attached _ _ pid | .killed pid => some pid
  | _ => none

/-- The connection in the slot was attached for the lobby and has held the slot since, and the
process of the lobby has not been killed. -/
def Serves (tr : List Event) (lobbyId : ℤ) (slot pid : ℕ) : Prop :=
  (∀ e ∈ tr, e ≠ .killed pid) ∧
    ∃ before after, tr = before ++ .attached lobbyId slot pid :: after ∧
      ∀ e ∈ after, ¬ e.Takes slot

/-- A connection is handed over to the lobby that was asked for. -/
def HandsOver (tr : List Event) : Event → Prop
  | .handedOff request lobbyId slot => Named request lobbyId ∧ ∃ pid, Serves tr lobbyId slot pid
  | _ => True

section Serves

variable {tr : List Event} {lobbyId : ℤ} {slot pid : ℕ}

lemma Serves.attached_mem (h : Serves tr lobbyId slot pid) :
    .attached lobbyId slot pid ∈ tr := by
  obtain ⟨-, before, after, rfl, -⟩ := h
  simp

lemma Serves.append {e : Event} (h : Serves tr lobbyId slot pid) (htakes : ¬ e.Takes slot)
    (hkilled : e ≠ .killed pid) : Serves (tr ++ [e]) lobbyId slot pid := by
  obtain ⟨halive, before, after, rfl, hafter⟩ := h
  exact ⟨List.forall_mem_append.2 ⟨halive, List.forall_mem_singleton.2 hkilled⟩,
    before, after ++ [e], by simp,
    List.forall_mem_append.2 ⟨hafter, List.forall_mem_singleton.2 htakes⟩⟩

lemma serves_attached (hkilled : ∀ e ∈ tr, e ≠ .killed pid) :
    Serves (tr ++ [.attached lobbyId slot pid]) lobbyId slot pid :=
  ⟨List.forall_mem_append.2 ⟨hkilled, List.forall_mem_singleton.2 nofun⟩, tr, [], rfl, nofun⟩

end Serves

/-! ### The invariant -/

/-- Every lobby in the table is served. The pids of the lobbies to come, and those in `fresh`, have
not been attached or killed. -/
structure Registry (fresh : Set ℕ) (w : World LobbyManager) (tr : List Event) : Prop
    extends w.PoolSound where
  lobby : ∀ lobbyId entry, w.app.lobbies lobbyId = some entry →
    (w.entry entry.controlConnection.slot).connectionType = .toLobby ∧
      Serves tr lobbyId entry.controlConnection.slot entry.pid
  pids : ∀ e ∈ tr, ∀ pid, e.pid = some pid → pid < w.nextPid ∧ pid ∉ fresh
  fresh_lt : ∀ pid ∈ fresh, pid < w.nextPid
  handsOver : Allowed HandsOver [] tr

namespace Registry

variable {fresh : Set ℕ} {w w' : World LobbyManager} {tr : List Event} {slot : ℕ}

lemma mono {fresh' : Set ℕ} (h : Registry fresh w tr) (hsub : fresh' ⊆ fresh) :
    Registry fresh' w tr :=
  { h with
    pids := fun e he pid hpid => ⟨(h.pids e he pid hpid).1, fun hmem =>
      (h.pids e he pid hpid).2 (hsub hmem)⟩
    fresh_lt := fun pid hpid => h.fresh_lt pid (hsub hpid) }

/-- An event that neither attaches nor kills leaves alone the lobbies whose slots it does not
take. -/
lemma append {e : Event} (h : Registry fresh w tr)
    (htakes : ∀ slot, e.Takes slot → (w.entry slot).connectionType ≠ .toLobby)
    (hpid : e.pid = none) (hhands : HandsOver tr e) : Registry fresh w (tr ++ [e]) :=
  { h with
    lobby := fun lobbyId entry hentry => by
      obtain ⟨htype, hserves⟩ := h.lobby lobbyId entry hentry
      refine ⟨htype, hserves.append (fun ht => htakes _ ht htype) ?_⟩
      rintro rfl
      cases hpid
    pids := List.forall_mem_append.2 ⟨h.pids, List.forall_mem_singleton.2 (by simp [hpid])⟩
    handsOver := allowed_append.2 ⟨h.handsOver, hhands, trivial⟩ }

lemma of_eq (h : Registry fresh w tr)
    (havailable : w'.pool.availableSlots = w.pool.availableSlots)
    (hlast : w'.pool.lastNotIssuedIndex = w.pool.lastNotIssuedIndex)
    (hentry : ∀ slot, (w'.entry slot).connectionType = (w.entry slot).connectionType ∧
      (w'.entry slot).socketHandler.socketStatus = (w.entry slot).socketHandler.socketStatus)
    (hnextPid : w'.nextPid = w.nextPid) (happ : w'.app = w.app) : Registry fresh w' tr where
  toPoolSound := h.toPoolSound.of_eq havailable hlast hentry
  lobby lobbyId entry hlobby := by rw [(hentry _).1]; exact h.lobby lobbyId entry (happ ▸ hlobby)
  pids := hnextPid ▸ h.pids
  fresh_lt := hnextPid ▸ h.fresh_lt
  handsOver := h.handsOver

lemma acquire {type : EndPoint} {socket : ℤ} (h : Registry fresh w tr) (htype : type ≠ .none)
    (hpush : w.pushToPool (.ofSocket type socket) = some (slot, w')) :
    Registry fresh w' (tr ++ [.acquired slot]) := by
  have hfree := h.acquired_free hpush
  have h' := h.append (e := .acquired slot)
    (fun s (hs : slot = s) => by rw [← hs, hfree]; decide) rfl trivial
  obtain ⟨happ, hnextPid, -⟩ := World.pushToPool_rest hpush
  refine { h' with
    toPoolSound := h.toPoolSound.acquire htype hpush
    lobby := fun lobbyId entry hlobby => ?_, pids := hnextPid ▸ h'.pids
    fresh_lt := hnextPid ▸ h'.fresh_lt }
  obtain ⟨hlobbyType, hserves⟩ := h'.lobby lobbyId entry (happ ▸ hlobby)
  have hne : entry.controlConnection.slot ≠ slot := fun heq => by
    rw [heq, hfree] at hlobbyType
    cases hlobbyType
  rw [World.pushToPool_entry_of_ne hpush hne]
  exact ⟨hlobbyType, hserves⟩

lemma retire {room : Bool} (h : Registry fresh w tr)
    (hinUse : (w.entry slot).connectionType ≠ .none) (hretired : w.Retired slot room w')
    (hstay : LobbiesStay tr (.released slot room)) :
    Registry fresh w' (tr ++ [.released slot room]) := by
  have hlobby : ∀ lobbyId entry, w'.app.lobbies lobbyId = some entry →
      (w'.entry entry.controlConnection.slot).connectionType = .toLobby ∧
        Serves (tr ++ [.released slot room]) lobbyId entry.controlConnection.slot entry.pid := by
    intro lobbyId entry hentry
    obtain ⟨htype, hserves⟩ := h.lobby lobbyId entry (hretired.app ▸ hentry)
    have hne : entry.controlConnection.slot ≠ slot := fun heq =>
      hstay _ hserves.attached_mem (by rw [heq]; rfl)
    rw [hretired.entry_of_ne hne]
    exact ⟨htype, hserves.append (fun heq => hne heq.symm) nofun⟩
  refine ⟨h.toPoolSound.retire hinUse hretired, hlobby, ?_, hretired.nextPid ▸ h.fresh_lt, ?_⟩
  · exact hretired.nextPid ▸ List.forall_mem_append.2 ⟨h.pids, List.forall_mem_singleton.2 nofun⟩
  · exact allowed_append.2 ⟨h.handsOver, trivial, trivial⟩

lemma invariant (fresh : Set ℕ) :
    EngineInvariant LobbiesStay (Registry fresh) (·.connectionType ≠ .none) where
  same hsame h := h.of_eq (by rw [hsame.pool]) (by rw [hsame.pool])
    (fun slot => by simp [hsame.entry slot]) hsame.nextPid hsame.app
  silent {_ _ e} he h := h.append (fun _ ht => by cases e <;> first | exact he.elim | exact ht.elim)
    (by cases e <;> first | exact he.elim | rfl) (by cases e <;> first | exact he.elim | trivial)
  inUse_of_type := id
  inUse_handler _ := id
  inUse_of_alive h := h.type_ne_none
  acquire htype := triple_pushToPool fun w tr slot w' h hpush _ => h.acquire htype hpush
  unused h hpush := .inl fun hne => hne (h.acquired_free hpush)
  retire slot := triple_resetAndRelease fun w tr room w' h hretired hG => h.1.retire h.2 hretired hG
  receive slot handle tape h := h.of_eq rfl rfl (fun s => by
    by_cases hs : s = slot
    · subst hs
      simp [World.entry]
    · simp [World.entry, hs]) rfl rfl

/-- A lobby in the table stays served when something happens to a process that is not in it. -/
lemma lobby_append {pid : ℕ} {e : Event} (h : Registry {pid} w tr) (htakes : ∀ slot, ¬ e.Takes slot)
    (hpid : e.pid = some pid) {lobbyId : ℤ} {entry : LobbyEntry}
    (hentry : w.app.lobbies lobbyId = some entry) :
    (w.entry entry.controlConnection.slot).connectionType = .toLobby ∧
      Serves (tr ++ [e]) lobbyId entry.controlConnection.slot entry.pid := by
  obtain ⟨htype, hserves⟩ := h.lobby lobbyId entry hentry
  refine ⟨htype, hserves.append (htakes _) ?_⟩
  rintro rfl
  exact (h.pids _ hserves.attached_mem _ rfl).2 (Option.some.inj hpid)

lemma pids_append {pid : ℕ} {e : Event} (h : Registry {pid} w tr) (hpid : e.pid = some pid) :
    ∀ e' ∈ tr ++ [e], ∀ pid', e'.pid = some pid' → pid' < w.nextPid ∧ pid' ∉ (∅ : Set ℕ) := by
  refine List.forall_mem_append.2 ⟨(h.mono (Set.empty_subset _)).pids,
    List.forall_mem_singleton.2 fun pid' hpid' => ⟨h.fresh_lt pid' ?_, nofun⟩⟩
  exact Option.some.inj (hpid'.symm.trans hpid)

lemma killed {pid : ℕ} (h : Registry {pid} w tr) : Registry ∅ w (tr ++ [.killed pid]) where
  toPoolSound := h.toPoolSound
  lobby _ _ hentry := h.lobby_append (fun _ => id) rfl hentry
  pids := h.pids_append rfl
  fresh_lt := nofun
  handsOver := allowed_append.2 ⟨h.handsOver, trivial, trivial⟩

lemma attached {pid : ℕ} {lobbyId : ℤ} {view : ConnectionView} (h : Registry {pid} w tr)
    (htype : (w.entry view.slot).connectionType = .toLobby) :
    Registry ∅ { w with app := w.app.insert lobbyId ⟨pid, view⟩ }
      (tr ++ [.attached lobbyId view.slot pid]) where
  toPoolSound := h.toPoolSound.same rfl
  lobby lobbyId' entry hentry := by
    by_cases heq : lobbyId' = lobbyId
    · subst heq
      obtain rfl : ⟨pid, view⟩ = entry := by simpa [LobbyManager.insert] using hentry
      refine ⟨htype, serves_attached fun e he => ?_⟩
      rintro rfl
      exact (h.pids _ he pid rfl).2 rfl
    · exact h.lobby_append (fun _ => id) rfl (by simpa [LobbyManager.insert, heq] using hentry)
  pids := h.pids_append rfl
  fresh_lt := nofun
  handsOver := allowed_append.2 ⟨h.handsOver, trivial, trivial⟩

/-- The table gets a lobby whose process and control connection are new. -/
lemma triple_attach (pid : ℕ) (view : ConnectionView) (K : (ℕ → ConnectionEntry) → Prop) :
    Triple LobbiesStay
      (fun w tr => (Registry {pid} w tr ∧ (w.entry view.slot).connectionType = .toLobby) ∧
        K w.pool.object)
      (LobbyManager.attach pid view) fun _ w tr => Registry ∅ w tr ∧ K w.pool.object := by
  let P (w : World LobbyManager) (tr : List Event) : Prop :=
    (Registry {pid} w tr ∧ (w.entry view.slot).connectionType = .toLobby) ∧ K w.pool.object
  refine Triple.bind (Keeps.get (I := P)) fun w₀ => ?_
  refine Triple.bind (Triple.modify (Q := fun _ => P) fun w tr h =>
    ⟨⟨h.1.1.of_eq rfl rfl (fun _ => ⟨rfl, rfl⟩) rfl rfl, h.1.2⟩, h.2⟩) fun _ => ?_
  dsimp only
  cases w₀.app.lobbies (generateConnCode (w₀.results.time.headD default)) with
  | none =>
    refine Triple.bind (Triple.modify (Q := fun _ w tr => ∃ w', P w' tr ∧
      w = { w' with
        app := w'.app.insert (generateConnCode (w₀.results.time.headD default)) ⟨pid, view⟩ })
        fun w tr h => ⟨w, h, rfl⟩) fun _ => ?_
    refine Triple.bind (Triple.emit (Q := fun _ w tr => Registry ∅ w tr ∧ K w.pool.object) ?_)
      fun _ => Keeps.pure
    rintro _ tr ⟨w, h, rfl⟩ _
    exact ⟨h.1.1.attached h.1.2, h.2⟩
  | some entry =>
    exact Triple.bind (Triple.emit (Q := fun _ w tr => Registry ∅ w tr ∧ K w.pool.object)
      fun w tr h _ => ⟨h.1.1.killed, h.2⟩) fun _ => Keeps.pure

/-- A new lobby has a new pid. -/
lemma triple_spawnLobby (K : (ℕ → ConnectionEntry) → Prop) :
    Triple LobbiesStay (fun w tr => Registry ∅ w tr ∧ K w.pool.object) LobbyManager.spawnLobby
      fun r w tr => match r with
        | .error _ => Registry ∅ w tr ∧ K w.pool.object
        | .ok spawned => Registry {spawned.pid} w tr ∧ K w.pool.object := by
  refine Triple.bind (Triple.get (Q := fun w₀ w tr => w.nextPid = w₀.nextPid ∧
    Registry ∅ w tr ∧ K w.pool.object) fun w tr h => ⟨rfl, h⟩) fun w₀ => ?_
  refine Triple.bind (Triple.modify (Q := fun _ w tr => w.nextPid = w₀.nextPid ∧
    Registry ∅ w tr ∧ K w.pool.object) fun w tr h =>
      ⟨h.1, h.2.1.of_eq rfl rfl (fun _ => ⟨rfl, rfl⟩) rfl rfl, h.2.2⟩) fun _ => ?_
  cases w₀.results.spawn.headD .socketpairFailed with
  | socketpairFailed => exact .pure fun w tr h => h.2
  | forkFailed sv0 sv1 =>
    exact Triple.bind (Triple.modify (Q := fun _ w tr => Registry ∅ w tr ∧ K w.pool.object)
      fun w tr h => ⟨h.2.1.of_eq rfl rfl (fun _ => ⟨rfl, rfl⟩) rfl rfl, h.2.2⟩)
      fun _ => .pure fun w tr h => h
  | spawned sv0 sv1 =>
    refine Triple.bind (Triple.modify (Q := fun _ w tr => Registry {w₀.nextPid} w tr ∧
      K w.pool.object) ?_) fun _ => .pure fun w tr h => h
    rintro w tr ⟨hnextPid, h, hK⟩
    refine ⟨{ h with pids := fun e he pid hpid => ?_, fresh_lt := ?_ }, hK⟩
    · have hlt := (h.pids e he pid hpid).1
      rw [hnextPid] at hlt
      refine ⟨?_, fun heq => ?_⟩
      · change pid < w.nextPid + 1
        omega
      · have : pid = w₀.nextPid := heq
        omega
    · rintro pid rfl
      change w₀.nextPid < w.nextPid + 1
      omega

lemma createLobby (S : Set ℕ) :
    Triple LobbiesStay (fun w tr => Registry ∅ w tr ∧ ∀ s ∈ S, (w.entry s).connectionType ≠ .none)
      Server.createLobby fun _ w tr => Registry ∅ w tr ∧
        ∀ s ∈ S, (w.entry s).connectionType ≠ .none := by
  let K (object : ℕ → ConnectionEntry) : Prop := ∀ s ∈ S, (object s).connectionType ≠ .none
  refine Triple.bind (triple_spawnLobby K) fun r => ?_
  cases r with
  | error e => exact Keeps.pure
  | ok spawned =>
    refine Triple.bind ((invariant {spawned.pid}).attachSocket spawned.controlSocket
      (by decide) S) fun r => ?_
    cases r with
    | error e => exact .pure fun w tr h => ⟨h.1.mono (Set.empty_subset _), h.2.1⟩
    | ok view =>
      refine Triple.bind ((triple_attach spawned.pid view K).pre fun w tr h =>
        ⟨⟨h.1, (h.2.2 view rfl).1⟩, h.2.1⟩) fun r => ?_
      cases r with
      | error e => exact Keeps.pure
      | ok lobbyView => exact Keeps.pure

/-- A lobby that is found is the one that was attached. -/
lemma handedOff {request : ReceivedMessage} {view : LobbyView} (h : Registry fresh w tr)
    (hfind : w.app.find view.lobbyId = .ok view) (hnamed : Named request view.lobbyId) :
    Registry fresh w
      (tr ++ [.handedOff request view.lobbyId view.controlConnection.slot]) := by
  obtain ⟨entry, hentry, hview⟩ := LobbyManager.find_eq_ok.1 hfind
  refine h.append (fun _ ht => ht.elim) rfl ⟨hnamed, entry.pid, ?_⟩
  rw [← hview]
  exact (h.lobby view.lobbyId entry hentry).2

lemma serverInvariant :
    ServerInvariant LobbiesStay (Registry ∅) (·.connectionType ≠ .none) where
  toPoolInvariant := (invariant ∅).toPoolInvariant
  createLobby := createLobby
  killLobby _ _ _ _ _ _ hG := hG.elim
  handedOff := handedOff
  guards := ⟨fun hG => hG.elim, fun hG => hG.elim⟩

end Registry

/-! ### Runs of the server -/

lemma World.Started.registry {w : World LobbyManager} {tr : List Event}
    (h : w.Started (fun e => e.connectionType = .listener ∧ e.socketHandler.isSocketAlive) {} tr) :
    Registry ∅ w tr := by
  have hsound := h.poolSound (by decide)
  obtain ⟨es, hes, rfl⟩ := h.events
  have hempty : Registry ∅ w [.acquired 0] := {
    toPoolSound := hsound
    lobby := fun lobbyId entry hentry => by rw [h.app] at hentry; cases hentry
    pids := List.forall_mem_singleton.2 nofun
    fresh_lt := nofun
    handsOver := ⟨trivial, trivial⟩ }
  exact (Registry.invariant ∅).silent_all hes hempty

lemma server_main_registry (operations : List Operation) :
    Triple LobbiesStay (World.IsInitial {}) (Server.main operations) fun _ => Registry ∅ := by
  have hinit : Triple LobbiesStay (World.IsInitial {}) (Server.init .listener 0) fun r w tr =>
      r = none → Registry ∅ w tr := by
    refine (initApp_started (.inl rfl) 0).bind fun r => ?_
    cases r with
    | error e => exact .pure fun w tr _ => nofun
    | ok view => exact .pure fun w tr hw _ => (hw view rfl).2.registry
  refine hinit.bind fun r => ?_
  cases r with
  | some e => exact Triple.stop
  | none =>
    exact ((Registry.invariant ∅).operations Registry.serverInvariant.handleAction operations).pre
      fun w tr hw => hw rfl

/-- In a run of the server in which lobbies stay, every lobby that is found is served by the
connection that was attached for it, and players are handed over to the lobbies they name. -/
theorem server_lobbies_serve (results : SysResults) (operations : List Operation) :
    let r := (Server.main operations).run (World.initial {} results)
    r.value = some ⟨⟩ → Allowed LobbiesStay [] r.events →
      (∀ lobbyId view, r.state.app.find lobbyId = .ok view →
        (r.state.entry view.controlConnection.slot).connectionType = .toLobby ∧
        (r.state.entry view.controlConnection.slot).socketHandler.isSocketAlive ∧
        ∃ pid, Serves r.events lobbyId view.controlConnection.slot pid) ∧
      Allowed HandsOver [] r.events := by
  intro r hvalue hevents
  have hregistry := server_main_registry operations _ [] ⟨⟨results, rfl⟩, rfl⟩ hevents _ hvalue
  have halive := server_aliveOrReleased ⟨results, operations, hvalue, rfl⟩
  rw [List.nil_append] at hregistry
  refine ⟨fun lobbyId view hfind => ?_, hregistry.handsOver⟩
  obtain ⟨entry, hentry, rfl⟩ := LobbyManager.find_eq_ok.1 hfind
  obtain ⟨htype, hserves⟩ := hregistry.lobby lobbyId entry hentry
  refine ⟨htype, (halive _).resolve_right fun hreleased => ?_, entry.pid, hserves⟩
  rw [hreleased.1] at htype
  cases htype

/-- What the server is going to get when a client on descriptor 7 asks for a lobby, which is
reached on descriptor 9. -/
def lobbyCreated : SysResults :=
  let create : SentMessage :=
    { payload := ascii "\\create", padding := Vector.replicate 7 0 }
  { listen := [.listening 3]
    accept4 := [.accepted 7]
    recvmsg := [.received create.encode none]
    spawn := [.spawned 8 9]
    time := [default] }

/-- The lobby that the client has asked for. -/
theorem server_lobbies_serve_create :
    let r := (Server.main [.event 3, .event 7, .network 1]).run (World.initial {} lobbyCreated)
    (∀ lobbyId view, r.state.app.find lobbyId = .ok view →
      (r.state.entry view.controlConnection.slot).connectionType = .toLobby ∧
      (r.state.entry view.controlConnection.slot).socketHandler.isSocketAlive ∧
      ∃ pid, Serves r.events lobbyId view.controlConnection.slot pid) ∧
    Allowed HandsOver [] r.events :=
  server_lobbies_serve _ _ (by decide) (by decide)

/-- The lobby closes its connection, and is still found. -/
theorem server_finds_closed_lobby :
    ¬ ∀ results operations,
      let r := (Server.main operations).run (World.initial {} results)
      r.value = some ⟨⟩ → ∀ lobbyId view, r.state.app.find lobbyId = .ok view →
        (r.state.entry view.controlConnection.slot).connectionType = .toLobby := by
  intro h
  have := h { lobbyCreated with recvmsg := lobbyCreated.recvmsg ++ [.received [] none] }
    [.event 3, .event 7, .network 1, .event 9, .network 2] (by decide) 54321 ⟨54321, ⟨2⟩⟩
    (by decide)
  revert this
  decide

end BattleShips
