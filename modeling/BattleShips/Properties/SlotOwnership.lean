import BattleShips.Properties.Rearming

/-!
# Who holds a slot

In a run of the server a slot of the pool is either in use or free and in `available_slots_` once,
as long as no release finds `available_slots_` full and no failed transfer gives back a slot that
is not in use: the slot of a destination that is free, or the slot of a source that could not be
subscribed again, which `process_connection` then releases a second time.
-/

namespace BattleShips

open Traced

variable {σ : Type}

/-! ### Owners along a trace -/

/-- Whether a slot is held after an event, if `owned` tells so before it. -/
def Event.ownedAfter (owned : ℕ → Prop) : Event → ℕ → Prop
  | .acquired slot => fun s => s = slot ∨ owned s
  | .released slot _ => fun s => s ≠ slot ∧ owned s
  | _ => owned

/-- The slot has been acquired and not been released since. -/
def Owned (tr : List Event) : ℕ → Prop := tr.foldl Event.ownedAfter fun _ => False

lemma owned_append (tr : List Event) (e : Event) :
    Owned (tr ++ [e]) = e.ownedAfter (Owned tr) := by
  simp [Owned]

lemma owned_silent {tr : List Event} {e : Event} (he : e.Silent) :
    Owned (tr ++ [e]) = Owned tr := by
  rw [owned_append]
  cases e <;> first | rfl | exact he.elim

/-- Only a slot that nobody holds is acquired, and only one that is held is released. -/
def Alternates (tr : List Event) : Event → Prop
  | .acquired slot => ¬ Owned tr slot
  | .released slot _ => Owned tr slot
  | _ => True

lemma owned_append_silent {tr es : List Event} (hes : ∀ e ∈ es, e.Silent) :
    Owned (tr ++ es) = Owned tr := by
  induction es generalizing tr with
  | nil => simp
  | cons e es ih =>
    rw [List.append_cons, ih fun e' he' => hes e' (by simp [he']), owned_silent (hes e (by simp))]

lemma alternates_silent {e : Event} (he : e.Silent) (tr : List Event) : Alternates tr e := by
  cases e <;> trivial

/-! ### The invariant -/

def Event.recoverable : Event → Bool
  | .released _ room => room
  | .transferFailed _ _ destinationInUse => destinationInUse
  | .recoverFailed _ => false
  | _ => true

/-- Nothing has happened after which slots are not where they belong: there was room for a released
slot, the destination of a failed transfer was in use, and its source could be subscribed again. -/
def Recoverable (_ : List Event) (e : Event) : Prop := e.recoverable = true

instance (tr : List Event) (e : Event) : Decidable (Recoverable tr e) :=
  inferInstanceAs (Decidable (_ = true))

/-- A slot is in use if it has a type. What is in use is held, and what is free and was issued is
available. -/
structure SlotsOwned (w : World σ) (tr : List Event) : Prop extends w.PoolSound where
  counter : w.pool.counter = w.pool.lastNotIssuedIndex
  available : ∀ slot < w.pool.lastNotIssuedIndex, (w.entry slot).connectionType = .none →
    slot ∈ w.pool.availableSlots.items
  owned : ∀ slot, Owned tr slot ↔ (w.entry slot).connectionType ≠ .none
  alternates : Allowed Alternates [] tr

lemma SlotsOwned.acquire {w w' : World σ} {tr : List Event} {type : EndPoint} {socket : ℤ}
    {slot : ℕ} (h : SlotsOwned w tr) (htype : type ≠ .none)
    (hpush : w.pushToPool (.ofSocket type socket) = some (slot, w')) :
    SlotsOwned w' (tr ++ [.acquired slot]) := by
  have hfree := h.acquired_free hpush
  have hslot : (w'.entry slot).connectionType ≠ .none := by
    rw [(World.pushToPool_entry_self hpush).1]
    exact htype
  have hne := fun s (hs : s ≠ slot) => World.pushToPool_entry_of_ne hpush hs
  refine { h.toPoolSound.acquire htype hpush with
    counter := ?_, available := fun s hs hnone => ?_, owned := fun s => ?_, alternates := ?_ }
  · obtain ⟨-, hcounter, hlast, -⟩ | ⟨-, -, -, hcounter, hlast, -⟩ := World.pushToPool_cases hpush
    · rw [hcounter, hlast, h.counter]
    · rw [hcounter, hlast, h.counter]
  · have hsne : s ≠ slot := fun heq => hslot (heq ▸ hnone)
    rw [hne s hsne] at hnone
    obtain ⟨hitems, -, hlast, -⟩ | ⟨hitems, havailable, hissued, -, hlast, -⟩ :=
      World.pushToPool_cases hpush
    · have hmem := h.available s (hlast ▸ hs) hnone
      rw [hitems] at hmem
      exact (List.mem_cons.1 hmem).resolve_left hsne
    · rw [havailable]
      exact h.available s (by omega) hnone
  · simp only [owned_append, Event.ownedAfter, h.owned]
    by_cases hs : s = slot
    · simp [hs, hslot]
    · simp [hs, hne s hs]
  · exact allowed_append.2 ⟨h.alternates, fun howned => (h.owned slot).1 howned hfree, trivial⟩

lemma SlotsOwned.retire {w w' : World σ} {tr : List Event} {slot : ℕ} (h : SlotsOwned w tr)
    (hinUse : (w.entry slot).connectionType ≠ .none) (hretired : w.Retired slot true w') :
    SlotsOwned w' (tr ++ [.released slot true]) := by
  have hslot : (w'.entry slot).connectionType = .none := by rw [hretired.entry_self]; rfl
  have hitems : w'.pool.availableSlots.items = w.pool.availableSlots.items ++ [slot] := by
    simpa using hretired.items
  refine { h.toPoolSound.retire hinUse hretired with
    counter := ?_, available := fun s hs hnone => ?_, owned := fun s => ?_, alternates := ?_ }
  · rw [hretired.counter, h.counter, hretired.lastNotIssuedIndex]
  · rw [hitems, List.mem_append, List.mem_singleton]
    by_cases heq : s = slot
    · exact .inr heq
    · rw [hretired.entry_of_ne heq] at hnone
      exact .inl (h.available s (hretired.lastNotIssuedIndex ▸ hs) hnone)
  · simp only [owned_append, Event.ownedAfter, h.owned]
    by_cases hs : s = slot
    · simp [hs, hslot]
    · simp [hs, hretired.entry_of_ne hs]
  · exact allowed_append.2 ⟨h.alternates, (h.owned slot).2 hinUse, trivial⟩

lemma SlotsOwned.of_eq {w w' : World σ} {tr : List Event} (h : SlotsOwned w tr)
    (havailable : w'.pool.availableSlots = w.pool.availableSlots)
    (hcounter : w'.pool.counter = w.pool.counter)
    (hlast : w'.pool.lastNotIssuedIndex = w.pool.lastNotIssuedIndex)
    (hentry : ∀ slot, (w'.entry slot).connectionType = (w.entry slot).connectionType ∧
      (w'.entry slot).socketHandler.socketStatus = (w.entry slot).socketHandler.socketStatus) :
    SlotsOwned w' tr where
  toPoolSound := h.toPoolSound.of_eq havailable hlast hentry
  counter := by rw [hcounter, hlast, h.counter]
  available slot hslot := by
    rw [havailable, (hentry slot).1]
    exact h.available slot (hlast ▸ hslot)
  owned slot := by rw [(hentry slot).1]; exact h.owned slot
  alternates := h.alternates

/-- An event after which everybody holds what they held before. -/
lemma SlotsOwned.append {w : World σ} {tr : List Event} {e : Event} (h : SlotsOwned w tr)
    (howned : ∀ owned, e.ownedAfter owned = owned) (he : Alternates tr e) :
    SlotsOwned w (tr ++ [e]) := {
  h with
  owned := fun slot => by rw [owned_append, howned]; exact h.owned slot
  alternates := allowed_append.2 ⟨h.alternates, he, trivial⟩ }

lemma slotsOwned_invariant :
    EngineInvariant Recoverable (SlotsOwned (σ := σ)) (·.connectionType ≠ .none) where
  same hsame h := h.of_eq (by rw [hsame.pool]) (by rw [hsame.pool]) (by rw [hsame.pool])
    fun slot => by simp [hsame.entry slot]
  silent {_ _ e} he h := h.append (fun owned => by cases e <;> first | rfl | exact he.elim)
    (alternates_silent he _)
  inUse_of_type := id
  inUse_handler _ := id
  inUse_of_alive h := h.type_ne_none
  acquire htype := triple_pushToPool fun w tr slot w' h hpush _ => h.acquire htype hpush
  unused h hpush := .inl fun hne => hne (h.acquired_free hpush)
  retire slot := triple_resetAndRelease fun w tr room w' h hretired hG => by
    obtain rfl : room = true := hG
    exact h.1.retire h.2 hretired
  receive slot handle tape h := h.of_eq rfl rfl rfl fun s => by
    by_cases hs : s = slot
    · subst hs
      simp [World.entry]
    · simp [World.entry, hs]

lemma guardsTransfer_recoverable : GuardsTransfer Recoverable (·.connectionType ≠ .none) :=
  ⟨fun hG => .inl hG, fun hG => nomatch hG⟩

/-! ### Runs of the server -/

lemma World.Started.slotsOwned {type : EndPoint} {app : σ} {w : World σ} {tr : List Event}
    (htype : type ≠ .none)
    (h : w.Started (fun e => e.connectionType = type ∧ e.socketHandler.isSocketAlive) app tr) :
    SlotsOwned w tr := by
  obtain ⟨es, hes, rfl⟩ := h.events
  have hnone := h.connectionType_eq_none htype
  refine ⟨h.poolSound htype, ?_, fun slot hslot => ?_, fun slot => ?_, ?_⟩
  · rw [h.lastNotIssuedIndex, h.counter]
  · rw [h.lastNotIssuedIndex] at hslot
    simp only [hnone]
    omega
  · rw [← List.singleton_append, owned_append_silent hes]
    simp [Owned, Event.ownedAfter, hnone]
  · exact ⟨nofun, allowed_of_forall fun e he => alternates_silent (hes e he)⟩

/-- The connection in the slot is open. -/
def World.InUse (w : World σ) (slot : ℕ) : Prop :=
  (w.entry slot).connectionType ≠ .none ∧ (w.entry slot).socketHandler.isSocketAlive

instance (w : World σ) (slot : ℕ) : Decidable (w.InUse slot) :=
  inferInstanceAs (Decidable (_ ∧ _))

/-- The slot is in use and not available, or free and available once. -/
def World.InPlace (w : World σ) (slot : ℕ) : Prop :=
  w.InUse slot ∧ slot ∉ w.pool.availableSlots.items ∨
    w.Released slot ∧ w.pool.availableSlots.items.count slot = 1

instance (w : World σ) (slot : ℕ) : Decidable (w.InPlace slot) :=
  inferInstanceAs (Decidable (_ ∨ _))

lemma server_main_slotsOwned (operations : List Operation) :
    Triple Recoverable (World.IsInitial {}) (Server.main operations) fun _ => SlotsOwned := by
  have hhandler : HandlerKeeps Recoverable SlotsOwned (·.connectionType ≠ .none)
      Server.handleAction :=
    (ServerInvariant.of_ignoresApp slotsOwned_invariant.toPoolInvariant
      guardsTransfer_recoverable {
        state := fun hpool _ h => h.of_eq (by rw [hpool]) (by rw [hpool]) (by rw [hpool])
          fun slot => by simp [World.entry, hpool]
        attached := fun h => h.append (fun _ => rfl) trivial
        killed := fun h => h.append (fun _ => rfl) trivial
        handedOff := fun h => h.append (fun _ => rfl) trivial }).handleAction
  have hinit : Triple Recoverable (World.IsInitial {}) (Server.init .listener 0) fun r w tr =>
      r = none → SlotsOwned w tr := by
    refine (initApp_started (.inl rfl) 0).bind fun r => ?_
    cases r with
    | error e => exact .pure fun w tr _ hnone => by cases hnone
    | ok view => exact .pure fun w tr hw _ => (hw view rfl).2.slotsOwned (by decide)
  refine hinit.bind fun r => ?_
  cases r with
  | some e => exact Triple.stop
  | none => exact (slotsOwned_invariant.operations hhandler operations).pre fun w tr hw => hw rfl

/-- In a run of the server that stays recoverable, every slot that was ever issued is in place, and
no slot is acquired while it is held or released while it is not. -/
theorem server_slots_inPlace (results : SysResults) (operations : List Operation) :
    let r := (Server.main operations).run (World.initial {} results)
    r.value = some ⟨⟩ → Allowed Recoverable [] r.events →
      (∀ slot < r.state.pool.counter, r.state.InPlace slot) ∧ Allowed Alternates [] r.events := by
  intro r hvalue hevents
  have howned := server_main_slotsOwned operations _ [] ⟨⟨results, rfl⟩, rfl⟩ hevents _ hvalue
  have halive := server_aliveOrReleased ⟨results, operations, hvalue, rfl⟩
  rw [List.nil_append] at howned
  refine ⟨fun slot hslot => ?_, howned.alternates⟩
  by_cases hnone : (r.state.entry slot).connectionType = .none
  · exact .inr ⟨⟨hnone, howned.status slot hnone⟩,
      List.count_eq_one_of_mem howned.nodup (howned.available slot (howned.counter ▸ hslot) hnone)⟩
  · obtain hslotAlive | hreleased := halive slot
    · exact .inl ⟨⟨hnone, hslotAlive⟩, fun hmem => hnone (howned.free slot hmem).2⟩
    · exact absurd hreleased.1 hnone

/-- A client that connects and leaves. -/
theorem server_slots_inPlace_leave :
    let r := (Server.main [.event 3, .event 7, .network 1]).run (World.initial {} {
      listen := [.listening 3]
      accept4 := [.accepted 7]
      recvmsg := [.received [] none] })
    (∀ slot < r.state.pool.counter, r.state.InPlace slot) ∧ Allowed Alternates [] r.events :=
  server_slots_inPlace _ _ (by decide) (by decide)

/-- A client asks for a lobby; its descriptor cannot be sent to the lobby and it cannot be
subscribed again. Then its slot is released twice. -/
theorem server_releases_twice :
    ¬ ∀ results operations,
      let r := (Server.main operations).run (World.initial {} results)
      r.value = some ⟨⟩ → ∀ slot < r.state.pool.counter, r.state.InPlace slot := by
  intro h
  let create : SentMessage :=
    { payload := ascii "\\create", padding := Vector.replicate 7 0 }
  have := h {
    listen := [.listening 3]
    accept4 := [.accepted 7]
    recvmsg := [.received create.encode none]
    spawn := [.spawned 8 9]
    time := [default]
    sendmsg := [some 17, none]
    epollCtl := [true, true, true, true, true, true, false] }
    [.event 3, .event 7, .network 1] (by decide) 1
  revert this
  decide

end BattleShips
