import BattleShips.Net.EngineRules

/-!
# Free slots

The slots in `available_slots_`, and those that were never issued, hold no connection, as long as
only slots in use are released.
-/

namespace BattleShips

open Traced

variable {σ : Type}

/-- The pool issues the indexes up to `RING_BUFFER_SIZE` and no others. -/
lemma World.pushToPool_issued_le {w w' : World σ} {connection : ConnectionEntry} {slot : ℕ}
    (h : w.pushToPool connection = some (slot, w'))
    (hle : w.pool.lastNotIssuedIndex ≤ ringBufferSize + 1) :
    w'.pool.lastNotIssuedIndex ≤ ringBufferSize + 1 := by
  obtain ⟨-, -, hlast, -⟩ | ⟨hitems, -, -, -, hlast, -⟩ := World.pushToPool_cases h
  · rwa [hlast]
  · have hissued : ¬ ringBufferSize < w.pool.lastNotIssuedIndex := by
      intro hfull
      simp [World.pushToPool, ObjectPool.pushToPool, AtomicQueue.tryPop, hitems,
        ObjectPool.allocate, hfull] at h
    rw [hlast]
    omega

/-- What is available is free and there once, what was never issued is free, and what is free has
an empty socket. -/
structure World.PoolSound (w : World σ) : Prop where
  nodup : w.pool.availableSlots.items.Nodup
  free : ∀ slot ∈ w.pool.availableSlots.items,
    slot < w.pool.lastNotIssuedIndex ∧ (w.entry slot).connectionType = .none
  unissued : ∀ slot, w.pool.lastNotIssuedIndex ≤ slot → (w.entry slot).connectionType = .none
  status : ∀ slot, (w.entry slot).connectionType = .none →
    (w.entry slot).socketHandler.socketStatus = .empty

namespace World.PoolSound

variable {w w' : World σ} {slot : ℕ} {type : EndPoint} {socket : ℤ}

lemma of_eq (h : w.PoolSound) (havailable : w'.pool.availableSlots = w.pool.availableSlots)
    (hlast : w'.pool.lastNotIssuedIndex = w.pool.lastNotIssuedIndex)
    (hentry : ∀ slot, (w'.entry slot).connectionType = (w.entry slot).connectionType ∧
      (w'.entry slot).socketHandler.socketStatus = (w.entry slot).socketHandler.socketStatus) :
    w'.PoolSound where
  nodup := by rw [havailable]; exact h.nodup
  free slot hslot := by rw [hlast, (hentry slot).1]; exact h.free slot (havailable ▸ hslot)
  unissued slot hslot := by rw [(hentry slot).1]; exact h.unissued slot (hlast ▸ hslot)
  status slot := by rw [(hentry slot).1, (hentry slot).2]; exact h.status slot

lemma same (h : w.PoolSound) (hpool : w'.pool = w.pool) : w'.PoolSound :=
  h.of_eq (by rw [hpool]) (by rw [hpool]) fun slot => by simp [World.entry, hpool]

lemma type_ne_none (h : w.PoolSound) (halive : (w.entry slot).socketHandler.isSocketAlive) :
    (w.entry slot).connectionType ≠ .none := by
  intro hnone
  have hstatus : (w.entry slot).socketHandler.socketStatus = .alive := of_decide_eq_true halive
  rw [h.status slot hnone] at hstatus
  cases hstatus

/-- `push_to_pool` returns a slot that was free. -/
lemma acquired_free (h : w.PoolSound) {connection : ConnectionEntry}
    (hpush : w.pushToPool connection = some (slot, w')) :
    (w.entry slot).connectionType = .none := by
  obtain ⟨hitems, -⟩ | ⟨-, -, hslot, -⟩ := World.pushToPool_cases hpush
  · exact (h.free slot (by simp [hitems])).2
  · exact h.unissued slot hslot.ge

lemma acquire (h : w.PoolSound) (htype : type ≠ .none)
    (hpush : w.pushToPool (.ofSocket type socket) = some (slot, w')) : w'.PoolSound := by
  have hslot : (w'.entry slot).connectionType ≠ .none := by
    rw [(World.pushToPool_entry_self hpush).1]
    exact htype
  have hne : ∀ s, (w.entry s).connectionType = .none → s ≠ slot →
      (w'.entry s).connectionType = .none := fun s hs hslot => by
    rwa [World.pushToPool_entry_of_ne hpush hslot]
  have hstatus : ∀ s, (w'.entry s).connectionType = .none →
      (w'.entry s).socketHandler.socketStatus = .empty := by
    intro s hs
    have hne : s ≠ slot := fun heq => hslot (heq ▸ hs)
    rw [World.pushToPool_entry_of_ne hpush hne] at hs ⊢
    exact h.status s hs
  obtain ⟨hitems, -, hlast, -⟩ | ⟨hitems, havailable, hissued, -, hlast, -⟩ :=
    World.pushToPool_cases hpush
  · have hnodup := h.nodup
    rw [hitems] at hnodup
    obtain ⟨hnot, hnodup⟩ := List.nodup_cons.1 hnodup
    refine ⟨hnodup, fun s hs => ?_, fun s hs => ?_, hstatus⟩
    · obtain ⟨hlt, hnone⟩ := h.free s (by simp [hitems, hs])
      exact ⟨hlast ▸ hlt, hne s hnone fun heq => hnot (heq ▸ hs)⟩
    · refine hne s (h.unissued s (hlast ▸ hs)) fun heq => ?_
      have hlt := (h.free slot (by simp [hitems])).1
      omega
  · refine ⟨by simp [havailable, hitems], fun s hs => ?_, fun s hs => ?_, hstatus⟩
    · simp [havailable, hitems] at hs
    · exact hne s (h.unissued s (by omega)) (by omega)

/-- Giving back a slot in use, whether there is room for it or not. -/
lemma retire {room : Bool} (h : w.PoolSound) (hinUse : (w.entry slot).connectionType ≠ .none)
    (hretired : w.Retired slot room w') : w'.PoolSound := by
  have hslot : (w'.entry slot).connectionType = .none := by rw [hretired.entry_self]; rfl
  have hnone : ∀ s, (w.entry s).connectionType = .none → (w'.entry s).connectionType = .none := by
    intro s hs
    by_cases heq : s = slot
    · rw [heq, hslot]
    · rwa [hretired.entry_of_ne heq]
  have hissued : slot < w.pool.lastNotIssuedIndex := by
    by_contra hle
    exact hinUse (h.unissued slot (not_lt.1 hle))
  have hnot : slot ∉ w.pool.availableSlots.items := fun hmem => hinUse (h.free slot hmem).2
  refine ⟨?_, fun s hs => ?_, fun s hs => ?_, fun s hs => ?_⟩
  · rw [hretired.items]
    cases room with
    | false => exact h.nodup
    | true => simpa [List.nodup_append] using ⟨h.nodup, fun a ha heq => hnot (heq ▸ ha)⟩
  · have hmem : s ∈ w.pool.availableSlots.items ∨ s = slot := by
      rw [hretired.items] at hs
      cases room with
      | false => exact .inl (by simpa using hs)
      | true => simpa using hs
    rw [hretired.lastNotIssuedIndex]
    obtain hmem | rfl := hmem
    · exact ⟨(h.free s hmem).1, hnone s (h.free s hmem).2⟩
    · exact ⟨hissued, hslot⟩
  · exact hnone s (h.unissued s (hretired.lastNotIssuedIndex ▸ hs))
  · by_cases heq : s = slot
    · rw [heq, hretired.entry_self]
      rfl
    · rw [hretired.entry_of_ne heq] at hs ⊢
      exact h.status s hs

/-- With two slots in use, there is room to give one of them back, or the queue of the available
slots looks full. In either case nobody waits. -/
lemma release_returns {index : ℕ} (h : w.PoolSound)
    (hle : w.pool.lastNotIssuedIndex ≤ ringBufferSize + 1)
    (hslot : (w.entry slot).connectionType ≠ .none) (hne : index ≠ slot)
    (hinUse : (w.entry index).connectionType ≠ .none) :
    ((resetAndRelease index).run w).value = some ⟨⟩ := by
  have hissued : ∀ s ∈ slot :: index :: w.pool.availableSlots.items,
      s ∈ List.range w.pool.lastNotIssuedIndex := by
    intro s hs
    rw [List.mem_range]
    by_contra hlast
    have hnone := h.unissued s (not_lt.1 hlast)
    rcases List.mem_cons.1 hs with rfl | hs
    · exact hslot hnone
    · rcases List.mem_cons.1 hs with rfl | hs
      · exact hinUse hnone
      · exact hlast (h.free s hs).1
  have hnot : ∀ s, (w.entry s).connectionType ≠ .none → s ∉ w.pool.availableSlots.items :=
    fun s hs hmem => hs (h.free s hmem).2
  have hnodup : (slot :: index :: w.pool.availableSlots.items).Nodup := by
    refine List.nodup_cons.2 ⟨fun hmem => ?_, List.nodup_cons.2 ⟨hnot index hinUse, h.nodup⟩⟩
    rcases List.mem_cons.1 hmem with heq | hmem
    · exact hne heq.symm
    · exact hnot slot hslot hmem
  have hlength := (hnodup.subperm hissued).length_le
  rw [List.length_range, List.length_cons, List.length_cons] at hlength
  have hroom : w.pool.availableSlots.items.length < ringBufferSize := by omega
  have havailable : (w.reset index).pool.availableSlots = w.pool.availableSlots := by
    rw [World.reset_pool]
    rfl
  simp only [resetAndRelease, releaseSlot, run_bind, run_modify, run_get, run_emit,
    Outcome.andThen]
  cases hrelease : (w.reset index).pool.release index with
  | some pool => rfl
  | none =>
    rw [ObjectPool.release, havailable, AtomicQueue.tryPush, if_pos hroom] at hrelease
    split_ifs at hrelease

/-- The receive coroutine has nothing to do with the pool. -/
lemma receive (h : w.PoolSound) (slot : ℕ) (handle : Option ReceiveCo) (tape : List RecvResult) :
    World.PoolSound ({ w with results.recvmsg := tape }.updateHandler slot
      ({ · with receiveHandle := handle })) :=
  h.of_eq rfl rfl fun s => by
    by_cases hs : s = slot
    · subst hs
      simp [World.entry]
    · simp [World.entry, hs]

end World.PoolSound

end BattleShips
