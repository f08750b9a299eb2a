import BattleShips.Core.RingBufferTurns

/-!
# What the ring of freed indices hands out

The ring hands out each index once as long as the threads go into a slot at their turns. The test
for a full ring does not see to that: it compares the next place with the place to be taken, and not
with what is a lap before it, so that pushes go around the ring and meet one that has found its slot
empty and not stored yet.
-/

namespace BattleShips

open Function TicketRing

namespace RingState

variable {s : RingState} {i j : ℕ}

/-- The ring hands out the indices that it has accepted once each. -/
structure HandsOutOnce (s : RingState) : Prop where
  /-- What has been returned has been accepted. -/
  accepted : ∀ y ∈ s.returned, s.accepted[y.1]? = some y.2
  once : (s.returned.map Prod.fst).Nodup
  index : ∀ y ∈ s.returned, y.2 ≠ maxValue
  /-- A thread that is about to store an index does not overwrite one. -/
  stores : ∀ i x t, s.thread i = .pushStore x t → (s.slotOf t).value = maxValue
  /-- What has been accepted is on its way in, in its slot, or has been returned. -/
  kept : ∀ t x, s.accepted[t]? = some x →
    (∃ i inside, (s.thread i).claim = some { side := .put, ticket := t, inside }) ∨
    (s.slotOf t).value = x ∨ (t, x) ∈ s.returned

lemma Sound.kept (h : s.Sound) {t x : ℕ} (hx : s.accepted[t]? = some x) :
    (∃ i inside, (s.thread i).claim = some { side := .put, ticket := t, inside }) ∨
    (s.slotOf t).value = x ∨ (t, x) ∈ s.returned := by
  have hvalue : ∀ y, s.accepted[t]? = some y → y = x := fun y hy =>
    Option.some.inj (hy.symm.trans hx)
  rcases h.ledger.stage h.tickets hx with hputting | hfull | ⟨i, hclaim⟩ | hreturned
  · exact .inl hputting
  · rw [turn_tickets] at hfull
    exact .inr (.inl (hvalue _ (h.slot_full hfull)))
  · have hfits := h.threads i
    simp only [RingState.tickets] at hclaim
    cases hpc : s.thread i <;> simp [hpc, RingPc.claim] at hclaim
    subst hclaim
    rw [hpc] at hfits
    exact .inr (.inl (hvalue _ hfits))
  · exact .inr (.inr hreturned)

/-- In every run in which threads keep to their turns. -/
theorem hands_out_once (s : RingState) (h : ringSystem.Reachable Keeps s) : s.HandsOutOnce := by
  have hsound := sound_of_reachable h
  constructor
  · exact fun y hy => (hsound.ledger.returned y hy).1
  · exact hsound.ledger.nodup
  · intro y hy
    exact hsound.indexes _ (List.mem_of_getElem? (hsound.ledger.returned y hy).1)
  · intro i x t hpc
    have hfits := hsound.threads i
    rw [hpc] at hfits
    exact hfits.2
  · exact fun t x => hsound.kept

/-- One thread pushes an index and another pops it. -/
theorem hands_out_once_one : ∃ s,
    ringSystem.run {} (tryPushSteps 1 7 ++ tryPushEnd 1 ++ tryPopSteps 2) = some s ∧
    s.returned = [(0, 7)] ∧ s.HandsOutOnce := by
  have hmeets : ringSystem.Meets Keeps {} (tryPushSteps 1 7 ++ tryPushEnd 1 ++ tryPopSteps 2) := by
    decide
  exact ⟨_, rfl, rfl, hands_out_once _ ((System.Reachable.of_initial rfl).run hmeets rfl)⟩

/-! ### Pushes around the ring -/

/-- The thread 0 stands before its store into the slot 0, and the thread 1 has pushed `k` indices
since. -/
structure Lapped (k : ℕ) (s : RingState) : Prop where
  head : s.head = k + 1
  tail : s.tail = 0
  pusher : s.thread 0 = .pushStore 5 0
  idle : s.thread 1 = .idle
  empty : ∀ n, n = 0 ∨ k < n → (s.slot n).value = maxValue

lemma exists_lapped : ∃ s, ringSystem.run {} (tryPushSteps 0 5) = some s ∧ Lapped 0 s := by
  have hrun : ringSystem.run {} (tryPushSteps 0 5) = some (({} : RingState).inTryPush 0 5) :=
    run_tryPush rfl (by decide) rfl
  refine ⟨_, hrun, ?_⟩
  constructor
  · rfl
  · rfl
  · simp [inTryPush, touch]
  · simp [inTryPush, touch]
  · intro n _
    rcases eq_or_ne n (normilizeRingSlot 0) with rfl | hne
    · simp [inTryPush, touch, slotOf]
    · simp [inTryPush, touch, slotOf, hne]

/-- The thread 1 pushes another index, and does not find the ring full. -/
lemma Lapped.run_round {k : ℕ} (h : Lapped k s) (hk : k < ringBufferSize) :
    ringSystem.run s (tryPushSteps 1 8 ++ tryPushEnd 1) = some (s.afterTryPush 1 8) := by
  have hempty : (s.slotOf s.head).value = maxValue := by
    rw [slotOf, h.head, normilizeRingSlot_eq]
    rcases eq_or_ne (k + 1) ringBufferSize with heq | hne
    · exact h.empty _ (.inl (by rw [heq, Nat.mod_self]))
    · rw [Nat.mod_eq_of_lt (by omega)]
      exact h.empty _ (.inr (Nat.lt_succ_self k))
  have hfull : ¬ SameCounter (s.head + 1) s.tail := by
    rw [h.head, h.tail, SameCounter]
    have hsize : ringBufferSize = 4096 := rfl
    omega
  rw [System.run_append, run_tryPush h.idle hfull hempty, Option.bind_some]
  exact run_tryPushEnd

lemma Lapped.round {k : ℕ} (h : Lapped k s) (hk : k + 1 < ringBufferSize) :
    Lapped (k + 1) (s.afterTryPush 1 8) := by
  constructor
  · simp [afterTryPush, touch, h.head]
  · exact h.tail
  · simpa [afterTryPush, touch] using h.pusher
  · simp [afterTryPush, touch]
  · intro n hn
    have hne : n ≠ normilizeRingSlot s.head := by
      rw [h.head, normilizeRingSlot_eq, Nat.mod_eq_of_lt hk]
      omega
    simpa [afterTryPush, touch, hne] using h.empty n (by omega)

lemma Lapped.rounds (k : ℕ) (hk : k < ringBufferSize) :
    ∃ as s, (∀ a ∈ as, a.2.FreesIndex) ∧ ringSystem.run {} as = some s ∧ Lapped k s := by
  induction k with
  | zero =>
    obtain ⟨s, hrun, hs⟩ := exists_lapped
    exact ⟨_, s, by decide, hrun, hs⟩
  | succ k ih =>
    obtain ⟨as, s, has, hrun, hs⟩ := ih (by omega)
    refine ⟨as ++ (tryPushSteps 1 8 ++ tryPushEnd 1), s.afterTryPush 1 8, ?_, ?_, hs.round hk⟩
    · intro a ha
      rcases List.mem_append.1 ha with ha | ha
      · exact has a ha
      · exact (show ∀ a ∈ tryPushSteps 1 8 ++ tryPushEnd 1, a.2.FreesIndex by decide) a ha
    · rw [System.run_append, hrun]
      exact hs.run_round (by omega)

/-- The push to the place 4096 stores its index while the one to the place 0 is about to. -/
theorem not_hands_out_once :
    ¬ ∀ s, ringSystem.Reachable (fun _ a => a.2.FreesIndex) s → s.HandsOutOnce := by
  intro hall
  obtain ⟨as, s, has, hrun, hs⟩ := Lapped.rounds 4095 (by decide)
  have hreach : ringSystem.Reachable (fun _ a => a.2.FreesIndex) s :=
    (System.Reachable.of_initial rfl).run (System.meets_of_labels has) hrun
  have hreach' : ringSystem.Reachable (fun _ a => a.2.FreesIndex) (s.afterTryPush 1 8) := hreach.run
    (System.meets_of_labels (G := fun a : ℕ × RingAction => a.2.FreesIndex) (by decide))
    (hs.run_round (by decide))
  have hpusher : (s.afterTryPush 1 8).thread 0 = .pushStore 5 0 := by
    simpa [afterTryPush, touch] using hs.pusher
  have hvalue : ((s.afterTryPush 1 8).slotOf 0).value = 8 := by
    have hslot : normilizeRingSlot (4095 + 1) = normilizeRingSlot 0 := by decide
    simp [slotOf, afterTryPush, touch, hs.head, hslot]
  have hstores := (hall _ hreach').stores 0 5 0 hpusher
  rw [hvalue] at hstores
  exact absurd hstores (by decide)

end RingState

end BattleShips
