import BattleShips.Core.AtomicQueueTurns

/-!
# What the queue delivers

The queue hands over each value once as long as the threads go into a slot at their turns. The flag
of the slot does not see to that. It is cleared twice by `try_pop`, and the push of the next lap
that gets in between loses its value to the second store.
-/

namespace BattleShips

open Function TicketRing

namespace QueueState

variable {α : Type*} {s s' : QueueState α} {i j : ℕ}

/-! ### Once each -/

/-- The queue delivers what it has accepted once each. -/
structure DeliversOnce (s : QueueState α) : Prop where
  /-- What has been returned has been accepted. -/
  accepted : ∀ data ∈ s.returned, s.accepted[data.1]? = some data.2
  once : (s.returned.map Prod.fst).Nodup
  /-- A thread that is about to emplace an object finds none to be taken in its slot. -/
  emplaces : ∀ i x t, s.thread i = .pushEmplace x t → (s.slotOf t).untaken = false
  /-- Nobody goes into a slot while another is emplacing or taking. -/
  alone : ∀ i j c c', (s.thread i).claim = some c → (s.thread j).claim = some c' →
    c.inside = true → c'.inside = true → i ≠ j →
      normilizeRingSlot c.ticket ≠ normilizeRingSlot c'.ticket
  /-- What has been accepted is on its way in, in its slot, on its way out, or has been returned. -/
  kept : ∀ t x, s.accepted[t]? = some x →
    (∃ i inside, (s.thread i).claim = some { side := .put, ticket := t, inside }) ∨
    ((s.slotOf t).isInitialized = true ∧ (s.slotOf t).untaken = true ∧
      (s.slotOf t).object = some (t, x)) ∨
    (∃ i, s.thread i = .popClear t (t, x) ∨ s.thread i = .popClearAgain t (t, x)) ∨
    (t, x) ∈ s.returned

lemma Sound.kept (h : s.Sound) {t : ℕ} {x : α} (hx : s.accepted[t]? = some x) :
    (∃ i inside, (s.thread i).claim = some { side := .put, ticket := t, inside }) ∨
    ((s.slotOf t).isInitialized = true ∧ (s.slotOf t).untaken = true ∧
      (s.slotOf t).object = some (t, x)) ∨
    (∃ i, s.thread i = .popClear t (t, x) ∨ s.thread i = .popClearAgain t (t, x)) ∨
    (t, x) ∈ s.returned := by
  have hvalue : ∀ y, s.accepted[t]? = some y → y = x := fun y hy =>
    Option.some.inj (hy.symm.trans hx)
  rcases h.ledger.stage h.tickets hx with hputting | hfull | ⟨i, hclaim⟩ | hreturned
  · exact .inl hputting
  · rw [turn_tickets] at hfull
    obtain ⟨hflag, huntaken, y, hobject, hy⟩ := h.slot_full hfull
    obtain rfl := hvalue y hy
    exact .inr (.inl ⟨hflag, huntaken, hobject⟩)
  · have hfits := h.threads i
    simp only [QueueState.tickets] at hclaim
    cases hpc : s.thread i <;> simp [hpc, QueuePc.claim] at hclaim <;> subst hclaim <;>
      rw [hpc] at hfits
    case popTake =>
      obtain ⟨hflag, huntaken, y, hobject, hy⟩ := hfits
      obtain rfl := hvalue y hy
      exact .inr (.inl ⟨hflag, huntaken, hobject⟩)
    case popClear data =>
      obtain ⟨-, rfl, hy⟩ := hfits
      exact .inr (.inr (.inl ⟨i, .inl (by rw [hpc, ← hvalue _ hy])⟩))
    case popClearAgain data =>
      obtain ⟨-, rfl, hy⟩ := hfits
      exact .inr (.inr (.inl ⟨i, .inr (by rw [hpc, ← hvalue _ hy])⟩))
  · exact .inr (.inr (.inr hreturned))

/-- In every run in which threads keep to their turns. -/
theorem delivers_once (s : QueueState α) (h : (queueSystem α).Reachable InTurn s) :
    s.DeliversOnce := by
  have hsound := sound_of_reachable h
  constructor
  · exact fun data hdata => (hsound.ledger.returned data hdata).1
  · exact hsound.ledger.nodup
  · intro i x t hpc
    have hfits := hsound.threads i
    rw [hpc] at hfits
    exact hfits.2.2
  · intro i j c c' hi hj hc hc' hne
    have hturn := hsound.tickets.turn_eq i c hi hc
    simp only [normilizeRingSlot_eq]
    exact hsound.tickets.slot_ne hj (hsound.tickets.turn_eq j c' hj hc') hi hc hne
  · exact fun t x => hsound.kept

/-- One thread pushes a value and another pops it. -/
theorem delivers_once_one :
    DeliversOnce ((({} : QueueState ℕ).afterPush 1 7).afterPop 2 (0, 7)) := by
  have hrun : (queueSystem ℕ).run {} (pushSteps 1 7 ++ popSteps 2 ++ popEnd 2) =
      some ((({} : QueueState ℕ).afterPush 1 7).afterPop 2 (0, 7)) := by
    rw [System.run_append, System.run_append, run_push rfl (not_looksFull_self 0) rfl,
      Option.bind_some, run_pop rfl (by decide) rfl rfl, Option.bind_some]
    exact run_popEnd
  exact delivers_once _ ((System.Reachable.of_initial rfl).run (by decide) hrun)

/-! ### A push a lap later -/

/-- The first pop stands before its last store, in the slot 0; the queue is empty and nobody else
does anything. -/
structure Stalled (k : ℕ) (data : ℕ × α) (s : QueueState α) : Prop where
  head : s.head = k
  tail : s.tail = k
  popper : s.thread 0 = .popClearAgain 0 data
  others : ∀ i, i ≠ 0 → s.thread i = .idle
  flag : ∀ n, (s.slot n).isInitialized = false
  length : s.accepted.length = k
  returned : ∀ d ∈ s.returned, d.1 < k

/-- The others push and pop one value. -/
lemma Stalled.round {k : ℕ} {data : ℕ × α} (h : Stalled k data s) (x : α) :
    ∃ as s', (queueSystem α).run s as = some s' ∧ Stalled (k + 1) data s' := by
  obtain ⟨rfl, htail, hpopper, hothers, hflag, hlength, hreturned⟩ := h
  have hpush := run_push (x := x) (hothers 1 (by decide))
    (by rw [htail]; exact not_looksFull_self _) (hflag _)
  have hpop := run_pop (s := s.afterPush 1 x) (i := 2) (y := (s.head, x))
    (by simpa [afterPush, touch] using hothers 2 (by decide))
    (by simp only [SameCounter, afterPush, touch]; omega)
    (by simp [afterPush, touch, slotOf, htail]) (by simp [afterPush, touch, slotOf, htail])
  refine ⟨pushSteps 1 x ++ popSteps 2 ++ popEnd 2,
    (s.afterPush 1 x).afterPop 2 (s.head, x), ?_, ?_⟩
  · simp only [System.run_append, hpush, hpop, Option.bind_some]
    exact run_popEnd
  · constructor
    · rfl
    · simp [afterPop, afterPush, touch, htail]
    · simpa [afterPop, afterPush, touch] using hpopper
    · intro i hi
      simp only [afterPop, afterPush, touch, update_apply]
      split_ifs
      · rfl
      · rfl
      · exact hothers i hi
    · intro n
      rcases eq_or_ne n (normilizeRingSlot s.head) with rfl | hne
      · simp [afterPop, afterPush, touch]
      · simpa [afterPop, afterPush, touch, hne, htail] using hflag n
    · simp [afterPop, afterPush, touch, hlength]
    · simp only [afterPop, afterPush, touch, List.mem_append, List.mem_singleton]
      rintro d (hd | rfl)
      · exact (hreturned d hd).trans (Nat.lt_succ_self _)
      · exact Nat.lt_succ_self _

lemma Stalled.rounds {k : ℕ} {data : ℕ × α} (h : Stalled k data s) (x : α) (n : ℕ) :
    ∃ as s', (queueSystem α).run s as = some s' ∧ Stalled (k + n) data s' := by
  induction n with
  | zero => exact ⟨[], s, rfl, h⟩
  | succ n ih =>
    obtain ⟨as, s', hrun, hs'⟩ := ih
    obtain ⟨bs, s'', hrun', hs''⟩ := hs'.round x
    exact ⟨as ++ bs, s'', by rw [System.run_append, hrun]; exact hrun', hs''⟩

lemma exists_stalled (x : α) :
    ∃ as s, (queueSystem α).run {} as = some s ∧ Stalled 1 (0, x) s := by
  have hpush := run_push (s := ({} : QueueState α)) (i := 1) (x := x) rfl (not_looksFull_self 0) rfl
  have hpop := run_pop (s := ({} : QueueState α).afterPush 1 x) (i := 0) (y := (0, x))
    (by simp [afterPush, touch]) (by simp [SameCounter, afterPush, touch])
    (by simp [afterPush, touch, slotOf]) (by simp [afterPush, touch, slotOf])
  refine ⟨pushSteps 1 x ++ popSteps 0, (({} : QueueState α).afterPush 1 x).inPop 0 (0, x), ?_, ?_⟩
  · rw [System.run_append, hpush]
    exact hpop
  · constructor
    · rfl
    · rfl
    · simp [inPop, afterPush, touch]
    · intro i hi
      simp [inPop, afterPush, touch, hi]
    · intro n
      rcases eq_or_ne n 0 with rfl | hne
      · simp [inPop, afterPush, touch, normilizeRingSlot]
      · simp [inPop, afterPush, touch, normilizeRingSlot, hne]
    · rfl
    · exact fun d hd => absurd hd List.not_mem_nil

/-- The pop of the index 0 clears the flag that the push of the index 4096 has set. -/
theorem not_delivers_once :
    ¬ ∀ s : QueueState ℕ, (queueSystem ℕ).Reachable System.anyStep s → s.DeliversOnce := by
  intro hall
  obtain ⟨as, s₁, hrun₁, hs₁⟩ := exists_stalled 7
  obtain ⟨bs, s₂, hrun₂, hs₂⟩ := hs₁.rounds 7 4095
  have hpush := run_push (s := s₂) (i := 1) (x := 8) (hs₂.others 1 (by decide))
    (by rw [hs₂.head, hs₂.tail]; exact not_looksFull_self _) (hs₂.flag _)
  -- the store of the first pop comes after the push of 8 into the same slot
  set s₃ := s₂.afterPush 1 8 with hs₃
  have hpopper : s₃.thread 0 = .popClearAgain 0 (0, 7) := by
    simpa [hs₃, afterPush, touch] using hs₂.popper
  have hstore := run_popEnd_next hpopper
  set s₄ := { s₃.touch 0 (.popped (some (0, 7))) 0
    { s₃.slotOf 0 with isInitialized := false, turn := (s₃.slotOf 0).turn + 1 } with
      returned := s₃.returned ++ [(0, 7)] } with hs₄
  have hrun : (queueSystem ℕ).run {} (as ++ bs ++ pushSteps 1 8 ++ [(0, .next)]) = some s₄ := by
    simp only [System.run_append, hrun₁, hrun₂, hpush, Option.bind_some]
    exact hstore
  have hreach : (queueSystem ℕ).Reachable System.anyStep s₄ :=
    (System.Reachable.of_initial rfl).run
      (System.meets_of_labels (G := fun _ => True) fun _ _ => trivial) hrun
  have haccepted : s₄.accepted[4096]? = some 8 := by
    simp [hs₄, hs₃, afterPush, touch, hs₂.length]
  have hthread : ∀ i, (s₄.thread i).claim = none := by
    intro i
    simp only [hs₄, hs₃, afterPush, touch, update_apply]
    split_ifs with hzero
    · rfl
    · rfl
    · rw [hs₂.others i hzero]
      rfl
  rcases (hall s₄ hreach).kept 4096 8 haccepted with
    ⟨i, inside, hclaim⟩ | ⟨hflag, -⟩ | ⟨i, hpc | hpc⟩ | hreturned
  · rw [hthread i] at hclaim
    cases hclaim
  · have hslot : normilizeRingSlot 4096 = normilizeRingSlot 0 := by decide
    simp [slotOf, hslot, hs₄, touch] at hflag
  · have hclaim := hthread i
    rw [hpc] at hclaim
    cases hclaim
  · have hclaim := hthread i
    rw [hpc] at hclaim
    cases hclaim
  · simp only [hs₄, hs₃, afterPush, touch, List.mem_append, List.mem_singleton] at hreturned
    rcases hreturned with hreturned | hreturned
    · exact absurd (hs₂.returned _ hreturned) (by simp)
    · cases hreturned

end QueueState

end BattleShips
