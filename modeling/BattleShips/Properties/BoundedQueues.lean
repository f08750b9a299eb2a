import BattleShips.Core.AtomicQueueCalls
import BattleShips.Core.RingBufferCalls

/-!
# The queues as bounded queues

A queue whose calls do not overlap holds 4095 values, but for where its test for being full fails:
with its head in the first slot of the ring it takes a 4096th value, and then waits. The ring of
freed indices never finds itself full: it holds 4096 indices, and then waits.
-/

namespace BattleShips

/-! ### `AtomicQueue` -/

/-- The test on a queue that is not past its slots. -/
lemma looksFull_iff {head n : ℕ} (hn : n ≤ ringBufferSize) :
    looksFull (head + n) head ↔ n = ringBufferSize - 1 ∧ normilizeRingSlot head ≠ 0 := by
  simp only [looksFull, normilizeRingSlot_eq, ringBufferSize] at hn ⊢
  omega

namespace QueueState

variable {α : Type*} {s : QueueState α} {items : List α}

/-- A push that the test takes for one into a queue that is not full. -/
def PushesPastFull (s : QueueState α) (items : List α) (c : ℕ × FifoCall α) : Prop :=
  c.2 ≠ .pop ∧ items.length = ringBufferSize - 1 ∧ normilizeRingSlot s.head = 0

/-- The queue holds these values, and no more than it should. -/
structure HoldsItems (s : QueueState α) (items : List α) : Prop where
  holds : s.Holds { head := s.head, items := items }
  le : items.length ≤ ringBufferSize - 1

lemma HoldsItems.looksFull_iff (h : s.HoldsItems items) :
    looksFull (s.head + items.length) s.head ↔
      items.length = ringBufferSize - 1 ∧ normilizeRingSlot s.head ≠ 0 :=
  BattleShips.looksFull_iff (h.le.trans (Nat.sub_le _ _))

/-- What a push returns, and what is held after it. -/
lemma HoldsItems.push (h : s.HoldsItems items) (i : ℕ) (x : α) :
    ∃ accepted s', (object α).Returns s (i, .push x) (.pushed accepted) s' ∧
      (accepted = true ↔ items.length < ringBufferSize - 1 ∨ normilizeRingSlot s.head = 0) ∧
      s'.Holds { head := s.head, items := if accepted then items ++ [x] else items } := by
  have hlt : items.length < ringBufferSize := h.le.trans_lt (by decide)
  have hcall := h.holds.tryPush i x
  by_cases hfull : looksFull (s.head + items.length) s.head
  · rw [AtomicQueue.tryPush, AtomicQueue.tail, if_pos hfull] at hcall
    obtain ⟨hlength, hslot⟩ := h.looksFull_iff.1 hfull
    exact ⟨false, s, hcall, by simp [hlength, hslot], h.holds⟩
  · rw [AtomicQueue.tryPush, AtomicQueue.tail, if_neg hfull, if_pos hlt] at hcall
    obtain ⟨s', hreturns, hs'⟩ := hcall
    refine ⟨true, s', hreturns, ?_, hs'⟩
    simp only [true_iff]
    rw [h.looksFull_iff, not_and_or, not_not] at hfull
    exact hfull.imp_left fun hne => lt_of_le_of_ne h.le hne

/-- What a pop returns, and what is held after it. -/
lemma HoldsItems.pop (h : s.HoldsItems items) (i : ℕ) :
    ∃ s', (object α).Returns s (i, .pop) (.popped items.head?) s' ∧ s'.HoldsItems items.tail := by
  have hcall := h.holds.tryPop i
  cases items with
  | nil => exact ⟨s, hcall, h⟩
  | cons x xs =>
    obtain ⟨s', hreturns, hs'⟩ := hcall
    have hhead : s'.head = s.head + 1 := hs'.head
    exact ⟨s', hreturns, by rwa [hhead], (Nat.le_succ _).trans h.le⟩

lemma HoldsItems.meets_iff (h : s.HoldsItems items) (c : ℕ × FifoCall α) :
    (object α).Meets (boundedFifo α (ringBufferSize - 1)) s items c ↔
      ¬ PushesPastFull s items c := by
  obtain ⟨i, c⟩ := c
  cases c with
  | pop =>
    obtain ⟨s', hreturns, -⟩ := h.pop i
    exact iff_of_true (object_deterministic.meets hreturns rfl) fun hpast => hpast.1 rfl
  | push x =>
    obtain ⟨accepted, s', hreturns, haccepted, -⟩ := h.push i x
    constructor
    · rintro hmeets ⟨-, hlength, hslot⟩
      have hallowed := hmeets.allowed _ _ hreturns
      simp [boundedFifo, hlength, haccepted.2 (.inr hslot)] at hallowed
    · intro hpast
      refine object_deterministic.meets hreturns ?_
      have hiff : accepted = true ↔ items.length < ringBufferSize - 1 := by
        rw [haccepted, or_iff_left_iff_imp]
        intro hslot
        exact lt_of_le_of_ne h.le fun hlength => hpast ⟨nofun, hlength, hslot⟩
      simp only [boundedFifo, FifoResult.pushed.injEq]
      rw [Bool.eq_iff_iff, hiff, decide_eq_true_iff]

lemma HoldsItems.next (h : s.HoldsItems items) {c : ℕ × FifoCall α} {r : FifoResult α}
    {s' : QueueState α} (hmeets : (object α).Meets (boundedFifo α (ringBufferSize - 1)) s items c)
    (hreturns : (object α).Returns s c r s') :
    s'.HoldsItems ((boundedFifo α (ringBufferSize - 1)).next items c r) := by
  have hpast := (h.meets_iff c).1 hmeets
  obtain ⟨i, c⟩ := c
  cases c with
  | pop =>
    obtain ⟨s₁, hreturns₁, hs₁⟩ := h.pop i
    obtain rfl := (object_deterministic.returns_unique hreturns₁ hreturns).2
    exact hs₁
  | push x =>
    obtain ⟨accepted, s₁, hreturns₁, haccepted, hs₁⟩ := h.push i x
    obtain ⟨rfl, rfl⟩ := object_deterministic.returns_unique hreturns₁ hreturns
    have hhead : s'.head = s.head := hs₁.head
    rw [← hhead] at hs₁
    by_cases hlt : items.length < ringBufferSize - 1
    · rw [haccepted.2 (.inl hlt), if_pos rfl] at hs₁
      simp only [boundedFifo, if_pos hlt]
      exact ⟨hs₁, by simpa using hlt⟩
    · have hlength : items.length = ringBufferSize - 1 := le_antisymm h.le (not_lt.1 hlt)
      have hrefused : accepted = false := by
        rw [Bool.eq_false_iff, Ne, haccepted, not_or]
        exact ⟨hlt, fun hslot => hpast ⟨nofun, hlength, hslot⟩⟩
      rw [hrefused, if_neg (by decide)] at hs₁
      simp only [boundedFifo, if_neg hlt]
      exact ⟨hs₁, h.le⟩

/-- From the empty queue, a sequence of calls gives what a queue of 4095 elements gives just if no
push finds 4095 elements and the head in the first slot. -/
theorem follows_boundedFifo_iff (cs : List (ℕ × FifoCall α)) :
    (object α).Follows (boundedFifo α (ringBufferSize - 1)) {} [] cs ↔
      (object α).Along (boundedFifo α (ringBufferSize - 1))
        (fun s items c => ¬ PushesPastFull s items c) {} [] cs := by
  refine CallObject.along_congr HoldsItems (fun s items c h _ => h.meets_iff c) ?_ cs
    ⟨holds_initial, Nat.zero_le _⟩
  intro s items c r s' h _ hmeets hreturns
  exact h.next hmeets hreturns

/-- So many pushes, after which there is one too many. -/
lemma HoldsItems.not_follows (n : ℕ) (x : α) (h : s.HoldsItems items)
    (hlength : items.length + n = ringBufferSize - 1) (hslot : normilizeRingSlot s.head = 0) :
    ¬ (object α).Follows (boundedFifo α (ringBufferSize - 1)) s items
      (List.replicate (n + 1) (0, .push x)) := by
  induction n generalizing s items with
  | zero =>
    intro hfollows
    exact (h.meets_iff _).1 (hfollows trivial).1 ⟨nofun, hlength, hslot⟩
  | succ n ih =>
    intro hfollows
    obtain ⟨hmeets, hrest⟩ := hfollows trivial
    obtain ⟨accepted, s', hreturns, -, hs'⟩ := h.push 0 x
    have hhead : s'.head = s.head := hs'.head
    refine ih (h.next hmeets hreturns) ?_ (hhead ▸ hslot) (hrest _ _ hreturns)
    have hlt : items.length < ringBufferSize - 1 := by omega
    simp only [boundedFifo, if_pos hlt, List.length_append, List.length_singleton]
    omega

/-- The queue takes 4096 values. -/
theorem not_follows_boundedFifo :
    ¬ ∀ cs : List (ℕ × FifoCall ℕ),
      (object ℕ).Follows (boundedFifo ℕ (ringBufferSize - 1)) {} [] cs := by
  intro h
  have hempty : HoldsItems ({} : QueueState ℕ) [] := ⟨holds_initial, Nat.zero_le _⟩
  exact hempty.not_follows (ringBufferSize - 1) 7 (by simp) (by decide) (h _)

end QueueState

/-! ### `RingBuffer` -/

/-- A queue of so many indices. -/
def ringFifo (capacity : ℕ) : CallSpec (List ℕ) (ℕ × FifoCall ℕ) (FifoResult ℕ) :=
  { boundedFifo ℕ capacity with legal := fun _ c => c.2 ≠ .push maxValue }

lemma ringFifo_next_push {capacity : ℕ} {items : List ℕ} (hroom : items.length < capacity)
    (i x : ℕ) (r : FifoResult ℕ) :
    (ringFifo capacity).next items (i, .push x) r = items ++ [x] := if_pos hroom

/-- A push into a queue that is full. -/
def PushesPast (capacity : ℕ) (items : List ℕ) (c : ℕ × FifoCall ℕ) : Prop :=
  c.2 ≠ .pop ∧ items.length = capacity

namespace RingState

variable {s s' : RingState} {items : List ℕ} {capacity : ℕ}

lemma Holds.meets_iff (h : s.Holds items) (hle : items.length ≤ capacity)
    (hcapacity : capacity ≤ ringBufferSize) (c : ℕ × FifoCall ℕ) :
    object.Meets (ringFifo capacity) s items c ↔ ¬ PushesPast capacity items c := by
  obtain ⟨i, c⟩ := c
  cases c with
  | pop =>
    refine iff_of_true ⟨fun _ => h.tryPop_not_waits, fun _ => h.tryPop_exists, ?_⟩ fun hpast =>
      hpast.1 rfl
    intro r s' hreturns
    exact (h.tryPop_returns hreturns).1
  | push x =>
    constructor
    · rintro hmeets ⟨-, hlength⟩
      change items.length = capacity at hlength
      rcases hcapacity.lt_or_eq with hroom | hfull
      · have hallowed := hmeets.allowed _ _ (h.tryPush_accepted (hlength.trans_lt hroom))
        simp [ringFifo, boundedFifo, hlength] at hallowed
      · exact hmeets.not_waits trivial (h.tryPush_waits (hlength.trans hfull))
    · intro hpast
      have hlt : items.length < capacity := lt_of_le_of_ne hle fun hlength => hpast ⟨nofun, hlength⟩
      have hroom : items.length < ringBufferSize := hlt.trans_le hcapacity
      refine ⟨fun _ => h.tryPush_not_waits hroom,
        fun _ => ⟨_, _, h.tryPush_accepted hroom⟩, ?_⟩
      intro r s' hreturns
      rw [(h.tryPush_returns hreturns).1]
      simp [ringFifo, boundedFifo, hlt]

lemma Holds.next (h : s.Holds items) (hle : items.length ≤ capacity)
    (hcapacity : capacity ≤ ringBufferSize) {c : ℕ × FifoCall ℕ}
    (hlegal : (ringFifo capacity).legal items c) (hpast : ¬ PushesPast capacity items c)
    {r : FifoResult ℕ} (hreturns : object.Returns s c r s') :
    s'.Holds ((ringFifo capacity).next items c r) ∧
      ((ringFifo capacity).next items c r).length ≤ capacity := by
  obtain ⟨i, c⟩ := c
  cases c with
  | pop => exact ⟨(h.tryPop_returns hreturns).2, (List.tail_sublist items).length_le.trans hle⟩
  | push x =>
    have hlt : items.length < capacity := lt_of_le_of_ne hle fun hlength => hpast ⟨nofun, hlength⟩
    have hx : x ≠ maxValue := fun hx => hlegal (congrArg FifoCall.push hx)
    obtain ⟨rfl, rfl⟩ := h.tryPush_returns hreturns
    rw [ringFifo_next_push hlt]
    exact ⟨h.afterTryPush (hlt.trans_le hcapacity) hx, by simpa using hlt⟩

/-- From the empty ring, a sequence of calls gives what a queue of this capacity gives just if no
push finds it full. -/
lemma follows_ringFifo_capacity (hcapacity : capacity ≤ ringBufferSize)
    (cs : List (ℕ × FifoCall ℕ)) :
    object.Follows (ringFifo capacity) {} [] cs ↔
      object.Along (ringFifo capacity) (fun _ items c => ¬ PushesPast capacity items c)
        {} [] cs := by
  refine CallObject.along_congr
    (fun s items => s.Holds items ∧ items.length ≤ capacity)
    (fun s items c h _ => h.1.meets_iff h.2 hcapacity c) ?_ cs ⟨holds_initial, Nat.zero_le _⟩
  intro s items c r s' h hlegal hmeets hreturns
  exact h.1.next h.2 hcapacity hlegal ((h.1.meets_iff h.2 hcapacity c).1 hmeets) hreturns

/-- What does not fill a queue does not fill a larger one. -/
lemma along_larger {larger : ℕ} (hlarger : capacity ≤ larger) (cs : List (ℕ × FifoCall ℕ))
    (hle : items.length ≤ capacity)
    (h : object.Along (ringFifo capacity) (fun _ items c => ¬ PushesPast capacity items c)
      s items cs) :
    object.Along (ringFifo larger) (fun _ items c => ¬ PushesPast larger items c) s items cs := by
  induction cs generalizing s items with
  | nil => trivial
  | cons c cs ih =>
    intro hlegal
    obtain ⟨hpast, hrest⟩ := h hlegal
    obtain ⟨i, c⟩ := c
    cases c with
    | pop =>
      refine ⟨fun hpast => hpast.1 rfl, ?_⟩
      intro r s' hreturns
      exact ih ((List.tail_sublist items).length_le.trans hle) (hrest r s' hreturns)
    | push x =>
      have hlt : items.length < capacity :=
        lt_of_le_of_ne hle fun hlength => hpast ⟨nofun, hlength⟩
      refine ⟨fun hpast => (hlt.trans_le hlarger).ne hpast.2, ?_⟩
      intro r s' hreturns
      have hrest' := hrest r s' hreturns
      rw [ringFifo_next_push hlt] at hrest'
      rw [ringFifo_next_push (hlt.trans_le hlarger)]
      exact ih (by simpa using hlt) hrest'

/-- The ring is a queue of 4096 indices just as long as no push finds it full, and it is no queue of
a smaller capacity for longer. -/
theorem follows_ringFifo_iff (cs : List (ℕ × FifoCall ℕ)) :
    (object.Follows (ringFifo ringBufferSize) {} [] cs ↔
      object.Along (ringFifo ringBufferSize)
        (fun _ items c => ¬ PushesPast ringBufferSize items c) {} [] cs) ∧
    ((∃ capacity ≤ ringBufferSize, object.Follows (ringFifo capacity) {} [] cs) ↔
      object.Along (ringFifo ringBufferSize)
        (fun _ items c => ¬ PushesPast ringBufferSize items c) {} [] cs) := by
  refine ⟨follows_ringFifo_capacity le_rfl cs, ?_, ?_⟩
  · rintro ⟨capacity, hcapacity, hfollows⟩
    rw [follows_ringFifo_capacity hcapacity] at hfollows
    exact along_larger hcapacity cs (Nat.zero_le _) hfollows
  · intro hpast
    exact ⟨ringBufferSize, le_rfl, (follows_ringFifo_capacity le_rfl cs).2 hpast⟩

/-- So many pushes, after which there is one too many. -/
lemma Holds.not_follows (n : ℕ) (h : s.Holds items) (hlength : items.length + n = ringBufferSize) :
    ¬ object.Follows (ringFifo ringBufferSize) s items (List.replicate (n + 1) (0, .push 7)) := by
  induction n generalizing s items with
  | zero =>
    intro hfollows
    exact (h.meets_iff h.length le_rfl _).1 (hfollows nofun).1 ⟨nofun, hlength⟩
  | succ n ih =>
    intro hfollows
    have hlt : items.length < ringBufferSize := by omega
    have hrest := (hfollows nofun).2 _ _ (h.tryPush_accepted hlt)
    have hnext : (s.afterTryPush 0 7).Holds (items ++ [7]) := h.afterTryPush hlt (by decide)
    refine ih hnext ?_ ?_
    · simp only [List.length_append, List.length_singleton]
      omega
    · rw [ringFifo_next_push hlt] at hrest
      exact hrest

/-- The 4097th push into the ring waits. -/
theorem not_follows_ringFifo :
    ¬ ∃ capacity ≤ ringBufferSize, ∀ cs : List (ℕ × FifoCall ℕ),
      object.Follows (ringFifo capacity) {} [] cs := by
  rintro ⟨capacity, hcapacity, h⟩
  have hfollows := h (List.replicate (ringBufferSize + 1) (0, .push 7))
  rw [follows_ringFifo_capacity hcapacity] at hfollows
  have hlarger := along_larger hcapacity _ (Nat.zero_le _) hfollows
  rw [← follows_ringFifo_capacity le_rfl] at hlarger
  exact holds_initial.not_follows ringBufferSize (Nat.zero_add _) hlarger

end RingState

end BattleShips
