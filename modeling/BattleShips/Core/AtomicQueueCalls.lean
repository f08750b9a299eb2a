import BattleShips.Core.AtomicQueueSteps
import BattleShips.Lib.Sequential

/-!
# The queue, call after call

Calls of `try_push` and `try_pop` that do not overlap, by any thread each. Their steps come to what
`AtomicQueue.tryPush` and `AtomicQueue.tryPop` say, so that these are what a queue is that is used
in this way.
-/

namespace BattleShips

open Function Relation

namespace QueueState

variable {α : Type*} {s s' s₁ : QueueState α} {q q' : AtomicQueue α} {i : ℕ} {x : α}

def startAction : FifoCall α → QueueAction α
  | .push x => .push x
  | .pop => .pop

/-- What the thread has returned. -/
def resultOf : QueuePc α → Option (FifoResult α)
  | .pushed accepted => some (.pushed accepted)
  | .popped data => some (.popped (data.map Prod.snd))
  | _ => none

/-- The queue as an object whose calls do not overlap. -/
def object (α : Type*) : CallObject (QueueState α) (ℕ × FifoCall α) (FifoResult α) where
  start s c := s.step (c.1, startAction c.2)
  step c s s' := s.next c.1 = some s'
  result c s := (resultOf (s.thread c.1)).map fun r => (r, s.goto c.1 .idle)

lemma object_deterministic : (object α).Deterministic where
  unique c s s₁ s₂ h₁ h₂ := Option.some.inj (h₁.symm.trans h₂)
  returned c s s₁ hresult hstep := by
    rw [object, Ne, Option.map_eq_none_iff] at hresult
    simp only [object, next] at hstep
    cases hpc : s.thread c.1 with
    | pushed | popped => simp [hpc] at hstep
    | _ => simp [hpc, resultOf] at hresult

/-- No thread is in a call, and the slots hold the values of the queue. -/
structure Holds (s : QueueState α) (q : AtomicQueue α) : Prop where
  idle : ∀ i, s.thread i = .idle
  head : s.head = q.head
  tail : s.tail = q.tail
  length : q.items.length ≤ ringBufferSize
  full : ∀ k x, q.items[k]? = some x → (s.slotOf (q.head + k)).isInitialized = true ∧
    (s.slotOf (q.head + k)).object = some (q.head + k, x)
  empty : ∀ k, q.items.length ≤ k → k < ringBufferSize →
    (s.slotOf (q.head + k)).isInitialized = false

lemma holds_initial : Holds ({} : QueueState α) {} where
  idle _ := rfl
  head := rfl
  tail := rfl
  length := Nat.zero_le _
  full k x hx := by simp at hx
  empty _ _ _ := rfl

/-! ### Steps of one call -/

lemma inside_of_run {c : FifoCall α} {n : ℕ}
    (h : (queueSystem α).run s ((i, startAction c) :: List.replicate n (i, .next)) = some s₁) :
    (object α).Inside s (i, c) s₁ := by
  obtain ⟨s₀, hstart, hrun⟩ := Option.bind_eq_some_iff.1 h
  refine ⟨s₀, hstart, ?_⟩
  clear h hstart
  induction n generalizing s₀ with
  | zero =>
    obtain rfl : s₀ = s₁ := by simpa [System.run] using hrun
    exact .refl
  | succ n ih =>
    obtain ⟨s₂, hstep, hrun⟩ := Option.bind_eq_some_iff.1 hrun
    exact .head hstep (ih s₂ hrun)

/-- A call that is over leaves the threads as they were. -/
lemma goto_idle (h : s.thread i = .idle) (pc : QueuePc α) : (s.goto i pc).goto i .idle = s := by
  simp [goto, ← h]

lemma thread_goto (pc : QueuePc α) : (s.goto i pc).thread i = pc := by simp [goto]

lemma Holds.push_refused (h : s.Holds q) (hfull : looksFull q.tail q.head) :
    (object α).Returns s (i, .push x) (.pushed false) s := by
  refine ⟨s.goto i (.pushed false), inside_of_run (n := 2) ?_, ?_⟩
  · simp [System.run, queueSystem, step, startAction, next, h.idle, h.head, h.tail, hfull, goto,
      List.replicate]
  · simp [object, resultOf, goto_idle (h.idle i), thread_goto]

lemma Holds.slot_tail (h : s.Holds q) (hroom : q.items.length < ringBufferSize) :
    (s.slotOf s.tail).isInitialized = false := by
  rw [h.tail, AtomicQueue.tail]
  exact h.empty _ le_rfl hroom

lemma Holds.push_accepted (h : s.Holds q) (hfull : ¬ looksFull q.tail q.head)
    (hroom : q.items.length < ringBufferSize) :
    (object α).Returns s (i, .push x) (.pushed true) (s.afterPush i x) := by
  have hflag := h.slot_tail hroom
  rw [slotOf] at hflag
  rw [← h.tail, ← h.head] at hfull
  let s₁ : QueueState α :=
    { s.touch i (.pushed true) s.tail
        { isInitialized := true, object := some (s.tail, x), untaken := true
          turn := (s.slotOf s.tail).turn + 2 } with
      tail := s.tail + 1
      accepted := s.accepted ++ [x] }
  refine ⟨s₁, inside_of_run (n := 7) ?_, ?_⟩
  · simp [System.run, queueSystem, step, startAction, next, h.idle, hfull, hflag, goto, claimTail,
      slotOf, touch, s₁, List.replicate]
  · simp [object, resultOf, s₁, touch, goto, afterPush]

lemma Holds.push_waits (h : s.Holds q) (hfull : ¬ looksFull q.tail q.head)
    (hroom : q.items.length = ringBufferSize) : (object α).Waits s (i, .push x) := by
  rw [← h.tail, ← h.head] at hfull
  refine ⟨s.claimTail i x, inside_of_run (n := 3) ?_, ?_, fun s₂ hs₂ => ?_⟩
  · simp [System.run, queueSystem, step, startAction, next, h.idle, hfull, goto, claimTail,
      List.replicate]
  · simp [object, resultOf, claimTail]
  · have hfirst : 0 < q.items.length := by rw [hroom]; decide
    have hflag := (h.full 0 q.items[0] (List.getElem?_eq_getElem hfirst)).1
    have hsame : normilizeRingSlot s.tail = normilizeRingSlot (q.head + 0) := by
      simp [h.tail, AtomicQueue.tail, hroom, normilizeRingSlot_eq]
    rw [slotOf, ← hsame] at hflag
    simp [object, next, claimTail, slotOf, hflag] at hs₂

lemma Holds.sameCounter_iff (h : s.Holds q) : SameCounter s.head s.tail ↔ q.items = [] := by
  have hlength : q.items.length ≤ 4096 := h.length
  have htail : s.tail = s.head + q.items.length := by rw [h.tail, h.head, AtomicQueue.tail]
  rw [SameCounter, htail, ← List.length_eq_zero_iff]
  omega

lemma Holds.pop_empty (h : s.Holds q) (hempty : q.items = []) :
    (object α).Returns s (i, .pop) (.popped none) s := by
  have hsame := h.sameCounter_iff.2 hempty
  refine ⟨s.goto i (.popped none), inside_of_run (n := 2) ?_, ?_⟩
  · simp [System.run, queueSystem, step, startAction, next, h.idle, hsame, goto, List.replicate]
  · simp [object, resultOf, goto_idle (h.idle i), thread_goto]

lemma Holds.pop_some (h : s.Holds q) (hhead : q.items.head? = some x) :
    (object α).Returns s (i, .pop) (.popped (some x)) (s.afterPop i (q.head, x)) := by
  have hne : ¬ SameCounter s.head s.tail := by
    rw [h.sameCounter_iff]
    rintro hempty
    simp [hempty] at hhead
  obtain ⟨hflag, hobject⟩ := h.full 0 x (by rwa [← List.head?_eq_getElem?])
  have hrun := run_pop (h.idle i) hne (by rw [h.head]; exact hflag) (by rw [h.head]; exact hobject)
  let s₁ : QueueState α :=
    { s.touch i (.popped (some (q.head, x))) s.head
        { s.slotOf s.head with
          isInitialized := false, untaken := false, turn := (s.slotOf s.head).turn + 2 } with
      head := s.head + 1
      returned := s.returned ++ [(q.head, x)] }
  have hend : (queueSystem α).run (s.inPop i (q.head, x)) [(i, .next)] = some s₁ := by
    simp [System.run, queueSystem, step, next, inPop, touch, slotOf, s₁]
  refine ⟨s₁, inside_of_run (n := 8) ?_, ?_⟩
  · have happend : (i, startAction (α := α) .pop) :: List.replicate 8 (i, .next) =
        popSteps i ++ [(i, .next)] := rfl
    rw [happend, System.run_append, hrun]
    exact hend
  · simp [object, resultOf, touch, goto, afterPop, s₁]

/-! ### What the slots hold after a call -/

lemma slotOf_eq_of_mod {m n : ℕ} (h : m % ringBufferSize = n % ringBufferSize) :
    s.slotOf m = s.slotOf n := by
  rw [slotOf, slotOf, normilizeRingSlot_eq, normilizeRingSlot_eq, h]

lemma Holds.afterPush (h : s.Holds q) (hroom : q.items.length < ringBufferSize) :
    (s.afterPush i x).Holds { q with items := q.items ++ [x] } := by
  have hslot : ∀ k, k < ringBufferSize → k ≠ q.items.length →
      (s.afterPush i x).slotOf (q.head + k) = s.slotOf (q.head + k) := by
    intro k hk hne
    have hmod : (q.head + k) % ringBufferSize ≠ (q.head + q.items.length) % ringBufferSize := by
      simp only [ringBufferSize] at hk hroom ⊢
      omega
    simp [QueueState.afterPush, touch, slotOf, h.tail, AtomicQueue.tail, normilizeRingSlot_eq, hmod]
  constructor
  · intro j
    rcases eq_or_ne j i with rfl | hne
    · simp [QueueState.afterPush, touch]
    · simpa [QueueState.afterPush, touch, hne] using h.idle j
  · exact h.head
  · simp [QueueState.afterPush, AtomicQueue.tail, h.tail, Nat.add_assoc]
  · simpa using hroom
  · intro k y hy
    rcases eq_or_ne k q.items.length with rfl | hne
    · obtain rfl : x = y := by simpa using hy
      simp [QueueState.afterPush, touch, slotOf, h.tail, AtomicQueue.tail]
    · have hy' : q.items[k]? = some y := by
        rw [List.getElem?_append] at hy
        split_ifs at hy with hk
        · exact hy
        · have hkne : k - q.items.length ≠ 0 := by omega
          rw [List.getElem?_singleton, if_neg hkne] at hy
          cases hy
      have hk : k < q.items.length := (List.getElem?_eq_some_iff.1 hy').1
      rw [hslot k (hk.trans hroom) hne]
      exact h.full k y hy'
  · intro k hk hlt
    have hk' : q.items.length < k := by simpa using hk
    rw [hslot k hlt hk'.ne']
    exact h.empty k hk'.le hlt

lemma Holds.afterPop {xs : List α} (h : s.Holds q) (hitems : q.items = x :: xs) :
    (s.afterPop i (q.head, x)).Holds { head := q.head + 1, items := xs } := by
  have hlength := h.length
  rw [hitems, List.length_cons] at hlength
  have hslot : ∀ k, k + 1 < ringBufferSize →
      (s.afterPop i (q.head, x)).slotOf (q.head + 1 + k) = s.slotOf (q.head + (k + 1)) := by
    intro k hk
    have hmod : (q.head + (k + 1)) % ringBufferSize ≠ q.head % ringBufferSize := by
      simp only [ringBufferSize] at hk ⊢
      omega
    rw [Nat.add_assoc, Nat.add_comm 1 k]
    simp [QueueState.afterPop, touch, slotOf, h.head, normilizeRingSlot_eq, hmod]
  constructor
  · intro j
    rcases eq_or_ne j i with rfl | hne
    · simp [QueueState.afterPop, touch]
    · simpa [QueueState.afterPop, touch, hne] using h.idle j
  · simp [QueueState.afterPop, h.head]
  · simp [QueueState.afterPop, touch, h.tail, AtomicQueue.tail, hitems]
    omega
  · exact (Nat.le_succ _).trans hlength
  · intro k y hy
    have hk : k < xs.length := (List.getElem?_eq_some_iff.1 hy).1
    rw [hslot k (by omega)]
    have hy' : q.items[k + 1]? = some y := by rw [hitems]; simpa using hy
    obtain ⟨hflag, hobject⟩ := h.full (k + 1) y hy'
    exact ⟨hflag, by rw [hobject, Nat.add_assoc, Nat.add_comm 1 k]⟩
  · intro k hk hlt
    rcases Nat.lt_or_ge (k + 1) ringBufferSize with hlt' | hge
    · rw [hslot k hlt']
      exact h.empty (k + 1) (by rw [hitems]; simpa using hk) hlt'
    · -- the slot that has just been emptied is the last one
      have hmod : (q.head + 1 + k) % ringBufferSize = q.head % ringBufferSize := by
        simp only [ringBufferSize] at hlt hge ⊢
        omega
      rw [slotOf_eq_of_mod hmod]
      simp [QueueState.afterPop, touch, slotOf, h.head]

/-! ### The calls -/

/-- What a call of `try_push` comes to. -/
theorem Holds.tryPush (h : s.Holds q) (i : ℕ) (x : α) : match q.tryPush x with
    | .accepted q' => ∃ s', (object α).Returns s (i, .push x) (.pushed true) s' ∧ s'.Holds q'
    | .refused => (object α).Returns s (i, .push x) (.pushed false) s
    | .waiting => (object α).Waits s (i, .push x) := by
  rw [AtomicQueue.tryPush]
  by_cases hfull : looksFull q.tail q.head
  · rw [if_pos hfull]
    exact h.push_refused hfull
  · rw [if_neg hfull]
    by_cases hroom : q.items.length < ringBufferSize
    · rw [if_pos hroom]
      exact ⟨_, h.push_accepted hfull hroom, h.afterPush hroom⟩
    · rw [if_neg hroom]
      exact h.push_waits hfull (le_antisymm h.length (not_lt.1 hroom))

/-- What a call of `try_pop` comes to. -/
theorem Holds.tryPop (h : s.Holds q) (i : ℕ) : match q.tryPop with
    | none => (object α).Returns s (i, .pop) (.popped none) s
    | some (x, q') => ∃ s', (object α).Returns s (i, .pop) (.popped (some x)) s' ∧ s'.Holds q' := by
  rw [AtomicQueue.tryPop]
  cases hitems : q.items with
  | nil => exact h.pop_empty hitems
  | cons x xs => exact ⟨_, h.pop_some (by simp [hitems]), h.afterPop hitems⟩

end QueueState

end BattleShips
