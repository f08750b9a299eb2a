import BattleShips.Core.RingBuffer
import BattleShips.Lib.Sequential

/-!
# The ring of freed indices, call after call

Calls of `try_push` and `try_pop` that do not overlap, by any thread each. A weak compare-exchange
may fail in them, so that a call has many runs, but they all come to the same.
-/

namespace BattleShips

open Function Relation

namespace RingState

variable {s s₁ s₂ : RingState} {items : List ℕ} {i x : ℕ} {a : RingAction}

def startAction : FifoCall ℕ → RingAction
  | .push x => .tryPush x
  | .pop => .tryPop

/-- What the thread has returned. -/
def resultOf : RingPc → Option (FifoResult ℕ)
  | .pushed accepted => some (.pushed accepted)
  | .popped index => some (.popped index)
  | _ => none

/-- The ring as an object whose calls do not overlap. -/
def object : CallObject RingState (ℕ × FifoCall ℕ) (FifoResult ℕ) where
  start s c := s.step (c.1, startAction c.2)
  step c s s' := s.step (c.1, .next) = some s' ∨ s.step (c.1, .fail) = some s'
  result c s := (resultOf (s.thread c.1)).map fun r => (r, s.goto c.1 .idle)

/-- No thread is in a call, and the slots hold the indices. -/
structure Holds (s : RingState) (items : List ℕ) : Prop where
  idle : ∀ i, s.thread i = .idle
  head : s.head = s.tail + items.length
  length : items.length ≤ ringBufferSize
  full : ∀ k x, items[k]? = some x → (s.slotOf (s.tail + k)).value = x
  empty : ∀ k, items.length ≤ k → k < ringBufferSize → (s.slotOf (s.tail + k)).value = maxValue
  indices : ∀ x ∈ items, x ≠ maxValue

lemma holds_initial : Holds {} [] where
  idle _ := rfl
  head := rfl
  length := Nat.zero_le _
  full k x hx := by simp at hx
  empty _ _ _ := rfl
  indices := nofun

/-- The test on the counters never finds the ring full. -/
lemma Holds.not_full (h : s.Holds items) : ¬ SameCounter (s.head + 1) s.tail := by
  have hlength : items.length ≤ 4096 := h.length
  rw [SameCounter, h.head]
  omega

lemma Holds.sameCounter_iff (h : s.Holds items) : SameCounter s.tail s.head ↔ items = [] := by
  have hlength : items.length ≤ 4096 := h.length
  rw [SameCounter, h.head, ← List.length_eq_zero_iff]
  omega

/-- The slot of the next push is empty just if there is room. -/
lemma Holds.slot_head (h : s.Holds items) :
    (s.slotOf s.head).value = maxValue ↔ items.length < ringBufferSize := by
  constructor
  · intro hempty
    refine lt_of_le_of_ne h.length fun hfull => ?_
    have hfirst : 0 < items.length := by rw [hfull]; decide
    have hslot : s.slotOf s.head = s.slotOf (s.tail + 0) := by
      simp [slotOf, h.head, hfull, normilizeRingSlot_eq]
    rw [hslot, h.full 0 items[0] (List.getElem?_eq_getElem hfirst)] at hempty
    exact h.indices _ (List.getElem_mem hfirst) hempty
  · intro hroom
    rw [h.head]
    exact h.empty _ le_rfl hroom

lemma Holds.slot_tail {xs : List ℕ} (h : s.Holds (x :: xs)) : (s.slotOf s.tail).value = x :=
  h.full 0 x rfl

/-! ### The states of a call -/

/-- A thread in `try_push`. -/
inductive InTryPush (s : RingState) (i x : ℕ) : RingState → Prop
  | loadHead : InTryPush s i x (s.goto i (.pushLoadHead false x))
  | loadTail : InTryPush s i x (s.goto i (.pushLoadTail false x s.head))
  | claim : InTryPush s i x (s.goto i (.pushClaim false x s.head))
  | check : InTryPush s i x (s.claimHead i x)
  | wait (hfull : (s.slotOf s.head).value ≠ maxValue) :
      InTryPush s i x ((s.claimHead i x).goto i (.pushWait x s.head (s.slotOf s.head).value))
  | store (hempty : (s.slotOf s.head).value = maxValue) : InTryPush s i x (s.inTryPush i x)
  | pushed (hempty : (s.slotOf s.head).value = maxValue) :
      InTryPush s i x ((s.afterTryPush i x).goto i (.pushed true))

lemma InTryPush.start (h : s.Holds items) (hstart : s.step (i, .tryPush x) = some s₁) :
    InTryPush s i x s₁ := by
  obtain rfl : s.goto i (.pushLoadHead false x) = s₁ := by simpa [step, h.idle i] using hstart
  exact .loadHead

/-- A step of the thread is one in its call. -/
lemma InTryPush.step (h : s.Holds items) (hs₁ : InTryPush s i x s₁)
    (hstep : s₁.step (i, .next) = some s₂ ∨ s₁.step (i, .fail) = some s₂) : InTryPush s i x s₂ := by
  have hfull := h.not_full
  cases hs₁ with
  | loadHead =>
    obtain rfl : s.goto i (.pushLoadTail false x s.head) = s₂ := by
      simpa [RingState.step, next, goto] using hstep
    exact .loadTail
  | loadTail =>
    obtain rfl : s.goto i (.pushClaim false x s.head) = s₂ := by
      simpa [RingState.step, next, goto, hfull] using hstep
    exact .claim
  | claim =>
    rcases hstep with hstep | hstep
    · obtain rfl : s.claimHead i x = s₂ := by
        simpa [RingState.step, next, goto, claimHead] using hstep
      exact .check
    · obtain rfl : s.goto i (.pushLoadHead false x) = s₂ := by
        simpa [RingState.step, goto] using hstep
      exact .loadHead
  | check =>
    by_cases hempty : (s.slotOf s.head).value = maxValue
    · have hempty' := hempty
      rw [slotOf] at hempty'
      obtain rfl : s.inTryPush i x = s₂ := by
        simpa [RingState.step, next, claimHead, slotOf, touch, inTryPush, hempty'] using hstep
      exact .store hempty
    · have hempty' := hempty
      rw [slotOf] at hempty'
      obtain rfl : (s.claimHead i x).goto i (.pushWait x s.head (s.slotOf s.head).value) = s₂ := by
        simpa [RingState.step, next, claimHead, slotOf, goto, hempty'] using hstep
      exact .wait hempty
  | wait => simp [RingState.step, next, claimHead, slotOf, goto] at hstep
  | store hempty =>
    obtain rfl : (s.afterTryPush i x).goto i (.pushed true) = s₂ := by
      simpa [RingState.step, next, inTryPush, slotOf, touch, goto, afterTryPush] using hstep
    exact .pushed hempty
  | pushed => simp [RingState.step, next, goto] at hstep

/-- A thread in `try_pop`. -/
inductive InTryPop (s : RingState) (i : ℕ) : RingState → Prop
  | loadTail : InTryPop s i (s.goto i .popLoadTail)
  | loadHead : InTryPop s i (s.goto i (.popLoadHead s.tail))
  | empty (hempty : SameCounter s.tail s.head) : InTryPop s i (s.goto i (.popped none))
  | claim (hne : ¬ SameCounter s.tail s.head) : InTryPop s i (s.goto i (.popClaim s.tail))
  | check (hne : ¬ SameCounter s.tail s.head) : InTryPop s i (s.claimTail i)
  | exchange (hne : ¬ SameCounter s.tail s.head) : InTryPop s i
      ((s.claimTail i).touch i (.popExchange s.tail) s.tail
        { s.slotOf s.tail with turn := (s.slotOf s.tail).turn + 1 })
  | popped (hne : ¬ SameCounter s.tail s.head) : InTryPop s i
      { s.touch i (.popped (some (s.slotOf s.tail).value)) s.tail
          { value := maxValue, turn := (s.slotOf s.tail).turn + 2 } with
        tail := s.tail + 1
        returned := s.returned ++ [(s.tail, (s.slotOf s.tail).value)] }

lemma InTryPop.start (h : s.Holds items) (hstart : s.step (i, .tryPop) = some s₁) :
    InTryPop s i s₁ := by
  obtain rfl : s.goto i .popLoadTail = s₁ := by simpa [step, h.idle i] using hstart
  exact .loadTail

lemma InTryPop.step (h : s.Holds items) (hs₁ : InTryPop s i s₁)
    (hstep : s₁.step (i, .next) = some s₂ ∨ s₁.step (i, .fail) = some s₂) : InTryPop s i s₂ := by
  cases hs₁ with
  | loadTail =>
    obtain rfl : s.goto i (.popLoadHead s.tail) = s₂ := by
      simpa [RingState.step, next, goto] using hstep
    exact .loadHead
  | loadHead =>
    by_cases hempty : SameCounter s.tail s.head
    · obtain rfl : s.goto i (.popped none) = s₂ := by
        simpa [RingState.step, next, goto, hempty] using hstep
      exact .empty hempty
    · obtain rfl : s.goto i (.popClaim s.tail) = s₂ := by
        simpa [RingState.step, next, goto, hempty] using hstep
      exact .claim hempty
  | empty => simp [RingState.step, next, goto] at hstep
  | claim hne =>
    rcases hstep with hstep | hstep
    · obtain rfl : s.claimTail i = s₂ := by
        simpa [RingState.step, next, goto, claimTail] using hstep
      exact .check hne
    · obtain rfl : s.goto i (.popLoadHead s.tail) = s₂ := by
        simpa [RingState.step, goto] using hstep
      exact .loadHead
  | check hne =>
    cases items with
    | nil => exact absurd (h.sameCounter_iff.2 rfl) hne
    | cons x xs =>
      have hvalue : (s.slot (normilizeRingSlot s.tail)).value ≠ maxValue := by
        rw [← slotOf, h.slot_tail]
        exact h.indices x List.mem_cons_self
      obtain rfl : (s.claimTail i).touch i (.popExchange s.tail) s.tail
          { s.slotOf s.tail with turn := (s.slotOf s.tail).turn + 1 } = s₂ := by
        simpa [RingState.step, next, claimTail, slotOf, touch, hvalue] using hstep
      exact .exchange hne
  | exchange hne =>
    obtain rfl : { s.touch i (.popped (some (s.slotOf s.tail).value)) s.tail
        { value := maxValue, turn := (s.slotOf s.tail).turn + 2 } with
          tail := s.tail + 1
          returned := s.returned ++ [(s.tail, (s.slotOf s.tail).value)] } = s₂ := by
      simpa [RingState.step, next, claimTail, slotOf, touch] using hstep
    exact .popped hne
  | popped => simp [RingState.step, next, touch] at hstep

/-! ### What the slots hold after a call -/

/-- The ring after a `try_pop` that has found an index. -/
def afterTryPop (s : RingState) (i : ℕ) : RingState :=
  { s.touch i .idle s.tail { value := maxValue, turn := (s.slotOf s.tail).turn + 2 } with
    tail := s.tail + 1
    returned := s.returned ++ [(s.tail, (s.slotOf s.tail).value)] }

lemma Holds.afterTryPush (h : s.Holds items) (hroom : items.length < ringBufferSize)
    (hx : x ≠ maxValue) : (s.afterTryPush i x).Holds (items ++ [x]) := by
  have hslot : ∀ k, k < ringBufferSize → k ≠ items.length →
      (s.afterTryPush i x).slotOf (s.tail + k) = s.slotOf (s.tail + k) := by
    intro k hk hne
    have hmod : (s.tail + k) % ringBufferSize ≠ (s.tail + items.length) % ringBufferSize := by
      simp only [ringBufferSize] at hk hroom ⊢
      omega
    simp [RingState.afterTryPush, touch, slotOf, h.head, normilizeRingSlot_eq, hmod]
  constructor
  · intro j
    rcases eq_or_ne j i with rfl | hne
    · simp [RingState.afterTryPush, touch]
    · simpa [RingState.afterTryPush, touch, hne] using h.idle j
  · simp [RingState.afterTryPush, touch, h.head, Nat.add_assoc]
  · simpa using hroom
  · intro k y hy
    change ((s.afterTryPush i x).slotOf (s.tail + k)).value = y
    rcases eq_or_ne k items.length with rfl | hne
    · obtain rfl : x = y := by simpa using hy
      simp [RingState.afterTryPush, touch, slotOf, h.head]
    · have hy' : items[k]? = some y := by
        rw [List.getElem?_append] at hy
        split_ifs at hy with hk
        · exact hy
        · have hkne : k - items.length ≠ 0 := by omega
          rw [List.getElem?_singleton, if_neg hkne] at hy
          cases hy
      have hk : k < items.length := (List.getElem?_eq_some_iff.1 hy').1
      rw [hslot k (hk.trans hroom) hne]
      exact h.full k y hy'
  · intro k hk hlt
    have hk' : items.length < k := by simpa using hk
    change ((s.afterTryPush i x).slotOf (s.tail + k)).value = maxValue
    rw [hslot k hlt hk'.ne']
    exact h.empty k hk'.le hlt
  · intro y hy
    rcases List.mem_append.1 hy with hy | hy
    · exact h.indices y hy
    · rwa [List.mem_singleton.1 hy]

lemma Holds.afterTryPop {xs : List ℕ} (h : s.Holds (x :: xs)) : (s.afterTryPop i).Holds xs := by
  have hlength : xs.length + 1 ≤ ringBufferSize := h.length
  have hslot : ∀ k, k + 1 < ringBufferSize →
      (s.afterTryPop i).slotOf (s.tail + 1 + k) = s.slotOf (s.tail + (k + 1)) := by
    intro k hk
    have hmod : (s.tail + (k + 1)) % ringBufferSize ≠ s.tail % ringBufferSize := by
      simp only [ringBufferSize] at hk ⊢
      omega
    rw [Nat.add_assoc, Nat.add_comm 1 k]
    simp [RingState.afterTryPop, touch, slotOf, normilizeRingSlot_eq, hmod]
  constructor
  · intro j
    rcases eq_or_ne j i with rfl | hne
    · simp [RingState.afterTryPop, touch]
    · simpa [RingState.afterTryPop, touch, hne] using h.idle j
  · simp [RingState.afterTryPop, touch, h.head]
    omega
  · exact (Nat.le_succ _).trans hlength
  · intro k y hy
    have hk : k < xs.length := (List.getElem?_eq_some_iff.1 hy).1
    change ((s.afterTryPop i).slotOf (s.tail + 1 + k)).value = y
    rw [hslot k (by omega)]
    exact h.full (k + 1) y (by simpa using hy)
  · intro k hk hlt
    change ((s.afterTryPop i).slotOf (s.tail + 1 + k)).value = maxValue
    rcases Nat.lt_or_ge (k + 1) ringBufferSize with hlt' | hge
    · rw [hslot k hlt']
      exact h.empty (k + 1) (by simpa using hk) hlt'
    · -- the slot that has just been emptied is the last one
      have hmod : normilizeRingSlot (s.tail + 1 + k) = normilizeRingSlot s.tail := by
        simp only [normilizeRingSlot_eq, ringBufferSize] at hlt hge ⊢
        omega
      simp [slotOf, hmod, RingState.afterTryPop, touch]
  · exact fun y hy => h.indices y (List.mem_cons_of_mem x hy)

/-! ### The calls -/

lemma goto_idle (h : s.thread i = .idle) (pc : RingPc) : (s.goto i pc).goto i .idle = s := by
  simp [goto, ← h]

lemma inside_tryPush (h : s.Holds items) (hs₁ : object.Inside s (i, .push x) s₁) :
    InTryPush s i x s₁ :=
  hs₁.invariant (fun _ hstart => .start h hstart) fun _ _ hin hstep => hin.step h hstep

lemma inside_tryPop (h : s.Holds items) (hs₁ : object.Inside s (i, .pop) s₁) :
    InTryPop s i s₁ :=
  hs₁.invariant (fun _ hstart => .start h hstart) fun _ _ hin hstep => hin.step h hstep

lemma inside_of_run {c : FifoCall ℕ} {n : ℕ}
    (h : ringSystem.run s ((i, startAction c) :: List.replicate n (i, .next)) = some s₁) :
    object.Inside s (i, c) s₁ := by
  obtain ⟨s₀, hstart, hrun⟩ := Option.bind_eq_some_iff.1 h
  refine ⟨s₀, hstart, ?_⟩
  clear h hstart
  induction n generalizing s₀ with
  | zero =>
    obtain rfl : s₀ = s₁ := by simpa [System.run] using hrun
    exact .refl
  | succ n ih =>
    obtain ⟨s₂, hstep, hrun⟩ := Option.bind_eq_some_iff.1 hrun
    exact .head (.inl hstep) (ih s₂ hrun)

/-- A push that is over has appended its index. -/
lemma InTryPush.over (h : s.Holds items) (hin : InTryPush s i x s₁) {r : FifoResult ℕ}
    (hresult : resultOf (s₁.thread i) = some r) : r = .pushed true ∧
      s₁.goto i .idle = s.afterTryPush i x ∧ items.length < ringBufferSize := by
  cases hin with
  | pushed hempty =>
    have hidle : (s.afterTryPush i x).thread i = .idle := by simp [RingState.afterTryPush, touch]
    simp only [goto, update_self, resultOf, Option.some.injEq] at hresult
    exact ⟨hresult.symm, goto_idle hidle _, h.slot_head.1 hempty⟩
  | _ => simp [resultOf, goto, claimHead, RingState.inTryPush, touch] at hresult

/-- A push into a ring with room can always go on until then. -/
lemma InTryPush.goes (h : s.Holds items) (hroom : items.length < ringBufferSize)
    (hin : InTryPush s i x s₁) (hnone : resultOf (s₁.thread i) = none) :
    ∃ s₂, s₁.step (i, .next) = some s₂ := by
  cases hin with
  | pushed => simp [resultOf, goto] at hnone
  | wait hfull => exact absurd (h.slot_head.2 hroom) hfull
  | loadTail =>
    have hfull := h.not_full
    exact ⟨_, by simp [RingState.step, next, goto, hfull]; rfl⟩
  | check =>
    have hempty := h.slot_head.2 hroom
    rw [slotOf] at hempty
    exact ⟨_, by simp [RingState.step, next, claimHead, slotOf, hempty]; rfl⟩
  | loadHead => exact ⟨_, by simp [RingState.step, next, goto]; rfl⟩
  | claim => exact ⟨_, by simp [RingState.step, next, goto]; rfl⟩
  | store => exact ⟨_, by simp [RingState.step, next, RingState.inTryPush, touch]; rfl⟩

/-- A pop that is over has taken the first index or has found none. -/
lemma InTryPop.over (h : s.Holds items) (hin : InTryPop s i s₁) {r : FifoResult ℕ}
    (hresult : resultOf (s₁.thread i) = some r) :
    r = .popped items.head? ∧ (s₁.goto i .idle).Holds items.tail := by
  cases hin with
  | empty hempty =>
    simp only [goto, update_self, resultOf, Option.some.injEq] at hresult
    rw [goto_idle (h.idle i), ← hresult]
    have hnil := h.sameCounter_iff.1 hempty
    subst hnil
    exact ⟨rfl, h⟩
  | popped hne =>
    cases items with
    | nil => exact absurd (h.sameCounter_iff.2 rfl) hne
    | cons x xs =>
      simp only [touch, update_self, resultOf, Option.some.injEq] at hresult
      refine ⟨by simp [← hresult, h.slot_tail], ?_⟩
      have hafter := h.afterTryPop (i := i)
      simpa [RingState.afterTryPop, touch, goto] using hafter
  | _ => simp [resultOf, goto, claimTail, touch] at hresult

/-- A push into a ring with room, if it returns, has appended its index. -/
lemma Holds.tryPush_returns (h : s.Holds items) {r : FifoResult ℕ}
    (hreturns : object.Returns s (i, .push x) r s₂) :
    r = .pushed true ∧ s₂ = s.afterTryPush i x := by
  obtain ⟨s₁, hs₁, hresult⟩ := hreturns
  obtain ⟨r', hover, heq⟩ := Option.map_eq_some_iff.1 hresult
  obtain ⟨rfl, rfl⟩ := Prod.mk.inj heq
  obtain ⟨hr, hs₂, -⟩ := (inside_tryPush h hs₁).over h hover
  exact ⟨hr, hs₂⟩

/-- A push into a ring with room does return. -/
lemma Holds.tryPush_accepted (h : s.Holds items) (hroom : items.length < ringBufferSize) :
    object.Returns s (i, .push x) (.pushed true) (s.afterTryPush i x) := by
  have hfull := h.not_full
  have hempty := h.slot_head.2 hroom
  rw [slotOf] at hempty
  refine ⟨(s.afterTryPush i x).goto i (.pushed true), inside_of_run (n := 5) ?_, ?_⟩
  · simp [System.run, ringSystem, RingState.step, startAction, next, h.idle, hfull, hempty, goto,
      claimHead, slotOf, touch, RingState.afterTryPush, List.replicate]
  · have hidle : (s.afterTryPush i x).thread i = .idle := by simp [RingState.afterTryPush, touch]
    simp only [object, goto_idle hidle]
    simp [resultOf, goto]

lemma Holds.tryPush_not_waits (h : s.Holds items) (hroom : items.length < ringBufferSize) :
    ¬ object.Waits s (i, .push x) := by
  refine CallObject.not_waits_of_invariant (I := InTryPush s i x) (fun _ hstart => .start h hstart)
    (fun _ _ hin hstep => hin.step h hstep) fun s₁ hin hnone => ?_
  obtain ⟨s₂, hstep⟩ := hin.goes h hroom (Option.map_eq_none_iff.1 hnone)
  exact ⟨s₂, .inl hstep⟩

/-- A push into a ring whose slots are all taken comes to wait for one of them. -/
lemma Holds.tryPush_waits (h : s.Holds items) (hfull : items.length = ringBufferSize) :
    object.Waits s (i, .push x) := by
  have hnotFull := h.not_full
  have htaken : (s.slot (normilizeRingSlot s.head)).value ≠ maxValue := by
    rw [← slotOf, Ne, h.slot_head, hfull]
    exact lt_irrefl _
  refine ⟨(s.claimHead i x).goto i (.pushWait x s.head (s.slotOf s.head).value),
    inside_of_run (n := 4) ?_, ?_, fun s₂ hs₂ => ?_⟩
  · simp [System.run, ringSystem, RingState.step, startAction, next, h.idle, hnotFull, htaken, goto,
      claimHead, slotOf, List.replicate]
  · simp [object, resultOf, goto]
  · simp [object, RingState.step, next, goto, claimHead, slotOf] at hs₂

/-- A pop, if it returns, has taken the first index or has found none. -/
lemma Holds.tryPop_returns (h : s.Holds items) {r : FifoResult ℕ}
    (hreturns : object.Returns s (i, .pop) r s₂) :
    r = .popped items.head? ∧ s₂.Holds items.tail := by
  obtain ⟨s₁, hs₁, hresult⟩ := hreturns
  obtain ⟨r', hover, heq⟩ := Option.map_eq_some_iff.1 hresult
  obtain ⟨rfl, rfl⟩ := Prod.mk.inj heq
  exact (inside_tryPop h hs₁).over h hover

/-- A pop does return. -/
lemma Holds.tryPop_exists (h : s.Holds items) : ∃ r s', object.Returns s (i, .pop) r s' := by
  by_cases hempty : SameCounter s.tail s.head
  · refine ⟨.popped none, s, s.goto i (.popped none), inside_of_run (n := 2) ?_, ?_⟩
    · simp [System.run, ringSystem, RingState.step, startAction, next, h.idle, hempty, goto,
        List.replicate]
    · simp only [object, goto_idle (h.idle i)]
      simp [resultOf, goto]
  · cases items with
    | nil => exact absurd (h.sameCounter_iff.2 rfl) hempty
    | cons x xs =>
      have hvalue : (s.slot (normilizeRingSlot s.tail)).value ≠ maxValue := by
        rw [← slotOf, h.slot_tail]
        exact h.indices x List.mem_cons_self
      let s₁ : RingState := { s.touch i (.popped (some (s.slotOf s.tail).value)) s.tail
          { value := maxValue, turn := (s.slotOf s.tail).turn + 2 } with
        tail := s.tail + 1
        returned := s.returned ++ [(s.tail, (s.slotOf s.tail).value)] }
      refine ⟨.popped (some (s.slotOf s.tail).value), s₁.goto i .idle, s₁,
        inside_of_run (n := 5) ?_, ?_⟩
      · simp [System.run, ringSystem, RingState.step, startAction, next, h.idle, hempty, hvalue,
          goto, claimTail, slotOf, touch, s₁, List.replicate]
      · simp [object, resultOf, touch, s₁]

lemma Holds.tryPop_not_waits (h : s.Holds items) : ¬ object.Waits s (i, .pop) := by
  refine CallObject.not_waits_of_invariant (I := InTryPop s i) (fun _ hstart => .start h hstart)
    (fun _ _ hin hstep => hin.step h hstep) fun s₁ hs₁ hnone => ?_
  cases hs₁ with
  | empty | popped => simp [object, resultOf, goto, touch] at hnone
  | loadTail => exact ⟨_, .inl (by simp [RingState.step, next, goto]; rfl)⟩
  | loadHead =>
    by_cases hempty : SameCounter s.tail s.head
    · exact ⟨_, .inl (by simp [RingState.step, next, goto, hempty]; rfl)⟩
    · exact ⟨_, .inl (by simp [RingState.step, next, goto, hempty]; rfl)⟩
  | claim => exact ⟨_, .inl (by simp [RingState.step, next, goto]; rfl)⟩
  | check hne =>
    cases items with
    | nil => exact absurd (h.sameCounter_iff.2 rfl) hne
    | cons x xs =>
      have hvalue : (s.slot (normilizeRingSlot s.tail)).value ≠ maxValue := by
        rw [← slotOf, h.slot_tail]
        exact h.indices x List.mem_cons_self
      exact ⟨_, .inl (by simp [RingState.step, next, claimTail, slotOf, hvalue]; rfl)⟩
  | exchange => exact ⟨_, .inl (by simp [RingState.step, next, claimTail, touch]; rfl)⟩

end RingState

end BattleShips
