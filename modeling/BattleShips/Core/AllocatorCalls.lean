import BattleShips.Core.AllocatorPool
import BattleShips.Core.RingBufferCalls

/-!
# The allocator, call after call

Calls of `allocate` and `deallocate` that do not overlap. A call of `allocate` takes the index that
has been free for longest, and one that has never been issued if there is none.
-/

namespace BattleShips

open Function Relation

inductive AllocatorCall
  | allocate
  | deallocate (indexToFree : ℕ)
  deriving DecidableEq

inductive AllocatorResult
  | allocated (index : Option ℕ)
  | deallocated
  deriving DecidableEq

/-- The index that a thread is about to issue. -/
def AllocatorPc.newIndex : AllocatorPc → Option ℕ
  | .loadEnd n | .tryAcquire n _ | .loadNodeEnd n | .protect n _ | .fetchAdd n | .release n
  | .wait n _ | .exchange n => some n
  | _ => none

namespace AllocatorState

variable {layout : AllocatorLayout} {s s₁ s₂ : AllocatorState} {freed : List ℕ} {i x : ℕ}
  {pc : AllocatorPc} {a : RingAction}

def startAction : AllocatorCall → AllocatorAction
  | .allocate => .allocate
  | .deallocate x => .deallocate x

/-- What the call of a thread has returned, and the pool that it leaves. -/
def resultOf (layout : AllocatorLayout) (s : AllocatorState) (i : ℕ) :
    AllocatorCall → Option (AllocatorResult × AllocatorState)
  | .allocate => match s.thread i with
    | .allocated index => (s.step layout (i, .leave)).map fun s' => (.allocated index, s')
    | _ => none
  | .deallocate _ => match s.thread i with
    | .idle => some (.deallocated, s)
    | _ => none

/-- The pool as an object whose calls do not overlap. -/
def object (layout : AllocatorLayout) :
    CallObject AllocatorState (ℕ × AllocatorCall) AllocatorResult where
  start s c := s.step layout (c.1, startAction c.2)
  step c s s' := s.step layout (c.1, .next) = some s' ∨ s.step layout (c.1, .fail) = some s'
  result c s := s.resultOf layout c.1 c.2

/-- No thread is in a call, and these are the indices in `free_indexes_queue`. -/
structure Holds (s : AllocatorState) (freed : List ℕ) : Prop where
  idle : ∀ i, s.thread i = .idle
  queue : s.freeIndexesQueue.Holds freed

lemma holds_initial : Holds {} [] where
  idle _ := rfl
  queue := RingState.holds_initial

lemma queueStep_eq_some : s.queueStep i a pc = some s₁ ↔
    ∃ q, s.freeIndexesQueue.step (i, a) = some q ∧
      { s.goto i pc with freeIndexesQueue := q } = s₁ := by
  simp [queueStep]

lemma inside_of_run {c : AllocatorCall} {n : ℕ}
    (h : (allocatorSystem layout).run s ((i, startAction c) :: List.replicate n (i, .next)) =
      some s₁) : (object layout).Inside s (i, c) s₁ := by
  obtain ⟨s₀, hstart, hrun⟩ := Option.bind_eq_some_iff.1 h
  refine ⟨s₀, hstart, ?_⟩
  clear h hstart
  induction n generalizing s₀ with
  | zero =>
    obtain rfl : s₀ = s₁ := by simpa [System.run] using hrun
    exact .refl
  | succ n ih =>
    obtain ⟨s₂, hstep, hrun⟩ := Option.bind_eq_some_iff.1 hrun
    exact .head (.inl hstep) (ih s₂ hrun)

/-! ### `deallocate` -/

/-- A thread in `deallocate`. -/
inductive InDeallocate (s : AllocatorState) (i x : ℕ) (s₁ : AllocatorState) : Prop
  | queue (hthread : s₁.thread = update s.thread i (.inTryPush x))
      (hin : RingState.InTryPush s.freeIndexesQueue i x s₁.freeIndexesQueue)
      (hlast : s₁.lastNotIssuedIndex = s.lastNotIssuedIndex)
  | done (hthread : s₁.thread = update s.thread i .idle)
      (hqueue : s₁.freeIndexesQueue = s.freeIndexesQueue.afterTryPush i x)
      (hlast : s₁.lastNotIssuedIndex = s.lastNotIssuedIndex)

lemma InDeallocate.start (h : s.Holds freed)
    (hstart : s.step layout (i, .deallocate x) = some s₁) : InDeallocate s i x s₁ := by
  simp only [step, h.idle i] at hstart
  obtain ⟨q, hq, rfl⟩ := queueStep_eq_some.1 hstart
  exact .queue rfl (.start h.queue hq) rfl

lemma InDeallocate.step (h : s.Holds freed) (hin : InDeallocate s i x s₁)
    (hstep : s₁.step layout (i, .next) = some s₂ ∨ s₁.step layout (i, .fail) = some s₂) :
    InDeallocate s i x s₂ := by
  cases hin with
  | queue hthread hin hlast =>
    have hpc : s₁.thread i = .inTryPush x := by rw [hthread, update_self]
    rcases hstep with hstep | hstep
    · simp only [AllocatorState.step, next, hpc] at hstep
      cases hover : RingState.resultOf (s₁.freeIndexesQueue.thread i) with
      | some r =>
        -- the call of `try_push` has returned
        obtain ⟨rfl, hqueue, -⟩ := hin.over h.queue hover
        cases hq : s₁.freeIndexesQueue.thread i with
        | pushed accepted =>
          obtain rfl : accepted = true := by simpa [hq, RingState.resultOf] using hover
          simp only [hq] at hstep
          obtain ⟨q, hleave, rfl⟩ := queueStep_eq_some.1 hstep
          obtain rfl : s₁.freeIndexesQueue.goto i .idle = q := by
            simpa [RingState.step, hq] using hleave
          exact .done (by simp [AllocatorState.goto, hthread]) hqueue hlast
        | _ => simp [hq, RingState.resultOf] at hover
      | none =>
        have hstep' : s₁.queueStep i .next (.inTryPush x) = some s₂ := by
          cases hq : s₁.freeIndexesQueue.thread i with
          | pushed accepted => simp [hq, RingState.resultOf] at hover
          | _ => simpa [hq] using hstep
        obtain ⟨q, hq, rfl⟩ := queueStep_eq_some.1 hstep'
        exact .queue (by simp [AllocatorState.goto, hthread]) (hin.step h.queue (.inl hq)) hlast
    · simp only [AllocatorState.step, hpc] at hstep
      obtain ⟨q, hq, rfl⟩ := queueStep_eq_some.1 hstep
      exact .queue (by simp [AllocatorState.goto, hthread]) (hin.step h.queue (.inr hq)) hlast
  | done hthread hqueue hlast =>
    have hpc : s₁.thread i = .idle := by rw [hthread, update_self]
    simp [AllocatorState.step, next, hpc] at hstep

lemma inside_deallocate (h : s.Holds freed)
    (hs₁ : (object layout).Inside s (i, .deallocate x) s₁) : InDeallocate s i x s₁ :=
  hs₁.invariant (fun s₀ hstart => .start h (show s.step layout _ = some s₀ from hstart))
    fun _ _ hin hstep => hin.step h hstep

/-- What `try_push` comes to, the call of `deallocate` does. -/
lemma inside_tryPush (h : s.Holds freed) {q : RingState}
    (hq : RingState.object.Inside s.freeIndexesQueue (i, .push x) q) :
    (object layout).Inside s (i, .deallocate x)
      { s.goto i (.inTryPush x) with freeIndexesQueue := q } := by
  obtain ⟨q₀, hstart, hrun⟩ := hq
  refine ⟨{ s.goto i (.inTryPush x) with freeIndexesQueue := q₀ }, ?_, ?_⟩
  · simp only [object, startAction, step, h.idle i]
    exact queueStep_eq_some.2 ⟨q₀, hstart, rfl⟩
  · refine hrun.lift (fun q => { s.goto i (.inTryPush x) with freeIndexesQueue := q }) ?_
    intro q q' hstep
    refine hstep.imp (fun hnext => ?_) fun hfail => ?_
    · simp only [step, next, AllocatorState.goto, update_self]
      have hnext' : RingState.step q (i, .next) = some q' := hnext
      cases hpc : q.thread i with
      | pushed => simp [RingState.step, RingState.next, hpc] at hnext'
      | _ => exact queueStep_eq_some.2 ⟨q', hnext, by simp [AllocatorState.goto]⟩
    · simp only [step, AllocatorState.goto, update_self]
      exact queueStep_eq_some.2 ⟨q', hfail, by simp [AllocatorState.goto]⟩

/-- A call of `deallocate` that returns has put its index at the end. -/
lemma Holds.deallocate_returns (h : s.Holds freed) (hroom : freed.length < ringBufferSize)
    (hx : x ≠ maxValue) {r : AllocatorResult}
    (hreturns : (object layout).Returns s (i, .deallocate x) r s₂) :
    r = .deallocated ∧ s₂.lastNotIssuedIndex = s.lastNotIssuedIndex ∧ s₂.Holds (freed ++ [x]) := by
  obtain ⟨s₁, hs₁, hresult⟩ := hreturns
  cases inside_deallocate h hs₁ with
  | queue hthread => simp [object, resultOf, hthread] at hresult
  | done hthread hqueue hlast =>
    simp only [object, resultOf, hthread, update_self, Option.some.injEq, Prod.mk.injEq] at hresult
    obtain ⟨rfl, rfl⟩ := hresult
    refine ⟨rfl, hlast, ?_, hqueue ▸ h.queue.afterTryPush hroom hx⟩
    intro j
    rcases eq_or_ne j i with rfl | hne
    · rw [hthread, update_self]
    · rw [hthread, update_of_ne hne, h.idle j]

/-- With fewer than 4096 free indices it does return. -/
lemma Holds.deallocate_exists (h : s.Holds freed) (hroom : freed.length < ringBufferSize) :
    ∃ s', (object layout).Returns s (i, .deallocate x) .deallocated s' := by
  obtain ⟨q, hq, hresult⟩ := h.queue.tryPush_accepted hroom (i := i) (x := x)
  obtain ⟨r, hover, -⟩ := Option.map_eq_some_iff.1 hresult
  obtain ⟨rfl, -⟩ := (RingState.inside_tryPush h.queue hq).over h.queue hover
  have hpc : q.thread i = .pushed true := by
    cases hpc : q.thread i with
    | pushed accepted => simpa [RingState.resultOf, hpc] using hover
    | _ => simp [RingState.resultOf, hpc] at hover
  have hinside : (object layout).Inside s (i, .deallocate x)
      { s.goto i (.inTryPush x) with freeIndexesQueue := q } := inside_tryPush h hq
  obtain ⟨s₁, hstart, hrun⟩ := hinside
  let s' : AllocatorState := { s.goto i .idle with freeIndexesQueue := q.goto i .idle }
  refine ⟨s', s', ⟨s₁, hstart, hrun.tail (.inl ?_)⟩, ?_⟩
  · simp [step, next, AllocatorState.goto, hpc, queueStep, RingState.step, s']
  · simp [object, resultOf, AllocatorState.goto, s']

lemma Holds.deallocate_not_waits (h : s.Holds freed) (hroom : freed.length < ringBufferSize) :
    ¬ (object layout).Waits s (i, .deallocate x) := by
  refine CallObject.not_waits_of_invariant (I := InDeallocate s i x)
    (fun s₀ hstart => .start h (show s.step layout _ = some s₀ from hstart))
    (fun _ _ hin hstep => hin.step h hstep) fun s₁ hin hnone => ?_
  cases hin with
  | done hthread => simp [object, resultOf, hthread] at hnone
  | queue hthread hin =>
    have hpc : s₁.thread i = .inTryPush x := by rw [hthread, update_self]
    cases hover : RingState.resultOf (s₁.freeIndexesQueue.thread i) with
    | some r =>
      obtain ⟨rfl, -⟩ := hin.over h.queue hover
      cases hq : s₁.freeIndexesQueue.thread i with
      | pushed accepted =>
        obtain rfl : accepted = true := by simpa [hq, RingState.resultOf] using hover
        exact ⟨_, .inl (by simp [step, next, hpc, hq, queueStep, RingState.step]; rfl)⟩
      | _ => simp [hq, RingState.resultOf] at hover
    | none =>
      obtain ⟨q, hstep⟩ := hin.goes h.queue hroom hover
      refine ⟨{ s₁.goto i (.inTryPush x) with freeIndexesQueue := q }, .inl ?_⟩
      simp only [step, next, hpc]
      cases hq : s₁.freeIndexesQueue.thread i with
      | pushed => simp [hq, RingState.resultOf] at hover
      | _ => exact queueStep_eq_some.2 ⟨q, hstep, rfl⟩

/-- With 4096 free indices, it comes to wait. -/
lemma Holds.deallocate_waits (h : s.Holds freed) (hfull : freed.length = ringBufferSize) :
    (object layout).Waits s (i, .deallocate x) := by
  obtain ⟨q, hq, hnone, hstuck⟩ := h.queue.tryPush_waits hfull (i := i) (x := x)
  refine ⟨_, inside_tryPush h hq, ?_, ?_⟩
  · simp [object, resultOf, AllocatorState.goto]
  · intro s₂ hs₂
    have hover : RingState.resultOf (q.thread i) = none := Option.map_eq_none_iff.1 hnone
    have hnext : q.step (i, .next) = none := by
      cases hstep : q.step (i, .next) with
      | none => rfl
      | some q' => exact absurd (.inl hstep) (hstuck q')
    have hfail : q.step (i, .fail) = none := by
      cases hstep : q.step (i, .fail) with
      | none => rfl
      | some q' => exact absurd (.inr hstep) (hstuck q')
    rcases hs₂ with hs₂ | hs₂
    · simp only [step, next, AllocatorState.goto, update_self] at hs₂
      cases hpc : q.thread i with
      | pushed => simp [RingState.resultOf, hpc] at hover
      | _ => simp [hpc, queueStep, hnext] at hs₂
    · simp [step, AllocatorState.goto, queueStep, hfail] at hs₂

/-! ### `allocate` -/

/-- A thread in `allocate`. -/
inductive InAllocate (s : AllocatorState) (i : ℕ) (freed : List ℕ) (s₁ : AllocatorState) : Prop
  | queue (hthread : s₁.thread = update s.thread i .inTryPop)
      (hin : RingState.InTryPop s.freeIndexesQueue i s₁.freeIndexesQueue)
      (hlast : s₁.lastNotIssuedIndex = s.lastNotIssuedIndex)
  | recycled (index : ℕ) (hthread : s₁.thread = update s.thread i (.allocated (some index)))
      (hhead : freed.head? = some index) (hqueue : s₁.freeIndexesQueue.Holds freed.tail)
      (hlast : s₁.lastNotIssuedIndex = s.lastNotIssuedIndex)
  | issuing (pc : AllocatorPc) (hthread : s₁.thread = update s.thread i pc)
      (hpc : pc = .loadIndex ∨
        pc.newIndex = some s.lastNotIssuedIndex ∧ s.lastNotIssuedIndex ≤ ringBufferSize)
      (hnil : freed = []) (hqueue : s₁.freeIndexesQueue.Holds [])
      (hlast : s₁.lastNotIssuedIndex = s.lastNotIssuedIndex)
  | issued (hthread : s₁.thread = update s.thread i (.allocated (some s.lastNotIssuedIndex)))
      (hnil : freed = []) (hqueue : s₁.freeIndexesQueue.Holds [])
      (hle : s.lastNotIssuedIndex ≤ ringBufferSize)
      (hlast : s₁.lastNotIssuedIndex = s.lastNotIssuedIndex + 1)
  | refused (hthread : s₁.thread = update s.thread i (.allocated none))
      (hnil : freed = []) (hqueue : s₁.freeIndexesQueue.Holds [])
      (hlt : ringBufferSize < s.lastNotIssuedIndex)
      (hlast : s₁.lastNotIssuedIndex = s.lastNotIssuedIndex)

namespace InAllocate

lemma start (h : s.Holds freed) (hstart : s.step layout (i, .allocate) = some s₁) :
    InAllocate s i freed s₁ := by
  simp only [AllocatorState.step, h.idle i] at hstart
  obtain ⟨q, hq, rfl⟩ := queueStep_eq_some.1 hstart
  exact .queue rfl (.start h.queue hq) rfl

/-- A step in `free_indexes_queue`, or the return from there. -/
lemma step_queue (h : s.Holds freed) (hthread : s₁.thread = update s.thread i .inTryPop)
    (hin : RingState.InTryPop s.freeIndexesQueue i s₁.freeIndexesQueue)
    (hlast : s₁.lastNotIssuedIndex = s.lastNotIssuedIndex)
    (hstep : s₁.step layout (i, .next) = some s₂) : InAllocate s i freed s₂ := by
  have hpc : s₁.thread i = .inTryPop := by rw [hthread, update_self]
  simp only [AllocatorState.step, next, hpc] at hstep
  cases hover : RingState.resultOf (s₁.freeIndexesQueue.thread i) with
  | some r =>
    obtain ⟨rfl, hqueue⟩ := hin.over h.queue hover
    cases hq : s₁.freeIndexesQueue.thread i with
    | popped result =>
      obtain rfl : result = freed.head? := by simpa [hq, RingState.resultOf] using hover
      cases hhead : freed.head? with
      | none =>
        obtain rfl : freed = [] := List.head?_eq_none_iff.1 hhead
        simp only [hq, hhead] at hstep
        obtain ⟨q, hleave, rfl⟩ := queueStep_eq_some.1 hstep
        obtain rfl : s₁.freeIndexesQueue.goto i .idle = q := by
          simpa [RingState.step, hq] using hleave
        exact .issuing .loadIndex (by simp [AllocatorState.goto, hthread]) (.inl rfl) rfl hqueue
          hlast
      | some index =>
        simp only [hq, hhead] at hstep
        obtain ⟨q, hleave, rfl⟩ := queueStep_eq_some.1 hstep
        obtain rfl : s₁.freeIndexesQueue.goto i .idle = q := by
          simpa [RingState.step, hq] using hleave
        exact .recycled index (by simp [AllocatorState.goto, hthread]) hhead hqueue hlast
    | _ => simp [hq, RingState.resultOf] at hover
  | none =>
    have hstep' : s₁.queueStep i .next .inTryPop = some s₂ := by
      cases hq : s₁.freeIndexesQueue.thread i with
      | popped result => simp [hq, RingState.resultOf] at hover
      | _ => simpa [hq] using hstep
    obtain ⟨q, hq, rfl⟩ := queueStep_eq_some.1 hstep'
    exact .queue (by simp [AllocatorState.goto, hthread]) (hin.step h.queue (.inl hq)) hlast

/-- A thread goes on with the last index that has not been issued. -/
lemma tryIndex (hthread : s₁.thread = update s.thread i pc) (hnil : freed = [])
    (hqueue : s₁.freeIndexesQueue.Holds [])
    (hlast : s₁.lastNotIssuedIndex = s.lastNotIssuedIndex) :
    InAllocate s i freed (s₁.goto i (AllocatorState.tryIndex s₁.lastNotIssuedIndex)) := by
  rw [hlast, AllocatorState.tryIndex]
  split_ifs with hlt
  · exact .refused (by simp [AllocatorState.goto, hthread]) hnil hqueue hlt hlast
  · exact .issuing (.loadEnd _) (by simp [AllocatorState.goto, hthread])
      (.inr ⟨rfl, not_lt.1 hlt⟩) hnil hqueue hlast

lemma step_issuing (hthread : s₁.thread = update s.thread i pc)
    (hpc : pc = .loadIndex ∨
      pc.newIndex = some s.lastNotIssuedIndex ∧ s.lastNotIssuedIndex ≤ ringBufferSize)
    (hnil : freed = []) (hqueue : s₁.freeIndexesQueue.Holds [])
    (hlast : s₁.lastNotIssuedIndex = s.lastNotIssuedIndex)
    (hstep : s₁.step layout (i, .next) = some s₂ ∨ s₁.step layout (i, .fail) = some s₂) :
    InAllocate s i freed s₂ := by
  have hi : s₁.thread i = pc := by rw [hthread, update_self]
  rcases hpc with rfl | ⟨hindex, hle⟩
  · obtain rfl : s₁.goto i (AllocatorState.tryIndex s₁.lastNotIssuedIndex) = s₂ := by
      simpa [AllocatorState.step, next, hi] using hstep
    exact tryIndex hthread hnil hqueue hlast
  · have hgo : ∀ pc' (s' : AllocatorState), pc'.newIndex = some s.lastNotIssuedIndex →
        s'.thread = update s₁.thread i pc' → s'.freeIndexesQueue = s₁.freeIndexesQueue →
        s'.lastNotIssuedIndex = s₁.lastNotIssuedIndex → InAllocate s i freed s' := by
      intro pc' s' hpc' hthread' hqueue' hlast'
      exact .issuing pc' (by simp [hthread', hthread]) (.inr ⟨hpc', hle⟩) hnil
        (hqueue' ▸ hqueue) (hlast'.trans hlast)
    cases pc with
    | loadEnd n =>
      simp only [AllocatorState.step, next, hi, reduceCtorEq, or_false] at hstep
      split_ifs at hstep
      · obtain rfl := Option.some.inj hstep
        exact hgo (.tryAcquire n s₁.actualMemoryEnd) _ hindex rfl rfl rfl
      · obtain rfl := Option.some.inj hstep
        exact hgo (.exchange n) _ hindex rfl rfl rfl
    | tryAcquire n e =>
      simp only [AllocatorState.step, next, hi] at hstep
      split_ifs at hstep with hfree
      · rcases hstep with hstep | hstep
        · obtain rfl := Option.some.inj hstep
          exact hgo (.loadNodeEnd n) _ hindex rfl rfl rfl
        · obtain rfl := Option.some.inj hstep
          exact hgo (.wait n e) _ hindex rfl rfl rfl
      · obtain rfl := Option.some.inj (or_self_iff.1 hstep)
        exact hgo (.wait n e) _ hindex rfl rfl rfl
    | loadNodeEnd n =>
      simp only [AllocatorState.step, next, hi, reduceCtorEq, or_false] at hstep
      obtain rfl := Option.some.inj hstep
      exact hgo (.protect n s₁.actualMemoryEnd) _ hindex rfl rfl rfl
    | protect n e =>
      simp only [AllocatorState.step, next, hi, reduceCtorEq, or_false] at hstep
      obtain rfl := Option.some.inj hstep
      exact hgo (.fetchAdd n) _ hindex rfl rfl rfl
    | fetchAdd n =>
      simp only [AllocatorState.step, next, hi, reduceCtorEq, or_false] at hstep
      obtain rfl := Option.some.inj hstep
      exact hgo (.release n) _ hindex rfl rfl rfl
    | release n =>
      simp only [AllocatorState.step, next, hi, reduceCtorEq, or_false] at hstep
      obtain rfl := Option.some.inj hstep
      exact hgo (.exchange n) _ hindex rfl rfl rfl
    | wait n e =>
      simp only [AllocatorState.step, next, hi, reduceCtorEq, or_false] at hstep
      split_ifs at hstep
      obtain rfl := Option.some.inj hstep
      exact hgo (.exchange n) _ hindex rfl rfl rfl
    | exchange n =>
      obtain rfl : n = s.lastNotIssuedIndex := Option.some.inj hindex
      rcases hstep with hstep | hstep
      · simp only [AllocatorState.step, next, hi, hlast, if_true] at hstep
        obtain rfl := Option.some.inj hstep
        exact .issued (by simp [AllocatorState.goto, hthread]) hnil hqueue hle rfl
      · simp only [AllocatorState.step, hi] at hstep
        obtain rfl := Option.some.inj hstep
        exact tryIndex hthread hnil hqueue hlast
    | _ => cases hindex

lemma step (h : s.Holds freed) (hin : InAllocate s i freed s₁)
    (hstep : s₁.step layout (i, .next) = some s₂ ∨ s₁.step layout (i, .fail) = some s₂) :
    InAllocate s i freed s₂ := by
  cases hin with
  | queue hthread hin hlast =>
    rcases hstep with hstep | hstep
    · exact step_queue h hthread hin hlast hstep
    · have hpc : s₁.thread i = .inTryPop := by rw [hthread, update_self]
      simp only [AllocatorState.step, hpc] at hstep
      obtain ⟨q, hq, rfl⟩ := queueStep_eq_some.1 hstep
      exact .queue (by simp [AllocatorState.goto, hthread]) (hin.step h.queue (.inr hq)) hlast
  | issuing pc hthread hpc hnil hqueue hlast =>
    exact step_issuing hthread hpc hnil hqueue hlast hstep
  | recycled index hthread => simp [AllocatorState.step, next, hthread] at hstep
  | issued hthread => simp [AllocatorState.step, next, hthread] at hstep
  | refused hthread => simp [AllocatorState.step, next, hthread] at hstep

end InAllocate

lemma inside_allocate (h : s.Holds freed) (hs₁ : (object layout).Inside s (i, .allocate) s₁) :
    InAllocate s i freed s₁ :=
  hs₁.invariant (fun s₀ hstart => .start h (show s.step layout _ = some s₀ from hstart))
    fun _ _ hin hstep => hin.step h hstep

/-- What a call of `allocate` returns, and which indices are free afterwards. -/
inductive Allocates (s : AllocatorState) (freed : List ℕ) (s' : AllocatorState) :
    Option ℕ → Prop
  | recycled (x : ℕ) (xs : List ℕ) (hfreed : freed = x :: xs) (hholds : s'.Holds xs)
      (hlast : s'.lastNotIssuedIndex = s.lastNotIssuedIndex) : Allocates s freed s' (some x)
  | issued (hnil : freed = []) (hle : s.lastNotIssuedIndex ≤ ringBufferSize) (hholds : s'.Holds [])
      (hlast : s'.lastNotIssuedIndex = s.lastNotIssuedIndex + 1) :
      Allocates s freed s' (some s.lastNotIssuedIndex)
  | refused (hnil : freed = []) (hlt : ringBufferSize < s.lastNotIssuedIndex)
      (hholds : s'.Holds []) (hlast : s'.lastNotIssuedIndex = s.lastNotIssuedIndex) :
      Allocates s freed s' none

lemma Holds.allocate_returns (h : s.Holds freed) {r : AllocatorResult}
    (hreturns : (object layout).Returns s (i, .allocate) r s₂) :
    ∃ index, r = .allocated index ∧ Allocates s freed s₂ index := by
  obtain ⟨s₁, hs₁, hresult⟩ := hreturns
  have hidle : ∀ pc, update (update s.thread i pc) i .idle = s.thread := by
    intro pc
    rw [update_idem, ← h.idle i, update_eq_self]
  cases inside_allocate h hs₁ with
  | queue hthread => simp [object, resultOf, hthread] at hresult
  | issuing pc hthread hpc =>
    have hnot : ∀ index, pc ≠ .allocated index := by
      rintro index rfl
      simp [AllocatorPc.newIndex] at hpc
    cases pc with
    | allocated index => exact absurd rfl (hnot index)
    | _ => simp [object, resultOf, hthread] at hresult
  | recycled index hthread hhead hqueue hlast =>
    simp only [object, resultOf, AllocatorState.step, hthread, update_self, Option.map_some,
      Option.some.injEq, Prod.mk.injEq] at hresult
    obtain ⟨rfl, rfl⟩ := hresult
    obtain ⟨xs, rfl⟩ := List.head?_eq_some_iff.1 hhead
    refine ⟨_, rfl, .recycled index xs rfl ⟨?_, hqueue⟩ hlast⟩
    intro j
    simp [AllocatorState.goto, hthread, hidle, h.idle]
  | issued hthread hnil hqueue hle hlast =>
    simp only [object, resultOf, AllocatorState.step, hthread, update_self, Option.map_some,
      Option.some.injEq, Prod.mk.injEq] at hresult
    obtain ⟨rfl, rfl⟩ := hresult
    refine ⟨_, rfl, .issued hnil hle ⟨?_, hqueue⟩ hlast⟩
    intro j
    simp [AllocatorState.goto, hthread, hidle, h.idle]
  | refused hthread hnil hqueue hlt hlast =>
    simp only [object, resultOf, AllocatorState.step, hthread, update_self, Option.map_some,
      Option.some.injEq, Prod.mk.injEq] at hresult
    obtain ⟨rfl, rfl⟩ := hresult
    refine ⟨_, rfl, .refused hnil hlt ⟨?_, hqueue⟩ hlast⟩
    intro j
    simp [AllocatorState.goto, hthread, hidle, h.idle]

@[simp] lemma goto_thread : (s.goto i pc).thread i = pc := update_self ..

@[simp] lemma goto_goto (pc' : AllocatorPc) : (s.goto i pc).goto i pc' = s.goto i pc' := by
  simp [AllocatorState.goto]

/-- A call that finds no free index loads the next one. -/
lemma Holds.inside_loadIndex (h : s.Holds []) :
    (object layout).Inside s (i, .allocate) (s.goto i .loadIndex) := by
  have hsame := h.queue.sameCounter_iff.2 rfl
  have hqueue := h.queue.idle i
  refine inside_of_run (n := 3) ?_
  simp [System.run, allocatorSystem, startAction, AllocatorState.step, next, h.idle, queueStep,
    RingState.step, RingState.next, hqueue, hsame, AllocatorState.goto, RingState.goto,
    List.replicate]
  rw [← hqueue, update_eq_self]

/-- The pool when a node has been allocated. -/
def grown (layout : AllocatorLayout) (s : AllocatorState) : AllocatorState :=
  { s with
    actualMemoryEnd := s.actualMemoryEnd + layout.memoryAmount
    accessible := fun address => s.accessible address ||
      (s.actualMemoryEnd ≤ address ∧ address < s.actualMemoryEnd + layout.memoryAmount) }

variable (layout) in
/-- With the permit free, it then comes to the exchange, with a new node or without one. -/
lemma Holds.inside_exchange (h : s.Holds []) (hfree : s.pageAllocationPermit = true)
    (hle : s.lastNotIssuedIndex ≤ ringBufferSize) : ∃ s' : AllocatorState,
      (object layout).Inside s (i, .allocate) (s'.goto i (.exchange s'.lastNotIssuedIndex)) ∧
      s'.lastNotIssuedIndex = s.lastNotIssuedIndex ∧ s'.pageAllocationPermit = true := by
  have hload : (object layout).Inside s (i, .allocate)
      (s.goto i (.loadEnd s.lastNotIssuedIndex)) := by
    refine h.inside_loadIndex.next (.inl ?_)
    simp [AllocatorState.step, next, tryIndex, not_lt.2 hle, AllocatorState.goto]
  by_cases hend : s.actualMemoryEnd ≤ (s.lastNotIssuedIndex + 1) * layout.chunkSize
  · let n := s.lastNotIssuedIndex
    let t := { s with pageAllocationPermit := false }
    have hacquire : (object layout).Inside s (i, .allocate)
        (s.goto i (.tryAcquire n s.actualMemoryEnd)) := by
      refine hload.next (.inl ?_)
      simp [AllocatorState.step, next, AllocatorState.goto, hend, n]
    have hacquired : (object layout).Inside s (i, .allocate) (t.goto i (.loadNodeEnd n)) := by
      refine hacquire.next (.inl ?_)
      simp [AllocatorState.step, next, AllocatorState.goto, hfree, t]
    have hloaded : (object layout).Inside s (i, .allocate)
        (t.goto i (.protect n s.actualMemoryEnd)) := by
      refine hacquired.next (.inl ?_)
      simp [AllocatorState.step, next, AllocatorState.goto, t]
    have hprotected : (object layout).Inside s (i, .allocate)
        ({ t with accessible := (s.grown layout).accessible }.goto i (.fetchAdd n)) := by
      refine hloaded.next (.inl ?_)
      simp [AllocatorState.step, next, AllocatorState.goto, grown, t]
    have hgrown : (object layout).Inside s (i, .allocate)
        ((t.grown layout).goto i (.release n)) := by
      refine hprotected.next (.inl ?_)
      simp [AllocatorState.step, next, AllocatorState.goto, grown, t]
    refine ⟨s.grown layout, hgrown.next (.inl ?_), rfl, hfree⟩
    simp [AllocatorState.step, next, AllocatorState.goto, grown, hfree, t, n]
  · refine ⟨s, hload.next (.inl ?_), rfl, hfree⟩
    simp [AllocatorState.step, next, AllocatorState.goto, hend]

/-- With no free index and the permit free, a call that nobody interferes with returns. -/
lemma Holds.allocate_exists (h : s.Holds []) (hfree : s.pageAllocationPermit = true) :
    ∃ index s', (object layout).Returns s (i, .allocate) (.allocated index) s' ∧
      s'.pageAllocationPermit = true := by
  by_cases hle : s.lastNotIssuedIndex ≤ ringBufferSize
  · obtain ⟨s', hinside, hlast, hfree'⟩ := h.inside_exchange layout (i := i) hfree hle
    let n := s'.lastNotIssuedIndex
    let s₁ : AllocatorState :=
      { s'.goto i (.allocated (some n)) with lastNotIssuedIndex := n + 1 }
    refine ⟨some n, { s₁.goto i .idle with returned := s₁.returned ++ [n] },
      ⟨s₁, hinside.next (.inl ?_), ?_⟩, hfree'⟩
    · simp [AllocatorState.step, next, AllocatorState.goto, s₁, n]
    · simp [object, resultOf, AllocatorState.step, AllocatorState.goto, s₁]
  · refine ⟨none, s.goto i .idle, ⟨s.goto i (.allocated none),
      h.inside_loadIndex.next (.inl ?_), ?_⟩, hfree⟩
    · simp [AllocatorState.step, next, tryIndex, not_le.1 hle, AllocatorState.goto]
    · simp [object, resultOf, AllocatorState.step, AllocatorState.goto]

end AllocatorState

end BattleShips
