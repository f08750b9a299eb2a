import BattleShips.Properties.FirstAllocation

/-!
# Waiting for a page

A thread that finds the memory to end too early, and that another thread has the permit, waits for
the end to differ from the one it has seen. The end is moved before the permit is given back: a
thread that sees the new end in between, and needs another page, fails to get the permit as well and
waits for something that nobody is about to do.
-/

namespace BattleShips

open Function

variable {layout : AllocatorLayout} {s s' : AllocatorState} {i j n e : ℕ} {pc : AllocatorPc}
  {a : AllocatorAction}

/-- The thread has the permit and has not moved the end of the memory. -/
def AllocatorPc.beforeFetchAdd : AllocatorPc → Bool
  | .loadNodeEnd _ | .protect _ _ | .fetchAdd _ => true
  | _ => false

/-- The end of the memory that the thread has seen, if that depends on the permit. -/
def AllocatorPc.seenEnd : AllocatorPc → Option ℕ
  | .tryAcquire _ e | .wait _ e => some e
  | _ => none

namespace AllocatorState

/-- Whoever waits for the memory to grow has somebody who is about to let it grow. -/
def WaitsForGrower (s : AllocatorState) : Prop :=
  ∀ i n e, s.thread i = .wait n e → s.actualMemoryEnd = e →
    ∃ j, (s.thread j).beforeFetchAdd = true

/-- Attempts to acquire the permit fail only while a thread has it. -/
def FailsOnlyIfHeld (s : AllocatorState) (a : ℕ × AllocatorAction) : Prop :=
  ∀ n e, s.thread a.1 = .tryAcquire n e → a.2 = .fail → s.pageAllocationPermit = false

/-- And those that do fail, while the end is the one that the thread has seen, do not fail because
of a thread that has moved the end and not given the permit back. -/
structure FailsInTime (s : AllocatorState) (a : ℕ × AllocatorAction) : Prop where
  held : s.FailsOnlyIfHeld a
  inTime : ∀ n e, s.thread a.1 = .tryAcquire n e → s.pageAllocationPermit = false →
    s.actualMemoryEnd = e → ∀ j m, s.thread j ≠ .release m

/-! ### What a step does to the memory -/

/-- A step of the thread `i`, as far as the end of the memory and the permit are concerned. -/
inductive Growth (layout : AllocatorLayout) (s : AllocatorState) (i : ℕ) (a : AllocatorAction)
    (s' : AllocatorState) : Prop
  /-- The thread has nothing to do with it. -/
  | elsewhere {pc : AllocatorPc} (hbefore : (s.thread i).growing = false)
      (hafter : pc.growing = false) (hseen : pc.seenEnd = none)
      (hthread : s'.thread = update s.thread i pc)
      (hend : s'.actualMemoryEnd = s.actualMemoryEnd)
      (hpermit : s'.pageAllocationPermit = s.pageAllocationPermit)
  | sees {n : ℕ} (hbefore : (s.thread i).growing = false)
      (hthread : s'.thread = update s.thread i (.tryAcquire n s.actualMemoryEnd))
      (hend : s'.actualMemoryEnd = s.actualMemoryEnd)
      (hpermit : s'.pageAllocationPermit = s.pageAllocationPermit)
  | acquires {n e : ℕ} (hbefore : s.thread i = .tryAcquire n e)
      (hthread : s'.thread = update s.thread i (.loadNodeEnd n))
      (hend : s'.actualMemoryEnd = s.actualMemoryEnd)
  | fails {n e : ℕ} (hbefore : s.thread i = .tryAcquire n e)
      (hwhy : s.pageAllocationPermit = false ∨ a = .fail)
      (hthread : s'.thread = update s.thread i (.wait n e))
      (hend : s'.actualMemoryEnd = s.actualMemoryEnd)
      (hpermit : s'.pageAllocationPermit = s.pageAllocationPermit)
  | prepares {pc : AllocatorPc} (hbefore : (s.thread i).beforeFetchAdd = true)
      (hafter : pc.beforeFetchAdd = true)
      (hthread : s'.thread = update s.thread i pc)
      (hend : s'.actualMemoryEnd = s.actualMemoryEnd)
  | grows {n : ℕ} (hthread : s'.thread = update s.thread i (.release n))
      (hend : s'.actualMemoryEnd = s.actualMemoryEnd + layout.memoryAmount)
  | releases {n : ℕ} (hbefore : s.thread i = .release n)
      (hthread : s'.thread = update s.thread i (.exchange n))
      (hend : s'.actualMemoryEnd = s.actualMemoryEnd) (hpermit : s'.pageAllocationPermit = true)

lemma Growth.queueStep {b : RingAction} (hbefore : (s.thread i).growing = false)
    (hafter : pc.growing = false) (hseen : pc.seenEnd = none)
    (hstep : s.queueStep i b pc = some s') : Growth layout s i a s' := by
  obtain ⟨q, -, rfl⟩ := Option.map_eq_some_iff.1 hstep
  exact .elsewhere hbefore hafter hseen rfl rfl rfl

lemma Growth.goto (hbefore : (s.thread i).growing = false)
    (hafter : pc.growing = false) (hseen : pc.seenEnd = none) :
    Growth layout s i a (s.goto i pc) := .elsewhere hbefore hafter hseen rfl rfl rfl

lemma Growth.tryIndex (hbefore : (s.thread i).growing = false) (n : ℕ) :
    Growth layout s i a (s.goto i (tryIndex n)) := by
  rw [AllocatorState.tryIndex]
  split_ifs
  · exact .goto hbefore rfl rfl
  · exact .goto hbefore rfl rfl

lemma growth_of_next (hstep : s.next layout i = some s') : Growth layout s i .next s' := by
  cases hpc : s.thread i with
  | idle | allocated => simp [next, hpc] at hstep
  | inTryPop =>
    have hbefore : (s.thread i).growing = false := by rw [hpc]; rfl
    simp only [next, hpc] at hstep
    cases hq : s.freeIndexesQueue.thread i with
    | popped index =>
      cases index with
      | none => exact .queueStep hbefore rfl rfl (by simpa [hq] using hstep)
      | some index => exact .queueStep hbefore rfl rfl (by simpa [hq] using hstep)
    | _ => exact .queueStep hbefore rfl rfl (by simpa [hq] using hstep)
  | loadIndex =>
    obtain rfl : s.goto i (AllocatorState.tryIndex s.lastNotIssuedIndex) = s' := by
      simpa [next, hpc] using hstep
    exact .tryIndex (by rw [hpc]; rfl) _
  | loadEnd n =>
    simp only [next, hpc] at hstep
    split_ifs at hstep
    · obtain rfl := Option.some.inj hstep
      exact .sees (by rw [hpc]; rfl) rfl rfl rfl
    · obtain rfl := Option.some.inj hstep
      exact .goto (by rw [hpc]; rfl) rfl rfl
  | tryAcquire n e =>
    simp only [next, hpc] at hstep
    split_ifs at hstep with hpermit
    · obtain rfl := Option.some.inj hstep
      exact .acquires hpc rfl rfl
    · obtain rfl := Option.some.inj hstep
      exact .fails hpc (.inl (by simpa using hpermit)) rfl rfl rfl
  | loadNodeEnd n =>
    obtain rfl : s.goto i (.protect n s.actualMemoryEnd) = s' := by simpa [next, hpc] using hstep
    exact .prepares (by rw [hpc]; rfl) rfl rfl rfl
  | protect n e =>
    simp only [next, hpc] at hstep
    obtain rfl := Option.some.inj hstep
    exact .prepares (by rw [hpc]; rfl) rfl rfl rfl
  | fetchAdd n =>
    simp only [next, hpc] at hstep
    obtain rfl := Option.some.inj hstep
    exact .grows rfl rfl
  | release n =>
    simp only [next, hpc] at hstep
    obtain rfl := Option.some.inj hstep
    exact .releases hpc rfl rfl rfl
  | wait n e =>
    simp only [next, hpc] at hstep
    split_ifs at hstep
    obtain rfl := Option.some.inj hstep
    exact .goto (by rw [hpc]; rfl) rfl rfl
  | exchange n =>
    simp only [next, hpc] at hstep
    split_ifs at hstep
    · obtain rfl := Option.some.inj hstep
      exact .elsewhere (by rw [hpc]; rfl) rfl rfl rfl rfl rfl
    · obtain rfl := Option.some.inj hstep
      exact .tryIndex (by rw [hpc]; rfl) _
  | inTryPush x =>
    have hbefore : (s.thread i).growing = false := by rw [hpc]; rfl
    simp only [next, hpc] at hstep
    cases hq : s.freeIndexesQueue.thread i with
    | pushed accepted =>
      cases accepted with
      | false => exact .queueStep hbefore rfl rfl (by simpa [hq] using hstep)
      | true => exact .queueStep hbefore rfl rfl (by simpa [hq] using hstep)
    | _ => exact .queueStep hbefore rfl rfl (by simpa [hq] using hstep)
  | callPush x =>
    have hbefore : (s.thread i).growing = false := by rw [hpc]; rfl
    exact .queueStep hbefore rfl rfl (by simpa [next, hpc] using hstep)
  | inPush =>
    have hbefore : (s.thread i).growing = false := by rw [hpc]; rfl
    simp only [next, hpc] at hstep
    cases hq : s.freeIndexesQueue.thread i with
    | pushed accepted => exact .queueStep hbefore rfl rfl (by simpa [hq] using hstep)
    | _ => exact .queueStep hbefore rfl rfl (by simpa [hq] using hstep)

lemma growth_of_step (hstep : s.step layout (i, a) = some s') : Growth layout s i a s' := by
  cases a with
  | next => exact growth_of_next hstep
  | allocate =>
    cases hpc : s.thread i with
    | idle => exact .queueStep (by rw [hpc]; rfl) rfl rfl (by simpa [step, hpc] using hstep)
    | _ => simp [step, hpc] at hstep
  | deallocate x =>
    cases hpc : s.thread i with
    | idle => exact .queueStep (by rw [hpc]; rfl) rfl rfl (by simpa [step, hpc] using hstep)
    | _ => simp [step, hpc] at hstep
  | fail =>
    cases hpc : s.thread i with
    | inTryPop | inTryPush _ | inPush =>
      exact .queueStep (by rw [hpc]; rfl) rfl rfl (by simpa [step, hpc] using hstep)
    | tryAcquire n e =>
      obtain rfl : s.goto i (.wait n e) = s' := by simpa [step, hpc] using hstep
      exact .fails hpc (.inr rfl) rfl rfl rfl
    | exchange n =>
      obtain rfl : s.goto i (AllocatorState.tryIndex s.lastNotIssuedIndex) = s' := by
        simpa [step, hpc] using hstep
      exact .tryIndex (by rw [hpc]; rfl) _
    | _ => simp [step, hpc] at hstep
  | leave =>
    cases hpc : s.thread i with
    | allocated index =>
      cases index with
      | none =>
        obtain rfl : s.goto i .idle = s' := by simpa [step, hpc] using hstep
        exact .goto (by rw [hpc]; rfl) rfl rfl
      | some index =>
        simp only [step, hpc] at hstep
        obtain rfl := Option.some.inj hstep
        exact .elsewhere (by rw [hpc]; rfl) rfl rfl rfl rfl rfl
    | _ => simp [step, hpc] at hstep

/-- The other threads stay where they are. -/
lemma step_thread_of_ne (hstep : s.step layout (i, a) = some s') (hne : j ≠ i) :
    s'.thread j = s.thread j := by
  cases growth_of_step hstep with
  | elsewhere _ _ _ hthread | sees _ hthread | acquires _ hthread | fails _ _ hthread
  | prepares _ _ hthread | grows hthread | releases _ hthread => rw [hthread, update_of_ne hne]

lemma run_thread_of_ne {as : List (ℕ × AllocatorAction)}
    (hrun : (allocatorSystem layout).run s as = some s') (hne : ∀ a ∈ as, j ≠ a.1) :
    s'.thread j = s.thread j := by
  induction as generalizing s with
  | nil =>
    obtain rfl : s = s' := by simpa [System.run] using hrun
    rfl
  | cons a as ih =>
    obtain ⟨s₁, hstep, hrun⟩ := Option.bind_eq_some_iff.1 hrun
    rw [ih hrun fun b hb => hne b (List.mem_cons_of_mem _ hb)]
    exact step_thread_of_ne hstep (hne a List.mem_cons_self)

/-! ### Waiting threads -/

lemma growing_of_beforeFetchAdd (h : pc.beforeFetchAdd = true) : pc.growing = true := by
  cases pc with
  | loadNodeEnd | protect | fetchAdd => rfl
  | _ => exact absurd h (by simp [AllocatorPc.beforeFetchAdd])

/-- What the threads rely on that wait: no thread has seen an end that is still to come, the permit
is with a thread if it is not there, and somebody is about to let the memory grow. -/
structure Attended (s : AllocatorState) : Prop where
  seen : ∀ i e, (s.thread i).seenEnd = some e → e ≤ s.actualMemoryEnd
  held : s.pageAllocationPermit = false → ∃ j, (s.thread j).growing = true
  waits : s.WaitsForGrower

namespace Attended

lemma initial : ({} : AllocatorState).Attended where
  seen _ _ h := nomatch h
  held h := nomatch h
  waits _ _ _ h := nomatch h

/-- The thread `i` goes on to `pc`. -/
lemma move (h : s.Attended) (hthread : s'.thread = update s.thread i pc)
    (hend : s.actualMemoryEnd ≤ s'.actualMemoryEnd)
    (hseen : ∀ e, pc.seenEnd = some e → e ≤ s'.actualMemoryEnd)
    (hheld : s'.pageAllocationPermit = false → pc.growing = true ∨
      s.pageAllocationPermit = false ∧ (s.thread i).growing = false)
    (hgrower : (s.thread i).beforeFetchAdd = true → pc.beforeFetchAdd = true ∨
      s.actualMemoryEnd < s'.actualMemoryEnd)
    (hwait : ∀ n e, pc = .wait n e → s'.actualMemoryEnd = e →
      ∃ j, j ≠ i ∧ (s.thread j).beforeFetchAdd = true) : s'.Attended := by
  constructor
  · intro j e hj
    rcases eq_or_ne j i with rfl | hne
    · exact hseen e (by simpa [hthread] using hj)
    · exact (h.seen j e (by simpa [hthread, hne] using hj)).trans hend
  · intro hfalse
    rcases hheld hfalse with hpc | ⟨hbefore, hi⟩
    · exact ⟨i, by simpa [hthread] using hpc⟩
    · obtain ⟨j, hj⟩ := h.held hbefore
      have hne : j ≠ i := by
        rintro rfl
        rw [hi] at hj
        cases hj
      exact ⟨j, by simpa [hthread, hne] using hj⟩
  · intro k n e hk he
    rcases eq_or_ne k i with rfl | hne
    · obtain ⟨j, hji, hj⟩ := hwait n e (by simpa [hthread] using hk) he
      exact ⟨j, by simpa [hthread, hji] using hj⟩
    · -- the end has not moved since the thread has seen it
      have hk' : s.thread k = .wait n e := by simpa [hthread, hne] using hk
      have hle := h.seen k e (by rw [hk']; rfl)
      obtain ⟨j, hj⟩ := h.waits k n e hk' (by omega)
      rcases eq_or_ne j i with rfl | hji
      · rcases hgrower hj with hpc | hlt
        · exact ⟨j, by simpa [hthread] using hpc⟩
        · omega
      · exact ⟨j, by simpa [hthread, hji] using hj⟩

lemma step (hpage : 0 < layout.pageSize) (h : s.Attended) (hG : s.FailsInTime (i, a))
    (hstep : s.step layout (i, a) = some s') : s'.Attended := by
  have hamount : 0 < layout.memoryAmount := Nat.mul_pos hpage (by decide)
  have hnot : ∀ {pc : AllocatorPc}, pc.growing = false → ¬ pc.beforeFetchAdd = true := by
    intro pc hpc hbefore
    rw [growing_of_beforeFetchAdd hbefore] at hpc
    cases hpc
  cases growth_of_step hstep with
  | @elsewhere pc hbefore hafter hseen hthread hend hpermit =>
    refine h.move hthread hend.ge ?_ ?_ ?_ ?_
    · rw [hseen]
      exact nofun
    · rw [hpermit]
      exact fun hfalse => .inr ⟨hfalse, hbefore⟩
    · exact fun hgrower => absurd hgrower (hnot hbefore)
    · rintro n e rfl
      cases hseen
  | sees hbefore hthread hend hpermit =>
    refine h.move hthread hend.ge ?_ ?_ ?_ nofun
    · intro e he
      obtain rfl := Option.some.inj he
      exact hend.ge
    · rw [hpermit]
      exact fun hfalse => .inr ⟨hfalse, hbefore⟩
    · exact fun hgrower => absurd hgrower (hnot hbefore)
  | acquires hbefore hthread hend =>
    refine h.move hthread hend.ge nofun (fun _ => .inl rfl) ?_ nofun
    rw [hbefore]
    exact nofun
  | @fails n e hbefore hwhy hthread hend hpermit =>
    have hi : (s.thread i).growing = false := by rw [hbefore]; rfl
    refine h.move hthread hend.ge ?_ ?_ ?_ ?_
    · intro e' he
      rw [hend]
      exact h.seen i e' (by rw [hbefore]; exact he)
    · rw [hpermit]
      exact fun hfalse => .inr ⟨hfalse, hi⟩
    · exact fun hgrower => absurd hgrower (hnot hi)
    · intro n' e' hpc he
      obtain ⟨rfl, rfl⟩ : n = n' ∧ e = e' := by simpa using hpc
      have hfalse : s.pageAllocationPermit = false := hwhy.elim id (hG.held n e hbefore)
      obtain ⟨j, hj⟩ := h.held hfalse
      have hrelease := hG.inTime n e hbefore hfalse (hend.symm.trans he) j
      refine ⟨j, ?_, ?_⟩
      · rintro rfl
        rw [hi] at hj
        cases hj
      · cases hpc : s.thread j with
        | loadNodeEnd | protect | fetchAdd => rfl
        | release m => exact absurd hpc (hrelease m)
        | _ => simp [hpc, AllocatorPc.growing] at hj
  | @prepares pc hbefore hafter hthread hend =>
    refine h.move hthread hend.ge ?_ (fun _ => .inl (growing_of_beforeFetchAdd hafter))
      (fun _ => .inl hafter) ?_
    · intro e he
      cases pc with
      | tryAcquire | wait => cases hafter
      | _ => cases he
    · rintro n e rfl
      cases hafter
  | grows hthread hend =>
    exact h.move hthread (by omega) nofun (fun _ => .inl rfl) (fun _ => .inr (by omega)) nofun
  | releases hbefore hthread hend hpermit =>
    refine h.move hthread hend.ge nofun ?_ ?_ nofun
    · rw [hpermit]
      exact nofun
    · rw [hbefore]
      exact nofun

end Attended

/-- **No thread waits for a page that nobody is about to allocate**, in runs in which no attempt to
acquire the permit fails because of a thread that has allocated its page already. -/
theorem waitsForGrower (layout : AllocatorLayout) (s : AllocatorState) (hpage : 0 < layout.pageSize)
    (h : (allocatorSystem layout).Reachable FailsInTime s) : s.WaitsForGrower := by
  have hattended : s.Attended := by
    refine h.invariant (fun s hs => ?_) fun s a s' _ hs hG hstep => hs.step hpage hG hstep
    obtain rfl : s = {} := hs
    exact .initial
  exact hattended.waits

/-- An attempt to acquire the permit that does not fail. -/
lemma failsInTime_of_free (h : (s.thread i).seenEnd = none ∨
    s.pageAllocationPermit = true ∧ a = .next) : s.FailsInTime (i, a) := by
  constructor
  · rintro n e hpc rfl
    rcases h with h | h
    · simp [hpc, AllocatorPc.seenEnd] at h
    · simp at h
  · intro n e hpc hfalse
    rcases h with h | h
    · simp [hpc, AllocatorPc.seenEnd] at h
    · simp [hfalse] at h

/-- The thread 1 gets the permit, and the thread 2 finds it taken. -/
def twoAttempts : List (ℕ × AllocatorAction) :=
  ((1, .allocate) :: List.replicate 6 (1, .next)) ++ ((2, .allocate) :: List.replicate 5 (2, .next))

/-- The thread 2 waits, and the thread 1 is about to let the memory grow. -/
theorem waitsForGrower_two : ∃ s,
    (allocatorSystem ⟨512, 4096⟩).run {} (twoAttempts ++ [(2, .next)]) = some s ∧
    s.thread 2 = .wait 0 0 ∧ s.actualMemoryEnd = 0 ∧ s.WaitsForGrower := by
  have hmeets : (allocatorSystem ⟨512, 4096⟩).Meets (fun s a => (s.thread a.1).seenEnd = none ∨
      s.pageAllocationPermit = true ∧ a.2 = .next) {} twoAttempts := by decide
  obtain ⟨s, hrun, hone, hlast⟩ : ∃ s, (allocatorSystem ⟨512, 4096⟩).run {} twoAttempts = some s ∧
      s.thread 1 = .loadNodeEnd 0 ∧ s.thread 2 = .tryAcquire 0 0 ∧ s.pageAllocationPermit = false ∧
      s.actualMemoryEnd = 0 := ⟨_, rfl, rfl, rfl, rfl, rfl⟩
  have hfree : (allocatorSystem ⟨512, 4096⟩).Reachable FailsInTime s :=
    ((System.Reachable.of_initial rfl).run hmeets hrun).mono fun _ _ => failsInTime_of_free
  have hstep : s.step ⟨512, 4096⟩ (2, .next) = some (s.goto 2 (.wait 0 0)) := by
    simp [step, next, hlast]
  refine ⟨s.goto 2 (.wait 0 0), ?_, by simp [AllocatorState.goto], hlast.2.2, ?_⟩
  · rw [System.run_append, hrun]
    simp [System.run, allocatorSystem, hstep]
  refine waitsForGrower _ _ (by decide) (hfree.step (a := (2, .next)) ?_ hstep)
  constructor
  · exact fun n e _ hfail => by cases hfail
  · intro n e _ _ _ j m
    by_cases hj : j = 1 ∨ j = 2
    · rcases hj with rfl | rfl
      · simp [hone]
      · simp [hlast]
    · have hidle := run_thread_of_ne (j := j) hrun (by simp [twoAttempts]; omega)
      simp [hidle]

/-! ### A page that has just been allocated -/

/-- The thread 0 has moved the end of the memory and not given the permit back, and the thread 1 has
allocated the first `k` indices since. -/
structure Stalled (k : ℕ) (s : AllocatorState) : Prop where
  grower : s.thread 0 = .release 0
  others : ∀ j, j ≠ 0 → s.thread j = .idle
  queue : ∀ j, s.freeIndexesQueue.thread j = .idle
  head : s.freeIndexesQueue.head = 0
  tail : s.freeIndexesQueue.tail = 0
  permit : s.pageAllocationPermit = false
  memoryEnd : s.actualMemoryEnd = 2048 * 512
  last : s.lastNotIssuedIndex = k

/-- The steps of a call of `allocate` up to where it has found no freed index. -/
def findNone (i : ℕ) : List (ℕ × AllocatorAction) := (i, .allocate) :: List.replicate 3 (i, .next)

lemma run_findNone (hidle : s.thread i = .idle) (hqueue : s.freeIndexesQueue.thread i = .idle)
    (hempty : SameCounter s.freeIndexesQueue.tail s.freeIndexesQueue.head) :
    (allocatorSystem layout).run s (findNone i) = some (s.goto i .loadIndex) := by
  have hsame : update s.freeIndexesQueue.thread i .idle = s.freeIndexesQueue.thread := by
    rw [← hqueue, update_eq_self]
  simp [System.run, findNone, allocatorSystem, step, next, queueStep,
    RingState.step, RingState.next, AllocatorState.goto, RingState.goto, hidle, hqueue, hempty,
    hsame]

/-- The thread 0 allocates a page and stands before it gives the permit back. -/
def growSteps : List (ℕ × AllocatorAction) := findNone 0 ++ List.replicate 6 (0, .next)

lemma exists_stalled :
    ∃ s, (allocatorSystem ⟨512, 4096⟩).run {} growSteps = some s ∧ Stalled 0 s := by
  let s₁ := ({} : AllocatorState).goto 0 .loadIndex
  obtain ⟨s, hrun, hgrower, hqueue, hpermit, hend, hlast⟩ :
      ∃ s, (allocatorSystem ⟨512, 4096⟩).run s₁ (List.replicate 6 (0, .next)) = some s ∧
        s.thread 0 = .release 0 ∧ s.freeIndexesQueue = {} ∧ s.pageAllocationPermit = false ∧
        s.actualMemoryEnd = 0 + AllocatorLayout.memoryAmount ⟨512, 4096⟩ ∧
        s.lastNotIssuedIndex = 0 := ⟨_, rfl, rfl, rfl, rfl, rfl, rfl⟩
  have hamount : AllocatorLayout.memoryAmount ⟨512, 4096⟩ = 2048 * 512 := by decide
  rw [Nat.zero_add, hamount] at hend
  have hnone : (allocatorSystem ⟨512, 4096⟩).run {} (findNone 0) = some s₁ :=
    run_findNone rfl rfl rfl
  have hall : (allocatorSystem ⟨512, 4096⟩).run {} growSteps = some s := by
    rw [growSteps, System.run_append, hnone, Option.bind_some, hrun]
  refine ⟨s, hall, hgrower, fun j hne => ?_, ?_, ?_, ?_, hpermit, hend, hlast⟩
  · exact run_thread_of_ne hall (by simpa [growSteps, findNone] using hne)
  · rw [hqueue]
    exact fun _ => rfl
  · rw [hqueue]
  · rw [hqueue]

lemma Stalled.run_findNone {k : ℕ} (h : Stalled k s) :
    (allocatorSystem layout).run s (findNone 1) = some (s.goto 1 .loadIndex) := by
  refine AllocatorState.run_findNone (h.others 1 (by decide)) (h.queue 1) ?_
  rw [h.head, h.tail]
  rfl

/-- The thread 1 allocates an index of the page. -/
def nextIndex : List (ℕ × AllocatorAction) :=
  findNone 1 ++ (List.replicate 3 (1, .next) ++ [(1, .leave)])

lemma Stalled.nextIndex {k : ℕ} (h : Stalled k s) (hk : k < 2047) :
    ∃ s', (allocatorSystem ⟨512, 4096⟩).run s nextIndex = some s' ∧ Stalled (k + 1) s' := by
  have hissued : ¬ 4096 < k := by omega
  have hfits : ¬ 1048576 ≤ (k + 1) * 512 := by omega
  have hend := h.memoryEnd
  have hlast := h.last
  have hrun : (allocatorSystem ⟨512, 4096⟩).run s AllocatorState.nextIndex =
      some { s.goto 1 .idle with lastNotIssuedIndex := k + 1, returned := s.returned ++ [k] } := by
    rw [AllocatorState.nextIndex, System.run_append, h.run_findNone, Option.bind_some]
    simp [System.run, List.replicate, allocatorSystem, step, next, AllocatorState.goto,
      AllocatorState.tryIndex, hissued, hfits, hend, hlast]
  refine ⟨_, hrun, ?_, ?_, h.queue, h.head, h.tail, h.permit, hend, rfl⟩
  · simpa [AllocatorState.goto] using h.grower
  · intro j hne
    rcases eq_or_ne j 1 with rfl | hj
    · simp [AllocatorState.goto]
    · simpa [AllocatorState.goto, hj] using h.others j hne

lemma exists_stalled_of_le (k : ℕ) (hk : k ≤ 2047) :
    ∃ as s, (∀ a ∈ as, a.2 ≠ .fail) ∧ (allocatorSystem ⟨512, 4096⟩).run {} as = some s ∧
      Stalled k s := by
  induction k with
  | zero =>
    obtain ⟨s, hrun, hs⟩ := exists_stalled
    exact ⟨growSteps, s, by decide, hrun, hs⟩
  | succ k ih =>
    obtain ⟨as, s, has, hrun, hs⟩ := ih (by omega)
    obtain ⟨s', hrun', hs'⟩ := hs.nextIndex (by omega)
    refine ⟨as ++ nextIndex, s', ?_, ?_, hs'⟩
    · intro a ha
      rcases List.mem_append.1 ha with ha | ha
      · exact has a ha
      · exact (show ∀ a ∈ nextIndex, a.2 ≠ .fail by decide) a ha
    · rw [System.run_append, hrun, Option.bind_some, hrun']

/-- The thread 1 needs another page before the thread 0 has given the permit back. -/
theorem not_waitsForGrower :
    ¬ ∀ s, (allocatorSystem ⟨512, 4096⟩).Reachable FailsOnlyIfHeld s → s.WaitsForGrower := by
  intro hall
  obtain ⟨as, s, has, hrun, hs⟩ := exists_stalled_of_le 2047 le_rfl
  have hwaits : (allocatorSystem ⟨512, 4096⟩).run s (findNone 1 ++ List.replicate 3 (1, .next)) =
      some (s.goto 1 (.wait 2047 1048576)) := by
    have hend := hs.memoryEnd
    have hlast := hs.last
    have hpermit := hs.permit
    have hissued : ¬ 4096 < 2047 := by decide
    rw [System.run_append, hs.run_findNone, Option.bind_some]
    simp [System.run, List.replicate, allocatorSystem, step, next, AllocatorState.goto,
      AllocatorState.tryIndex, hend, hlast, hpermit, hissued]
  have hall' : (allocatorSystem ⟨512, 4096⟩).run {}
      (as ++ (findNone 1 ++ List.replicate 3 (1, .next))) =
        some (s.goto 1 (.wait 2047 1048576)) := by
    rw [System.run_append, hrun, Option.bind_some, hwaits]
  have hlabels : ∀ a ∈ as ++ (findNone 1 ++ List.replicate 3 (1, .next)), a.2 ≠ .fail := by
    intro a ha
    rcases List.mem_append.1 ha with ha | ha
    · exact has a ha
    · exact (show ∀ a ∈ findNone 1 ++ List.replicate 3 (1, .next), a.2 ≠ .fail by decide) a ha
  have hreach : (allocatorSystem ⟨512, 4096⟩).Reachable FailsOnlyIfHeld
      (s.goto 1 (.wait 2047 1048576)) :=
    ((System.Reachable.of_initial rfl).run (System.meets_of_labels hlabels) hall').mono
      fun _ _ ha _ _ _ hfail => absurd hfail ha
  obtain ⟨j, hj⟩ := hall _ hreach 1 2047 1048576 (by simp [AllocatorState.goto]) hs.memoryEnd
  rcases eq_or_ne j 1 with rfl | hone
  · simp [AllocatorState.goto, AllocatorPc.beforeFetchAdd] at hj
  · rcases eq_or_ne j 0 with rfl | hzero
    · simp [AllocatorState.goto, hs.grower, AllocatorPc.beforeFetchAdd] at hj
    · simp [AllocatorState.goto, hone, hs.others j hzero, AllocatorPc.beforeFetchAdd] at hj

end AllocatorState

end BattleShips
