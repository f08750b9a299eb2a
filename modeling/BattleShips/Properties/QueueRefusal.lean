import BattleShips.Core.AtomicQueueTurns

/-!
# When the queue refuses

`try_push` loads `tail`, then `head`, and refuses if the ring slots of the two are next to each
other. If `head` has passed the loaded `tail` in between, the test says nothing: a queue with next
to nothing in it refuses. Where that does not happen, a refusal means that the queue is full.
-/

namespace BattleShips

open Function

variable {α : Type*}

namespace QueueState

variable {s s' : QueueState α} {i j : ℕ}

/-- The queue holds its maximum. -/
def full (s : QueueState α) : Bool := ringBufferSize - 1 ≤ s.tail - s.head

/-- For each thread, whether the queue has been full at some moment since its call of `try_push`. -/
def recordFull (wasFull : ℕ → Bool) (s : QueueState α) (a : ℕ × QueueAction α)
    (s' : QueueState α) : ℕ → Bool := fun j =>
  match a with
  | (i, .push _) => if j = i then s.full || s'.full else wasFull j || s'.full
  | _ => wasFull j || s'.full

end QueueState

/-- The queue under observation. -/
def watchedQueue (α : Type*) : System (QueueState α × (ℕ → Bool)) (ℕ × QueueAction α) :=
  (queueSystem α).withHistory (fun _ => false) QueueState.recordFull

namespace QueueState

variable {s s' : QueueState α} {wasFull : ℕ → Bool} {i j : ℕ}

/-- The `tail` that a thread has loaded which is about to load `head`. -/
def loadedTail (s : QueueState α) (i : ℕ) : Option ℕ :=
  match s.thread i with
  | .pushLoadHead _ t => some t
  | _ => none

/-- A `try_push` that finds the two counters next to each other has not loaded a `head` that is past
its `tail`. -/
def LoadsInOrder (s : QueueState α) (a : ℕ × QueueAction α) : Prop :=
  ∀ t ∈ s.loadedTail a.1, looksFull t s.head → s.head ≤ t

instance (s : QueueState α) (a : ℕ × QueueAction α) : Decidable (s.LoadsInOrder a) :=
  inferInstanceAs (Decidable (∀ t ∈ s.loadedTail a.1, _))

/-- Where a step leads that has these two ends. -/
lemma step_pc {a : ℕ × QueueAction α} (h : s.step a = some s') :
    (s'.thread a.1 = .pushed false → ∃ x t, s.thread a.1 = .pushLoadHead x t ∧
      looksFull t s.head ∧ s' = s.goto a.1 (.pushed false)) ∧
    ∀ x t, s'.thread a.1 = .pushLoadHead x t → t = s'.tail := by
  obtain ⟨i, a⟩ := a
  cases a with
  | next =>
    cases hpc : s.thread i <;> simp only [step, next, hpc] at h <;> try split at h
    case pushLoadHead.isTrue x t hfull =>
      obtain rfl := Option.some.inj h
      exact ⟨fun _ => ⟨x, t, rfl, hfull, rfl⟩, by simp [goto]⟩
    case pushLoadTail x =>
      obtain rfl := Option.some.inj h
      simp [goto, eq_comm]
    all_goals first
      | contradiction
      | obtain rfl := Option.some.inj h
        simp [goto, touch, claimTail, claimHead]
  | _ =>
    cases hpc : s.thread i <;> simp only [step, hpc, reduceCtorEq] at h <;>
      obtain rfl := Option.some.inj h <;> simp [goto]

/-- What holds in a run in which counters are loaded in order. -/
structure Watched (s : QueueState α) (wasFull : ℕ → Bool) : Prop where
  loaded : ∀ i x t, s.thread i = .pushLoadHead x t → t ≤ s.tail
  refused : ∀ i, s.thread i = .pushed false → wasFull i = true

lemma recordFull_of_full {a : ℕ × QueueAction α} (h : s'.full = true) (j : ℕ) :
    recordFull wasFull s a s' j = true := by
  obtain ⟨i, a⟩ := a
  cases a <;> simp only [recordFull, h, Bool.or_true]
  split_ifs <;> rfl

/-- A thread that is in no call or has long made it keeps its record. -/
lemma recordFull_of_ne {a : ℕ × QueueAction α} (h : wasFull j = true) (hne : j ≠ a.1) :
    recordFull wasFull s a s' j = true := by
  obtain ⟨i, a⟩ := a
  cases a <;> simp [recordFull, h, hne]

lemma Watched.step {a : ℕ × QueueAction α} (h : s.Watched wasFull) (hstep : s.step a = some s')
    (horder : s.LoadsInOrder a) : s'.Watched (recordFull wasFull s a s') := by
  have htail := tail_le hstep
  obtain ⟨hrefuses, hloads⟩ := step_pc hstep
  constructor
  · intro j x t hpc
    rcases eq_or_ne j a.1 with rfl | hne
    · exact (hloads x t hpc).le
    · rw [thread_of_ne hstep hne] at hpc
      exact (h.loaded j x t hpc).trans htail
  · intro j hpc
    rcases eq_or_ne j a.1 with rfl | hne
    · obtain ⟨x, t, hpc', hfull, rfl⟩ := hrefuses hpc
      have hloaded := h.loaded _ x t hpc'
      have hge := sub_ge_of_looksFull (horder t (by simp [loadedTail, hpc']) hfull) hfull
      apply recordFull_of_full
      apply decide_eq_true
      change ringBufferSize - 1 ≤ s.tail - s.head
      omega
    · rw [thread_of_ne hstep hne] at hpc
      exact recordFull_of_ne (h.refused j hpc) hne

/-- If the counters are always loaded in order, then a call of `try_push` only returns `false` if
the queue has held its maximum since the call. -/
theorem refuses_only_full (s : QueueState α) (wasFull : ℕ → Bool)
    (h : (watchedQueue α).Reachable (fun s a => s.1.LoadsInOrder a) (s, wasFull)) (i : ℕ)
    (hrefused : s.thread i = .pushed false) : wasFull i = true := by
  have hwatched : s.Watched wasFull := by
    refine h.invariant (I := fun s => s.1.Watched s.2) ?_ ?_
    · rintro ⟨s, wasFull⟩ ⟨rfl, rfl⟩
      constructor <;> nofun
    · rintro ⟨s, wasFull⟩ a ⟨s', wasFull'⟩ - hs horder hstep
      obtain ⟨hstep, hrecord⟩ := System.withHistory_step.1 hstep
      dsimp only at hrecord
      subst hrecord
      exact hs.step hstep horder
  exact hwatched.refused i hrefused

/-- A queue after one pop and `n` pushes more than pops, with nobody in a call. -/
structure Filled (n : ℕ) (s : QueueState α) : Prop where
  head : s.head = 1
  tail : s.tail = n + 1
  idle : s.thread 1 = .idle
  flag : ∀ t, n < t → t ≤ ringBufferSize → (s.slotOf t).isInitialized = false

lemma meets_push {x : α} (hidle : s.thread i = .idle) (hle : s.head ≤ s.tail)
    (hfull : ¬ looksFull s.tail s.head) (hflag : (s.slotOf s.tail).isInitialized = false) :
    (queueSystem α).Meets LoadsInOrder s (pushSteps i x) := by
  rw [slotOf] at hflag
  simp [System.Meets, pushSteps, queueSystem, step, next, hidle, hfull, hflag, goto, claimTail,
    slotOf, touch, List.replicate, LoadsInOrder, loadedTail, hle]

lemma Filled.push {n : ℕ} (h : Filled n s) (hn : n < ringBufferSize - 1)
    (hs : (queueSystem α).Reachable LoadsInOrder s) (x : α) :
    ∃ s', (queueSystem α).Reachable LoadsInOrder s' ∧ Filled (n + 1) s' := by
  obtain ⟨hhead, htail, hidle, hflag⟩ := h
  have hfull : ¬ looksFull s.tail s.head := by
    rw [hhead, htail, looksFull, normilizeRingSlot_eq, normilizeRingSlot_eq]
    simp only [ringBufferSize] at hn ⊢
    omega
  have hslot : (s.slotOf s.tail).isInitialized = false :=
    hflag s.tail (by omega) (by simp only [ringBufferSize] at hn ⊢; omega)
  refine ⟨s.afterPush 1 x, hs.run (meets_push hidle (by omega) hfull hslot)
    (run_push hidle hfull hslot), ?_, ?_, ?_, ?_⟩
  · exact hhead
  · simp [afterPush, touch, htail]
  · simp [afterPush, touch]
  · intro t ht hle
    have hne : normilizeRingSlot t ≠ normilizeRingSlot s.tail := by
      simp only [normilizeRingSlot_eq, htail, ringBufferSize] at hn hle ⊢
      omega
    simpa [afterPush, touch, slotOf, hne] using hflag t (by omega) hle

lemma exists_filled (n : ℕ) (hn : n ≤ ringBufferSize - 1) :
    ∃ s : QueueState ℕ, (queueSystem ℕ).Reachable LoadsInOrder s ∧ Filled n s := by
  induction n with
  | zero =>
    refine ⟨(({} : QueueState ℕ).afterPush 1 7).afterPop 0 (0, 7), ?_, ?_, ?_, ?_, ?_⟩
    · have hrun : (queueSystem ℕ).run {} (pushSteps 1 7 ++ popSteps 0 ++ popEnd 0) =
          some ((({} : QueueState ℕ).afterPush 1 7).afterPop 0 (0, 7)) := by
        rw [System.run_append, System.run_append, run_push rfl (not_looksFull_self 0) rfl,
          Option.bind_some, run_pop rfl (by decide) rfl rfl, Option.bind_some]
        exact run_popEnd
      exact (System.Reachable.of_initial rfl).run (by decide) hrun
    · rfl
    · rfl
    · rfl
    · intro t ht hle
      rcases eq_or_ne (normilizeRingSlot t) (normilizeRingSlot 0) with heq | hne
      · simp [afterPop, afterPush, touch, slotOf, heq]
      · simp [afterPop, afterPush, touch, slotOf, hne]
  | succ n ih =>
    obtain ⟨s, hs, hfilled⟩ := ih (by omega)
    exact hfilled.push (by omega) hs 7

/-- The push that the queue has no room for. -/
theorem refuses_only_full_filled : ∃ (s : QueueState ℕ) (wasFull : ℕ → Bool),
    s.thread 1 = .pushed false ∧ wasFull 1 = true := by
  obtain ⟨s, hs, hhead, htail, hidle, -⟩ := exists_filled (ringBufferSize - 1) le_rfl
  have hfull : looksFull s.tail s.head := by
    rw [hhead, htail]
    decide
  have hrun : (queueSystem ℕ).run s [(1, .push 7), (1, .next), (1, .next)] =
      some (s.goto 1 (.pushed false)) := by
    simp [System.run, queueSystem, step, next, hidle, hfull, goto]
  have hmeets : (queueSystem ℕ).Meets LoadsInOrder s [(1, .push 7), (1, .next), (1, .next)] := by
    simp [System.Meets, queueSystem, step, next, hidle, goto, LoadsInOrder, loadedTail, hhead,
      htail]
  obtain ⟨wasFull, hreach⟩ := (hs.run hmeets hrun).exists_history (fun _ => false) recordFull
  have hrefused : (s.goto 1 (.pushed false)).thread 1 = .pushed false := by simp [goto]
  exact ⟨_, wasFull, hrefused, refuses_only_full _ wasFull hreach 1 hrefused⟩

/-- Only the thread 0 pops. -/
def OneConsumer (a : ℕ × QueueAction α) : Prop := a.2 = .pop → a.1 = 0

instance [DecidableEq α] (a : ℕ × QueueAction α) : Decidable (OneConsumer a) :=
  inferInstanceAs (Decidable (_ → _))

/-- A thread loads `tail`, another one pushes, the consumer pops what it has pushed, and the first
thread loads `head` and refuses. -/
theorem refuses_not_full :
    ¬ ∀ (s : QueueState ℕ) (wasFull : ℕ → Bool),
      (watchedQueue ℕ).Reachable (fun _ a => OneConsumer a) (s, wasFull) →
        ∀ i, s.thread i = .pushed false → wasFull i = true := by
  intro hall
  let labels : List (ℕ × QueueAction ℕ) :=
    [(1, .push 7), (1, .next)] ++ pushSteps 2 8 ++ popSteps 0 ++ popEnd 0 ++ [(1, .next)]
  obtain ⟨⟨s, wasFull⟩, hrun, hrefused, hnever⟩ :
      ∃ p, (watchedQueue ℕ).run ({}, fun _ => false) labels = some p ∧
        p.1.thread 1 = .pushed false ∧ p.2 1 = false := ⟨_, rfl, by decide, by decide⟩
  have hinit : (watchedQueue ℕ).initial ({}, fun _ => false) := ⟨rfl, rfl⟩
  have hreach : (watchedQueue ℕ).Reachable (fun _ a => OneConsumer a) (s, wasFull) :=
    (System.Reachable.of_initial hinit).run
      (System.meets_of_labels (G := OneConsumer) (by decide)) hrun
  have hwas : wasFull 1 = true := hall s wasFull hreach 1 hrefused
  exact absurd (hwas.symm.trans hnever) (by decide)

end QueueState

end BattleShips
