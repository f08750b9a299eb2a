import BattleShips.Core.AtomicQueueCalls
import BattleShips.Core.AtomicQueueCounts
import BattleShips.Core.AtomicQueueWaits
import BattleShips.Properties.QueueRefusal

/-!
# What the wait helpers wait for

`wait_for_data` waits for a flag, and the flags count: where one thread pops, the `try_pop` that
comes after it returns a value. `wait_for_space` takes a queue for full by the test of `try_push`,
which never holds with `head` at the start of the ring, and the condition of its loop is the wrong
way round, so that it goes on waiting when it finds that `head` has changed.
-/

namespace BattleShips

open Function

variable {α : Type*}

/-- How many steps of a `try_pop` are left at most. -/
def QueuePc.popsLeft : QueuePc α → Option ℕ
  | .popLoadHead => some 8
  | .popLoadTail _ => some 7
  | .popClaim _ => some 6
  | .popWait _ => some 5
  | .popCheck _ => some 4
  | .popTake _ => some 3
  | .popClear _ _ => some 2
  | .popClearAgain _ _ => some 1
  | .popped _ => some 0
  | _ => none

/-- The flag that the thread has found, or is to find, is set. -/
def QueuePc.Finds (slot : ℕ → AtomicSlot α) (head : ℕ) : QueuePc α → Prop
  | .popWait h | .popCheck h => (slot (normilizeRingSlot h)).isInitialized = true
  | .popTake _ | .popClear _ _ | .popClearAgain _ _ => True
  | .popped result => result.isSome = true
  | _ => (slot (normilizeRingSlot head)).isInitialized = true

/-- What a wait of the thread 0 for data has come to. -/
def WaitPc.FindsData (q : QueueState α) : WaitPc → Prop
  | .dataWait h | .dataCheck h => normilizeRingSlot h = normilizeRingSlot q.head
  | .dataReturned => (q.thread 0).Finds q.slot q.head
  | _ => True

/-- The thread is about to claim a place for a value. -/
def QueuePc.claims : QueuePc α → Bool
  | .pushLoadTail _ | .pushLoadHead _ _ | .pushClaim _ _ => true
  | _ => false

/-- What a wait of the thread 1 for space has come to. -/
def WaitPc.Spaced (q : QueueState α) : WaitPc → Prop
  | .spaceLoadHead t => normilizeRingSlot t = normilizeRingSlot q.tail
  | .spaceWait h => h = q.head
  | .spaceCheck _ => False
  | .spaceReturned => q.full = false ∧ (q.thread 1).claims = false
  | _ => True

lemma QueuePc.Finds.mono {pc : QueuePc α} {slot slot' : ℕ → AtomicSlot α} {head : ℕ}
    (h : pc.Finds slot head)
    (hflags : ∀ n, (slot n).isInitialized = true → (slot' n).isInitialized = true) :
    pc.Finds slot' head := by
  cases pc with
  | popTake | popClear | popClearAgain => trivial
  | popped result => exact h
  | _ => exact hflags _ h

lemma WaitPc.FindsData.mono {pc : WaitPc} {q q' : QueueState α} (h : pc.FindsData q)
    (hthread : q'.thread 0 = q.thread 0) (hhead : q'.head = q.head)
    (hflags : ∀ n, (q.slot n).isInitialized = true → (q'.slot n).isInitialized = true) :
    pc.FindsData q' := by
  cases pc with
  | dataReturned =>
    rw [FindsData, hthread, hhead]
    exact QueuePc.Finds.mono h hflags
  | dataWait | dataCheck =>
    rw [FindsData, hhead]
    exact h
  | _ => trivial

namespace QueueState

variable {s s' : QueueState α} {i j : ℕ} {stored : Finset ℕ}

lemma finds_touch {pc : QueuePc α} {t : ℕ} {slot : AtomicSlot α} (h : pc.Finds s.slot s.head)
    (hslot : (s.slotOf t).isInitialized = true → slot.isInitialized = true) :
    ((s.touch i pc t slot).thread i).Finds (s.touch i pc t slot).slot s.head := by
  have hpc : (s.touch i pc t slot).thread i = pc := update_self _ _ _
  rw [hpc]
  refine h.mono fun n hn => ?_
  rw [slot_touch]
  split_ifs with heq
  · rw [heq] at hn
    exact hslot hn
  · exact hn

/-- A step of the consumer that stays in its calls, up to the return of its `try_pop`. -/
lemma Counted.finds_next (h : s.Counted stored) (hfinds : (s.thread 0).Finds s.slot s.head)
    (hexact : ∀ t, s.thread 0 = .popLoadTail t → SameCounter t s.tail → t = s.tail)
    (hstep : s.next 0 = some s') : (s'.thread 0).Finds s'.slot s'.head := by
  have hrelies := h.relies 0
  cases hpc : s.thread 0 <;> simp only [next, hpc] at hstep <;> rw [hpc] at hrelies hfinds <;>
    try split at hstep
  case popLoadTail.isTrue t hsame =>
    -- there is a value in the queue
    have hlt := h.head_lt_tail (t := s.head) hfinds (by rw [hpc]; rfl)
    exact absurd ((hrelies.2.symm.trans (hexact t hpc hsame))) hlt.ne
  case popClaim.isFalse t hsame =>
    rw [hrelies.2] at hsame
    exact absurd (sameCounter_self _) hsame
  case popCheck.isFalse t hflag => exact absurd hfinds hflag
  case pushCheck.isFalse x t hflag =>
    obtain rfl := Option.some.inj hstep
    exact finds_touch hfinds fun hn => hn
  case pushEmplace x t =>
    obtain rfl := Option.some.inj hstep
    exact finds_touch hfinds fun hn => hn
  case pushStore x t =>
    obtain rfl := Option.some.inj hstep
    exact finds_touch hfinds fun _ => rfl
  case popClaim.isTrue t hsame =>
    obtain rfl := Option.some.inj hstep
    obtain ⟨-, rfl⟩ := hrelies
    exact hfinds
  all_goals first
    | contradiction
    | obtain rfl := Option.some.inj hstep
      first
      | exact hfinds
      | trivial

/-- The next step of a `try_pop`. -/
lemma Counted.pops {k : ℕ} (h : s.Counted stored) (hfinds : (s.thread 0).Finds s.slot s.head)
    (hleft : (s.thread 0).popsLeft = some (k + 1)) :
    ∃ s', s.next 0 = some s' ∧ ∃ l ≤ k, (s'.thread 0).popsLeft = some l := by
  have hrelies := h.relies 0
  cases hpc : s.thread 0 <;> rw [hpc] at hleft hrelies hfinds <;>
    simp only [QueuePc.popsLeft, reduceCtorEq, Option.some.injEq] at hleft
  case popLoadHead =>
    have hnext : s.next 0 = some (s.goto 0 (.popLoadTail s.head)) := by simp only [next, hpc]
    exact ⟨_, hnext, 7, by omega, rfl⟩
  case popLoadTail t =>
    by_cases hsame : SameCounter t s.tail
    · have hnext : s.next 0 = some (s.goto 0 (.popped none)) := by simp [next, hpc, hsame]
      exact ⟨_, hnext, 0, by omega, rfl⟩
    · have hnext : s.next 0 = some (s.goto 0 (.popClaim t)) := by simp [next, hpc, hsame]
      exact ⟨_, hnext, 6, by omega, rfl⟩
  case popClaim t =>
    obtain ⟨-, rfl⟩ := hrelies
    have hnext : s.next 0 = some (s.claimHead 0) := by simp [next, hpc]
    exact ⟨_, hnext, 5, by omega, rfl⟩
  case popWait t =>
    have hflag : (s.slotOf t).isInitialized = true := hfinds
    have hnext : s.next 0 = some (s.goto 0 (.popCheck t)) := by simp [next, hpc, hflag]
    exact ⟨_, hnext, 4, by omega, rfl⟩
  case popCheck t =>
    have hflag : (s.slotOf t).isInitialized = true := hfinds
    have hnext : s.next 0 = some (s.touch 0 (.popTake t) t
        { s.slotOf t with turn := (s.slotOf t).turn + 1 }) := by simp only [next, hpc, if_pos hflag]
    exact ⟨_, hnext, 3, by omega, rfl⟩
  case popTake t =>
    obtain ⟨data, hdata⟩ := Option.isSome_iff_exists.1 (h.object _ hrelies.2)
    have hobject : (s.slotOf t).object = some data := hdata
    have hnext : s.next 0 = some (s.touch 0 (.popClear t data) t
        { s.slotOf t with untaken := false }) := by simp only [next, hpc, hobject]
    exact ⟨_, hnext, 2, by omega, rfl⟩
  case popClear t data =>
    have hnext : s.next 0 = some (s.touch 0 (.popClearAgain t data) t
        { s.slotOf t with isInitialized := false }) := by simp only [next, hpc]
    exact ⟨_, hnext, 1, by omega, rfl⟩
  case popClearAgain t data =>
    have hnext : s.next 0 = some { s.touch 0 (.popped (some data)) t
        { s.slotOf t with isInitialized := false, turn := (s.slotOf t).turn + 1 } with
      returned := s.returned ++ [data] } := by simp only [next, hpc]
    exact ⟨_, hnext, 0, by omega, rfl⟩

/-! ### The producer -/

/-- The `head` that a thread has loaded which is about to load `tail`. -/
def loadedHead (s : QueueState α) (i : ℕ) : Option ℕ :=
  match s.thread i with
  | .popLoadTail h => some h
  | _ => none

lemma head_le {a : ℕ × QueueAction α} (h : s.step a = some s') : s.head ≤ s'.head := by
  cases stepped h
  case claimPop => exact Nat.le_succ _
  all_goals exact le_rfl

lemma full_of_le (h : s.full = false) (hhead : s.head ≤ s'.head) (htail : s'.tail = s.tail) :
    s'.full = false := by
  simp only [full, decide_eq_false_iff_not] at h ⊢
  omega

/-- Where a thread does not push, it does not come to push, and `tail` stays as it is. -/
lemma claims_of_step {a : QueueAction α} (hclaims : (s.thread i).claims = false)
    (hpush : ∀ x, a ≠ .push x) (h : s.step (i, a) = some s') :
    (s'.thread i).claims = false ∧ s'.tail = s.tail := by
  cases a with
  | push x => exact absurd rfl (hpush x)
  | next =>
    cases hpc : s.thread i <;> simp only [step, next, hpc] at h <;> rw [hpc] at hclaims <;>
      try split at h
    all_goals first
      | contradiction
      | obtain rfl := Option.some.inj h
        simp [goto, touch, claimHead, QueuePc.claims]
  | _ =>
    cases hpc : s.thread i <;> simp only [step, hpc, reduceCtorEq] at h <;>
      obtain rfl := Option.some.inj h <;> simp [goto, QueuePc.claims]

/-- Only a `try_pop` that has its exchange succeed advances `head`. -/
lemma head_eq {a : QueueAction α} (h : s.step (i, a) = some s')
    (hclaim : a = .next → ∀ t, s.thread i = .popClaim t → ¬ SameCounter t s.head) :
    s'.head = s.head := by
  cases a with
  | next =>
    cases hpc : s.thread i <;> simp only [step, next, hpc] at h <;> try split at h
    case popClaim.isTrue t hsame => exact absurd hsame (hclaim rfl t hpc)
    all_goals first
      | contradiction
      | obtain rfl := Option.some.inj h
        rfl
  | _ =>
    cases hpc : s.thread i <;> simp only [step, hpc, reduceCtorEq] at h <;>
      obtain rfl := Option.some.inj h <;> rfl

end QueueState

namespace WaitState

variable {s s' : WaitState α} {i j : ℕ}

/-- Only the thread 0 pops. -/
def ConsumesAlone (a : ℕ × WaitAction α) : Prop := a.2 = .queue .pop → a.1 = 0

instance [DecidableEq α] (a : ℕ × WaitAction α) : Decidable (ConsumesAlone a) :=
  inferInstanceAs (Decidable (_ → _))

/-- A `try_pop` does not take counters for equal that differ by 2^64. -/
def ComparesExactly (s : WaitState α) (a : ℕ × WaitAction α) : Prop :=
  ∀ h ∈ s.queue.loadedHead a.1, SameCounter h s.queue.tail → h = s.queue.tail

instance (s : WaitState α) (a : ℕ × WaitAction α) : Decidable (s.ComparesExactly a) :=
  inferInstanceAs (Decidable (∀ h ∈ s.queue.loadedHead a.1, _))

/-- When `wait_for_data` has returned, the next `try_pop` goes on until it returns a value. -/
structure PopsNext (s : WaitState α) : Prop where
  value : s.wait 0 = .dataReturned → ∀ result, s.queue.thread 0 = .popped result →
    result.isSome = true
  goesOn : s.wait 0 = .dataReturned → ∀ k, (s.queue.thread 0).popsLeft = some (k + 1) →
    ∃ s', s.step (0, .queue .next) = some s' ∧
      ∃ l ≤ k, (s'.queue.thread 0).popsLeft = some l

/-- What holds in a run with one consumer. -/
structure Consumed (s : WaitState α) : Prop where
  counted : ∃ stored, s.queue.Counted stored
  idle : ∀ i, (s.wait i).outside = false → s.queue.thread i = .idle
  finds : (s.wait 0).FindsData s.queue

lemma slot_truncated (n : ℕ) : normilizeRingSlot (n % 2 ^ 16) = normilizeRingSlot n := by
  simp only [normilizeRingSlot_eq, ringBufferSize]
  omega

/-- A step of the consumer in the queue. -/
lemma findsData_after {stored : Finset ℕ} {b : QueueAction α} {q : QueueState α}
    (hcounted : s.queue.Counted stored) (hfinds : (s.wait 0).FindsData s.queue)
    (houtside : (s.wait 0).outside = true) (hexact : s.ComparesExactly (0, .queue b))
    (hstep : s.queue.step (0, b) = some q) :
    ((s.wait 0).after (s.queue.thread 0) b).FindsData q := by
  cases hwait : s.wait 0 <;> rw [hwait] at hfinds houtside
  case dataReturned =>
    cases b with
    | next =>
      have hafter : WaitPc.dataReturned.after (s.queue.thread 0) .next = .dataReturned := by
        cases s.queue.thread 0 <;> rfl
      rw [hafter]
      have hloaded : ∀ t, s.queue.thread 0 = .popLoadTail t → SameCounter t s.queue.tail →
          t = s.queue.tail := fun t ht => hexact t (by simp [QueueState.loadedHead, ht])
      exact hcounted.finds_next hfinds hloaded hstep
    | _ =>
      cases hpc : s.queue.thread 0 <;>
        simp only [QueueState.step, hpc, reduceCtorEq] at hstep <;>
        obtain rfl := Option.some.inj hstep <;>
        rw [WaitPc.FindsData, hpc] at hfinds
      all_goals first
        | exact hfinds
        | trivial
  case idle | spaceReturned =>
    unfold WaitPc.after
    split
    · trivial
    · trivial
    · trivial
  all_goals contradiction

/-- A step of the consumer in a helper. -/
lemma findsData_next (hidle : (s.wait 0).outside = false → s.queue.thread 0 = .idle)
    (hfinds : (s.wait 0).FindsData s.queue) {pc : WaitPc} (hnext : s.next 0 = some (s.goto 0 pc)) :
    pc.FindsData s.queue := by
  cases hwait : s.wait 0 <;> simp only [next, hwait] at hnext <;> rw [hwait] at hfinds hidle <;>
    try split at hnext
  case dataLoadHead =>
    obtain rfl := goto_inj (Option.some.inj hnext)
    exact slot_truncated _
  case dataWait.isTrue h _ =>
    obtain rfl := goto_inj (Option.some.inj hnext)
    exact hfinds
  case dataCheck.isFalse h _ =>
    obtain rfl := goto_inj (Option.some.inj hnext)
    exact hfinds
  case dataCheck.isTrue h hflag =>
    obtain rfl := goto_inj (Option.some.inj hnext)
    have hslot : normilizeRingSlot h = normilizeRingSlot s.queue.head := hfinds
    rw [WaitPc.FindsData, hidle rfl]
    rw [QueueState.slotOf, hslot] at hflag
    exact hflag
  all_goals first
    | contradiction
    | obtain rfl := goto_inj (Option.some.inj hnext)
      trivial

lemma Consumed.step {a : ℕ × WaitAction α} (h : s.Consumed) (hstep : s.step a = some s')
    (halone : ConsumesAlone a) (hexact : s.ComparesExactly a) : s'.Consumed := by
  obtain ⟨⟨stored, hcounted⟩, hidle, hfinds⟩ := h
  have hidle' := thread_idle hidle hstep
  cases stepped hstep with
  | @queue j b q houtside hq =>
    have hpops : b = .pop → j = 0 := fun hb => halone (by rw [hb])
    refine ⟨hcounted.step hpops hq, hidle', ?_⟩
    rcases eq_or_ne 0 j with rfl | hne
    · simpa using findsData_after hcounted hfinds houtside hexact hq
    · obtain ⟨hhead, hflags⟩ := hcounted.others hq hne.symm
      simpa [hne] using hfinds.mono (QueueState.thread_of_ne hq hne) hhead hflags
  | @call j b pc hcalls hpc =>
    refine ⟨⟨stored, hcounted⟩, hidle', ?_⟩
    rcases eq_or_ne 0 j with rfl | hne
    · rcases hpc with rfl | rfl
      · simp [goto, WaitPc.FindsData]
      · simp [goto, WaitPc.FindsData]
    · simpa [goto, hne] using hfinds
  | @next j pc hinside hnext =>
    refine ⟨⟨stored, hcounted⟩, hidle', ?_⟩
    rcases eq_or_ne 0 j with rfl | hne
    · simpa [goto] using findsData_next (hidle 0) hfinds hnext
    · simpa [goto, hne] using hfinds

lemma consumed_of_reachable
    (h : (waitSystem α).Reachable (fun s a => ConsumesAlone a ∧ s.ComparesExactly a) s) :
    s.Consumed := by
  refine h.invariant (I := Consumed) ?_ ?_
  · rintro s rfl
    exact ⟨⟨∅, .initial⟩, fun _ _ => rfl, trivial⟩
  · exact fun s a s' _ hs hguard hstep => hs.step hstep hguard.1 hguard.2

lemma Consumed.popsNext (h : s.Consumed) : s.PopsNext := by
  obtain ⟨⟨stored, hcounted⟩, -, hfinds⟩ := h
  constructor
  · intro hwait result hpc
    rw [hwait, WaitPc.FindsData, hpc] at hfinds
    exact hfinds
  · intro hwait k hleft
    rw [hwait] at hfinds
    obtain ⟨q, hnext, l, hl, hq⟩ := hcounted.pops hfinds hleft
    have hstep : s.step (0, .queue .next) = some
        { queue := q, wait := update s.wait 0 ((s.wait 0).after (s.queue.thread 0) .next) } := by
      have houtside : (s.wait 0).outside = true := by rw [hwait]; rfl
      simp only [WaitState.step, queueStep, houtside, if_true, QueueState.step, hnext,
        Option.map_some]
    exact ⟨_, hstep, l, hl, hq⟩

/-! ### Waiting for space -/

/-- Only the thread 1 pushes. -/
def ProducesAlone (a : ℕ × WaitAction α) : Prop := ∀ x, a.2 = .queue (.push x) → a.1 = 1

/-- When `wait_for_space` loads `head`, a queue that holds its maximum holds no more than that, and
`head` is not at the start of the ring. -/
def FullInRing (s : WaitState α) (a : ℕ × WaitAction α) : Prop :=
  a.2 = .next → a.1 = 1 → ∀ t, s.wait 1 = .spaceLoadHead t → s.queue.full = true →
    (s.queue.tail - s.queue.head) % ringBufferSize = ringBufferSize - 1 ∧
      s.queue.head % ringBufferSize ≠ 0

/-- No pop advances `head` while the producer is in its loop. -/
def KeepsHead (s : WaitState α) (a : ℕ × WaitAction α) : Prop :=
  a.2 = .queue .next → ∀ h, s.wait 1 = .spaceWait h →
    ∀ t, s.queue.thread a.1 = .popClaim t → ¬ SameCounter t s.queue.head

/-- `wait_for_space` does not return while the queue holds its maximum. -/
def ReturnsWithSpace (s : WaitState α) : Prop :=
  s.wait 1 = .spaceReturned → s.queue.full = false

/-- Its loop exits when it finds that `head` has changed. -/
def ExitsOnceChanged (s : WaitState α) : Prop :=
  ∀ h, s.wait 1 = .spaceCheck h → ¬ SameCounter s.queue.head h →
    ∃ s', s.step (1, .next) = some s' ∧ s'.wait 1 = .spaceReturned

/-- What holds in a run with one producer. -/
structure Produced (s : WaitState α) : Prop where
  producers : ∀ i, i ≠ 1 → (s.queue.thread i).claims = false
  idle : ∀ i, (s.wait i).outside = false → s.queue.thread i = .idle
  spaced : (s.wait 1).Spaced s.queue

lemma looksFull_of_full {t : ℕ} {q : QueueState α}
    (ht : normilizeRingSlot t = normilizeRingSlot q.tail) (hfull : q.full = true)
    (hheld : (q.tail - q.head) % ringBufferSize = ringBufferSize - 1)
    (hstart : q.head % ringBufferSize ≠ 0) : looksFull t q.head := by
  have hle : ringBufferSize - 1 ≤ q.tail - q.head := of_decide_eq_true hfull
  rw [looksFull, ht, normilizeRingSlot_eq, normilizeRingSlot_eq]
  simp only [ringBufferSize] at hle hheld hstart ⊢
  omega

/-- A step of the producer in the queue. -/
lemma spaced_after {b : QueueAction α} {q : QueueState α} (hspaced : (s.wait 1).Spaced s.queue)
    (houtside : (s.wait 1).outside = true) (hstep : s.queue.step (1, b) = some q) :
    ((s.wait 1).after (s.queue.thread 1) b).Spaced q := by
  cases hwait : s.wait 1 <;> rw [hwait] at hspaced houtside
  case spaceReturned =>
    by_cases hpush : ∃ x, b = .push x
    · obtain ⟨x, rfl⟩ := hpush
      trivial
    · have hafter : WaitPc.spaceReturned.after (s.queue.thread 1) b = .spaceReturned := by
        cases b with
        | push x => exact absurd ⟨x, rfl⟩ hpush
        | _ => rfl
      obtain ⟨hclaims, htail⟩ := QueueState.claims_of_step hspaced.2
        (fun x hb => hpush ⟨x, hb⟩) hstep
      rw [hafter]
      exact ⟨QueueState.full_of_le hspaced.1 (QueueState.head_le hstep) htail, hclaims⟩
  case idle | dataReturned =>
    unfold WaitPc.after
    split
    · trivial
    · trivial
    · trivial
  all_goals contradiction

/-- A step of another thread in the queue, which does not push. -/
lemma spaced_others {b : QueueAction α} {q : QueueState α} (hspaced : (s.wait 1).Spaced s.queue)
    (hne : 1 ≠ i) (hstep : s.queue.step (i, b) = some q) (htail : q.tail = s.queue.tail)
    (hkeeps : s.KeepsHead (i, .queue b)) : (s.wait 1).Spaced q := by
  cases hwait : s.wait 1 <;> rw [hwait] at hspaced
  case spaceLoadHead t =>
    rw [WaitPc.Spaced, htail]
    exact hspaced
  case spaceWait h =>
    have hhead := QueueState.head_eq hstep fun hb => hkeeps (by rw [hb]) h hwait
    rw [WaitPc.Spaced, hhead]
    exact hspaced
  case spaceReturned =>
    rw [WaitPc.Spaced, QueueState.thread_of_ne hstep hne]
    exact ⟨QueueState.full_of_le hspaced.1 (QueueState.head_le hstep) htail, hspaced.2⟩
  case spaceCheck => exact hspaced.elim
  all_goals trivial

/-- A step of the producer in a helper. -/
lemma spaced_next (hidle : (s.wait 1).outside = false → s.queue.thread 1 = .idle)
    (hspaced : (s.wait 1).Spaced s.queue) (hfull : s.FullInRing (1, .next)) {pc : WaitPc}
    (hnext : s.next 1 = some (s.goto 1 pc)) : pc.Spaced s.queue := by
  cases hwait : s.wait 1 <;> simp only [next, hwait] at hnext <;> rw [hwait] at hspaced hidle <;>
    try split at hnext
  case spaceLoadTail =>
    obtain rfl := goto_inj (Option.some.inj hnext)
    exact slot_truncated _
  case spaceLoadHead.isTrue t _ =>
    obtain rfl := goto_inj (Option.some.inj hnext)
    rfl
  case spaceLoadHead.isFalse t hnot =>
    obtain rfl := goto_inj (Option.some.inj hnext)
    refine ⟨?_, by rw [hidle rfl]; rfl⟩
    by_contra hheld
    have hheld : s.queue.full = true := by simpa using hheld
    obtain ⟨hmod, hstart⟩ := hfull rfl rfl t hwait hheld
    exact hnot (looksFull_of_full hspaced hheld hmod hstart)
  case spaceWait.isFalse h hchanged =>
    rw [hspaced] at hchanged
    exact absurd (sameCounter_self _) hchanged
  case spaceCheck.isTrue | spaceCheck.isFalse => exact hspaced.elim
  all_goals first
    | contradiction
    | obtain rfl := goto_inj (Option.some.inj hnext)
      trivial

lemma Produced.step {a : ℕ × WaitAction α} (h : s.Produced) (hstep : s.step a = some s')
    (halone : ProducesAlone a) (hfull : s.FullInRing a) (hkeeps : s.KeepsHead a) :
    s'.Produced := by
  obtain ⟨hproducers, hidle, hspaced⟩ := h
  have hidle' := thread_idle hidle hstep
  cases stepped hstep with
  | @queue j b q houtside hq =>
    have hstays : j ≠ 1 → (q.thread j).claims = false ∧ q.tail = s.queue.tail := fun hne =>
      QueueState.claims_of_step (hproducers j hne) (fun x hb => hne (halone x (by rw [hb]))) hq
    refine ⟨fun i hi => ?_, hidle', ?_⟩
    · rcases eq_or_ne i j with rfl | hne
      · exact (hstays hi).1
      · have hthread := QueueState.thread_of_ne hq hne
        exact hthread ▸ hproducers i hi
    · rcases eq_or_ne 1 j with rfl | hne
      · simpa using spaced_after hspaced houtside hq
      · simpa [hne] using spaced_others hspaced hne hq (hstays hne.symm).2 hkeeps
  | @call j b pc hcalls hpc =>
    refine ⟨hproducers, hidle', ?_⟩
    rcases eq_or_ne 1 j with rfl | hne
    · rcases hpc with rfl | rfl
      · simp [goto, WaitPc.Spaced]
      · simp [goto, WaitPc.Spaced]
    · simpa [goto, hne] using hspaced
  | @next j pc hinside hnext =>
    refine ⟨hproducers, hidle', ?_⟩
    rcases eq_or_ne 1 j with rfl | hne
    · simpa [goto] using spaced_next (hidle 1) hspaced hfull hnext
    · simpa [goto, hne] using hspaced

lemma produced_of_reachable (h : (waitSystem α).Reachable
    (fun s a => ProducesAlone a ∧ s.FullInRing a ∧ s.KeepsHead a) s) : s.Produced := by
  refine h.invariant (I := Produced) ?_ ?_
  · rintro s rfl
    exact ⟨fun _ _ => rfl, fun _ _ => rfl, trivial⟩
  · exact fun s a s' _ hs hguard hstep => hs.step hstep hguard.1 hguard.2.1 hguard.2.2

lemma Produced.returnsWithSpace (h : s.Produced) : s.ReturnsWithSpace := by
  intro hwait
  have hspaced := h.spaced
  rw [hwait] at hspaced
  exact hspaced.1

lemma Produced.exitsOnceChanged (h : s.Produced) : s.ExitsOnceChanged := by
  intro t hwait
  have hspaced := h.spaced
  rw [hwait] at hspaced
  exact hspaced.elim

/-- With one consumer, `wait_for_data` returns when the next `try_pop` returns a value. With one
producer, `wait_for_space` returns when there is space as long as `head` is not at the start of the
ring, and its loop does as it should as long as nobody moves `head` meanwhile. -/
theorem waits_for_data_and_space (s : WaitState α) :
    ((waitSystem α).Reachable (fun s a => ConsumesAlone a ∧ s.ComparesExactly a) s →
      s.PopsNext) ∧
    ((waitSystem α).Reachable (fun s a => ProducesAlone a ∧ s.FullInRing a ∧ s.KeepsHead a) s →
      s.ReturnsWithSpace ∧ s.ExitsOnceChanged) := by
  refine ⟨fun h => (consumed_of_reachable h).popsNext, fun h => ?_⟩
  have hproduced := produced_of_reachable h
  exact ⟨hproduced.returnsWithSpace, hproduced.exitsOnceChanged⟩

/-- The consumer waits for the value that the thread 1 pushes and pops it; a producer waits for
space in an empty queue. -/
theorem waits_for_data_and_space_one : ∃ s s' : WaitState ℕ,
    (s.wait 0 = .dataReturned ∧ s.queue.thread 0 = .popped (some (0, 7)) ∧ s.PopsNext) ∧
      s'.wait 1 = .spaceReturned ∧ s'.ReturnsWithSpace ∧ s'.ExitsOnceChanged := by
  let labels : List (ℕ × WaitAction ℕ) :=
    (1, .queue (.push 7)) :: List.replicate 7 (1, .queue .next) ++
      (0, .waitForData) :: List.replicate 3 (0, .next) ++
      (0, .queue .pop) :: List.replicate 8 (0, .queue .next)
  obtain ⟨s, hrun, hwait, hpopped⟩ : ∃ s, (waitSystem ℕ).run {} labels = some s ∧
    s.wait 0 = .dataReturned ∧ s.queue.thread 0 = .popped (some (0, 7)) := ⟨_, rfl, rfl, rfl⟩
  have hreach : (waitSystem ℕ).Reachable (fun s a => ConsumesAlone a ∧ s.ComparesExactly a) s :=
    (System.Reachable.of_initial rfl).run (by decide) hrun
  obtain ⟨s', hrun', hwait'⟩ : ∃ s' : WaitState ℕ,
    (waitSystem ℕ).run {} [(1, .waitForSpace), (1, .next), (1, .next)] = some s' ∧
      s'.wait 1 = .spaceReturned := ⟨_, rfl, rfl⟩
  have hreach' : (waitSystem ℕ).Reachable
      (fun s a => ProducesAlone a ∧ s.FullInRing a ∧ s.KeepsHead a) s' := by
    refine (System.Reachable.of_initial rfl).run ?_ hrun'
    simp [System.Meets, waitSystem, WaitState.step, call, next, goto, WaitPc.outside,
      ProducesAlone, FullInRing, KeepsHead, QueueState.full]
  exact ⟨s, s', ⟨hwait, hpopped, (waits_for_data_and_space s).1 hreach⟩, hwait',
    (waits_for_data_and_space s').2 hreach'⟩

/-! ### Where it does not return as it should -/

/-- The queue on its own, while nobody is in a helper. -/
lemma run_queue {as : List (ℕ × QueueAction α)} {q : QueueState α}
    (hwait : ∀ i, s.wait i = .idle) (hrun : (queueSystem α).run s.queue as = some q) :
    (waitSystem α).run s (as.map fun a => (a.1, .queue a.2)) =
      some { queue := q, wait := s.wait } := by
  induction as generalizing s with
  | nil =>
    obtain rfl : s.queue = q := by simpa [System.run] using hrun
    rfl
  | cons a as ih =>
    obtain ⟨q', hq', hrun'⟩ := Option.bind_eq_some_iff.1 hrun
    have hstep : (waitSystem α).step s (a.1, .queue a.2) =
        some { queue := q', wait := s.wait } := by
      have hstays : update s.wait a.1 ((s.wait a.1).after (s.queue.thread a.1) a.2) = s.wait := by
        rw [hwait]
        simp [WaitPc.after, ← hwait a.1]
      have hq : s.queue.step (a.1, a.2) = some q' := hq'
      simp only [waitSystem, WaitState.step, queueStep, hwait, WaitPc.outside, if_true, hq,
        Option.map_some]
      rw [hwait] at hstays
      rw [hstays]
    simp only [List.map_cons, System.run, hstep, Option.bind_some]
    exact ih hwait hrun'

/-- A run of the queue alone in which the thread 1 makes the pushes. -/
lemma reachable_of_queue {as : List (ℕ × QueueAction α)} {q : QueueState α}
    (hrun : (queueSystem α).run {} as = some q) (hpush : ∀ a ∈ as, ∀ x, a.2 = .push x → a.1 = 1) :
    (waitSystem α).Reachable (fun _ a => ProducesAlone a) { queue := q } := by
  refine (System.Reachable.of_initial rfl).run (System.meets_of_labels ?_)
    (run_queue (fun _ => rfl) hrun)
  intro a ha x hx
  obtain ⟨b, hb, rfl⟩ := List.mem_map.1 ha
  exact hpush b hb x (WaitAction.queue.inj hx)

/-- The thread 1 pushes `n` values. -/
lemma exists_filled {q : AtomicQueue ℕ} {s : QueueState ℕ} (h : s.Holds q) (n : ℕ)
    (hn : q.items.length + n ≤ ringBufferSize - 1) :
    ∃ as s', (queueSystem ℕ).run s as = some s' ∧ (∀ a ∈ as, a.1 = 1) ∧
      s'.Holds { q with items := q.items ++ List.replicate n 7 } := by
  induction n with
  | zero => exact ⟨[], s, rfl, by simp, by simpa using h⟩
  | succ n ih =>
    obtain ⟨as, s', hrun, has, hs'⟩ := ih (by omega)
    have hlength : (q.items ++ List.replicate n 7).length < ringBufferSize - 1 := by
      rw [List.length_append, List.length_replicate]
      omega
    have hfull : ¬ looksFull s'.tail s'.head := by
      intro hfull
      rw [hs'.tail, hs'.head] at hfull
      have hge := sub_ge_of_looksFull (Nat.le_add_right _ _) hfull
      simp only [Nat.add_sub_cancel_left] at hge
      exact hlength.not_ge hge
    have hroom := hlength.trans_le (Nat.sub_le _ _)
    have hpush := QueueState.run_push (x := 7) (hs'.idle 1) hfull (hs'.slot_tail hroom)
    refine ⟨as ++ QueueState.pushSteps 1 7, s'.afterPush 1 7, ?_, ?_, ?_⟩
    · rw [System.run_append, hrun]
      exact hpush
    · have hlabels : ∀ a ∈ QueueState.pushSteps 1 7, a.1 = 1 := by decide
      intro a ha
      rcases List.mem_append.1 ha with ha | ha
      · exact has a ha
      · exact hlabels a ha
    · have hafter := hs'.afterPush (i := 1) (x := 7) hroom
      rwa [List.append_assoc, ← List.replicate_succ'] at hafter

lemma tail_filled {q : AtomicQueue ℕ} {s : QueueState ℕ} {n : ℕ}
    (h : s.Holds { q with items := q.items ++ List.replicate n 7 }) : s.tail = q.tail + n := by
  rw [h.tail]
  simp [AtomicQueue.tail, Nat.add_assoc]

/-- It does not exit when it finds that `head` has changed. -/
lemma goes_round {h : ℕ} (hwait : s.wait i = .spaceCheck h)
    (hchanged : ¬ SameCounter s.queue.head h) :
    s.step (i, .next) = some (s.goto i (.spaceWait h)) := by
  simp only [WaitState.step, next, hwait, if_neg hchanged]

/-- The maximum is held with `head` at the start of the ring: `wait_for_space` does not wait. -/
lemma exists_returned_full : ∃ s : WaitState ℕ,
    (waitSystem ℕ).Reachable (fun _ a => ProducesAlone a) s ∧ s.wait 1 = .spaceReturned ∧
      s.queue.full = true := by
  obtain ⟨as, q, hrun, has, hq⟩ := exists_filled QueueState.holds_initial (ringBufferSize - 1)
    (Nat.zero_add _).le
  have hhead : q.head = 0 := hq.head
  have htail : q.tail = 4095 := tail_filled hq
  have hreach := reachable_of_queue hrun fun a ha _ _ => has a ha
  have hnot : ¬ looksFull (q.tail % 65536) q.head := by
    rw [hhead, htail]
    decide
  have hwaits : (waitSystem ℕ).run { queue := q } [(1, .waitForSpace), (1, .next), (1, .next)] =
      some { queue := q, wait := update (fun _ => .idle) 1 .spaceReturned } := by
    simp [System.run, waitSystem, WaitState.step, call, next, goto, WaitPc.outside, hq.idle, hnot]
  refine ⟨_, hreach.run (System.meets_of_labels (by simp [ProducesAlone])) hwaits, ?_, ?_⟩
  · simp
  · simp [QueueState.full, hhead, htail]

/-- A value is popped while the producer waits: it finds `head` changed and waits again. -/
lemma exists_goes_round : ∃ (s : WaitState ℕ) (h : ℕ),
    (waitSystem ℕ).Reachable (fun _ a => ProducesAlone a) s ∧ s.wait 1 = .spaceCheck h ∧
      ¬ SameCounter s.queue.head h := by
  have hpush := QueueState.run_push (s := {}) (i := 1) (x := 7) rfl (not_looksFull_self 0) rfl
  have hpop := QueueState.run_pop (s := ({} : QueueState ℕ).afterPush 1 7) (i := 0) (y := (0, 7))
    rfl (by decide) rfl rfl
  have hholds := (QueueState.holds_initial.afterPush (i := 1) (x := 7) (by decide)).afterPop
    (i := 0) rfl
  obtain ⟨as, q, hrun, has, hq⟩ := exists_filled hholds (ringBufferSize - 1) (Nat.zero_add _).le
  have hhead : q.head = 1 := hq.head
  have htail : q.tail = 4096 := tail_filled hq
  have hqueue : (queueSystem ℕ).run {} (QueueState.pushSteps 1 7 ++ QueueState.popSteps 0 ++
      QueueState.popEnd 0 ++ as) = some q := by
    rw [System.run_append, System.run_append, System.run_append, hpush, Option.bind_some, hpop,
      Option.bind_some, QueueState.run_popEnd]
    exact hrun
  have hlabels : ∀ a ∈ QueueState.pushSteps 1 7 ++ QueueState.popSteps 0 ++ QueueState.popEnd 0,
      a.1 = 1 ∨ a.2 = .pop ∨ a.2 = .next ∨ a.2 = .leave := by decide
  have hreach : (waitSystem ℕ).Reachable (fun _ a => ProducesAlone a) { queue := q } := by
    refine reachable_of_queue hqueue fun a ha x hx => ?_
    rcases List.mem_append.1 ha with ha | ha
    · rcases hlabels a ha with hone | hpop | hnext | hleave
      · exact hone
      · cases hx.symm.trans hpop
      · cases hx.symm.trans hnext
      · cases hx.symm.trans hleave
    · exact has a ha
  have hfull : looksFull (q.tail % 65536) q.head := by
    rw [hhead, htail]
    decide
  have hne : ¬ SameCounter q.head q.tail := by
    rw [hhead, htail]
    decide
  have hmoved : ¬ SameCounter (q.head + 1) q.head := by
    rw [hhead]
    decide
  have hidle := hq.idle
  obtain ⟨s, hwaits, hwait, hnow⟩ : ∃ s : WaitState ℕ, (waitSystem ℕ).run { queue := q }
      [(1, .waitForSpace), (1, .next), (1, .next), (0, .queue .pop), (0, .queue .next),
        (0, .queue .next), (0, .queue .next), (1, .next)] = some s ∧
      s.wait 1 = .spaceCheck q.head ∧ s.queue.head = q.head + 1 := by
    simp [System.run, waitSystem, WaitState.step, call, queueStep, next, goto, WaitPc.outside,
      WaitPc.after, hidle, hfull, hne, hmoved, QueueState.step, QueueState.next, QueueState.goto,
      QueueState.claimHead]
  have hwaiting := hreach.run (System.meets_of_labels (by simp [ProducesAlone])) hwaits
  refine ⟨s, q.head, hwaiting, hwait, ?_⟩
  rw [hnow]
  exact hmoved

/-- `wait_for_space` returns with a full queue, and goes on waiting when `head` has changed. -/
theorem not_waits_for_space :
    (¬ ∀ s : WaitState ℕ, (waitSystem ℕ).Reachable (fun _ a => ProducesAlone a) s →
      s.ReturnsWithSpace) ∧
    ¬ ∀ s : WaitState ℕ, (waitSystem ℕ).Reachable (fun _ a => ProducesAlone a) s →
      s.ExitsOnceChanged := by
  constructor
  · intro hall
    obtain ⟨s, hreach, hwait, hfull⟩ := exists_returned_full
    exact absurd (hfull.symm.trans (hall s hreach hwait)) (by decide)
  · intro hall
    obtain ⟨s, h, hreach, hwait, hchanged⟩ := exists_goes_round
    obtain ⟨s', hstep, hreturned⟩ := hall s hreach h hwait hchanged
    obtain rfl := Option.some.inj ((goes_round hwait hchanged).symm.trans hstep)
    simp [goto] at hreturned

end WaitState

end BattleShips
