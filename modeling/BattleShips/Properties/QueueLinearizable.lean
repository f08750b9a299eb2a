import BattleShips.Core.AtomicQueueCalls
import BattleShips.Core.AtomicQueueTurns
import BattleShips.Lib.Linearizable

/-!
# The queue is linearizable

Under any number of threads that keep to their turns, `try_push` and `try_pop` behave as if each of
them happened at one moment between its call and its return: at its successful exchange on `tail` or
`head`, or, if it fails, where it has made up its mind. A push fails on a queue that is full and a
pop on one that is empty; besides, either may fail because another call has gone through while it
was under way, and for no other reason.
-/

namespace BattleShips

open Function TicketRing

/-- A queue whose calls may fail: at 4095 values or more, on no value, and when contended. -/
def queueObject (α : Type*) : ObjectSpec (List α) (FifoCall α) (FifoResult α) where
  allowed items
    | .push _, .pushed accepted => accepted = true ∨ ringBufferSize - 1 ≤ items.length
    | .pop, .popped x => x = items.head?
    | _, _ => False
  contended
    | .push _, r => r = .pushed false
    | .pop, r => r = .popped none
  next items
    | .push x, .pushed true => some (items ++ [x])
    | .pop, .popped (some _) => some items.tail
    | _, _ => none

variable {α : Type*} {s s' : QueueState α} {i j : ℕ} {pc : QueuePc α}
  {b : Atomic ℕ (List α) (FifoCall α) (FifoResult α)}
  {status : CallStatus (FifoCall α) (FifoResult α)}

/-- What the threads see of a step. -/
def QueueState.callEvent (s : QueueState α) :
    ℕ × QueueAction α → List (CallEvent ℕ (FifoCall α) (FifoResult α))
  | (i, .push x) => [.call i (.push x)]
  | (i, .pop) => [.call i .pop]
  | (_, .next) => []
  | (i, .leave) => ((resultOf (s.thread i)).map (.ret i)).toList

/-- How far the call of a thread has got. -/
def QueuePc.Shows (head tail : ℕ) (accepted : List α) :
    QueuePc α → CallStatus (FifoCall α) (FifoResult α) → Prop
  | .idle, status => status = .idle
  | .pushLoadTail x, status | .pushClaim x _, status => status.Awaits (.push x) True
  | .pushLoadHead x t, status => status.Awaits (.push x) (t = tail)
  | .pushWait _ _, status | .pushCheck _ _, status | .pushEmplace _ _, status
  | .pushStore _ _, status => status = .done (.pushed true)
  | .pushed accepted, status => status = .done (.pushed accepted)
  | .popLoadHead, status => status.Awaits .pop True
  | .popLoadTail h, status => h ≤ head ∧ status.Awaits .pop (h = head)
  | .popClaim h, status => h ≤ head ∧ h < tail ∧ status.Awaits .pop (h = head)
  | .popWait h, status | .popCheck h, status | .popTake h, status =>
    ∃ x, accepted[h]? = some x ∧ status = .done (.popped (some x))
  | .popClear _ data, status | .popClearAgain _ data, status =>
    status = .done (.popped (some data.2))
  | .popped data, status => status = .done (.popped (data.map Prod.snd))

/-- The queue and the object in its place. -/
structure QueueState.Stands (s : QueueState α)
    (b : Atomic ℕ (List α) (FifoCall α) (FifoResult α)) : Prop where
  value : b.value = s.accepted.drop s.head
  length : s.accepted.length = s.tail
  head_le : s.head ≤ s.tail
  threads : ∀ i, (s.thread i).Shows s.head s.tail s.accepted (b.thread i)

/-- Another call goes through. -/
lemma QueuePc.Shows.contend {head tail head' tail' : ℕ} {accepted accepted' : List α}
    (h : pc.Shows head tail accepted status) (hhead : head ≤ head') (htail : tail ≤ tail')
    (haccepted : ∀ (t : ℕ) (x : α), accepted[t]? = some x → accepted'[t]? = some x) :
    pc.Shows head' tail' accepted' status.contend := by
  cases pc with
  | idle | pushWait | pushCheck | pushEmplace | pushStore | pushed | popClear | popClearAgain
  | popped =>
    obtain rfl := h
    rfl
  | pushLoadTail | pushClaim | pushLoadHead | popLoadHead =>
    exact CallStatus.Awaits.contend h
  | popLoadTail t => exact ⟨h.1.trans hhead, h.2.contend⟩
  | popClaim t => exact ⟨h.1.trans hhead, h.2.1.trans_le htail, h.2.2.contend⟩
  | popWait t | popCheck t | popTake t =>
    obtain ⟨x, hx, rfl⟩ := h
    exact ⟨x, haccepted t x hx, rfl⟩

namespace QueueState.Stands

lemma initial : ({} : QueueState α).Stands { value := [] } where
  value := rfl
  length := rfl
  head_le := le_rfl
  threads _ := rfl

/-- A thread goes on, and the counters stay. -/
lemma move (h : s.Stands b) (hhead : s'.head = s.head) (htail : s'.tail = s.tail)
    (haccepted : s'.accepted = s.accepted) (hthread : s'.thread = update s.thread i pc)
    (hpc : pc.Shows s.head s.tail s.accepted status) : s'.Stands (b.goto i status) where
  value := by rw [hhead, haccepted, ← h.value]; rfl
  length := by rw [haccepted, htail, h.length]
  head_le := by rw [hhead, htail]; exact h.head_le
  threads j := by
    rw [hhead, htail, haccepted, hthread]
    rcases eq_or_ne j i with rfl | hne
    · simpa [Atomic.goto] using hpc
    · simpa [Atomic.goto, hne] using h.threads j

/-- The thread has not got any further with its call. -/
lemma stay (h : s.Stands b) (hhead : s'.head = s.head) (htail : s'.tail = s.tail)
    (haccepted : s'.accepted = s.accepted) (hthread : s'.thread = update s.thread i pc)
    (hpc : pc.Shows s.head s.tail s.accepted (b.thread i)) : s'.Stands b := by
  have hsame : b.goto i (b.thread i) = b := by simp [Atomic.goto]
  exact hsame ▸ h.move hhead htail haccepted hthread hpc

/-- A push goes through. -/
lemma claimTail (h : s.Stands b) (x : α) :
    (s.claimTail i x).Stands ((b.change (b.value ++ [x])).goto i (.done (.pushed true))) where
  value := by
    have hle : s.head ≤ s.accepted.length := h.length ▸ h.head_le
    simp [Atomic.change, Atomic.goto, QueueState.claimTail, h.value,
        List.drop_append_of_le_length hle]
  length := by simp [QueueState.claimTail, h.length]
  head_le := h.head_le.trans (Nat.le_succ _)
  threads j := by
    rcases eq_or_ne j i with rfl | hne
    · simp [QueueState.claimTail, Atomic.goto, QueuePc.Shows]
    · have hkept : ∀ t y, s.accepted[t]? = some y → (s.accepted ++ [x])[t]? = some y :=
        fun t y hy => Ledger.getElem?_append_of_some hy
      have hothers := (h.threads j).contend le_rfl (Nat.le_succ s.tail) hkept
      simpa [QueueState.claimTail, Atomic.goto, Atomic.change, hne] using hothers

/-- A pop goes through. -/
lemma claimHead (h : s.Stands b) (hlt : s.head < s.tail) {x : α}
    (hx : s.accepted[s.head]? = some x) :
    (s.claimHead i).Stands ((b.change b.value.tail).goto i (.done (.popped (some x)))) where
  value := by simp [Atomic.change, Atomic.goto, QueueState.claimHead, h.value]
  length := h.length
  head_le := hlt
  threads j := by
    rcases eq_or_ne j i with rfl | hne
    · simpa [QueueState.claimHead, Atomic.goto, QueuePc.Shows] using hx
    · have hothers := (h.threads j).contend (Nat.le_succ s.head) le_rfl fun t y hy => hy
      simpa [QueueState.claimHead, Atomic.goto, Atomic.change, hne] using hothers

/-- A step within a call: the call takes effect with it, or no thread sees a difference. -/
lemma next (h : s.Stands b) (hsound : s.Sound) (hlt : s.tail < 2 ^ 64)
    (hstep : s.next i = some s') :
    s'.Stands b ∨ ∃ r b', Atomic.Step (queueObject α) b (.effect i r) b' ∧ s'.Stands b' := by
  have hshows := h.threads i
  cases hpc : s.thread i with
  | idle | pushed | popped => simp [QueueState.next, hpc] at hstep
  | pushLoadTail x =>
    rw [hpc] at hshows
    obtain rfl : s.goto i (.pushLoadHead x s.tail) = s' := by
      simpa [QueueState.next, hpc] using hstep
    exact .inl (h.stay rfl rfl rfl rfl (hshows.imp fun _ => rfl))
  | pushLoadHead x t =>
    rw [hpc] at hshows
    by_cases hfull : looksFull t s.head
    · obtain rfl : s.goto i (.pushed false) = s' := by
        simpa [QueueState.next, hpc, hfull] using hstep
      have hallowed : t = s.tail → (queueObject α).allowed b.value (.push x) (.pushed false) := by
        rintro rfl
        right
        rw [h.value, List.length_drop, h.length]
        exact sub_ge_of_looksFull h.head_le hfull
      right
      exact ⟨_, _, Atomic.effect_of_awaits hshows hallowed rfl rfl, h.move rfl rfl rfl rfl rfl⟩
    · obtain rfl : s.goto i (.pushClaim x t) = s' := by
        simpa [QueueState.next, hpc, hfull] using hstep
      exact .inl (h.stay rfl rfl rfl rfl (hshows.imp fun _ => trivial))
  | pushClaim x t =>
    rw [hpc] at hshows
    by_cases hsame : SameCounter t s.tail
    · obtain rfl : s.claimTail i x = s' := by simpa [QueueState.next, hpc, hsame] using hstep
      have hallowed : (queueObject α).allowed b.value (.push x) (.pushed true) := .inl rfl
      exact .inr ⟨_, _, Atomic.effect_of_allowed hshows hallowed rfl, h.claimTail x⟩
    · obtain rfl : s.goto i (.pushLoadTail x) = s' := by
        simpa [QueueState.next, hpc, hsame] using hstep
      exact .inl (h.stay rfl rfl rfl rfl hshows)
  | pushWait x t =>
    rw [hpc] at hshows
    left
    simp only [QueueState.next, hpc] at hstep
    split_ifs at hstep
    obtain rfl := Option.some.inj hstep
    exact h.stay rfl rfl rfl rfl hshows
  | pushCheck x t =>
    rw [hpc] at hshows
    left
    simp only [QueueState.next, hpc] at hstep
    split_ifs at hstep <;> obtain rfl := Option.some.inj hstep <;>
      exact h.stay rfl rfl rfl rfl hshows
  | pushEmplace x t | pushStore x t =>
    rw [hpc] at hshows
    left
    simp only [QueueState.next, hpc] at hstep
    obtain rfl := Option.some.inj hstep
    exact h.stay rfl rfl rfl rfl hshows
  | popLoadHead =>
    rw [hpc] at hshows
    obtain rfl : s.goto i (.popLoadTail s.head) = s' := by simpa [QueueState.next, hpc] using hstep
    exact .inl (h.stay rfl rfl rfl rfl ⟨le_rfl, hshows.imp fun _ => rfl⟩)
  | popLoadTail t =>
    rw [hpc] at hshows
    obtain ⟨hle, hawaits⟩ := hshows
    have hiff := sameCounter_iff (hle.trans h.head_le) hlt
    by_cases hsame : SameCounter t s.tail
    · obtain rfl : s.goto i (.popped none) = s' := by
        simpa [QueueState.next, hpc, hsame] using hstep
      have hallowed : t = s.head → (queueObject α).allowed b.value .pop (.popped none) := by
        rintro rfl
        have hempty : s.accepted.drop s.head = [] := by
          rw [List.drop_eq_nil_iff, h.length]
          exact (hiff.1 hsame).ge
        rw [h.value, hempty]
        rfl
      right
      exact ⟨_, _, Atomic.effect_of_awaits hawaits hallowed rfl rfl, h.move rfl rfl rfl rfl rfl⟩
    · obtain rfl : s.goto i (.popClaim t) = s' := by
        simpa [QueueState.next, hpc, hsame] using hstep
      have hne : t ≠ s.tail := fun heq => hsame (hiff.2 heq)
      exact .inl (h.stay rfl rfl rfl rfl
        ⟨hle, lt_of_le_of_ne (hle.trans h.head_le) hne, hawaits⟩)
  | popClaim t =>
    rw [hpc] at hshows
    obtain ⟨hle, hbusy, hawaits⟩ := hshows
    have hiff := sameCounter_iff hle (h.head_le.trans_lt hlt)
    right
    by_cases hsame : SameCounter t s.head
    · obtain rfl : s.claimHead i = s' := by simpa [QueueState.next, hpc, hsame] using hstep
      obtain rfl := hiff.1 hsame
      obtain ⟨x, hx⟩ : ∃ x, s.accepted[s.head]? = some x :=
        ⟨_, List.getElem?_eq_getElem (h.length ▸ hbusy)⟩
      have hallowed : (queueObject α).allowed b.value .pop (.popped (some x)) := by
        change some x = b.value.head?
        rw [h.value, List.head?_drop, hx]
      exact ⟨_, _, Atomic.effect_of_allowed hawaits hallowed rfl, h.claimHead hbusy hx⟩
    · obtain rfl : s.goto i (.popped none) = s' := by
        simpa [QueueState.next, hpc, hsame] using hstep
      exact ⟨_, _, Atomic.effect_of_awaits hawaits (fun heq => absurd (hiff.2 heq) hsame) rfl rfl,
        h.move rfl rfl rfl rfl rfl⟩
  | popWait t =>
    rw [hpc] at hshows
    left
    simp only [QueueState.next, hpc] at hstep
    split_ifs at hstep
    obtain rfl := Option.some.inj hstep
    exact h.stay rfl rfl rfl rfl hshows
  | popCheck t =>
    rw [hpc] at hshows
    left
    simp only [QueueState.next, hpc] at hstep
    split_ifs at hstep <;> obtain rfl := Option.some.inj hstep <;>
      exact h.stay rfl rfl rfl rfl hshows
  | popTake t =>
    rw [hpc] at hshows
    left
    have hfits := hsound.threads i
    rw [hpc] at hfits
    obtain ⟨-, -, x, hobject, hx⟩ := hfits
    obtain ⟨y, hy, hdone⟩ := hshows
    obtain rfl : y = x := Option.some.inj (hy.symm.trans hx)
    rw [← QueueState.slotOf] at hobject
    simp only [QueueState.next, hpc, hobject] at hstep
    obtain rfl := Option.some.inj hstep
    exact h.stay rfl rfl rfl rfl hdone
  | popClear t data | popClearAgain t data =>
    rw [hpc] at hshows
    left
    simp only [QueueState.next, hpc] at hstep
    obtain rfl := Option.some.inj hstep
    exact h.stay rfl rfl rfl rfl hshows

end QueueState.Stands

namespace QueueState

/-- Threads keep to their turns, and the counters have not wrapped around. -/
def KeepsTurns (s : QueueState α) (a : ℕ × QueueAction α) : Prop := s.InTurn a ∧ s.tail < 2 ^ 64

instance (s : QueueState α) (a : ℕ × QueueAction α) : Decidable (s.KeepsTurns a) :=
  inferInstanceAs (Decidable (_ ∧ _))

lemma resultOf_shows (h : s.Stands b) {r : FifoResult α}
    (hresult : resultOf (s.thread i) = some r) :
    b.thread i = .done r := by
  have hshows := h.threads i
  cases hpc : s.thread i with
  | pushed accepted | popped data =>
    rw [hpc] at hshows hresult
    obtain rfl := Option.some.inj hresult
    exact hshows
  | _ => simp [resultOf, hpc] at hresult

/-- The queue follows the object. -/
lemma followsObject : FollowsObject (queueSystem α) KeepsTurns callEvent (queueObject α) []
    Stands where
  initial s hs := by
    obtain rfl := hs
    exact .initial
  step s a s' b hreach h hturn hstep := by
    have hsound := sound_of_reachable (hreach.mono fun s a h => h.1)
    obtain ⟨i, a⟩ := a
    have hshows := h.threads i
    cases a with
    | push x =>
      cases hpc : s.thread i <;> simp only [queueSystem, step, hpc, reduceCtorEq] at hstep
      rw [hpc] at hshows
      obtain rfl := Option.some.inj hstep
      exact ⟨_, _, (Atomic.Step.call hshows).run, rfl,
        h.move rfl rfl rfl rfl ⟨false, rfl, .inl trivial⟩⟩
    | pop =>
      cases hpc : s.thread i <;> simp only [queueSystem, step, hpc, reduceCtorEq] at hstep
      rw [hpc] at hshows
      obtain rfl := Option.some.inj hstep
      exact ⟨_, _, (Atomic.Step.call hshows).run, rfl,
        h.move rfl rfl rfl rfl ⟨false, rfl, .inl trivial⟩⟩
    | next =>
      rcases h.next hsound hturn.2 hstep with hstays | ⟨r, b', heffect, hb'⟩
      · exact ⟨[], b, .nil, rfl, hstays⟩
      · exact ⟨_, b', heffect.run, rfl, hb'⟩
    | leave =>
      obtain ⟨r, hresult, rfl⟩ : ∃ r, resultOf (s.thread i) = some r ∧ s.goto i .idle = s' := by
        cases hpc : s.thread i <;> simp only [queueSystem, step, hpc, reduceCtorEq] at hstep <;>
          exact ⟨_, rfl, Option.some.inj hstep⟩
      refine ⟨_, _, (Atomic.Step.ret (resultOf_shows h hresult)).run, ?_,
        h.move rfl rfl rfl rfl rfl⟩
      simp [callEvent, hresult, CallEvent.visible]

/-- What the threads see of the queue is linearizable. -/
theorem queue_linearizable (s : QueueState α)
    (history : List (CallEvent ℕ (FifoCall α) (FifoResult α)))
    (h : ((queueSystem α).observed callEvent).Reachable (fun s a => s.1.KeepsTurns a)
      (s, history)) :
    Linearizable (queueObject α) [] history :=
  followsObject.linearizable h

/-- A pop is called before a push, and takes its slot before the push has filled it. -/
def overlappingSteps : List (ℕ × QueueAction ℕ) :=
  [(2, .pop), (1, .push 7), (1, .next), (1, .next), (1, .next), (2, .next), (2, .next), (2, .next),
    (1, .next), (1, .next), (1, .next), (1, .next), (1, .leave), (2, .next), (2, .next), (2, .next),
    (2, .next), (2, .next), (2, .leave)]

theorem queue_linearizable_pushPop : Linearizable (queueObject ℕ) []
    [.call 2 .pop, .call 1 (.push 7), .ret 1 (.pushed true), .ret 2 (.popped (some 7))] := by
  have hinitial : ((queueSystem ℕ).observed callEvent).initial ({}, []) := ⟨rfl, rfl⟩
  have hseen : (((queueSystem ℕ).observed callEvent).run ({}, []) overlappingSteps).map (·.2) =
      some [.call 2 .pop, .call 1 (.push 7), .ret 1 (.pushed true), .ret 2 (.popped (some 7))] := by
    decide +kernel
  obtain ⟨⟨s, history⟩, hrun, rfl⟩ := Option.map_eq_some_iff.1 hseen
  exact queue_linearizable s _ ((System.Reachable.of_initial hinitial).run (by decide +kernel) hrun)

end QueueState

end BattleShips
