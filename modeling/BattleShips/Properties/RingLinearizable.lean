import BattleShips.Core.RingBufferCalls
import BattleShips.Core.RingBufferTurns
import BattleShips.Lib.Linearizable

/-!
# The ring of freed indices is linearizable

Under any number of threads that keep to their turns, `try_pop`, `try_push` and `push` behave as if
each of them happened at one moment between its call and its return. A pop finds no index only if
there is none, for after a failed exchange it tries again. A push always goes through, except that
`try_push` fails where it has met with another one that has.
-/

namespace BattleShips

open Function TicketRing

/-- The calls of the ring. -/
inductive RingCall
  | tryPop
  | tryPush (newFreeIndex : ℕ)
  | push (newFreeIndex : ℕ)
  deriving DecidableEq

/-- A queue without a bound, of which only `try_push` may fail, when contended. -/
def ringObject : ObjectSpec (List ℕ) RingCall (FifoResult ℕ) where
  allowed items
    | .tryPop, .popped x => x = items.head?
    | .tryPush _, .pushed accepted | .push _, .pushed accepted => accepted = true
    | _, _ => False
  contended c r := r = .pushed false ∧ ∃ x, c = .tryPush x
  next items
    | .tryPop, .popped (some _) => some items.tail
    | .tryPush x, .pushed true | .push x, .pushed true => some (items ++ [x])
    | _, _ => none

variable {s s' : RingState} {i j : ℕ} {pc : RingPc} {b : Atomic ℕ (List ℕ) RingCall (FifoResult ℕ)}
  {status : CallStatus RingCall (FifoResult ℕ)}

/-- `push` or `try_push`. -/
def RingCall.pushing (blocking : Bool) (x : ℕ) : RingCall :=
  if blocking then .push x else .tryPush x

/-- The call that an action of the environment makes. -/
def RingAction.call? : RingAction → Option RingCall
  | .tryPop => some .tryPop
  | .tryPush x => some (.tryPush x)
  | .push x => some (.push x)
  | .next | .fail | .leave => none

/-- What the threads see of a step. -/
def RingState.callEvent (s : RingState) :
    ℕ × RingAction → List (CallEvent ℕ RingCall (FifoResult ℕ))
  | (i, .tryPop) => [.call i .tryPop]
  | (i, .tryPush x) => [.call i (.tryPush x)]
  | (i, .push x) => [.call i (.push x)]
  | (_, .next) | (_, .fail) => []
  | (i, .leave) => ((resultOf (s.thread i)).map (.ret i)).toList

/-- How far the call of a thread has got. -/
def RingPc.Shows (head tail : ℕ) (accepted : List ℕ) :
    RingPc → CallStatus RingCall (FifoResult ℕ) → Prop
  | .idle, status => status = .idle
  | .popLoadTail, status => status.Awaits .tryPop True
  | .popLoadHead t, status => t ≤ tail ∧ status.Awaits .tryPop True
  | .popClaim t, status => t ≤ tail ∧ t < head ∧ status.Awaits .tryPop True
  | .popCheck t, status | .popWait t, status | .popExchange t, status =>
    ∃ x, accepted[t]? = some x ∧ status = .done (.popped (some x))
  | .popped x, status => status = .done (.popped x)
  | .pushLoadHead blocking x, status | .pushClaim blocking x _, status =>
    status.Awaits (.pushing blocking x) True
  | .pushLoadTail blocking x h, status => h ≤ head ∧ status.Awaits (.pushing blocking x) (h = head)
  | .pushHeadWait x _, status => status.Awaits (.push x) True
  | .pushCheck _ _, status | .pushWait _ _ _, status | .pushStore _ _, status =>
    status = .done (.pushed true)
  | .pushed accepted, status => status = .done (.pushed accepted)

/-- Another call goes through. -/
lemma RingPc.Shows.contend {head tail head' tail' : ℕ} {accepted accepted' : List ℕ}
    (h : pc.Shows head tail accepted status) (hhead : head ≤ head') (htail : tail ≤ tail')
    (haccepted : ∀ (t : ℕ) (x : ℕ), accepted[t]? = some x → accepted'[t]? = some x) :
    pc.Shows head' tail' accepted' status.contend := by
  cases pc with
  | idle | popped | pushCheck | pushWait | pushStore | pushed =>
    obtain rfl := h
    rfl
  | popLoadTail | pushLoadHead | pushClaim | pushHeadWait => exact CallStatus.Awaits.contend h
  | popLoadHead t => exact ⟨h.1.trans htail, h.2.contend⟩
  | popClaim t => exact ⟨h.1.trans htail, h.2.1.trans_le hhead, h.2.2.contend⟩
  | pushLoadTail blocking x t => exact ⟨h.1.trans hhead, h.2.contend⟩
  | popCheck t | popWait t | popExchange t =>
    obtain ⟨x, hx, rfl⟩ := h
    exact ⟨x, haccepted t x hx, rfl⟩

/-- The ring and the object in its place. -/
structure RingState.Stands (s : RingState) (b : Atomic ℕ (List ℕ) RingCall (FifoResult ℕ)) :
    Prop where
  value : b.value = s.accepted.drop s.tail
  length : s.accepted.length = s.head
  tail_le : s.tail ≤ s.head
  threads : ∀ i, (s.thread i).Shows s.head s.tail s.accepted (b.thread i)

namespace RingState.Stands

lemma initial : ({} : RingState).Stands { value := [] } where
  value := rfl
  length := rfl
  tail_le := le_rfl
  threads _ := rfl

/-- A thread goes on, and the counters stay. -/
lemma move (h : s.Stands b) (hhead : s'.head = s.head) (htail : s'.tail = s.tail)
    (haccepted : s'.accepted = s.accepted) (hthread : s'.thread = update s.thread i pc)
    (hpc : pc.Shows s.head s.tail s.accepted status) : s'.Stands (b.goto i status) where
  value := by rw [htail, haccepted, ← h.value]; rfl
  length := by rw [haccepted, hhead, h.length]
  tail_le := by rw [hhead, htail]; exact h.tail_le
  threads j := by
    rw [hhead, htail, haccepted, hthread]
    rcases eq_or_ne j i with rfl | hne
    · simpa [Atomic.goto] using hpc
    · simpa [Atomic.goto, hne] using h.threads j

/-- The thread has not got any further with its call. -/
lemma stay (h : s.Stands b) (hhead : s'.head = s.head) (htail : s'.tail = s.tail)
    (haccepted : s'.accepted = s.accepted) (hthread : s'.thread = update s.thread i pc)
    (hpc : pc.Shows s.head s.tail s.accepted (b.thread i)) : s'.Stands b := by
  have hsame : b.goto i (b.thread i) = b := by simp [Atomic.goto]
  exact hsame ▸ h.move hhead htail haccepted hthread hpc

/-- A push goes through. -/
lemma claimHead (h : s.Stands b) (x : ℕ) :
    (s.claimHead i x).Stands ((b.change (b.value ++ [x])).goto i (.done (.pushed true))) where
  value := by
    have hle : s.tail ≤ s.accepted.length := h.length ▸ h.tail_le
    simp [Atomic.change, Atomic.goto, RingState.claimHead, h.value,
      List.drop_append_of_le_length hle]
  length := by simp [RingState.claimHead, h.length]
  tail_le := h.tail_le.trans (Nat.le_succ _)
  threads j := by
    rcases eq_or_ne j i with rfl | hne
    · simp [RingState.claimHead, Atomic.goto, RingPc.Shows]
    · have hkept : ∀ t y, s.accepted[t]? = some y → (s.accepted ++ [x])[t]? = some y :=
        fun t y hy => Ledger.getElem?_append_of_some hy
      have hothers := (h.threads j).contend (Nat.le_succ s.head) le_rfl hkept
      simpa [RingState.claimHead, Atomic.goto, Atomic.change, hne] using hothers

/-- A pop goes through. -/
lemma claimTail (h : s.Stands b) (hlt : s.tail < s.head) {x : ℕ}
    (hx : s.accepted[s.tail]? = some x) :
    (s.claimTail i).Stands ((b.change b.value.tail).goto i (.done (.popped (some x)))) where
  value := by simp [Atomic.change, Atomic.goto, RingState.claimTail, h.value]
  length := h.length
  tail_le := hlt
  threads j := by
    rcases eq_or_ne j i with rfl | hne
    · simpa [RingState.claimTail, Atomic.goto, RingPc.Shows] using hx
    · have hothers := (h.threads j).contend le_rfl (Nat.le_succ s.tail) fun t y hy => hy
      simpa [RingState.claimTail, Atomic.goto, Atomic.change, hne] using hothers

lemma allowed_pushed (value : List ℕ) (blocking : Bool) (x : ℕ) :
    ringObject.allowed value (.pushing blocking x) (.pushed true) := by
  cases blocking <;> rfl

lemma next_pushed (value : List ℕ) (blocking : Bool) (x : ℕ) :
    ringObject.next value (.pushing blocking x) (.pushed true) = some (value ++ [x]) := by
  cases blocking <;> rfl

/-- A step within a call: the call takes effect with it, or no thread sees a difference. -/
lemma next (h : s.Stands b) (hsound : s.Sound) (hlt : s.head + 1 < 2 ^ 64)
    (hstep : s.next i = some s') :
    s'.Stands b ∨ ∃ r b', Atomic.Step ringObject b (.effect i r) b' ∧ s'.Stands b' := by
  have hshows := h.threads i
  cases hpc : s.thread i with
  | idle | pushed | popped => simp [RingState.next, hpc] at hstep
  | popLoadTail =>
    rw [hpc] at hshows
    obtain rfl : s.goto i (.popLoadHead s.tail) = s' := by simpa [RingState.next, hpc] using hstep
    exact .inl (h.stay rfl rfl rfl rfl ⟨le_rfl, hshows⟩)
  | popLoadHead t =>
    rw [hpc] at hshows
    obtain ⟨hle, hawaits⟩ := hshows
    have hiff := sameCounter_iff (hle.trans h.tail_le) (Nat.lt_of_succ_lt hlt)
    by_cases hsame : SameCounter t s.head
    · obtain rfl : s.goto i (.popped none) = s' := by
        simpa [RingState.next, hpc, hsame] using hstep
      have hempty : s.accepted.drop s.tail = [] := by
        rw [List.drop_eq_nil_iff, h.length, ← hiff.1 hsame]
        exact hle
      have hallowed : ringObject.allowed b.value .tryPop (.popped none) := by
        rw [h.value, hempty]
        rfl
      obtain ⟨contended, hthread, -⟩ := hawaits
      exact .inr ⟨_, _, .effect hthread (.inl hallowed), h.move rfl rfl rfl rfl rfl⟩
    · obtain rfl : s.goto i (.popClaim t) = s' := by simpa [RingState.next, hpc, hsame] using hstep
      have hne : t ≠ s.head := fun heq => hsame (hiff.2 heq)
      exact .inl (h.stay rfl rfl rfl rfl
        ⟨hle, lt_of_le_of_ne (hle.trans h.tail_le) hne, hawaits⟩)
  | popClaim t =>
    rw [hpc] at hshows
    obtain ⟨hle, hbusy, hawaits⟩ := hshows
    by_cases hsame : SameCounter t s.tail
    · obtain rfl : s.claimTail i = s' := by simpa [RingState.next, hpc, hsame] using hstep
      obtain rfl := (sameCounter_iff hle (h.tail_le.trans_lt (Nat.lt_of_succ_lt hlt))).1 hsame
      obtain ⟨x, hx⟩ : ∃ x, s.accepted[s.tail]? = some x :=
        ⟨_, List.getElem?_eq_getElem (h.length ▸ hbusy)⟩
      have hallowed : ringObject.allowed b.value .tryPop (.popped (some x)) := by
        change some x = b.value.head?
        rw [h.value, List.head?_drop, hx]
      exact .inr ⟨_, _, Atomic.effect_of_allowed hawaits hallowed rfl, h.claimTail hbusy hx⟩
    · obtain rfl : s.goto i (.popLoadHead s.tail) = s' := by
        simpa [RingState.next, hpc, hsame] using hstep
      exact .inl (h.stay rfl rfl rfl rfl ⟨le_rfl, hawaits⟩)
  | popCheck t =>
    rw [hpc] at hshows
    left
    simp only [RingState.next, hpc] at hstep
    split_ifs at hstep <;> obtain rfl := Option.some.inj hstep <;>
      exact h.stay rfl rfl rfl rfl hshows
  | popWait t =>
    rw [hpc] at hshows
    left
    simp only [RingState.next, hpc] at hstep
    split_ifs at hstep
    obtain rfl := Option.some.inj hstep
    exact h.stay rfl rfl rfl rfl hshows
  | popExchange t =>
    rw [hpc] at hshows
    left
    have hfits := hsound.threads i
    rw [hpc] at hfits
    obtain ⟨x, hx, hdone⟩ := hshows
    obtain rfl : x = (s.slotOf t).value := Option.some.inj (hx.symm.trans hfits)
    simp only [RingState.next, hpc] at hstep
    obtain rfl := Option.some.inj hstep
    exact h.stay rfl rfl rfl rfl hdone
  | pushLoadHead blocking x =>
    rw [hpc] at hshows
    obtain rfl : s.goto i (.pushLoadTail blocking x s.head) = s' := by
      simpa [RingState.next, hpc] using hstep
    exact .inl (h.stay rfl rfl rfl rfl ⟨le_rfl, hshows.imp fun _ => rfl⟩)
  | pushLoadTail blocking x t =>
    rw [hpc] at hshows
    obtain ⟨hle, hawaits⟩ := hshows
    by_cases hsame : SameCounter (t + 1) s.tail
    · -- the place after `t` can only be the next one to be taken if `t` is not the head any more
      have hpassed : t ≠ s.head := by
        rintro rfl
        have htail := h.tail_le
        rw [SameCounter] at hsame
        omega
      cases blocking with
      | true =>
        obtain rfl : s.goto i (.pushHeadWait x t) = s' := by
          simpa [RingState.next, hpc, hsame] using hstep
        exact .inl (h.stay rfl rfl rfl rfl (hawaits.imp fun _ => trivial))
      | false =>
        obtain rfl : s.goto i (.pushed false) = s' := by
          simpa [RingState.next, hpc, hsame] using hstep
        have heffect : Atomic.Step ringObject b (.effect i (.pushed false))
            (b.goto i (.done (.pushed false))) :=
          Atomic.effect_of_awaits hawaits (fun heq => absurd heq hpassed) ⟨rfl, x, rfl⟩ rfl
        exact .inr ⟨_, _, heffect, h.move rfl rfl rfl rfl rfl⟩
    · obtain rfl : s.goto i (.pushClaim blocking x t) = s' := by
        simpa [RingState.next, hpc, hsame] using hstep
      exact .inl (h.stay rfl rfl rfl rfl (hawaits.imp fun _ => trivial))
  | pushHeadWait x t =>
    rw [hpc] at hshows
    left
    simp only [RingState.next, hpc] at hstep
    split_ifs at hstep
    obtain rfl := Option.some.inj hstep
    exact h.stay rfl rfl rfl rfl hshows
  | pushClaim blocking x t =>
    rw [hpc] at hshows
    by_cases hsame : SameCounter t s.head
    · obtain rfl : s.claimHead i x = s' := by simpa [RingState.next, hpc, hsame] using hstep
      have heffect := Atomic.effect_of_allowed hshows (allowed_pushed b.value blocking x)
        (next_pushed b.value blocking x)
      exact .inr ⟨_, _, heffect, h.claimHead x⟩
    · obtain rfl : s.goto i (.pushLoadHead blocking x) = s' := by
        simpa [RingState.next, hpc, hsame] using hstep
      exact .inl (h.stay rfl rfl rfl rfl hshows)
  | pushCheck x t =>
    rw [hpc] at hshows
    left
    simp only [RingState.next, hpc] at hstep
    split_ifs at hstep <;> obtain rfl := Option.some.inj hstep <;>
      exact h.stay rfl rfl rfl rfl hshows
  | pushWait x t previousData =>
    rw [hpc] at hshows
    left
    simp only [RingState.next, hpc] at hstep
    split_ifs at hstep
    obtain rfl := Option.some.inj hstep
    exact h.stay rfl rfl rfl rfl hshows
  | pushStore x t =>
    rw [hpc] at hshows
    left
    simp only [RingState.next, hpc] at hstep
    obtain rfl := Option.some.inj hstep
    exact h.stay rfl rfl rfl rfl hshows

end RingState.Stands

namespace RingState

/-- Threads keep to their turns, and the counters do not wrap around. -/
def KeepsTurns (s : RingState) (a : ℕ × RingAction) : Prop := s.Keeps a ∧ s.head + 1 < 2 ^ 64

instance (s : RingState) (a : ℕ × RingAction) : Decidable (s.KeepsTurns a) :=
  inferInstanceAs (Decidable (_ ∧ _))

lemma resultOf_shows (h : s.Stands b) {r : FifoResult ℕ}
    (hresult : resultOf (s.thread i) = some r) :
    b.thread i = .done r := by
  have hshows := h.threads i
  cases hpc : s.thread i with
  | pushed accepted | popped x =>
    rw [hpc] at hshows hresult
    obtain rfl := Option.some.inj hresult
    exact hshows
  | _ => simp [resultOf, hpc] at hresult

namespace Stands

/-- A thread makes a call. -/
lemma call (h : s.Stands b) {a : RingAction} {c : RingCall} (hcall : a.call? = some c)
    (hstep : s.step (i, a) = some s') :
    b.thread i = .idle ∧ s'.Stands (b.goto i (.called c false)) := by
  have hshows := h.threads i
  cases a with
  | tryPop | tryPush x | push x =>
    obtain rfl := Option.some.inj hcall
    cases hpc : s.thread i <;> simp only [step, hpc, reduceCtorEq] at hstep
    rw [hpc] at hshows
    obtain rfl := Option.some.inj hstep
    exact ⟨hshows, h.move rfl rfl rfl rfl ⟨false, rfl, .inl trivial⟩⟩
  | next | fail | leave => cases hcall

/-- An exchange that fails without a reason. -/
lemma fail (h : s.Stands b) (hstep : s.step (i, .fail) = some s') : s'.Stands b := by
  have hshows := h.threads i
  cases hpc : s.thread i <;> simp only [step, hpc, reduceCtorEq] at hstep
  all_goals
    rw [hpc] at hshows
    obtain rfl := Option.some.inj hstep
  case popClaim => exact h.stay rfl rfl rfl rfl ⟨le_rfl, hshows.2.2⟩
  case pushClaim => exact h.stay rfl rfl rfl rfl hshows

/-- A thread leaves its call. -/
lemma leave (h : s.Stands b) (hstep : s.step (i, .leave) = some s') :
    ∃ r, resultOf (s.thread i) = some r ∧ b.thread i = .done r ∧ s'.Stands (b.goto i .idle) := by
  obtain ⟨r, hresult, rfl⟩ : ∃ r, resultOf (s.thread i) = some r ∧ s.goto i .idle = s' := by
    cases hpc : s.thread i <;> simp only [step, hpc, reduceCtorEq] at hstep <;>
      exact ⟨_, rfl, Option.some.inj hstep⟩
  exact ⟨r, hresult, resultOf_shows h hresult, h.move rfl rfl rfl rfl rfl⟩

end Stands

/-- The ring follows the object. -/
lemma followsObject : FollowsObject ringSystem KeepsTurns callEvent ringObject [] Stands where
  initial s hs := by
    obtain rfl := hs
    exact .initial
  step s a s' b hreach h hturn hstep := by
    have hsound := sound_of_reachable (hreach.mono fun s a h => h.1)
    obtain ⟨i, a⟩ := a
    change s.step (i, a) = some s' at hstep
    cases a with
    | tryPop | tryPush x | push x =>
      obtain ⟨hidle, hcalled⟩ := h.call rfl hstep
      exact ⟨_, _, (Atomic.Step.call hidle).run, rfl, hcalled⟩
    | next =>
      rcases h.next hsound hturn.2 hstep with hstays | ⟨r, b', heffect, hb'⟩
      · exact ⟨[], b, .nil, rfl, hstays⟩
      · exact ⟨_, b', heffect.run, rfl, hb'⟩
    | fail => exact ⟨[], b, .nil, rfl, h.fail hstep⟩
    | leave =>
      obtain ⟨r, hresult, hdone, hleft⟩ := h.leave hstep
      refine ⟨_, _, (Atomic.Step.ret hdone).run, ?_, hleft⟩
      simp [callEvent, hresult, CallEvent.visible]

/-- What the threads see of the ring is linearizable. -/
theorem ring_linearizable (s : RingState)
    (history : List (CallEvent ℕ RingCall (FifoResult ℕ)))
    (h : (ringSystem.observed callEvent).Reachable (fun s a => s.1.KeepsTurns a) (s, history)) :
    Linearizable ringObject [] history :=
  followsObject.linearizable h

/-- An index is freed and taken again. -/
theorem ring_linearizable_one : Linearizable ringObject []
    [.call 1 (.tryPush 7), .ret 1 (.pushed true), .call 2 .tryPop,
      .ret 2 (.popped (some 7))] := by
  have hinitial : (ringSystem.observed callEvent).initial ({}, []) := ⟨rfl, rfl⟩
  have hrun : (ringSystem.observed callEvent).run ({}, [])
      (tryPushSteps 1 7 ++ tryPushEnd 1 ++ tryPopSteps 2 ++ [(2, .leave)]) = some (_, _) := rfl
  exact ring_linearizable _ _ ((System.Reachable.of_initial hinitial).run (by decide) hrun)

end RingState

end BattleShips
