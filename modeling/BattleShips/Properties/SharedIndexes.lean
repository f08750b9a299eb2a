import BattleShips.Core.AllocatorCalls
import BattleShips.Lib.Holders
import BattleShips.Properties.PageGrowth
import BattleShips.Properties.RingLinearizable

/-!
# Indices that threads share

Under any number of threads that allocate and give back indices, each index that has been issued is
in one place: it is live, or in `free_indexes_queue`, or in the hand of one thread that is about to
return it or to give it back. The queue is looked at through the object that it follows, so that an
index goes in and out of it in single steps.
-/

namespace BattleShips

open Function

variable {layout : AllocatorLayout} {s s' : AllocatorState} {i j : ℕ} {pc : AllocatorPc}
  {a : AllocatorAction} {live live' : List ℕ} {b b' : Atomic ℕ (List ℕ) RingCall (FifoResult ℕ)}
  {status : CallStatus RingCall (FifoResult ℕ)}

/-! ### Hands -/

namespace AllocatorPc

/-- The index that a thread has in its hand. -/
def hand : AllocatorPc → CallStatus RingCall (FifoResult ℕ) → Option ℕ
  | .inTryPop, .done (.popped index) => index
  | .allocated index, _ => index
  | .inTryPush _, .done (.pushed true) => none
  | .inTryPush index, _ | .callPush index, _ => some index
  | .inPush, .called (.push index) _ => some index
  | _, _ => none

/-- How far the thread is with its call in `free_indexes_queue`. -/
def Calls : AllocatorPc → CallStatus RingCall (FifoResult ℕ) → Prop
  | .inTryPop, status =>
    (∃ contended, status = .called .tryPop contended) ∨ ∃ index, status = .done (.popped index)
  | .inTryPush index, status =>
    (∃ contended, status = .called (.tryPush index) contended) ∨
      ∃ accepted, status = .done (.pushed accepted)
  | .inPush, status =>
    (∃ index contended, status = .called (.push index) contended) ∨ status = .done (.pushed true)
  | _, status => status = .idle

@[simp] lemma hand_contend : pc.hand status.contend = pc.hand status := by
  cases status with
  | idle | done r => rfl
  | called c contended =>
    cases pc with
    | inPush => cases c <;> rfl
    | _ => rfl

lemma Calls.contend (h : pc.Calls status) : pc.Calls status.contend := by
  cases pc with
  | inTryPop =>
    rcases h with ⟨contended, rfl⟩ | ⟨index, rfl⟩
    · exact .inl ⟨_, rfl⟩
    · exact .inr ⟨_, rfl⟩
  | inTryPush index =>
    rcases h with ⟨contended, rfl⟩ | ⟨accepted, rfl⟩
    · exact .inl ⟨_, rfl⟩
    · exact .inr ⟨_, rfl⟩
  | inPush =>
    rcases h with ⟨index, contended, rfl⟩ | rfl
    · exact .inl ⟨_, _, rfl⟩
    · exact .inr rfl
  | _ =>
    obtain rfl := h
    rfl

/-- The thread as far as it is about to issue an index. -/
def issuing (pc : AllocatorPc) : AllocatorPc := if pc.newIndex.isSome then pc else .idle

lemma issuing_eq_self {n : ℕ} (h : pc.newIndex = some n) : pc.issuing = pc := by
  rw [issuing, h]
  rfl

lemma issuing_eq_idle (h : pc.newIndex = none) : pc.issuing = .idle := by
  rw [issuing, h]
  rfl

lemma issuing_ne_allocated (index : ℕ) : pc.issuing ≠ .allocated (some index) := by
  cases pc <;> exact AllocatorPc.noConfusion

lemma calls_of_newIndex {n : ℕ} (h : pc.newIndex = some n) : pc.Calls status ↔ status = .idle := by
  cases pc with
  | loadEnd | tryAcquire | loadNodeEnd | protect | fetchAdd | release | wait | exchange => rfl
  | _ => cases h

lemma hand_of_newIndex {n : ℕ} (h : pc.newIndex = some n) : pc.hand status = none := by
  cases pc with
  | loadEnd | tryAcquire | loadNodeEnd | protect | fetchAdd | release | wait | exchange =>
    cases status <;> rfl
  | _ => cases h

lemma eq_inTryPop {contended : Bool} (h : pc.Calls (.called .tryPop contended)) :
    pc = .inTryPop := by
  cases pc <;> simp_all [Calls]

lemma eq_inTryPush {contended : Bool} {index : ℕ}
    (h : pc.Calls (.called (.tryPush index) contended)) : pc = .inTryPush index := by
  cases pc <;> simp_all [Calls]

lemma eq_inPush {contended : Bool} {index : ℕ}
    (h : pc.Calls (.called (.push index) contended)) : pc = .inPush := by
  cases pc <;> simp_all [Calls]

end AllocatorPc

/-- What a call does to the queue of free indices. -/
inductive RingEffect (b : Atomic ℕ (List ℕ) RingCall (FifoResult ℕ)) (i : ℕ) :
    Atomic ℕ (List ℕ) RingCall (FifoResult ℕ) → Prop
  | pops {contended : Bool} {index : ℕ} {indices : List ℕ}
      (hcalled : b.thread i = .called .tryPop contended) (hvalue : b.value = index :: indices) :
      RingEffect b i ((b.change indices).goto i (.done (.popped (some index))))
  | findsNone {contended : Bool} (hcalled : b.thread i = .called .tryPop contended) :
      RingEffect b i (b.goto i (.done (.popped none)))
  | pushes {contended blocking : Bool} {index : ℕ}
      (hcalled : b.thread i = .called (.pushing blocking index) contended) :
      RingEffect b i ((b.change (b.value ++ [index])).goto i (.done (.pushed true)))
  | givesUp {contended : Bool} {index : ℕ}
      (hcalled : b.thread i = .called (.tryPush index) contended) :
      RingEffect b i (b.goto i (.done (.pushed false)))

lemma ringEffect_of_step {r : FifoResult ℕ} (h : Atomic.Step ringObject b (.effect i r) b') :
    RingEffect b i b' := by
  cases h with
  | @effect _ c _ contended hcalled hallowed =>
    cases c with
    | tryPop =>
      rcases hallowed with hallowed | ⟨-, -, x, hx⟩
      · cases r with
        | pushed accepted => exact hallowed.elim
        | popped index =>
          obtain rfl : index = b.value.head? := hallowed
          cases hvalue : b.value with
          | nil => exact .findsNone hcalled
          | cons index indices =>
            have hpops := RingEffect.pops hcalled hvalue
            simpa [Atomic.afterEffect, ringObject, hvalue] using hpops
      · cases hx
    | tryPush index =>
      cases r with
      | popped index' =>
        rcases hallowed with hallowed | ⟨-, hr, -⟩
        · exact hallowed.elim
        · cases hr
      | pushed accepted =>
        cases accepted with
        | true => exact @RingEffect.pushes b _ contended false index hcalled
        | false => exact .givesUp hcalled
    | push index =>
      rcases hallowed with hallowed | ⟨-, -, x, hx⟩
      · cases r with
        | popped index' => exact hallowed.elim
        | pushed accepted =>
          obtain rfl : accepted = true := hallowed
          exact @RingEffect.pushes b _ contended true index hcalled
      · cases hx

/-! ### Who has which index -/

namespace AllocatorState

/-- What the threads have in their hands. -/
def hands (s : AllocatorState) (b : Atomic ℕ (List ℕ) RingCall (FifoResult ℕ)) (i : ℕ) : Option ℕ :=
  (s.thread i).hand (b.thread i)

/-- The queue of free indices stands for an object, and every index that has been issued is live, in
the queue or in the hand of a thread. -/
structure Shares (s : AllocatorState) (live : List ℕ)
    (b : Atomic ℕ (List ℕ) RingCall (FifoResult ℕ)) : Prop where
  queue : ringSystem.Reachable RingState.KeepsTurns s.freeIndexesQueue
  stands : s.freeIndexesQueue.Stands b
  calls : ∀ i, (s.thread i).Calls (b.thread i)
  bounded : ∀ i n, (s.thread i).newIndex = some n → n ≤ ringBufferSize
  holders : Holders (Set.Iio s.lastNotIssuedIndex) (live ++ b.value) (s.hands b)
  le : s.lastNotIssuedIndex ≤ ringBufferSize + 1

namespace Shares

lemma initial : ({} : AllocatorState).Shares [] { value := [] } where
  queue := .of_initial rfl
  stands := .initial
  calls _ := rfl
  bounded _ _ h := by cases h
  holders := by
    have hnone : Set.Iio ({} : AllocatorState).lastNotIssuedIndex = ∅ :=
      Set.eq_empty_of_forall_notMem fun n hn => Nat.not_lt_zero n hn
    rw [hnone]
    exact .empty
  le := Nat.zero_le _

/-- The thread `i` goes on to `pc`. -/
lemma move (h : s.Shares live b) (hthread : s'.thread = update s.thread i pc)
    (hb : ∀ j, j ≠ i → b'.thread j = b.thread j ∨ b'.thread j = (b.thread j).contend)
    (hqueue : ringSystem.Reachable RingState.KeepsTurns s'.freeIndexesQueue)
    (hstands : s'.freeIndexesQueue.Stands b') (hcalls : pc.Calls (b'.thread i))
    (hbounded : ∀ n, pc.newIndex = some n → n ≤ ringBufferSize)
    (hle : s'.lastNotIssuedIndex ≤ ringBufferSize + 1)
    (hholders : Holders (Set.Iio s'.lastNotIssuedIndex) (live' ++ b'.value)
      (update (s.hands b) i (pc.hand (b'.thread i)))) : s'.Shares live' b' where
  queue := hqueue
  stands := hstands
  calls j := by
    rcases eq_or_ne j i with rfl | hne
    · rwa [hthread, update_self]
    · rw [hthread, update_of_ne hne]
      rcases hb j hne with heq | heq
      · rw [heq]
        exact h.calls j
      · rw [heq]
        exact (h.calls j).contend
  bounded j n hj := by
    rcases eq_or_ne j i with rfl | hne
    · rw [hthread, update_self] at hj
      exact hbounded n hj
    · rw [hthread, update_of_ne hne] at hj
      exact h.bounded j n hj
  holders := by
    have hhands : s'.hands b' = update (s.hands b) i (pc.hand (b'.thread i)) := by
      funext j
      rcases eq_or_ne j i with rfl | hne
      · rw [update_self, hands, hthread, update_self]
      · rw [update_of_ne hne, hands, hands, hthread, update_of_ne hne]
        rcases hb j hne with heq | heq
        · rw [heq]
        · rw [heq, AllocatorPc.hand_contend]
    rwa [hhands]
  le := hle

/-- The hand of the thread is as it was. -/
lemma same_hand (h : s.Shares live b) {index : Option ℕ} (hhand : s.hands b i = index) :
    Holders (Set.Iio s.lastNotIssuedIndex) (live ++ b.value) (update (s.hands b) i index) := by
  rw [← hhand, update_eq_self]
  exact h.holders

/-- A step outside of the queue. -/
lemma goto (h : s.Shares live b) (hthread : s'.thread = update s.thread i pc)
    (hqueue : s'.freeIndexesQueue = s.freeIndexesQueue)
    (hlast : s'.lastNotIssuedIndex = s.lastNotIssuedIndex) (hcalls : pc.Calls (b.thread i))
    (hbounded : ∀ n, pc.newIndex = some n → n ≤ ringBufferSize)
    (hhand : s.hands b i = pc.hand (b.thread i)) : s'.Shares live b := by
  refine h.move hthread (fun _ _ => .inl rfl) (hqueue ▸ h.queue) (hqueue ▸ h.stands) hcalls hbounded
    (hlast ▸ h.le) ?_
  rw [hlast]
  exact h.same_hand hhand

/-- The thread has loaded the next index to issue. -/
lemma tryIndex (h : s.Shares live b) (hidle : b.thread i = .idle) (hhand : s.hands b i = none) :
    (s.goto i (tryIndex s.lastNotIssuedIndex)).Shares live b := by
  by_cases hlt : ringBufferSize < s.lastNotIssuedIndex
  · rw [AllocatorState.tryIndex, if_pos hlt]
    exact h.goto rfl rfl rfl hidle (fun n hn => by cases hn) hhand
  · rw [AllocatorState.tryIndex, if_neg hlt]
    refine h.goto rfl rfl rfl hidle (fun n hn => ?_) hhand
    obtain rfl := Option.some.inj hn
    exact not_lt.1 hlt

/-! ### Steps in the queue -/

variable {ringAction : RingAction} {q : RingState}

/-- A thread calls the queue. -/
lemma queueCall (h : s.Shares live b) {c : RingCall} (hcall : ringAction.call? = some c)
    (hturn : s.freeIndexesQueue.KeepsTurns (i, ringAction))
    (hq : s.freeIndexesQueue.step (i, ringAction) = some q)
    (hcalls : pc.Calls (.called c false)) (hnew : pc.newIndex = none)
    (hholders : Holders (Set.Iio s.lastNotIssuedIndex) (live' ++ b.value)
      (update (s.hands b) i (pc.hand (.called c false)))) :
    ∃ b', Shares { s.goto i pc with freeIndexesQueue := q } live' b' := by
  obtain ⟨-, hstands⟩ := h.stands.call hcall hq
  have hself : (b.goto i (.called c false)).thread i = .called c false := update_self ..
  refine ⟨_, h.move rfl (fun j hne => .inl (update_of_ne hne ..)) (h.queue.step hturn hq) hstands
    (by rwa [hself]) (fun n hn => ?_) h.le (by rwa [hself])⟩
  rw [hnew] at hn
  cases hn

/-- A thread leaves the queue. -/
lemma queueLeave (h : s.Shares live b) (hturn : s.freeIndexesQueue.KeepsTurns (i, .leave))
    (hq : s.freeIndexesQueue.step (i, .leave) = some q) (hcalls : pc.Calls .idle)
    (hnew : pc.newIndex = none) (hhand : s.hands b i = pc.hand .idle) :
    ∃ b', Shares { s.goto i pc with freeIndexesQueue := q } live b' := by
  obtain ⟨r, -, -, hstands⟩ := h.stands.leave hq
  have hself : (b.goto i .idle).thread i = .idle := update_self ..
  refine ⟨_, h.move rfl (fun j hne => .inl (update_of_ne hne ..)) (h.queue.step hturn hq) hstands
    (by rwa [hself]) (fun n hn => ?_) h.le ?_⟩
  · rw [hnew] at hn
    cases hn
  · rw [hself]
    exact h.same_hand hhand

/-- A call goes on, and nobody sees a difference. -/
lemma queueStay (h : s.Shares live b) (hturn : s.freeIndexesQueue.KeepsTurns (i, ringAction))
    (hq : s.freeIndexesQueue.step (i, ringAction) = some q) (hstands : q.Stands b) :
    Shares { s.goto i (s.thread i) with freeIndexesQueue := q } live b :=
  h.move rfl (fun _ _ => .inl rfl) (h.queue.step hturn hq) hstands (h.calls i) (h.bounded i) h.le
    (h.same_hand rfl)

/-- A call goes on, and an index goes into the queue or out of it. -/
lemma queueEffect (h : s.Shares live b) (hturn : s.freeIndexesQueue.KeepsTurns (i, ringAction))
    (hq : s.freeIndexesQueue.step (i, ringAction) = some q) (heffect : RingEffect b i b')
    (hstands : q.Stands b') :
    Shares { s.goto i (s.thread i) with freeIndexesQueue := q } live b' := by
  have hcalls := h.calls i
  have hchange : ∀ value status j, j ≠ i →
      ((b.change value).goto i status).thread j = (b.thread j).contend :=
    fun value status j hne => update_of_ne hne ..
  cases heffect with
  | @pops contended index indices hcalled hvalue =>
    rw [hcalled] at hcalls
    have hpc := AllocatorPc.eq_inTryPop hcalls
    have hself : ((b.change indices).goto i (.done (.popped (some index)))).thread i =
        .done (.popped (some index)) := update_self ..
    have hfree : s.hands b i = none := by
      rw [hands, hpc, hcalled]
      rfl
    refine h.move rfl (fun j hne => .inr (hchange _ _ j hne)) (h.queue.step hturn hq) hstands ?_
      (h.bounded i) h.le ?_
    · rw [hself, hpc]
      exact .inr ⟨_, rfl⟩
    · rw [hself, hpc]
      have hholders := h.holders
      rw [hvalue] at hholders
      exact (hholders.perm List.perm_middle).take hfree
  | @findsNone contended hcalled =>
    rw [hcalled] at hcalls
    have hpc := AllocatorPc.eq_inTryPop hcalls
    have hself : (b.goto i (.done (.popped none))).thread i = .done (.popped none) :=
      update_self ..
    refine h.move rfl (fun j hne => .inl (update_of_ne hne ..)) (h.queue.step hturn hq) hstands ?_
      (h.bounded i) h.le ?_
    · rw [hself, hpc]
      exact .inr ⟨_, rfl⟩
    · rw [hself]
      refine h.same_hand ?_
      rw [hands, hpc, hcalled]
      rfl
  | @pushes contended blocking index hcalled =>
    rw [hcalled] at hcalls
    have hself : ((b.change (b.value ++ [index])).goto i (.done (.pushed true))).thread i =
        .done (.pushed true) := update_self ..
    have hput : s.hands b i = some index → Holders (Set.Iio s.lastNotIssuedIndex)
        (live ++ (b.value ++ [index])) (update (s.hands b) i none) := by
      intro hheld
      refine (h.holders.put hheld).perm ?_
      rw [← List.append_assoc]
      exact (List.perm_append_singleton _ _).symm
    cases blocking with
    | false =>
      have hpc := AllocatorPc.eq_inTryPush hcalls
      refine h.move rfl (fun j hne => .inr (hchange _ _ j hne)) (h.queue.step hturn hq) hstands ?_
        (h.bounded i) h.le ?_
      · rw [hself, hpc]
        exact .inr ⟨_, rfl⟩
      · rw [hself, hpc]
        refine hput ?_
        rw [hands, hpc, hcalled]
        rfl
    | true =>
      have hpc := AllocatorPc.eq_inPush hcalls
      refine h.move rfl (fun j hne => .inr (hchange _ _ j hne)) (h.queue.step hturn hq) hstands ?_
        (h.bounded i) h.le ?_
      · rw [hself, hpc]
        exact .inr rfl
      · rw [hself, hpc]
        refine hput ?_
        rw [hands, hpc, hcalled]
        rfl
  | @givesUp contended index hcalled =>
    rw [hcalled] at hcalls
    have hpc := AllocatorPc.eq_inTryPush hcalls
    have hself : (b.goto i (.done (.pushed false))).thread i = .done (.pushed false) :=
      update_self ..
    refine h.move rfl (fun j hne => .inl (update_of_ne hne ..)) (h.queue.step hturn hq) hstands ?_
      (h.bounded i) h.le ?_
    · rw [hself, hpc]
      exact .inr ⟨_, rfl⟩
    · rw [hself]
      refine h.same_hand ?_
      rw [hands, hpc, hcalled]
      rfl

lemma queueNext (h : s.Shares live b) (hturn : s.freeIndexesQueue.KeepsTurns (i, .next))
    (hq : s.freeIndexesQueue.step (i, .next) = some q) :
    ∃ b', Shares { s.goto i (s.thread i) with freeIndexesQueue := q } live b' := by
  have hsound := RingState.sound_of_reachable (h.queue.mono fun _ _ h => h.1)
  rcases h.stands.next hsound hturn.2 hq with hstays | ⟨r, b', heffect, hb'⟩
  · exact ⟨b, h.queueStay hturn hq hstays⟩
  · exact ⟨b', h.queueEffect hturn hq (ringEffect_of_step heffect) hb'⟩

lemma lt_of_hand (h : s.Shares live b) {index : ℕ} (hhand : s.hands b i = some index) :
    index < s.lastNotIssuedIndex :=
  (h.holders.mem index).2 (.inr ⟨i, hhand⟩)

lemma lt_of_live (h : s.Shares live b) {index : ℕ} (hlive : index ∈ live) :
    index < s.lastNotIssuedIndex :=
  (h.holders.mem index).2 (.inl (List.mem_append_left _ hlive))

/-- An index that has been issued is none that marks an empty slot. -/
lemma ne_maxValue (h : s.Shares live b) {index : ℕ} (hlt : index < s.lastNotIssuedIndex) :
    index ≠ maxValue := by
  have hle : s.lastNotIssuedIndex ≤ 4097 := h.le
  rintro rfl
  rw [maxValue] at hlt
  omega

/-! ### Steps -/

/-- A thread goes on in the queue. -/
lemma queueGoes (h : s.Shares live b) (hturn : s.freeIndexesQueue.KeepsTurns (i, .next))
    (hpc : s.thread i = pc) (hstep : s.queueStep i .next pc = some s') :
    ∃ b', s'.Shares live b' := by
  obtain ⟨q, hq, rfl⟩ := queueStep_eq_some.1 hstep
  subst hpc
  exact h.queueNext hturn hq

/-- A thread whose call has returned leaves the queue with what it has in its hand. -/
lemma queueLeaves (h : s.Shares live b) (hturn : s.freeIndexesQueue.KeepsTurns (i, .leave))
    (hstep : s.queueStep i .leave pc = some s') {r : FifoResult ℕ}
    (hresult : RingState.resultOf (s.freeIndexesQueue.thread i) = some r)
    (hcalls : pc.Calls .idle) (hnew : pc.newIndex = none)
    (hhand : (s.thread i).hand (.done r) = pc.hand .idle) : ∃ b', s'.Shares live b' := by
  obtain ⟨q, hq, rfl⟩ := queueStep_eq_some.1 hstep
  refine h.queueLeave hturn hq hcalls hnew ?_
  rw [hands, RingState.resultOf_shows h.stands hresult, hhand]

/-- A thread goes on with the index that it is about to issue. -/
lemma issuing (h : s.Shares live b) {n : ℕ} (hbefore : (s.thread i).newIndex = some n)
    (hafter : pc.newIndex = some n) (hthread : s'.thread = update s.thread i pc)
    (hqueue : s'.freeIndexesQueue = s.freeIndexesQueue)
    (hlast : s'.lastNotIssuedIndex = s.lastNotIssuedIndex) : s'.Shares live b := by
  have hidle := (AllocatorPc.calls_of_newIndex hbefore).1 (h.calls i)
  refine h.goto hthread hqueue hlast ((AllocatorPc.calls_of_newIndex hafter).2 hidle)
    (fun m hm => ?_) ?_
  · rw [hafter] at hm
    obtain rfl := Option.some.inj hm
    exact h.bounded i n hbefore
  · rw [hands, AllocatorPc.hand_of_newIndex hbefore, AllocatorPc.hand_of_newIndex hafter]

/-- The exchange of a thread succeeds, and it has a new index in its hand. -/
lemma issue (h : s.Shares live b) (hpc : s.thread i = .exchange s.lastNotIssuedIndex) :
    Shares { s.goto i (.allocated (some s.lastNotIssuedIndex)) with
      lastNotIssuedIndex := s.lastNotIssuedIndex + 1 } live b := by
  have hcalls := h.calls i
  rw [hpc] at hcalls
  have hfree : s.hands b i = none := by rw [hands, hpc]; rfl
  have hle : s.lastNotIssuedIndex ≤ ringBufferSize := h.bounded i _ (by rw [hpc]; rfl)
  refine h.move rfl (fun _ _ => .inl rfl) h.queue h.stands hcalls (fun m hm => by cases hm)
    (Nat.succ_le_succ hle) ?_
  have hissued : insert s.lastNotIssuedIndex (Set.Iio s.lastNotIssuedIndex) =
      Set.Iio (s.lastNotIssuedIndex + 1) := by
    ext m
    rw [Set.mem_insert_iff, Set.mem_Iio, Set.mem_Iio]
    omega
  have hholders := h.holders.issue (Set.notMem_Iio.2 le_rfl) hfree
  rwa [hissued] at hholders

/-- The next step of a call. -/
lemma next (h : s.Shares live b)
    (hturn : ∀ ringAction : RingAction, ringAction.FreesIndex →
      s.freeIndexesQueue.KeepsTurns (i, ringAction))
    (hstep : s.next layout i = some s') : ∃ b', s'.Shares live b' := by
  have hnext := hturn .next trivial
  have hleave := hturn .leave trivial
  cases hpc : s.thread i with
  | idle | allocated => simp [AllocatorState.next, hpc] at hstep
  | inTryPop =>
    simp only [AllocatorState.next, hpc] at hstep
    cases hq : s.freeIndexesQueue.thread i with
    | popped index =>
      have hresult : RingState.resultOf (s.freeIndexesQueue.thread i) = some (.popped index) := by
        rw [hq]
        rfl
      cases index with
      | none =>
        simp only [hq] at hstep
        exact h.queueLeaves hleave hstep hresult rfl rfl (by rw [hpc]; rfl)
      | some index =>
        simp only [hq] at hstep
        exact h.queueLeaves hleave hstep hresult rfl rfl (by rw [hpc]; rfl)
    | _ =>
      simp only [hq] at hstep
      exact h.queueGoes hnext hpc hstep
  | inTryPush index =>
    simp only [AllocatorState.next, hpc] at hstep
    cases hq : s.freeIndexesQueue.thread i with
    | pushed accepted =>
      have hresult :
          RingState.resultOf (s.freeIndexesQueue.thread i) = some (.pushed accepted) := by
        rw [hq]
        rfl
      cases accepted with
      | false =>
        simp only [hq] at hstep
        exact h.queueLeaves hleave hstep hresult rfl rfl (by rw [hpc]; rfl)
      | true =>
        simp only [hq] at hstep
        exact h.queueLeaves hleave hstep hresult rfl rfl (by rw [hpc]; rfl)
    | _ =>
      simp only [hq] at hstep
      exact h.queueGoes hnext hpc hstep
  | inPush =>
    simp only [AllocatorState.next, hpc] at hstep
    cases hq : s.freeIndexesQueue.thread i with
    | pushed accepted =>
      have hresult :
          RingState.resultOf (s.freeIndexesQueue.thread i) = some (.pushed accepted) := by
        rw [hq]
        rfl
      simp only [hq] at hstep
      exact h.queueLeaves hleave hstep hresult rfl rfl (by rw [hpc]; rfl)
    | _ =>
      simp only [hq] at hstep
      exact h.queueGoes hnext hpc hstep
  | callPush index =>
    obtain ⟨q, hq, rfl⟩ := queueStep_eq_some.1 (by simpa [AllocatorState.next, hpc] using hstep)
    have hhand : s.hands b i = some index := by rw [hands, hpc]; rfl
    have hfrees : (RingAction.push index).FreesIndex := h.ne_maxValue (h.lt_of_hand hhand)
    exact h.queueCall rfl (hturn _ hfrees) hq (.inl ⟨_, _, rfl⟩) rfl (h.same_hand hhand)
  | loadIndex =>
    obtain rfl : s.goto i (AllocatorState.tryIndex s.lastNotIssuedIndex) = s' := by
      simpa [AllocatorState.next, hpc] using hstep
    have hcalls := h.calls i
    rw [hpc] at hcalls
    exact ⟨b, h.tryIndex hcalls (by rw [hands, hpc]; rfl)⟩
  | exchange n =>
    have hbefore : (s.thread i).newIndex = some n := by rw [hpc]; rfl
    simp only [AllocatorState.next, hpc] at hstep
    split_ifs at hstep with heq
    · obtain rfl := Option.some.inj hstep
      subst heq
      exact ⟨b, h.issue hpc⟩
    · obtain rfl := Option.some.inj hstep
      exact ⟨b, h.tryIndex ((AllocatorPc.calls_of_newIndex hbefore).1 (h.calls i))
        (AllocatorPc.hand_of_newIndex hbefore)⟩
  | loadEnd n | tryAcquire n e =>
    have hbefore : (s.thread i).newIndex = some n := by rw [hpc]; rfl
    simp only [AllocatorState.next, hpc] at hstep
    split_ifs at hstep
    all_goals
      obtain rfl := Option.some.inj hstep
      exact ⟨b, h.issuing hbefore rfl rfl rfl rfl⟩
  | loadNodeEnd n | protect n e | fetchAdd n | release n =>
    have hbefore : (s.thread i).newIndex = some n := by rw [hpc]; rfl
    simp only [AllocatorState.next, hpc] at hstep
    obtain rfl := Option.some.inj hstep
    exact ⟨b, h.issuing hbefore rfl rfl rfl rfl⟩
  | wait n e =>
    have hbefore : (s.thread i).newIndex = some n := by rw [hpc]; rfl
    simp only [AllocatorState.next, hpc] at hstep
    split_ifs at hstep
    obtain rfl := Option.some.inj hstep
    exact ⟨b, h.issuing hbefore rfl rfl rfl rfl⟩

end Shares

/-! ### Runs -/

/-- An index is live from when a call has returned it until it is given back. -/
def liveAfter (live : List ℕ) (s : AllocatorState) (a : ℕ × AllocatorAction) (_ : AllocatorState) :
    List ℕ :=
  match a.2 with
  | .deallocate index => live.erase index
  | .leave => match s.thread a.1 with
    | .allocated (some index) => index :: live
    | _ => live
  | .allocate | .next | .fail => live

end AllocatorState

/-- The index that is given back is live. -/
def AllocatorAction.FreesLive (live : List ℕ) : AllocatorAction → Prop
  | .deallocate index => index ∈ live
  | _ => True

instance (live : List ℕ) : DecidablePred (AllocatorAction.FreesLive live)
  | .deallocate _ => inferInstanceAs (Decidable (_ ∈ _))
  | .allocate | .next | .fail | .leave => isTrue trivial

namespace AllocatorState

/-- The pool with a record of what is live. -/
def sharing (layout : AllocatorLayout) : System (AllocatorState × List ℕ) (ℕ × AllocatorAction) :=
  (allocatorSystem layout).withHistory [] liveAfter

/-- Threads keep to their turns in the queue, whose counter does not wrap around, and only live
indices are given back. -/
def SharesInTurn (x : AllocatorState × List ℕ) (a : ℕ × AllocatorAction) : Prop :=
  (x.1.freeIndexesQueue.InTurn (a.1, .next) ∧ x.1.freeIndexesQueue.head + 1 < 2 ^ 64) ∧
    a.2.FreesLive x.2

instance (x : AllocatorState × List ℕ) (a : ℕ × AllocatorAction) : Decidable (SharesInTurn x a) :=
  inferInstanceAs (Decidable ((_ ∧ _) ∧ _))

namespace Shares

lemma step (h : s.Shares live b) (hG : SharesInTurn (s, live) (i, a))
    (hstep : s.step layout (i, a) = some s') :
    ∃ b', s'.Shares (liveAfter live s (i, a) s') b' := by
  have hturn : ∀ ringAction : RingAction, ringAction.FreesIndex →
      s.freeIndexesQueue.KeepsTurns (i, ringAction) :=
    fun ringAction hfrees => ⟨⟨hG.1.1, hfrees⟩, hG.1.2⟩
  cases a with
  | next => exact h.next hturn hstep
  | allocate =>
    cases hpc : s.thread i with
    | idle =>
      obtain ⟨q, hq, rfl⟩ := queueStep_eq_some.1 (by simpa [AllocatorState.step, hpc] using hstep)
      refine h.queueCall rfl (hturn .tryPop trivial) hq (.inl ⟨_, rfl⟩) rfl (h.same_hand ?_)
      rw [hands, hpc]
      rfl
    | _ => simp [AllocatorState.step, hpc] at hstep
  | deallocate index =>
    have hlive : index ∈ live := hG.2
    have hfrees : (RingAction.tryPush index).FreesIndex := h.ne_maxValue (h.lt_of_live hlive)
    cases hpc : s.thread i with
    | idle =>
      obtain ⟨q, hq, rfl⟩ := queueStep_eq_some.1 (by simpa [AllocatorState.step, hpc] using hstep)
      refine h.queueCall rfl (hturn _ hfrees) hq (.inl ⟨_, rfl⟩) rfl ?_
      have hfree : s.hands b i = none := by rw [hands, hpc]; rfl
      exact (h.holders.perm ((List.perm_cons_erase hlive).append_right _)).take hfree
    | _ => simp [AllocatorState.step, hpc] at hstep
  | fail =>
    cases hpc : s.thread i with
    | inTryPop | inTryPush _ | inPush =>
      obtain ⟨q, hq, rfl⟩ := queueStep_eq_some.1 (by simpa [AllocatorState.step, hpc] using hstep)
      rw [← hpc]
      exact ⟨b, h.queueStay (hturn .fail trivial) hq (h.stands.fail hq)⟩
    | tryAcquire n e =>
      obtain rfl : s.goto i (.wait n e) = s' := by simpa [AllocatorState.step, hpc] using hstep
      exact ⟨b, h.issuing (by rw [hpc]; rfl) rfl rfl rfl rfl⟩
    | exchange n =>
      obtain rfl : s.goto i (AllocatorState.tryIndex s.lastNotIssuedIndex) = s' := by
        simpa [AllocatorState.step, hpc] using hstep
      have hbefore : (s.thread i).newIndex = some n := by rw [hpc]; rfl
      exact ⟨b, h.tryIndex ((AllocatorPc.calls_of_newIndex hbefore).1 (h.calls i))
        (AllocatorPc.hand_of_newIndex hbefore)⟩
    | _ => simp [AllocatorState.step, hpc] at hstep
  | leave =>
    cases hpc : s.thread i with
    | allocated index =>
      have hcalls := h.calls i
      rw [hpc] at hcalls
      have hhand : s.hands b i = index := by rw [hands, hpc]; rfl
      cases index with
      | none =>
        obtain rfl : s.goto i .idle = s' := by simpa [AllocatorState.step, hpc] using hstep
        simp only [liveAfter, hpc]
        exact ⟨b, h.goto rfl rfl rfl hcalls (fun n hn => by cases hn) hhand⟩
      | some index =>
        simp only [AllocatorState.step, hpc] at hstep
        obtain rfl := Option.some.inj hstep
        simp only [liveAfter, hpc]
        exact ⟨b, h.move rfl (fun _ _ => .inl rfl) h.queue h.stands hcalls
          (fun n hn => by cases hn) h.le (h.holders.put hhand)⟩
    | _ => simp [AllocatorState.step, hpc] at hstep

end Shares

/-! ### Memory -/

/-- The pool as if its indices had been issued for good and nothing had been given back: only what
threads do that are about to issue an index is left. -/
def memoryView (s : AllocatorState) : AllocatorState :=
  { s with
    freeIndexesQueue := {}
    thread := fun i => (s.thread i).issuing
    returned := List.range s.lastNotIssuedIndex }

lemma memoryView_thread {n : ℕ} (h : (s.thread i).newIndex = some n) :
    s.memoryView.thread i = s.thread i := AllocatorPc.issuing_eq_self h

lemma memoryView_idle (h : (s.thread i).newIndex = none) : s.memoryView.thread i = .idle :=
  AllocatorPc.issuing_eq_idle h

lemma issuing_update (thread : ℕ → AllocatorPc) :
    (fun j => (update thread i pc j).issuing) =
      update (fun j => (thread j).issuing) i pc.issuing := by
  funext j
  rcases eq_or_ne j i with rfl | hne
  · rw [update_self, update_self]
  · rw [update_of_ne hne, update_of_ne hne]

lemma memoryView_goto : (s.goto i pc).memoryView = s.memoryView.goto i pc.issuing := by
  simp only [memoryView, goto, issuing_update]

/-- A step of a thread that is not about to issue an index. -/
lemma memoryView_same (hbefore : (s.thread i).newIndex = none) (hafter : pc.newIndex = none)
    {q : RingState} {returned : List ℕ} :
    memoryView { s.goto i pc with freeIndexesQueue := q, returned := returned } = s.memoryView := by
  simp only [memoryView, goto, issuing_update, AllocatorPc.issuing_eq_idle hafter]
  rw [← AllocatorPc.issuing_eq_idle hbefore, update_eq_self]

/-- The view of a pool keeps what the pool keeps that never gets an index back. -/
lemma memoryView_tryIndex (h : s.memoryView.Sound layout)
    (hgrowing : (s.memoryView.thread i).growing = false) :
    (s.goto i (tryIndex s.lastNotIssuedIndex)).memoryView.Sound layout := by
  have hbefore : ∀ index, s.memoryView.thread i ≠ .allocated (some index) :=
    fun index => AllocatorPc.issuing_ne_allocated index
  rw [memoryView_goto]
  by_cases hlt : ringBufferSize < s.lastNotIssuedIndex
  · rw [AllocatorState.tryIndex, if_pos hlt]
    exact h.goto rfl hbefore (fun _ hpc => by cases hpc) hgrowing.symm trivial
  · rw [AllocatorState.tryIndex, if_neg hlt]
    exact h.goto rfl hbefore (fun _ hpc => by cases hpc) hgrowing.symm le_rfl

/-- An index is issued, for good. -/
lemma memoryView_issue (h : s.memoryView.Sound layout)
    (hpc : s.thread i = .exchange s.lastNotIssuedIndex) :
    (memoryView { s.goto i (.allocated (some s.lastNotIssuedIndex)) with
      lastNotIssuedIndex := s.lastNotIssuedIndex + 1 }).Sound layout := by
  have hexchange : s.memoryView.thread i = .exchange s.memoryView.lastNotIssuedIndex :=
    (memoryView_thread (n := s.lastNotIssuedIndex) (by rw [hpc]; rfl)).trans hpc
  have hleft := (h.exchange hexchange).leave (i := i) (update_self ..)
  convert hleft using 1
  simp only [memoryView, goto, issuing_update, update_idem, List.range_succ]
  rfl

/-- What a thread does that is about to issue an index, it does in the view too. -/
lemma memoryView_next {n : ℕ} (hbefore : (s.thread i).newIndex = some n)
    (hnot : s.thread i ≠ .exchange n) (hstep : s.next layout i = some s') :
    s.memoryView.next layout i = some s'.memoryView := by
  have hview := memoryView_thread hbefore
  cases hpc : s.thread i with
  | idle | inTryPop | loadIndex | allocated | inTryPush | callPush | inPush =>
    rw [hpc] at hbefore
    cases hbefore
  | exchange m =>
    rw [hpc] at hbefore hnot
    obtain rfl := Option.some.inj hbefore
    exact absurd rfl hnot
  | loadEnd m | tryAcquire m e | wait m e =>
    rw [hpc] at hview
    simp only [AllocatorState.next, hpc] at hstep
    simp only [AllocatorState.next, hview]
    split_ifs at hstep with hif
    all_goals
      obtain rfl := Option.some.inj hstep
      simp only [memoryView, goto, issuing_update, hif, ↓reduceIte]
      rfl
  | loadNodeEnd m | protect m e | fetchAdd m | release m =>
    rw [hpc] at hview
    simp only [AllocatorState.next, hpc] at hstep
    obtain rfl := Option.some.inj hstep
    simp only [AllocatorState.next, hview]
    simp only [memoryView, goto, issuing_update]
    rfl

lemma memoryView_queueStep {ringAction : RingAction} (hbefore : (s.thread i).newIndex = none)
    (hafter : pc.newIndex = none) (hstep : s.queueStep i ringAction pc = some s') :
    s'.memoryView = s.memoryView := by
  obtain ⟨q, hq, rfl⟩ := queueStep_eq_some.1 hstep
  exact memoryView_same hbefore hafter

/-- The next step of a thread that is not about to issue an index. -/
lemma memoryView_next_none (h : s.memoryView.Sound layout)
    (hbefore : (s.thread i).newIndex = none) (hstep : s.next layout i = some s') :
    s'.memoryView.Sound layout := by
  cases hpc : s.thread i with
  | idle | allocated => simp [AllocatorState.next, hpc] at hstep
  | loadIndex =>
    obtain rfl : s.goto i (AllocatorState.tryIndex s.lastNotIssuedIndex) = s' := by
      simpa [AllocatorState.next, hpc] using hstep
    exact memoryView_tryIndex h (by rw [memoryView_idle hbefore]; rfl)
  | inTryPop | inTryPush | inPush | callPush =>
    simp only [AllocatorState.next, hpc] at hstep
    have hsame : s'.memoryView = s.memoryView := by
      first
        | exact memoryView_queueStep hbefore rfl hstep
        | split at hstep <;> exact memoryView_queueStep hbefore rfl hstep
    rwa [hsame]
  | loadEnd | tryAcquire | loadNodeEnd | protect | fetchAdd | release | wait | exchange =>
    rw [hpc] at hbefore
    cases hbefore

lemma memoryView_step (h : s.memoryView.Sound layout)
    (hchunk : layout.chunkSize ≤ layout.memoryAmount)
    (hstep : s.step layout (i, a) = some s') : s'.memoryView.Sound layout := by
  cases a with
  | next =>
    cases hnew : (s.thread i).newIndex with
    | none => exact memoryView_next_none h hnew hstep
    | some n =>
      by_cases hpc : s.thread i = .exchange n
      · simp only [AllocatorState.step, AllocatorState.next, hpc] at hstep
        split_ifs at hstep with hindex
        · obtain rfl := Option.some.inj hstep
          subst hindex
          exact memoryView_issue h hpc
        · obtain rfl := Option.some.inj hstep
          exact memoryView_tryIndex h (by rw [memoryView_thread hnew, hpc]; rfl)
      · exact h.next hchunk (memoryView_next hnew hpc hstep)
  | allocate | deallocate =>
    cases hpc : s.thread i with
    | idle =>
      have hbefore : (s.thread i).newIndex = none := by rw [hpc]; rfl
      simp only [AllocatorState.step, hpc] at hstep
      rwa [memoryView_queueStep hbefore rfl hstep]
    | _ => simp [AllocatorState.step, hpc] at hstep
  | leave =>
    cases hpc : s.thread i with
    | allocated index =>
      have hbefore : (s.thread i).newIndex = none := by rw [hpc]; rfl
      simp only [AllocatorState.step, hpc] at hstep
      have hsame : s'.memoryView = s.memoryView := by
        cases index with
        | none | some =>
          obtain rfl := Option.some.inj hstep
          exact memoryView_same hbefore rfl
      rwa [hsame]
    | _ => simp [AllocatorState.step, hpc] at hstep
  | fail =>
    cases hpc : s.thread i with
    | inTryPop | inTryPush | inPush =>
      have hbefore : (s.thread i).newIndex = none := by rw [hpc]; rfl
      simp only [AllocatorState.step, hpc] at hstep
      rwa [memoryView_queueStep hbefore rfl hstep]
    | tryAcquire n e =>
      have hview : s.memoryView.thread i = .tryAcquire n e :=
        (memoryView_thread (n := n) (by rw [hpc]; rfl)).trans hpc
      obtain rfl : s.goto i (.wait n e) = s' := by simpa [AllocatorState.step, hpc] using hstep
      refine h.step hchunk (a := (i, .fail)) rfl ?_
      rw [memoryView_goto]
      simp [AllocatorState.step, hview]
      rfl
    | exchange n =>
      obtain rfl : s.goto i (AllocatorState.tryIndex s.lastNotIssuedIndex) = s' := by
        simpa [AllocatorState.step, hpc] using hstep
      refine memoryView_tryIndex h ?_
      rw [memoryView_thread (n := n) (by rw [hpc]; rfl), hpc]
      rfl
    | _ => simp [AllocatorState.step, hpc] at hstep

/-! ### One place for each index -/

/-- The indices in `free_indexes_queue`. -/
def freed (s : AllocatorState) : List ℕ :=
  s.freeIndexesQueue.accepted.drop s.freeIndexesQueue.tail

/-- No index is live twice, or live and free, or returned to two calls, and none is lost; the chunk
of each that is live or about to be can be used. -/
structure InOnePlace (layout : AllocatorLayout) (s : AllocatorState) (live : List ℕ) : Prop where
  live_nodup : live.Nodup
  freed_nodup : s.freed.Nodup
  disjoint : live.Disjoint s.freed
  le : s.lastNotIssuedIndex ≤ ringBufferSize + 1
  /-- What a call is about to return, nobody else has. -/
  returning : ∀ i index, s.thread i = .allocated (some index) → index ∉ live ∧ index ∉ s.freed ∧
    ∀ j, s.thread j = .allocated (some index) → j = i
  issued : ∀ index, index ∈ live ∨ index ∈ s.freed ∨
    (∃ i, s.thread i = .allocated (some index)) → index < s.lastNotIssuedIndex
  /-- As long as no call is going on, the others are all there. -/
  found : (∀ i, s.thread i = .idle) → ∀ index, index < s.lastNotIssuedIndex →
    index ∈ live ∨ index ∈ s.freed
  committed : ∀ index, index ∈ live ∨ (∃ i, s.thread i = .allocated (some index)) →
    (index + 1) * layout.chunkSize ≤ s.actualMemoryEnd ∧
      ∀ address, address < (index + 1) * layout.chunkSize → s.accessible address = true

namespace Shares

lemma freed (h : s.Shares live b) : b.value = s.freed := h.stands.value

lemma hand_of_allocated {index : ℕ} (hpc : s.thread i = .allocated (some index)) :
    s.hands b i = some index := by
  rw [hands, hpc]
  rfl

lemma inOnePlace (h : s.Shares live b) (hmemory : s.memoryView.Sound layout) :
    s.InOnePlace layout live := by
  have hnodup := h.holders.nodup
  have hissued : ∀ index, index ∈ live ∨ index ∈ s.freed ∨
      (∃ i, s.thread i = .allocated (some index)) → index < s.lastNotIssuedIndex := by
    rintro index (hlive | hfreed | ⟨i, hpc⟩)
    · exact h.lt_of_live hlive
    · rw [← h.freed] at hfreed
      exact (h.holders.mem index).2 (.inl (List.mem_append_right _ hfreed))
    · exact h.lt_of_hand (hand_of_allocated (b := b) hpc)
  rw [h.freed, List.nodup_append'] at hnodup
  obtain ⟨hlive, hfreed, hdisjoint⟩ := hnodup
  refine ⟨hlive, hfreed, hdisjoint, h.le, fun i index hpc => ?_, hissued, fun hidle index hlt => ?_,
    fun index hindex => ?_⟩
  · have hnot := h.holders.apart i index (hand_of_allocated hpc)
    rw [h.freed, List.mem_append, not_or] at hnot
    refine ⟨hnot.1, hnot.2, fun j hj => ?_⟩
    exact h.holders.unique j i index (hand_of_allocated hj) (hand_of_allocated hpc)
  · rcases (h.holders.mem index).1 hlt with hmem | ⟨i, hi⟩
    · rwa [h.freed, List.mem_append] at hmem
    · rw [hands, hidle i] at hi
      cases hstatus : b.thread i <;> rw [hstatus] at hi <;> cases hi
  · have hlt : index < s.lastNotIssuedIndex := hissued index (hindex.imp_right .inr)
    have hle : (index + 1) * layout.chunkSize ≤ s.actualMemoryEnd :=
      (Nat.mul_le_mul_right _ hlt).trans hmemory.committed
    exact ⟨hle, fun address haddress => hmemory.accessible address (haddress.trans_le hle)⟩

end Shares

lemma shares_of_reachable (hchunk : layout.chunkSize ≤ layout.memoryAmount)
    (h : (sharing layout).Reachable SharesInTurn (s, live)) :
    (∃ b, s.Shares live b) ∧ s.memoryView.Sound layout := by
  refine h.invariant (I := fun x => (∃ b, x.1.Shares x.2 b) ∧ x.1.memoryView.Sound layout) ?_ ?_
  · rintro ⟨s, live⟩ ⟨hs, hlive⟩
    obtain rfl : s = {} := hs
    obtain rfl : live = [] := hlive
    exact ⟨⟨_, .initial⟩, .initial⟩
  · rintro ⟨s, live⟩ ⟨i, a⟩ ⟨s', live'⟩ - ⟨⟨b, hshares⟩, hmemory⟩ hG hstep
    obtain ⟨hstep, hlive⟩ := System.withHistory_step.1 hstep
    obtain rfl : live' = liveAfter live s (i, a) s' := hlive
    exact ⟨hshares.step hG hstep, memoryView_step hmemory hchunk hstep⟩

/-- With any number of threads that allocate and give back what is live, in any order of their
steps. -/
theorem indexes_inOnePlace (layout : AllocatorLayout) (s : AllocatorState) (live : List ℕ)
    (hchunk : layout.chunkSize ≤ layout.memoryAmount)
    (h : (sharing layout).Reachable SharesInTurn (s, live)) : s.InOnePlace layout live := by
  obtain ⟨⟨b, hshares⟩, hmemory⟩ := shares_of_reachable hchunk h
  exact hshares.inOnePlace hmemory

/-- A thread gives its index back, and while it is still in the queue, another one takes it. -/
def reusedSteps : List (ℕ × AllocatorAction) :=
  twoCalls ++ ((1, .deallocate 0) :: List.replicate 3 (1, .next)) ++
    ((2, .allocate) :: List.replicate 3 (2, .next)) ++
    List.replicate 3 (1, .next) ++ List.replicate 3 (2, .next)

/-- On the pool of `MemoryManager`. -/
theorem indexes_inOnePlace_reused : ∃ s,
    (sharing ⟨512, 4096⟩).run ({}, []) reusedSteps = some (s, [1]) ∧
    s.thread 2 = .allocated (some 0) ∧ s.InOnePlace ⟨512, 4096⟩ [1] := by
  have hrun : ((sharing ⟨512, 4096⟩).run ({}, []) reusedSteps).map
      (fun x => (x.2, x.1.thread 2)) = some ([1], .allocated (some 0)) := by decide +kernel
  obtain ⟨⟨s, live⟩, hrun, heq⟩ := Option.map_eq_some_iff.1 hrun
  obtain ⟨rfl, hpc⟩ := Prod.ext_iff.1 heq
  have hinitial : (sharing ⟨512, 4096⟩).initial ({}, []) := ⟨rfl, rfl⟩
  have hreach := (System.Reachable.of_initial hinitial).run (G := SharesInTurn)
    (by decide +kernel) hrun
  exact ⟨s, hrun, hpc, indexes_inOnePlace _ s _ (by decide) hreach⟩

end AllocatorState

end BattleShips
