import Mathlib.Data.Nat.Bitwise
import Mathlib.Tactic

/-!
# The queue, call by call

`AtomicQueue` of `core/atomic_queue.h` as its callers see it when no two calls overlap: the values
between the counters `head` and `tail`, with the test that `try_push` makes on the two counters
reduced to ring slots. What the calls do step by step is in `Core.AtomicQueueSteps`.
-/

namespace BattleShips

/-- `RING_BUFFER_SIZE`. -/
abbrev ringBufferSize : ℕ := 4096

/-- `normilize_ring_slot`. -/
def normilizeRingSlot (ringSlot : ℕ) : ℕ := ringSlot &&& (ringBufferSize - 1)

lemma normilizeRingSlot_eq (n : ℕ) : normilizeRingSlot n = n % ringBufferSize :=
  Nat.and_two_pow_sub_one_eq_mod n 12

lemma normilizeRingSlot_lt (n : ℕ) : normilizeRingSlot n < ringBufferSize := by
  rw [normilizeRingSlot_eq]
  exact Nat.mod_lt _ (by decide)

/-- Counters of 64 bits that compare as equal. -/
def SameCounter (m n : ℕ) : Prop := m % 2 ^ 64 = n % 2 ^ 64

@[simp] lemma sameCounter_self (n : ℕ) : SameCounter n n := rfl

lemma sameCounter_iff {m n : ℕ} (hmn : m ≤ n) (hn : n < 2 ^ 64) : SameCounter m n ↔ m = n := by
  rw [SameCounter]
  omega

instance (m n : ℕ) : Decidable (SameCounter m n) := inferInstanceAs (Decidable (_ = _))

/-- The test of `try_push` on the counters it has loaded. -/
def looksFull (tail head : ℕ) : Prop := normilizeRingSlot tail + 1 = normilizeRingSlot head

instance (tail head : ℕ) : Decidable (looksFull tail head) := inferInstanceAs (Decidable (_ = _))

/-- On counters that are not out of order, the test only holds of a queue with 4095 values or
more. -/
lemma sub_ge_of_looksFull {tail head : ℕ} (hle : head ≤ tail) (h : looksFull tail head) :
    ringBufferSize - 1 ≤ tail - head := by
  simp only [looksFull, normilizeRingSlot_eq, ringBufferSize] at h ⊢
  omega

lemma not_looksFull_self (n : ℕ) : ¬ looksFull n n := by
  rw [looksFull]
  omega

structure AtomicQueue (α : Type*) where
  head : ℕ := 0
  items : List α := []

namespace AtomicQueue

variable {α : Type*}

def tail (q : AtomicQueue α) : ℕ := q.head + q.items.length

/-- What a call of `try_push` comes to: `true`, `false`, or no return while the claimed slot is
occupied. -/
inductive PushResult (α : Type*)
  | accepted (q : AtomicQueue α)
  | refused
  | waiting

/-- `try_push`. -/
def tryPush (q : AtomicQueue α) (x : α) : PushResult α :=
  if looksFull q.tail q.head then .refused
  else if q.items.length < ringBufferSize then .accepted { q with items := q.items ++ [x] }
  else .waiting

/-- `try_pop`. -/
def tryPop (q : AtomicQueue α) : Option (α × AtomicQueue α) :=
  match q.items with
  | [] => none
  | x :: xs => some (x, { head := q.head + 1, items := xs })

/-- With fewer than 4095 values there is room. -/
lemma tryPush_of_lt {q : AtomicQueue α} (h : q.items.length < ringBufferSize - 1) (x : α) :
    q.tryPush x = .accepted { q with items := q.items ++ [x] } := by
  have hfull : ¬ looksFull q.tail q.head := by
    intro hfull
    have hge := sub_ge_of_looksFull (Nat.le_add_right _ _) hfull
    have hlen : q.tail - q.head = q.items.length := by simp [tail]
    omega
  rw [tryPush, if_neg hfull, if_pos (by omega)]

lemma tryPush_accepted {q q' : AtomicQueue α} {x : α} (h : q.tryPush x = .accepted q') :
    q' = { q with items := q.items ++ [x] } := by
  rw [tryPush] at h
  split_ifs at h
  exact (PushResult.accepted.inj h).symm

lemma tryPop_eq_some {q q' : AtomicQueue α} {x : α} :
    q.tryPop = some (x, q') ↔ q.items = x :: q'.items ∧ q'.head = q.head + 1 := by
  obtain ⟨head, items⟩ := q
  obtain ⟨head', items'⟩ := q'
  cases items with
  | nil => simp [tryPop]
  | cons y ys => simp [tryPop]; tauto

lemma tryPop_eq_none {q : AtomicQueue α} : q.tryPop = none ↔ q.items = [] := by
  obtain ⟨head, items⟩ := q
  cases items <;> simp [tryPop]

end AtomicQueue

end BattleShips
