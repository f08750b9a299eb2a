import BattleShips.Net.SocketHandler
import BattleShips.Properties.BoundedQueues
import Mathlib.Data.Finset.Card

/-!
# The slots of a pool

What a pool hands out and gets back over any sequence of calls. It hands out no slot twice, until
it has none left, of which it does not tell; and it gets back what its queue has room for.
-/

namespace BattleShips

variable {α β : Type*}

/-- The calls of a pool, and what the owner of a slot does to its object. -/
inductive PoolCall (α : Type*)
  | push (x : α)
  | release (slot : ℕ)
  | mutate (slot : ℕ) (x : α)

inductive PoolResult
  | pushed (result : Except Error ℕ)
  | released
  | mutated

namespace ObjectPool

variable {moveAssign : α → α → α} {value : α → β} {pool pool' : ObjectPool α} {slot : ℕ} {x : α}

def call (moveAssign : α → α → α) (pool : ObjectPool α) :
    PoolCall α → Option (PoolResult × ObjectPool α)
  | .push x => (pool.pushToPool moveAssign x).map fun (slot, pool) => (.pushed (.ok slot), pool)
  | .release slot => (pool.release slot).map fun pool => (.released, pool)
  | .mutate slot x => some (.mutated, pool.setObject slot x)

/-- A pool whose calls do not overlap. -/
def calls (moveAssign : α → α → α) : CallObject (ObjectPool α) (PoolCall α) PoolResult :=
  .ofCalls (call moveAssign)

/-- What `push_to_pool` does. -/
lemma pushToPool_cases (h : pool.pushToPool moveAssign x = some (slot, pool')) :
    (∃ rest, pool.availableSlots.items = slot :: rest ∧
      pool' = { pool with
        object := Function.update pool.object slot (moveAssign (pool.object slot) x)
        availableSlots := { head := pool.availableSlots.head + 1, items := rest } }) ∨
    (pool.availableSlots.items = [] ∧ slot = pool.lastNotIssuedIndex ∧ slot ≤ ringBufferSize ∧
      pool' = { pool with
        object := Function.update pool.object slot x
        counter := pool.counter + 1
        lastNotIssuedIndex := slot + 1 }) := by
  rw [pushToPool] at h
  cases hpop : pool.availableSlots.tryPop with
  | some popped =>
    obtain ⟨s, q⟩ := popped
    obtain ⟨hitems, hhead⟩ := AtomicQueue.tryPop_eq_some.1 hpop
    rw [hpop] at h
    obtain ⟨rfl, rfl⟩ := Prod.mk.inj (Option.some.inj h)
    refine .inl ⟨q.items, hitems, ?_⟩
    rw [← hhead]
    rfl
  | none =>
    have hitems := AtomicQueue.tryPop_eq_none.1 hpop
    rw [hpop, allocate] at h
    split_ifs at h with hlast
    obtain ⟨rfl, rfl⟩ := Prod.mk.inj (Option.some.inj h)
    exact .inr ⟨hitems, rfl, not_lt.1 hlast, rfl⟩

end ObjectPool

/-! ### No two owners of a slot -/

/-- What is known of a pool from its calls: what is in the slots in use, and the slots that have
been returned. -/
structure PoolRecord (β : Type*) where
  inUse : ℕ → Option β := fun _ => none
  returned : List ℕ := []

/-- Slots in use are released and changed by their owners; `push_to_pool` returns a slot that is not
in use, or an error. A call of `release` need not return. -/
def poolSpec (value : α → β) : CallSpec (PoolRecord β) (PoolCall α) PoolResult where
  legal t
    | .push _ => True
    | .release slot | .mutate slot _ => t.inUse slot ≠ none
  returns
    | .push _ | .mutate _ _ => True
    | .release _ => False
  allowed t
    | .push _, .pushed (.ok slot) => t.inUse slot = none
    | _, _ => True
  next t
    | .push x, .pushed (.ok slot) =>
      { inUse := Function.update t.inUse slot (some (value x)), returned := t.returned ++ [slot] }
    | .release slot, _ => { t with inUse := Function.update t.inUse slot none }
    | .mutate slot x, _ => { t with inUse := Function.update t.inUse slot (some (value x)) }
    | .push _, _ => t

namespace ObjectPool

variable {moveAssign : α → α → α} {value : α → β} {pool pool' : ObjectPool α} {slot : ℕ} {x : α}
  {t : PoolRecord β} {c : PoolCall α}

/-- The slots in use hold what their owners have put there, and `counter` is one more than the
highest slot that has been returned, so that the slots below it are those that have been. -/
structure Shows (value : α → β) (pool : ObjectPool α) (t : PoolRecord β) : Prop where
  object : ∀ slot y, t.inUse slot = some y → value (pool.object slot) = y
  counter : IsLeast { n | ∀ slot ∈ t.returned, slot < n } pool.counter
  scanned : ∀ slot, slot < pool.counter ↔ slot ∈ t.returned

/-- The call returns what it may, and leaves a pool that shows what it should. -/
def Good (moveAssign : α → α → α) (value : α → β) (pool : ObjectPool α) (t : PoolRecord β)
    (c : PoolCall α) : Prop :=
  (calls moveAssign).Meets (poolSpec value) pool t c ∧
    ∀ r pool', (calls moveAssign).Returns pool c r pool' →
      pool'.Shows value ((poolSpec value).next t c r)

/-- The call asks for a slot where there is none. -/
def AsksTooMuch (pool : ObjectPool α) (c : PoolCall α) : Prop :=
  (∃ x, c = .push x) ∧ pool.Exhausted

/-- The pool and what is known of it. -/
structure Fits (value : α → β) (pool : ObjectPool α) (t : PoolRecord β) : Prop where
  object : ∀ slot y, t.inUse slot = some y → value (pool.object slot) = y
  counter : pool.counter = pool.lastNotIssuedIndex
  returned : ∀ slot, slot < pool.lastNotIssuedIndex ↔ slot ∈ t.returned
  nodup : pool.availableSlots.items.Nodup
  available : ∀ slot ∈ pool.availableSlots.items,
    slot < pool.lastNotIssuedIndex ∧ t.inUse slot = none
  unissued : ∀ slot, pool.lastNotIssuedIndex ≤ slot → t.inUse slot = none

namespace Fits

lemma initial (object : ℕ → α) : Fits value { object := object } {} where
  object _ _ h := by cases h
  counter := rfl
  returned slot := by simp
  nodup := List.nodup_nil
  available _ h := by cases h
  unissued _ _ := rfl

lemma shows (h : Fits value pool t) : pool.Shows value t where
  object := h.object
  counter := by
    rw [h.counter]
    refine ⟨fun slot => (h.returned slot).2, ?_⟩
    intro n hn
    by_contra hlt
    exact absurd (hn n ((h.returned n).1 (not_le.1 hlt))) (lt_irrefl n)
  scanned := by
    rw [h.counter]
    exact h.returned

lemma free (h : Fits value pool t) (hpush : pool.pushToPool moveAssign x = some (slot, pool')) :
    t.inUse slot = none := by
  obtain ⟨rest, hitems, -⟩ | ⟨-, hslot, -⟩ := pushToPool_cases hpush
  · exact (h.available slot (by simp [hitems])).2
  · exact h.unissued slot hslot.ge

lemma push (h : Fits value pool t) (hassign : ∀ old x, value (moveAssign old x) = value x)
    (hpush : pool.pushToPool moveAssign x = some (slot, pool')) :
    Fits value pool' { inUse := Function.update t.inUse slot (some (value x))
                       returned := t.returned ++ [slot] } := by
  obtain ⟨rest, hitems, rfl⟩ | ⟨hitems, rfl, -, rfl⟩ := pushToPool_cases hpush
  · have hnodup := h.nodup
    rw [hitems] at hnodup
    obtain ⟨hnot, hnodup⟩ := List.nodup_cons.1 hnodup
    have hissued := (h.available slot (by simp [hitems])).1
    refine ⟨?_, h.counter, ?_, hnodup, ?_, ?_⟩
    · intro s y hs
      rcases eq_or_ne s slot with rfl | hne
      · obtain rfl : value x = y := by simpa using hs
        simp [hassign]
      · simpa [hne] using h.object s y (by simpa [hne] using hs)
    · intro s
      simp only [List.mem_append, List.mem_singleton, ← h.returned]
      refine ⟨.inl, ?_⟩
      rintro (hs | rfl)
      · exact hs
      · exact hissued
    · intro s hs
      have hne : s ≠ slot := fun heq => hnot (heq ▸ hs)
      simpa [hne] using h.available s (by simp [hitems, hs])
    · intro s hs
      have hne : s ≠ slot := fun heq => absurd (heq ▸ hs) (not_le.2 hissued)
      simpa [hne] using h.unissued s hs
  · refine ⟨?_, congrArg (· + 1) h.counter, ?_, h.nodup, ?_, ?_⟩
    · intro s y hs
      rcases eq_or_ne s pool.lastNotIssuedIndex with rfl | hne
      · obtain rfl : value x = y := by simpa using hs
        simp
      · simpa [hne] using h.object s y (by simpa [hne] using hs)
    · intro s
      simp only [List.mem_append, List.mem_singleton, ← h.returned]
      omega
    · intro s hs
      rw [hitems] at hs
      cases hs
    · intro s hs
      have hne : s ≠ pool.lastNotIssuedIndex := fun heq => by simp [heq] at hs
      simpa [hne] using h.unissued s ((Nat.le_succ _).trans hs)

lemma release (h : Fits value pool t) (hinUse : t.inUse slot ≠ none)
    (hrelease : pool.release slot = some pool') :
    Fits value pool' { t with inUse := Function.update t.inUse slot none } := by
  have hissued : slot < pool.lastNotIssuedIndex := by
    by_contra hle
    exact hinUse (h.unissued slot (not_lt.1 hle))
  have hnot : slot ∉ pool.availableSlots.items := fun hmem => hinUse (h.available slot hmem).2
  have hobject : ∀ s y, Function.update t.inUse slot none s = some y →
      value (pool.object s) = y := by
    intro s y hs
    have hne : s ≠ slot := by
      rintro rfl
      simp at hs
    exact h.object s y (by simpa [hne] using hs)
  have hnone : ∀ s, t.inUse s = none → Function.update t.inUse slot none s = none := by
    intro s hs
    rcases eq_or_ne s slot with rfl | hne
    · simp
    · simpa [hne] using hs
  rw [ObjectPool.release] at hrelease
  cases hpush : pool.availableSlots.tryPush slot with
  | accepted q =>
    obtain rfl : { pool with availableSlots := q } = pool' := by simpa [hpush] using hrelease
    obtain rfl := AtomicQueue.tryPush_accepted hpush
    refine ⟨hobject, h.counter, h.returned, ?_, ?_, fun s hs => hnone s (h.unissued s hs)⟩
    · simpa [List.nodup_append] using ⟨h.nodup, fun a ha heq => hnot (heq ▸ ha)⟩
    · intro s hs
      rcases List.mem_append.1 hs with hs | hs
      · exact ⟨(h.available s hs).1, hnone s (h.available s hs).2⟩
      · rw [List.mem_singleton.1 hs]
        exact ⟨hissued, by simp⟩
  | refused =>
    obtain rfl : pool = pool' := by simpa [hpush] using hrelease
    refine ⟨hobject, h.counter, h.returned, h.nodup, ?_, fun s hs => hnone s (h.unissued s hs)⟩
    intro s hs
    exact ⟨(h.available s hs).1, hnone s (h.available s hs).2⟩
  | waiting => simp [hpush] at hrelease

lemma mutate (h : Fits value pool t) (hinUse : t.inUse slot ≠ none) :
    Fits value (pool.setObject slot x)
      { t with inUse := Function.update t.inUse slot (some (value x)) } := by
  have hne : ∀ s, t.inUse s = none → s ≠ slot := fun s hs heq => hinUse (heq ▸ hs)
  refine ⟨?_, h.counter, h.returned, h.nodup, ?_, ?_⟩
  · intro s y hs
    rcases eq_or_ne s slot with rfl | hne
    · obtain rfl : value x = y := by simpa using hs
      simp
    · simpa [hne] using h.object s y (by simpa [hne] using hs)
  · intro s hs
    obtain ⟨hissued, hnone⟩ := h.available s hs
    exact ⟨hissued, by simpa [hne s hnone] using hnone⟩
  · intro s hs
    have hnone := h.unissued s hs
    simpa [hne s hnone] using hnone

/-- A legal call leaves the pool and what is known of it in step. -/
lemma next (h : Fits value pool t) (hassign : ∀ old x, value (moveAssign old x) = value x)
    (hlegal : (poolSpec value).legal t c) {r : PoolResult}
    (hcall : pool.call moveAssign c = some (r, pool')) :
    Fits value pool' ((poolSpec value).next t c r) := by
  cases c with
  | push x =>
    obtain ⟨⟨slot, pool₁⟩, hpush, heq⟩ := Option.map_eq_some_iff.1 hcall
    obtain ⟨rfl, rfl⟩ := Prod.mk.inj heq
    exact h.push hassign hpush
  | release slot =>
    obtain ⟨pool₁, hrelease, heq⟩ := Option.map_eq_some_iff.1 hcall
    obtain ⟨rfl, rfl⟩ := Prod.mk.inj heq
    exact h.release hlegal hrelease
  | mutate slot x =>
    obtain ⟨rfl, rfl⟩ := Prod.mk.inj (Option.some.inj hcall)
    exact h.mutate hlegal

lemma good_iff (h : Fits value pool t) (hassign : ∀ old x, value (moveAssign old x) = value x)
    (hlegal : (poolSpec value).legal t c) :
    Good moveAssign value pool t c ↔ ¬ pool.AsksTooMuch c := by
  have hshows : ∀ r pool', (calls moveAssign).Returns pool c r pool' →
      pool'.Shows value ((poolSpec value).next t c r) := by
    intro r pool' hreturns
    exact (h.next hassign hlegal (CallObject.ofCalls_returns.1 hreturns)).shows
  rw [Good, and_iff_left hshows, calls, CallObject.ofCalls_meets_iff]
  cases c with
  | push x =>
    constructor
    · rintro ⟨hreturns, -⟩ ⟨-, hexhausted⟩
      exact hreturns trivial (by simp [call, pushToPool_eq_none.2 hexhausted])
    · intro hasks
      have hpush : pool.pushToPool moveAssign x ≠ none := fun hnone =>
        hasks ⟨⟨x, rfl⟩, pushToPool_eq_none.1 hnone⟩
      refine ⟨fun _ => by simpa [call] using hpush, ?_⟩
      intro r pool' hcall
      obtain ⟨⟨slot, pool₁⟩, hpush, heq⟩ := Option.map_eq_some_iff.1 hcall
      obtain ⟨rfl, rfl⟩ := Prod.mk.inj heq
      exact h.free hpush
  | release slot =>
    refine iff_of_true ⟨nofun, fun _ _ _ => trivial⟩ ?_
    rintro ⟨⟨x, hx⟩, -⟩
    cases hx
  | mutate slot x =>
    refine iff_of_true ⟨fun _ => by simp [call], fun _ _ _ => trivial⟩ ?_
    rintro ⟨⟨x, hx⟩, -⟩
    cases hx

end Fits

/-- From the constructed pool, no two owners of a slot and no other slots below `counter` than those
that have been returned, as long as nobody asks where there is no slot left. -/
theorem good_along_iff (hassign : ∀ old x, value (moveAssign old x) = value x) (object : ℕ → α)
    (cs : List (PoolCall α)) :
    (calls moveAssign).Along (poolSpec value) (Good moveAssign value) { object := object } {} cs ↔
      (calls moveAssign).Along (poolSpec value) (fun pool _ c => ¬ pool.AsksTooMuch c)
        { object := object } {} cs := by
  refine CallObject.along_congr (Fits value)
    (fun pool t c h hlegal => h.good_iff hassign hlegal) ?_ cs (Fits.initial object)
  intro pool t c r pool' h hlegal _ hreturns
  exact h.next hassign hlegal (CallObject.ofCalls_returns.1 hreturns)

/-- What is moved with a connection: all but the generation of its slot. -/
def connectionValue (e : ConnectionEntry) : EndPoint × SocketHandler :=
  (e.connectionType, e.socketHandler)

/-- A connection gets the first slot, gives it back, and another one gets it. -/
theorem good_along_connections : (calls ConnectionEntry.moveAssign).Along
    (poolSpec connectionValue) (Good ConnectionEntry.moveAssign connectionValue)
    { object := fun _ => {} } {}
    [.push (.ofSocket .toClient 5), .release 0, .push (.ofSocket .toClient 6)] := by
  refine (good_along_iff ?_ _ _).2 ?_
  · intro old x
    rfl
  · intro _
    refine ⟨by simp [AsksTooMuch, Exhausted], fun r pool hpush => ?_⟩
    cases CallObject.ofCalls_returns.1 hpush
    intro _
    refine ⟨by simp [AsksTooMuch], fun r pool hrelease => ?_⟩
    cases CallObject.ofCalls_returns.1 hrelease
    intro _
    exact ⟨fun hasks => absurd hasks.2.1 (by simp), fun _ _ _ => trivial⟩

/-- So many slots, after which there is none. -/
lemma Fits.not_good (n : ℕ) (h : Fits value pool t)
    (hassign : ∀ old x, value (moveAssign old x) = value x)
    (hitems : pool.availableSlots.items = [])
    (hlast : pool.lastNotIssuedIndex + n = ringBufferSize + 1) :
    ¬ (calls moveAssign).Along (poolSpec value) (Good moveAssign value) pool t
      (List.replicate (n + 1) (.push x)) := by
  induction n generalizing pool t with
  | zero =>
    intro hall
    refine (h.good_iff (c := .push x) hassign trivial).1 (hall trivial).1 ⟨⟨x, rfl⟩, hitems, ?_⟩
    omega
  | succ n ih =>
    intro hall
    have hsome : pool.pushToPool moveAssign x ≠ none := by
      rw [Ne, pushToPool_eq_none]
      rintro ⟨-, hexhausted⟩
      omega
    obtain ⟨⟨slot, pool'⟩, hpush⟩ := Option.ne_none_iff_exists'.1 hsome
    have hcall : pool.call moveAssign (.push x) = some (.pushed (.ok slot), pool') := by
      rw [call, hpush]
      rfl
    have hrest := (hall trivial).2 _ _ (CallObject.ofCalls_returns.2 hcall)
    have hnext := h.next (c := .push x) hassign trivial hcall
    obtain ⟨rest, hitems', -⟩ | ⟨-, rfl, -, rfl⟩ := pushToPool_cases hpush
    · simp [hitems] at hitems'
    · refine ih hnext hitems ?_ hrest
      change pool.lastNotIssuedIndex + 1 + n = ringBufferSize + 1
      omega

/-- The 4098th connection. -/
theorem not_good_along : ¬ ∀ cs : List (PoolCall ConnectionEntry),
    (calls ConnectionEntry.moveAssign).Along (poolSpec connectionValue)
      (Good ConnectionEntry.moveAssign connectionValue) { object := fun _ => {} } {} cs := by
  intro h
  have hinitial : Fits connectionValue { object := fun _ => {} } {} := Fits.initial _
  have hassign : ∀ old x, connectionValue (ConnectionEntry.moveAssign old x) = connectionValue x :=
    fun _ _ => rfl
  exact hinitial.not_good (x := ConnectionEntry.ofSocket .toClient 5) (ringBufferSize + 1)
    hassign rfl (Nat.zero_add _) (h _)

end ObjectPool

/-! ### No slot lost -/

/-- The slots in use, and those that have been issued. -/
structure SlotRecord where
  inUse : Finset ℕ := ∅
  issued : Finset ℕ := ∅

/-- Slots in use are released, and slots are asked for while there are fewer in use than the
allocator issues; every call has to return. -/
def slotSpec (α : Type*) : CallSpec SlotRecord (PoolCall α) PoolResult where
  legal t
    | .push _ => t.inUse.card < ringBufferSize + 1
    | .release slot | .mutate slot _ => slot ∈ t.inUse
  returns _ := True
  allowed _ _ _ := True
  next t
    | .push _, .pushed (.ok slot) =>
      { inUse := insert slot t.inUse, issued := insert slot t.issued }
    | .release slot, _ => { t with inUse := t.inUse.erase slot }
    | _, _ => t

/-- There are fewer than 4095 values, or just as many and the head is in the first slot. -/
def AtomicQueue.HasRoom (q : AtomicQueue α) : Prop :=
  q.items.length < ringBufferSize - 1 ∨
    q.items.length = ringBufferSize - 1 ∧ normilizeRingSlot q.head = 0

lemma AtomicQueue.tryPush_of_hasRoom {q : AtomicQueue α} (h : q.HasRoom) (x : α) :
    q.tryPush x = .accepted { q with items := q.items ++ [x] } := by
  rcases h with hlt | ⟨hlength, hslot⟩
  · exact tryPush_of_lt hlt x
  · have hle : q.items.length ≤ ringBufferSize := by rw [hlength]; decide
    have hfull : ¬ looksFull q.tail q.head := by
      rw [tail, looksFull_iff hle]
      exact fun hfull => hfull.2 hslot
    rw [tryPush, if_neg hfull, if_pos (by rw [hlength]; decide)]

lemma AtomicQueue.tryPush_of_not_hasRoom {q : AtomicQueue α} (hle : q.items.length ≤ ringBufferSize)
    (h : ¬ q.HasRoom) (x : α) : q.tryPush x = .refused ∨ q.tryPush x = .waiting := by
  rw [HasRoom, not_or, not_and_or] at h
  rw [tryPush]
  split_ifs with hfull hlt
  · exact .inl rfl
  · rw [tail, looksFull_iff hle] at hfull
    simp only [ringBufferSize] at h hfull hlt
    omega
  · exact .inr rfl

namespace ObjectPool

variable {moveAssign : α → α → α} {pool pool' : ObjectPool α} {slot : ℕ} {t : SlotRecord}
  {c : PoolCall α}

/-- Each slot that has been issued is in use or available, and not both. -/
structure Accounts (pool : ObjectPool α) (t : SlotRecord) : Prop where
  nodup : pool.availableSlots.items.Nodup
  disjoint : Disjoint t.inUse pool.availableSlots.items.toFinset
  issued : t.issued = t.inUse ∪ pool.availableSlots.items.toFinset

/-- The call returns, and leaves every slot in use or available. -/
def LosesNothing (moveAssign : α → α → α) (pool : ObjectPool α) (t : SlotRecord)
    (c : PoolCall α) : Prop :=
  (calls moveAssign).Meets (slotSpec α) pool t c ∧
    ∀ r pool', (calls moveAssign).Returns pool c r pool' →
      pool'.Accounts ((slotSpec α).next t c r)

/-- The call gives a slot back for which there is no room. -/
def GivesTooMuch (pool : ObjectPool α) (c : PoolCall α) : Prop :=
  (∃ slot, c = .release slot) ∧ ¬ pool.availableSlots.HasRoom

structure Tracks (pool : ObjectPool α) (t : SlotRecord) : Prop extends pool.Accounts t where
  range : t.issued = Finset.range pool.lastNotIssuedIndex
  length : pool.availableSlots.items.length ≤ ringBufferSize

namespace Tracks

lemma initial (object : ℕ → α) : Tracks { object := object } {} where
  nodup := List.nodup_nil
  disjoint := Finset.disjoint_empty_left _
  issued := rfl
  range := rfl
  length := Nat.zero_le _

/-- A pool that is asked while fewer slots are in use than can be issued has one. -/
lemma not_exhausted (h : pool.Tracks t) (hinUse : t.inUse.card < ringBufferSize + 1) :
    ¬ pool.Exhausted := by
  rintro ⟨hitems, hlast⟩
  have hissued := h.issued
  rw [hitems, List.toFinset_nil, Finset.union_empty, h.range] at hissued
  rw [← hissued, Finset.card_range] at hinUse
  omega

lemma push {x : α} (h : pool.Tracks t) (hpush : pool.pushToPool moveAssign x = some (slot, pool')) :
    pool'.Tracks { inUse := insert slot t.inUse, issued := insert slot t.issued } := by
  obtain ⟨rest, hitems, rfl⟩ | ⟨hitems, rfl, -, rfl⟩ := pushToPool_cases hpush
  · have hnodup := h.nodup
    have hdisjoint := h.disjoint
    have hissued := h.issued
    have hlength := h.length
    rw [hitems] at hnodup hdisjoint hissued hlength
    obtain ⟨hnot, hnodup⟩ := List.nodup_cons.1 hnodup
    rw [List.toFinset_cons] at hdisjoint hissued
    rw [Finset.disjoint_insert_right] at hdisjoint
    have hslot : slot ∈ t.issued := by simp [hissued]
    refine ⟨⟨hnodup, ?_, ?_⟩, ?_, (Nat.le_succ _).trans hlength⟩
    · rw [Finset.disjoint_insert_left]
      exact ⟨by simpa using hnot, hdisjoint.2⟩
    · rw [Finset.insert_eq_of_mem hslot, hissued, Finset.union_insert, Finset.insert_union]
    · rw [Finset.insert_eq_of_mem hslot]
      exact h.range
  · have hissued := h.issued
    rw [hitems, List.toFinset_nil, Finset.union_empty] at hissued
    refine ⟨⟨h.nodup, by simp [hitems], ?_⟩, ?_, h.length⟩
    · simp [hitems, hissued]
    · rw [h.range, ← Finset.range_add_one]

lemma release_accepted (h : pool.Tracks t) (hslot : slot ∈ t.inUse)
    (hroom : pool.availableSlots.HasRoom) :
    ∃ pool', pool.release slot = some pool' ∧
      pool'.Tracks { t with inUse := t.inUse.erase slot } := by
  have hnot : slot ∉ pool.availableSlots.items := fun hmem =>
    Finset.disjoint_left.1 h.disjoint hslot (List.mem_toFinset.2 hmem)
  rw [ObjectPool.release, AtomicQueue.tryPush_of_hasRoom hroom]
  refine ⟨_, rfl, ⟨?_, ?_, ?_⟩, h.range, ?_⟩
  · simpa [List.nodup_append] using ⟨h.nodup, fun a ha heq => hnot (heq ▸ ha)⟩
  · rw [List.toFinset_append, Finset.disjoint_union_right]
    exact ⟨h.disjoint.mono_left (Finset.erase_subset _ _), by simp⟩
  · have hissued := h.issued
    change t.issued = _
    rw [hissued]
    ext s
    simp only [List.toFinset_append, Finset.mem_union, List.mem_toFinset, Finset.mem_erase,
      List.mem_singleton]
    grind
  · have hlength : pool.availableSlots.items.length < ringBufferSize := by
      rcases hroom with hlt | ⟨hlength, -⟩
      · exact hlt.trans (by decide)
      · rw [hlength]; decide
    simpa using hlength

/-- Without room, the slot is lost, or the call waits. -/
lemma release_lost (h : pool.Tracks t) (hslot : slot ∈ t.inUse)
    (hroom : ¬ pool.availableSlots.HasRoom) (hrelease : pool.release slot = some pool') :
    ¬ pool'.Accounts { t with inUse := t.inUse.erase slot } := by
  rw [ObjectPool.release] at hrelease
  rcases AtomicQueue.tryPush_of_not_hasRoom h.length hroom slot with hpush | hpush
  · obtain rfl : pool = pool' := by simpa [hpush] using hrelease
    intro haccounts
    have hissued : slot ∈ t.issued := by
      rw [h.issued]
      exact Finset.mem_union_left _ hslot
    rw [haccounts.issued, Finset.mem_union] at hissued
    rcases hissued with hinUse | havailable
    · exact absurd hinUse (Finset.notMem_erase slot _)
    · exact Finset.disjoint_left.1 h.disjoint hslot havailable
  · simp [hpush] at hrelease

lemma losesNothing_iff (h : pool.Tracks t) (hlegal : (slotSpec α).legal t c) :
    LosesNothing moveAssign pool t c ↔ ¬ pool.GivesTooMuch c := by
  rw [LosesNothing, calls, CallObject.ofCalls_meets_iff]
  cases c with
  | push x =>
    refine iff_of_true ⟨⟨?_, fun _ _ _ => trivial⟩, ?_⟩ ?_
    · intro _ hnone
      rw [call, Option.map_eq_none_iff, pushToPool_eq_none] at hnone
      exact h.not_exhausted hlegal hnone
    · intro r pool' hreturns
      obtain ⟨⟨slot, pool₁⟩, hpush, heq⟩ :=
        Option.map_eq_some_iff.1 (CallObject.ofCalls_returns.1 hreturns)
      obtain ⟨rfl, rfl⟩ := Prod.mk.inj heq
      exact (h.push hpush).toAccounts
    · rintro ⟨⟨slot, hslot⟩, -⟩
      cases hslot
  | release slot =>
    constructor
    · rintro ⟨⟨hreturns, -⟩, haccounts⟩ ⟨-, hroom⟩
      obtain ⟨⟨r, pool'⟩, hcall⟩ := Option.ne_none_iff_exists'.1 (hreturns trivial)
      have hcall' := hcall
      obtain ⟨pool₁, hrelease, heq⟩ := Option.map_eq_some_iff.1 hcall'
      obtain ⟨rfl, rfl⟩ := Prod.mk.inj heq
      exact h.release_lost hlegal hroom hrelease
        (haccounts _ _ (CallObject.ofCalls_returns.2 hcall))
    · intro hgives
      have hroom : pool.availableSlots.HasRoom := by
        by_contra hroom
        exact hgives ⟨⟨slot, rfl⟩, hroom⟩
      obtain ⟨pool', hrelease, htracks⟩ := h.release_accepted hlegal hroom
      refine ⟨⟨fun _ => by simp [call, hrelease], fun _ _ _ => trivial⟩, ?_⟩
      intro r pool₁ hreturns
      have hcall := CallObject.ofCalls_returns.1 hreturns
      rw [call, hrelease] at hcall
      obtain ⟨rfl, rfl⟩ := Prod.mk.inj (Option.some.inj hcall)
      exact htracks.toAccounts
  | mutate slot x =>
    refine iff_of_true ⟨⟨fun _ => by simp [call], fun _ _ _ => trivial⟩, ?_⟩ ?_
    · intro r pool' hreturns
      obtain ⟨rfl, rfl⟩ := Prod.mk.inj (Option.some.inj (CallObject.ofCalls_returns.1 hreturns))
      exact ⟨h.nodup, h.disjoint, h.issued⟩
    · rintro ⟨⟨slot, hslot⟩, -⟩
      cases hslot

lemma next (h : pool.Tracks t) (hlegal : (slotSpec α).legal t c) (hgives : ¬ pool.GivesTooMuch c)
    {r : PoolResult} (hcall : pool.call moveAssign c = some (r, pool')) :
    pool'.Tracks ((slotSpec α).next t c r) := by
  cases c with
  | push x =>
    obtain ⟨⟨slot, pool₁⟩, hpush, heq⟩ := Option.map_eq_some_iff.1 hcall
    obtain ⟨rfl, rfl⟩ := Prod.mk.inj heq
    exact h.push hpush
  | release slot =>
    have hroom : pool.availableSlots.HasRoom := by
      by_contra hroom
      exact hgives ⟨⟨slot, rfl⟩, hroom⟩
    obtain ⟨pool₁, hrelease, htracks⟩ := h.release_accepted hlegal hroom
    rw [call, hrelease] at hcall
    obtain ⟨rfl, rfl⟩ := Prod.mk.inj (Option.some.inj hcall)
    exact htracks
  | mutate slot x =>
    obtain ⟨rfl, rfl⟩ := Prod.mk.inj (Option.some.inj hcall)
    exact ⟨⟨h.nodup, h.disjoint, h.issued⟩, h.range, h.length⟩

end Tracks

/-- From the constructed pool, every call returns and no slot is lost just as long as there is room
for every slot that is given back. -/
theorem losesNothing_along_iff (object : ℕ → α) (cs : List (PoolCall α)) :
    (calls moveAssign).Along (slotSpec α) (LosesNothing moveAssign) { object := object } {} cs ↔
      (calls moveAssign).Along (slotSpec α) (fun pool _ c => ¬ pool.GivesTooMuch c)
        { object := object } {} cs := by
  refine CallObject.along_congr Tracks
    (fun pool t c h hlegal => h.losesNothing_iff hlegal) ?_ cs (Tracks.initial object)
  intro pool t c r pool' h hlegal hloses hreturns
  exact h.next hlegal ((h.losesNothing_iff hlegal).1 hloses)
    (CallObject.ofCalls_returns.1 hreturns)

/-- To give back one slot more than there is room for, when none has been used again. -/
lemma Tracks.not_losesNothing_release (slots : List ℕ) (h : pool.Tracks t) (hnodup : slots.Nodup)
    (hinUse : ∀ slot ∈ slots, slot ∈ t.inUse) (hhead : pool.availableSlots.head = 0)
    (hlength : pool.availableSlots.items.length + slots.length = ringBufferSize + 1) :
    ¬ (calls moveAssign).Along (slotSpec α) (LosesNothing moveAssign) pool t
      (slots.map .release) := by
  induction slots generalizing pool t with
  | nil =>
    have hle := h.length
    simp only [List.length_nil, Nat.add_zero] at hlength
    omega
  | cons slot slots ih =>
    intro hall
    have hlegal : slot ∈ t.inUse := hinUse slot List.mem_cons_self
    obtain ⟨hloses, hrest⟩ := hall hlegal
    by_cases hroom : pool.availableSlots.HasRoom
    · obtain ⟨hnot, hnodup⟩ := List.nodup_cons.1 hnodup
      obtain ⟨pool', hrelease, htracks⟩ := h.release_accepted hlegal hroom
      have hcall : pool.call moveAssign (.release slot) = some (.released, pool') := by
        rw [call, hrelease]
        rfl
      rw [ObjectPool.release, AtomicQueue.tryPush_of_hasRoom hroom] at hrelease
      obtain rfl := Option.some.inj hrelease
      refine ih htracks hnodup ?_ hhead ?_ (hrest _ _ (CallObject.ofCalls_returns.2 hcall))
      · intro s hs
        have hne : s ≠ slot := fun heq => hnot (heq ▸ hs)
        exact Finset.mem_erase.2 ⟨hne, hinUse s (List.mem_cons_of_mem slot hs)⟩
      · simp only [List.length_append, List.length_cons, List.length_nil] at hlength ⊢
        omega
    · exact (h.losesNothing_iff (c := .release slot) hlegal).1 hloses ⟨⟨slot, rfl⟩, hroom⟩

/-- To use so many slots, and to give back as many as there have been issued then. -/
lemma Tracks.not_losesNothing {x : α} (n : ℕ) (h : pool.Tracks t)
    (hinUse : t.inUse = Finset.range pool.lastNotIssuedIndex)
    (hitems : pool.availableSlots.items = []) (hhead : pool.availableSlots.head = 0)
    (hlast : pool.lastNotIssuedIndex + n = ringBufferSize + 1) :
    ¬ (calls moveAssign).Along (slotSpec α) (LosesNothing moveAssign) pool t
      (List.replicate n (.push x) ++ (List.range (ringBufferSize + 1)).map .release) := by
  induction n generalizing pool t with
  | zero =>
    rw [List.replicate_zero, List.nil_append]
    apply h.not_losesNothing_release _ List.nodup_range _ hhead
    · rw [hitems, List.length_range, List.length_nil, Nat.zero_add]
    · intro slot hslot
      have hlt := List.mem_range.1 hslot
      rw [hinUse, Finset.mem_range]
      omega
  | succ n ih =>
    intro hall
    have hlegal : t.inUse.card < ringBufferSize + 1 := by
      rw [hinUse, Finset.card_range]
      omega
    have hsome : pool.pushToPool moveAssign x ≠ none := by
      rw [Ne, pushToPool_eq_none]
      exact h.not_exhausted hlegal
    obtain ⟨⟨slot, pool'⟩, hpush⟩ := Option.ne_none_iff_exists'.1 hsome
    have hcall : pool.call moveAssign (.push x) = some (.pushed (.ok slot), pool') := by
      rw [call, hpush]
      rfl
    have hrest := (hall hlegal).2 _ _ (CallObject.ofCalls_returns.2 hcall)
    have hnext := h.push hpush
    obtain ⟨rest, hitems', -⟩ | ⟨-, rfl, -, rfl⟩ := pushToPool_cases hpush
    · simp [hitems] at hitems'
    · refine ih hnext ?_ hitems hhead ?_ hrest
      · rw [hinUse, Finset.range_add_one]
      · change pool.lastNotIssuedIndex + 1 + n = ringBufferSize + 1
        omega

/-- 4097 connections that all leave. -/
theorem not_losesNothing_along : ¬ ∀ cs : List (PoolCall ConnectionEntry),
    (calls ConnectionEntry.moveAssign).Along (slotSpec ConnectionEntry)
      (LosesNothing ConnectionEntry.moveAssign) { object := fun _ => {} } {} cs := by
  intro h
  have hinitial : Tracks { object := fun _ : ℕ => ({} : ConnectionEntry) } {} := Tracks.initial _
  exact hinitial.not_losesNothing (x := ConnectionEntry.ofSocket .toClient 5) (ringBufferSize + 1)
    rfl rfl rfl (Nat.zero_add _) (h _)

end ObjectPool

end BattleShips
