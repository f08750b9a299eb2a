import BattleShips.Core.AllocatorCalls
import Mathlib.Data.Finset.Card

/-!
# Live indices

The allocator issues 4097 indices, and its queue of free indices holds 4096. Calls that do not
overlap never make an index live twice, and refuse one only when all are live; but the last live
index can only be given back if there is room for it.
-/

namespace BattleShips

/-- Live indices are given back, by calls that have to return; no index is handed out that is live,
and none is refused unless all 4097 are. -/
def allocatorSpec : CallSpec (Finset ℕ) (ℕ × AllocatorCall) AllocatorResult where
  legal live c := match c.2 with
    | .allocate => True
    | .deallocate index => index ∈ live
  returns c := c.2 ≠ .allocate
  allowed live _ r := match r with
    | .allocated none => live = Finset.range (ringBufferSize + 1)
    | .allocated (some index) => index ∉ live
    | .deallocated => True
  next live c r := match c.2, r with
    | .allocate, .allocated (some index) => insert index live
    | .allocate, _ => live
    | .deallocate index, _ => live.erase index

namespace AllocatorState

variable {layout : AllocatorLayout} {s s' : AllocatorState} {freed : List ℕ} {live : Finset ℕ}
  {c : ℕ × AllocatorCall} {i index : ℕ}

/-- An index is given back while `free_indexes_queue` holds 4096. -/
def FreesTooMuch (s : AllocatorState) (c : ℕ × AllocatorCall) : Prop :=
  c.2 ≠ .allocate ∧ s.freeIndexesQueue.head = s.freeIndexesQueue.tail + ringBufferSize

/-- The indices that have been issued are live or free, and not both. -/
structure LiveIn (s : AllocatorState) (live : Finset ℕ) (freed : List ℕ) : Prop
    extends s.Holds freed where
  nodup : freed.Nodup
  disjoint : Disjoint live freed.toFinset
  issued : live ∪ freed.toFinset = Finset.range s.lastNotIssuedIndex
  le : s.lastNotIssuedIndex ≤ ringBufferSize + 1

namespace LiveIn

lemma initial : LiveIn {} ∅ [] where
  toHolds := holds_initial
  nodup := List.nodup_nil
  disjoint := Finset.disjoint_empty_left _
  issued := rfl
  le := Nat.zero_le _

lemma freesTooMuch_iff (h : s.LiveIn live freed) :
    FreesTooMuch s (i, .deallocate index) ↔ freed.length = ringBufferSize := by
  rw [FreesTooMuch, h.queue.head, Nat.add_left_cancel_iff, and_iff_right nofun]

lemma ne_maxValue (h : s.LiveIn live freed) (hlive : index ∈ live) : index ≠ maxValue := by
  have hissued : index ∈ Finset.range s.lastNotIssuedIndex := by
    rw [← h.issued]
    exact Finset.mem_union_left _ hlive
  have hlt := Finset.mem_range.1 hissued
  have hle : s.lastNotIssuedIndex ≤ 4097 := h.le
  rintro rfl
  rw [maxValue] at hlt
  omega

lemma allocate (h : s.LiveIn live freed) {result : Option ℕ}
    (hallocates : Allocates s freed s' result) :
    (allocatorSpec.allowed live (i, .allocate) (.allocated result)) ∧
      s'.LiveIn (allocatorSpec.next live (i, .allocate) (.allocated result)) freed.tail := by
  cases hallocates with
  | recycled x xs hfreed hholds hlast =>
    subst hfreed
    obtain ⟨hnot, hnodup⟩ := List.nodup_cons.1 h.nodup
    have hdisjoint := h.disjoint
    rw [List.toFinset_cons, Finset.disjoint_insert_right] at hdisjoint
    refine ⟨hdisjoint.1, hholds, hnodup, ?_, ?_, hlast ▸ h.le⟩
    · change Disjoint (insert x live) xs.toFinset
      rw [Finset.disjoint_insert_left]
      exact ⟨by simpa using hnot, hdisjoint.2⟩
    · change insert x live ∪ xs.toFinset = _
      rw [hlast, ← h.issued, List.toFinset_cons, Finset.union_insert, Finset.insert_union]
  | issued hnil hle hholds hlast =>
    subst hnil
    have hissued := h.issued
    rw [List.toFinset_nil, Finset.union_empty] at hissued
    refine ⟨?_, hholds, List.nodup_nil, Finset.disjoint_empty_right _, ?_, ?_⟩
    · change s.lastNotIssuedIndex ∉ live
      rw [hissued]
      exact Finset.notMem_range_self
    · change insert s.lastNotIssuedIndex live ∪ ∅ = _
      rw [hlast, hissued, Finset.union_empty, Finset.range_add_one]
    · rw [hlast]
      exact Nat.succ_le_succ hle
  | refused hnil hlt hholds hlast =>
    subst hnil
    have hissued := h.issued
    rw [List.toFinset_nil, Finset.union_empty] at hissued
    have hall : s.lastNotIssuedIndex = ringBufferSize + 1 := le_antisymm h.le hlt
    refine ⟨?_, hholds, List.nodup_nil, Finset.disjoint_empty_right _, ?_, hlast ▸ h.le⟩
    · change live = Finset.range (ringBufferSize + 1)
      rw [hissued, hall]
    · change live ∪ ∅ = _
      rw [hlast, hissued, Finset.union_empty]

lemma deallocate (h : s.LiveIn live freed) (hlive : index ∈ live)
    (hlast : s'.lastNotIssuedIndex = s.lastNotIssuedIndex) (hholds : s'.Holds (freed ++ [index])) :
    s'.LiveIn (live.erase index) (freed ++ [index]) := by
  have hnot : index ∉ freed := fun hmem =>
    Finset.disjoint_left.1 h.disjoint hlive (List.mem_toFinset.2 hmem)
  refine ⟨hholds, ?_, ?_, ?_, hlast ▸ h.le⟩
  · simpa [List.nodup_append] using ⟨h.nodup, fun a ha heq => hnot (heq ▸ ha)⟩
  · rw [List.toFinset_append, Finset.disjoint_union_right]
    exact ⟨h.disjoint.mono_left (Finset.erase_subset _ _), by simp⟩
  · rw [hlast, ← h.issued, List.toFinset_append, List.toFinset_cons, List.toFinset_nil]
    ext n
    simp only [Finset.mem_union, Finset.mem_erase, List.mem_toFinset, Finset.mem_insert,
      Finset.notMem_empty, or_false]
    grind

lemma meets_iff (h : s.LiveIn live freed) (hlegal : allocatorSpec.legal live c) :
    (object layout).Meets allocatorSpec s live c ↔ ¬ FreesTooMuch s c := by
  obtain ⟨i, c⟩ := c
  cases c with
  | allocate =>
    refine iff_of_true ⟨fun hreturns => absurd rfl hreturns, fun hreturns => absurd rfl hreturns,
      ?_⟩ fun htoo => htoo.1 rfl
    intro r s' hreturns
    obtain ⟨result, rfl, hallocates⟩ := h.toHolds.allocate_returns hreturns
    exact (h.allocate hallocates).1
  | deallocate index =>
    rw [h.freesTooMuch_iff]
    constructor
    · intro hmeets hfull
      exact hmeets.not_waits nofun (h.toHolds.deallocate_waits hfull)
    · intro hfull
      have hroom : freed.length < ringBufferSize := lt_of_le_of_ne h.queue.length hfull
      refine ⟨fun _ => h.toHolds.deallocate_not_waits hroom,
        fun _ => ⟨_, h.toHolds.deallocate_exists hroom⟩, ?_⟩
      intro r s' hreturns
      obtain ⟨rfl, -⟩ :=
        h.toHolds.deallocate_returns hroom (h.ne_maxValue hlegal) hreturns
      trivial

lemma next (h : s.LiveIn live freed) (hlegal : allocatorSpec.legal live c)
    (hfrees : ¬ FreesTooMuch s c) {r : AllocatorResult}
    (hreturns : (object layout).Returns s c r s') :
    ∃ freed', s'.LiveIn (allocatorSpec.next live c r) freed' := by
  obtain ⟨i, c⟩ := c
  cases c with
  | allocate =>
    obtain ⟨result, rfl, hallocates⟩ := h.toHolds.allocate_returns hreturns
    exact ⟨_, (h.allocate hallocates).2⟩
  | deallocate index =>
    rw [h.freesTooMuch_iff] at hfrees
    have hroom : freed.length < ringBufferSize := lt_of_le_of_ne h.queue.length hfrees
    obtain ⟨rfl, hlast, hholds⟩ :=
      h.toHolds.deallocate_returns hroom (h.ne_maxValue hlegal) hreturns
    exact ⟨_, h.deallocate hlegal hlast hholds⟩

end LiveIn

/-- From the pool after `init`, every `deallocate` returns, no index is live twice and none is
refused unless all are live, just as long as none is given back while 4096 are free. -/
theorem follows_allocatorSpec_iff (layout : AllocatorLayout) (cs : List (ℕ × AllocatorCall)) :
    (object layout).Follows allocatorSpec {} ∅ cs ↔
      (object layout).Along allocatorSpec (fun s _ c => ¬ FreesTooMuch s c) {} ∅ cs := by
  refine CallObject.along_congr (fun s live => ∃ freed, s.LiveIn live freed)
    ?_ ?_ cs ⟨[], LiveIn.initial⟩
  · rintro s live c ⟨freed, h⟩ hlegal
    exact h.meets_iff hlegal
  · rintro s live c r s' ⟨freed, h⟩ hlegal hmeets hreturns
    exact h.next hlegal ((h.meets_iff hlegal).1 hmeets) hreturns

/-- To give back all indices that are live when 4097 have been issued. -/
lemma LiveIn.not_follows_deallocate (indices : List ℕ) (h : s.LiveIn live freed)
    (hnodup : indices.Nodup) (hlive : ∀ index ∈ indices, index ∈ live)
    (hlength : freed.length + indices.length = ringBufferSize + 1) :
    ¬ (object layout).Follows allocatorSpec s live
      (indices.map fun index => (0, .deallocate index)) := by
  induction indices generalizing s live freed with
  | nil =>
    have hle := h.queue.length
    simp only [List.length_nil, Nat.add_zero] at hlength
    omega
  | cons index indices ih =>
    intro hall
    have hlegal : index ∈ live := hlive index List.mem_cons_self
    obtain ⟨hmeets, hrest⟩ := hall hlegal
    rw [h.meets_iff (c := (0, .deallocate index)) hlegal, h.freesTooMuch_iff] at hmeets
    have hroom : freed.length < ringBufferSize := lt_of_le_of_ne h.queue.length hmeets
    obtain ⟨hnot, hnodup⟩ := List.nodup_cons.1 hnodup
    obtain ⟨s', hreturns⟩ := h.toHolds.deallocate_exists hroom
    obtain ⟨-, hlast, hholds⟩ :=
      h.toHolds.deallocate_returns hroom (h.ne_maxValue hlegal) hreturns
    refine ih (h.deallocate hlegal hlast hholds) hnodup ?_ ?_ (hrest _ _ hreturns)
    · intro n hn
      have hne : n ≠ index := fun heq => hnot (heq ▸ hn)
      exact Finset.mem_erase.2 ⟨hne, hlive n (List.mem_cons_of_mem index hn)⟩
    · simp only [List.length_append, List.length_cons, List.length_nil] at hlength ⊢
      omega

/-- To issue so many indices, and to give all of them back. -/
lemma LiveIn.not_follows (n : ℕ) (h : s.LiveIn live []) (hfree : s.pageAllocationPermit = true)
    (hlast : s.lastNotIssuedIndex + n = ringBufferSize + 1) :
    ¬ (object layout).Follows allocatorSpec s live (List.replicate n (0, .allocate) ++
      (List.range (ringBufferSize + 1)).map fun index => (0, .deallocate index)) := by
  induction n generalizing s live with
  | zero =>
    have hissued := h.issued
    rw [List.toFinset_nil, Finset.union_empty] at hissued
    rw [List.replicate_zero, List.nil_append]
    apply h.not_follows_deallocate _ List.nodup_range
    · intro index hindex
      have hlt := List.mem_range.1 hindex
      rw [hissued, Finset.mem_range]
      omega
    · rw [List.length_range, List.length_nil, Nat.zero_add]
  | succ n ih =>
    intro hall
    obtain ⟨result, s', hreturns, hfree'⟩ := h.toHolds.allocate_exists (i := 0) hfree
    have hrest := (hall trivial).2 _ _ hreturns
    obtain ⟨result', heq, hallocates⟩ := h.toHolds.allocate_returns hreturns
    obtain rfl : result = result' := AllocatorResult.allocated.inj heq
    cases hallocates with
    | recycled x xs hfreed => cases hfreed
    | refused hnil hlt => omega
    | issued hnil hle hholds hlast' =>
      have hnext := (h.allocate (i := 0) (.issued hnil hle hholds hlast')).2
      exact ih hnext hfree' (by omega) hrest

/-- 4097 indices that are all given back. -/
theorem not_follows_allocatorSpec : ¬ ∀ cs : List (ℕ × AllocatorCall),
    (object { chunkSize := 512, pageSize := 4096 }).Follows allocatorSpec {} ∅ cs := by
  intro h
  exact LiveIn.initial.not_follows (ringBufferSize + 1) rfl (Nat.zero_add _) (h _)

end AllocatorState

end BattleShips
