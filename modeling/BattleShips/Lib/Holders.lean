import Mathlib.Data.List.Nodup
import Mathlib.Data.Set.Insert
import Mathlib.Logic.Function.Basic

/-!
# Things in a stock and in hands

Things that are in a stock or in somebody's hand, each of them in one place. They are taken from the
stock and put back, and a new one comes into being in a hand.
-/

namespace BattleShips

open Function

variable {ι α : Type*}

/-- Everything in `all`, and nothing else, is in the stock or in a hand, and in one place only. -/
structure Holders (all : Set α) (stock : List α) (hand : ι → Option α) : Prop where
  nodup : stock.Nodup
  apart : ∀ i x, hand i = some x → x ∉ stock
  unique : ∀ i j x, hand i = some x → hand j = some x → i = j
  mem : ∀ x, x ∈ all ↔ x ∈ stock ∨ ∃ i, hand i = some x

namespace Holders

variable {all : Set α} {stock stock' : List α} {hand : ι → Option α} {i : ι} {x : α}

lemma empty : Holders (∅ : Set α) [] fun _ : ι => none where
  nodup := .nil
  apart _ _ h := nomatch h
  unique _ _ _ h := nomatch h
  mem _ := ⟨False.elim, fun h => h.elim (fun h => nomatch h) fun ⟨_, h⟩ => nomatch h⟩

/-- The order of the stock does not matter. -/
lemma perm (h : Holders all stock hand) (hperm : stock.Perm stock') :
    Holders all stock' hand where
  nodup := hperm.nodup_iff.1 h.nodup
  apart i x hi := fun hx => h.apart i x hi (hperm.mem_iff.2 hx)
  unique := h.unique
  mem x := by rw [← hperm.mem_iff]; exact h.mem x

/-- Nobody has what is in the stock. -/
lemma not_held (h : Holders all stock hand) (hx : x ∈ stock) (i : ι) : hand i ≠ some x :=
  fun hi => h.apart i x hi hx

variable [DecidableEq ι]

/-- A hand takes something from the stock. -/
lemma take (h : Holders all (x :: stock) hand) (hfree : hand i = none) :
    Holders all stock (update hand i (some x)) := by
  obtain ⟨hnot, hnodup⟩ := List.nodup_cons.1 h.nodup
  have hold : ∀ j, hand j ≠ some x := h.not_held List.mem_cons_self
  refine ⟨hnodup, fun j y hj => ?_, fun j k y hj hk => ?_, fun y => ?_⟩
  · rcases eq_or_ne j i with rfl | hji
    · obtain rfl : x = y := by simpa using hj
      exact hnot
    · rw [update_of_ne hji] at hj
      exact fun hy => h.apart j y hj (List.mem_cons_of_mem _ hy)
  · rcases eq_or_ne j i with rfl | hji
    · obtain rfl : x = y := by simpa using hj
      rcases eq_or_ne k j with rfl | hkj
      · rfl
      · exact absurd (by rwa [update_of_ne hkj] at hk) (hold k)
    · rw [update_of_ne hji] at hj
      rcases eq_or_ne k i with rfl | hki
      · obtain rfl : x = y := by simpa using hk
        exact absurd hj (hold j)
      · rw [update_of_ne hki] at hk
        exact h.unique j k y hj hk
  · rw [h.mem, List.mem_cons]
    constructor
    · rintro ((rfl | hy) | ⟨j, hj⟩)
      · exact .inr ⟨i, update_self ..⟩
      · exact .inl hy
      · refine .inr ⟨j, ?_⟩
        rw [update_of_ne, hj]
        rintro rfl
        rw [hfree] at hj
        cases hj
    · rintro (hy | ⟨j, hj⟩)
      · exact .inl (.inr hy)
      · rcases eq_or_ne j i with rfl | hji
        · obtain rfl : x = y := by simpa using hj
          exact .inl (.inl rfl)
        · rw [update_of_ne hji] at hj
          exact .inr ⟨j, hj⟩

/-- A hand puts what it has into the stock. -/
lemma put (h : Holders all stock hand) (hheld : hand i = some x) :
    Holders all (x :: stock) (update hand i none) := by
  refine ⟨List.nodup_cons.2 ⟨h.apart i x hheld, h.nodup⟩, fun j y hj => ?_, fun j k y hj hk => ?_,
    fun y => ?_⟩
  · rcases eq_or_ne j i with rfl | hji
    · simp at hj
    · rw [update_of_ne hji] at hj
      rw [List.mem_cons, not_or]
      refine ⟨?_, h.apart j y hj⟩
      rintro rfl
      exact hji (h.unique j i y hj hheld)
  · rcases eq_or_ne j i with rfl | hji
    · simp at hj
    rcases eq_or_ne k i with rfl | hki
    · simp at hk
    rw [update_of_ne hji] at hj
    rw [update_of_ne hki] at hk
    exact h.unique j k y hj hk
  · rw [h.mem, List.mem_cons]
    constructor
    · rintro (hy | ⟨j, hj⟩)
      · exact .inl (.inr hy)
      · rcases eq_or_ne j i with rfl | hji
        · rw [hheld] at hj
          exact .inl (.inl (Option.some.inj hj).symm)
        · exact .inr ⟨j, by rwa [update_of_ne hji]⟩
    · rintro ((rfl | hy) | ⟨j, hj⟩)
      · exact .inr ⟨i, hheld⟩
      · exact .inl hy
      · rcases eq_or_ne j i with rfl | hji
        · simp at hj
        · rw [update_of_ne hji] at hj
          exact .inr ⟨j, hj⟩

/-- Something new, in a hand. -/
lemma issue (h : Holders all stock hand) (hnew : x ∉ all) (hfree : hand i = none) :
    Holders (insert x all) stock (update hand i (some x)) := by
  have hnew' : x ∉ stock ∧ ¬ ∃ i, hand i = some x := by rwa [h.mem, not_or] at hnew
  have hstock : Holders (insert x all) (x :: stock) hand := by
    refine ⟨List.nodup_cons.2 ⟨hnew'.1, h.nodup⟩, fun j y hj => ?_, h.unique, fun y => ?_⟩
    · rw [List.mem_cons, not_or]
      refine ⟨?_, h.apart j y hj⟩
      rintro rfl
      exact hnew'.2 ⟨j, hj⟩
    · rw [Set.mem_insert_iff, h.mem, List.mem_cons, or_assoc]
  exact hstock.take hfree

end Holders

end BattleShips
