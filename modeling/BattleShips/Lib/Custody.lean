import BattleShips.Lib.Traced
import Mathlib.Data.List.Basic
import Mathlib.Tactic

/-!
# Logs of custody

A log of things that are taken and given back. In an orderly log nothing is taken that is held
already, and nothing is given back that is not held, so that everything taken is given back once,
or is still held.
-/

namespace BattleShips

/-- An entry of the log. -/
inductive Custody (α : Type*)
  | taken (x : α)
  | given (x : α)
  deriving DecidableEq

namespace Custody

variable {α : Type*} {log : List (Custody α)} {x y : α}

/-- Who is held after an entry, if `held` tells so before it. -/
def heldAfter (held : α → Prop) : Custody α → α → Prop
  | taken x => fun y => y = x ∨ held y
  | given x => fun y => y ≠ x ∧ held y

/-- What has been taken and not been given back since. -/
def Held (log : List (Custody α)) : α → Prop := log.foldl heldAfter fun _ => False

/-- The entry may come next in an orderly log. -/
def InOrder (log : List (Custody α)) : Custody α → Prop
  | taken x => ¬ Held log x
  | given x => Held log x

/-- Every entry comes in order. -/
def Orderly (log : List (Custody α)) : Prop :=
  ∀ (n : ℕ) (h : n < log.length), InOrder (log.take n) (log.get ⟨n, h⟩)

lemma not_held_nil : ¬ Held ([] : List (Custody α)) x := id

@[simp] lemma held_taken : Held (log ++ [taken x]) y ↔ y = x ∨ Held log y := by
  simp [Held, heldAfter]

@[simp] lemma held_given : Held (log ++ [given x]) y ↔ y ≠ x ∧ Held log y := by
  simp [Held, heldAfter]

lemma orderly_nil : Orderly ([] : List (Custody α)) := fun _ h => absurd h (Nat.not_lt_zero _)

lemma Orderly.snoc {e : Custody α} (h : Orderly log) (he : InOrder log e) :
    Orderly (log ++ [e]) := by
  intro n hn
  rw [List.length_append, List.length_singleton] at hn
  rcases Nat.lt_succ_iff_lt_or_eq.1 hn with hlt | rfl
  · have hget : (log ++ [e]).get ⟨n, by simp; omega⟩ = log.get ⟨n, hlt⟩ := by
      simp [List.getElem_append_left hlt]
    rw [hget, List.take_append_of_le_length hlt.le]
    exact h n hlt
  · simpa using he

lemma Orderly.of_snoc {e : Custody α} (h : Orderly (log ++ [e])) : Orderly log := by
  intro n hn
  have hn' := h n (by simp; omega)
  have hget : (log ++ [e]).get ⟨n, by simp; omega⟩ = log.get ⟨n, hn⟩ := by
    simp [List.getElem_append_left hn]
  rwa [hget, List.take_append_of_le_length hn.le] at hn'

lemma Orderly.last {e : Custody α} (h : Orderly (log ++ [e])) : InOrder log e := by
  have hlast := h log.length (by simp)
  simpa using hlast

/-- In an orderly log everything has been given back as often as it has been taken, or once less
if it is held. -/
lemma Orderly.count [DecidableEq α] (h : Orderly log) (x : α) :
    (Held log x → log.count (taken x) = log.count (given x) + 1) ∧
      (¬ Held log x → log.count (taken x) = log.count (given x)) := by
  induction log using List.reverseRecOn with
  | nil => exact ⟨fun hheld => absurd hheld not_held_nil, fun _ => rfl⟩
  | append_singleton log e ih =>
    have hlast := h.last
    have hlog := ih h.of_snoc
    cases e with
    | taken y =>
      rcases eq_or_ne y x with rfl | hne
      · have hbefore := hlog.2 hlast
        simp [List.count_append, hbefore]
      · simpa [List.count_append, hne, hne.symm] using hlog
    | given y =>
      rcases eq_or_ne y x with rfl | hne
      · have hbefore := hlog.1 hlast
        simp [List.count_append, hbefore]
      · simpa [List.count_append, hne, hne.symm] using hlog

/-! ### Batches -/

/-- What is taken is not held. -/
def TakenFresh (log : List (Custody α)) : Custody α → Prop
  | taken x => ¬ Held log x
  | given _ => True

/-- What is given back is held. -/
def GivenHeld (log : List (Custody α)) : Custody α → Prop
  | taken _ => True
  | given x => Held log x

/-- Everything that is given back is held, and in the end nothing is. -/
def Settled (log es : List (Custody α)) : Prop :=
  Traced.Allowed GivenHeld log es ∧ ∀ x, ¬ Held (log ++ es) x

/-- Something is taken and at once given back so many times. -/
def batch (b : α × ℕ) : List (Custody α) := taken b.1 :: List.replicate b.2 (given b.1)

lemma held_append_batch {n : ℕ} :
    Held (log ++ batch (x, n)) y ↔ (y = x ∧ n = 0) ∨ (y ≠ x ∧ Held log y) := by
  induction n with
  | zero =>
    rw [batch, List.replicate_zero, held_taken]
    rcases eq_or_ne y x with rfl | hne
    · simp
    · simp [hne]
  | succ n ih =>
    have hlast : batch (x, n + 1) = batch (x, n) ++ [given x] := by
      simp [batch, List.replicate_succ']
    rw [hlast, ← List.append_assoc, held_given, ih]
    rcases eq_or_ne y x with rfl | hne
    · simp
    · simp [hne]

/-- What a batch does not take stays where it is. -/
lemma held_batches {bs : List (α × ℕ)} (hfresh : Traced.Allowed TakenFresh log (bs.flatMap batch))
    (hheld : Held log x) : Held (log ++ bs.flatMap batch) x := by
  induction bs generalizing log with
  | nil => simpa using hheld
  | cons b bs ih =>
    rw [List.flatMap_cons, Traced.allowed_append] at hfresh
    rw [List.flatMap_cons, ← List.append_assoc]
    apply ih hfresh.2
    have hne : x ≠ b.1 := by
      rintro rfl
      exact hfresh.1.1 hheld
    exact held_append_batch.2 (.inr ⟨hne, hheld⟩)

/-- The first batch gives back what it takes, once or not at all. -/
lemma le_one_of_allowed {n : ℕ} (h : Traced.Allowed GivenHeld log (batch (x, n))) : n ≤ 1 := by
  rcases n with _ | _ | n
  · exact Nat.zero_le _
  · exact le_rfl
  · obtain ⟨-, -, hsecond, -⟩ := h
    change Held (log ++ [taken x] ++ [given x]) x at hsecond
    rw [held_given] at hsecond
    exact absurd rfl hsecond.1

/-- **Batches are settled just if each gives back what it has taken once.** -/
lemma settled_batches_iff {bs : List (α × ℕ)} (hnone : ∀ x, ¬ Held log x)
    (hfresh : Traced.Allowed TakenFresh log (bs.flatMap batch)) :
    Settled log (bs.flatMap batch) ↔ ∀ b ∈ bs, b.2 = 1 := by
  induction bs generalizing log with
  | nil => simpa [Settled] using hnone
  | cons b bs ih =>
    obtain ⟨x, n⟩ := b
    have hfresh' := hfresh
    rw [List.flatMap_cons, Traced.allowed_append] at hfresh'
    rw [Settled, List.flatMap_cons, Traced.allowed_append, ← List.append_assoc,
      List.forall_mem_cons]
    constructor
    · rintro ⟨⟨hfirst, hrest⟩, hend⟩
      have hone : n = 1 := by
        refine le_antisymm (le_one_of_allowed hfirst) (Nat.one_le_iff_ne_zero.2 ?_)
        rintro rfl
        -- what is not given back at once is held in the end
        exact hend x (held_batches hfresh'.2 (held_append_batch.2 (.inl ⟨rfl, rfl⟩)))
      subst hone
      have hnone' : ∀ y, ¬ Held (log ++ batch (x, 1)) y := by
        simp [held_append_batch, hnone]
      exact ⟨rfl, (ih hnone' hfresh'.2).1 ⟨hrest, hend⟩⟩
    · rintro ⟨hone, hall⟩
      obtain rfl : n = 1 := hone
      have hnone' : ∀ y, ¬ Held (log ++ batch (x, 1)) y := by
        simp [held_append_batch, hnone]
      obtain ⟨hrest, hend⟩ := (ih hnone' hfresh'.2).2 hall
      refine ⟨⟨⟨trivial, ?_, trivial⟩, hrest⟩, hend⟩
      exact held_taken.2 (.inl rfl)

end Custody

/-! ### Cells -/

/-- Cells that hold one thing each, or nothing, among things that are open, some of which are loose:
no cell has had them so far. The log is orderly and tells what the cells hold, each thing is in one
cell at most, and what they hold is open and not loose. -/
structure Accounts {ι α : Type*} (cell : ι → Option α) (opened loose : Finset α)
    (log : List (Custody α)) : Prop where
  orderly : Custody.Orderly log
  held : ∀ x, Custody.Held log x ↔ ∃ i, cell i = some x
  unique : ∀ i j x, cell i = some x → cell j = some x → i = j
  isOpen : ∀ i x, cell i = some x → x ∈ opened
  looseOpen : ∀ x ∈ loose, x ∈ opened
  apart : ∀ i x, cell i = some x → x ∉ loose

namespace Accounts

open Custody

variable {ι α : Type*} {cell : ι → Option α}
  {opened loose : Finset α} {log : List (Custody α)} {i j : ι} {x : α}

lemma start : Accounts (fun _ : ι => (none : Option α)) ∅ ∅ [] where
  orderly := orderly_nil
  held _ := iff_of_false not_held_nil (by simp)
  unique _ _ _ h := nomatch h
  isOpen _ _ h := nomatch h
  looseOpen _ h := absurd h (Finset.notMem_empty _)
  apart _ _ h := nomatch h

lemma not_held (h : Accounts cell opened loose log) (hx : x ∉ opened ∨ x ∈ loose) :
    ¬ Held log x := by
  intro hheld
  obtain ⟨i, hi⟩ := (h.held x).1 hheld
  rcases hx with hx | hx
  · exact hx (h.isOpen i x hi)
  · exact h.apart i x hi hx

/-- It does not matter which cell holds what. -/
lemma permute (h : Accounts cell opened loose log) (e : Equiv.Perm ι) :
    Accounts (cell ∘ e) opened loose log where
  orderly := h.orderly
  held x := (h.held x).trans e.surjective.exists
  unique _ _ x hi hj := e.injective (h.unique _ _ x hi hj)
  isOpen i := h.isOpen (e i)
  looseOpen := h.looseOpen
  apart i := h.apart (e i)

/-- An empty cell gets what another one holds. -/
lemma move [DecidableEq ι] (h : Accounts cell opened loose log) (hi : cell i = none)
    (j : ι) :
    Accounts (Function.update (Function.update cell i (cell j)) j none) opened loose log := by
  have hswap : Function.update (Function.update cell i (cell j)) j none =
      cell ∘ Equiv.swap i j := by
    funext k
    rcases eq_or_ne k j with rfl | hj
    · simp [hi]
    · rcases eq_or_ne k i with rfl | hne
      · simp [hj]
      · simp [hj, hne, Equiv.swap_apply_of_ne_of_ne]
  rw [hswap]
  exact h.permute _

variable [DecidableEq α]

/-- Something new is opened. -/
lemma open_new (h : Accounts cell opened loose log) (x : α) :
    Accounts cell (insert x opened) loose log :=
  { h with
    isOpen := fun i y hi => Finset.mem_insert_of_mem (h.isOpen i y hi)
    looseOpen := fun y hy => Finset.mem_insert_of_mem (h.looseOpen y hy) }

/-- Something new is opened that no cell gets. -/
lemma open_loose (h : Accounts cell opened loose log) (hx : x ∉ opened) :
    Accounts cell (insert x opened) (insert x loose) log := by
  refine { h.open_new x with looseOpen := fun y hy => ?_, apart := fun i y hi hy => ?_ }
  · rcases Finset.mem_insert.1 hy with rfl | hy
    · exact Finset.mem_insert_self _ _
    · exact Finset.mem_insert_of_mem (h.looseOpen y hy)
  · rcases Finset.mem_insert.1 hy with rfl | hy
    · exact hx (h.isOpen i y hi)
    · exact h.apart i y hi hy

/-- What no cell has got is closed. -/
lemma close_loose (h : Accounts cell opened loose log) (hx : x ∈ loose) :
    Accounts cell (opened.erase x) (loose.erase x) log := by
  refine { h with
    isOpen := fun i y hi => ?_, looseOpen := fun y hy => ?_, apart := fun i y hi hy => ?_ }
  · refine Finset.mem_erase.2 ⟨?_, h.isOpen i y hi⟩
    rintro rfl
    exact h.apart i y hi hx
  · obtain ⟨hne, hy⟩ := Finset.mem_erase.1 hy
    exact Finset.mem_erase.2 ⟨hne, h.looseOpen y hy⟩
  · exact h.apart i y hi (Finset.mem_of_mem_erase hy)

variable [DecidableEq ι]

/-- An empty cell gets something that is open and that no cell holds. -/
lemma take (h : Accounts cell opened loose log) (hi : cell i = none) (hx : x ∈ opened)
    (hheld : ¬ Held log x) :
    Accounts (Function.update cell i (some x)) opened (loose.erase x) (log ++ [taken x]) := by
  have hcell : ∀ j y, Function.update cell i (some x) j = some y ↔
      (j = i ∧ y = x) ∨ cell j = some y := by
    intro j y
    rcases eq_or_ne j i with rfl | hne
    · simp [hi, eq_comm]
    · simp [hne]
  have hnew : ∀ j, cell j ≠ some x := fun j hj => hheld ((h.held x).2 ⟨j, hj⟩)
  constructor
  · exact h.orderly.snoc hheld
  · intro y
    simp only [held_taken, hcell, h.held, exists_or, exists_and_right, exists_eq, true_and]
  · intro j k y hj hk
    rcases (hcell j y).1 hj with ⟨rfl, rfl⟩ | hj'
    · rcases (hcell k y).1 hk with ⟨rfl, -⟩ | hk'
      · rfl
      · exact absurd hk' (hnew k)
    · rcases (hcell k y).1 hk with ⟨rfl, rfl⟩ | hk'
      · exact absurd hj' (hnew j)
      · exact h.unique j k y hj' hk'
  · intro j y hj
    rcases (hcell j y).1 hj with ⟨-, rfl⟩ | hj
    · exact hx
    · exact h.isOpen j y hj
  · exact fun y hy => h.looseOpen y (Finset.mem_of_mem_erase hy)
  · intro j y hj hy
    rcases (hcell j y).1 hj with ⟨-, rfl⟩ | hj
    · exact absurd rfl (Finset.ne_of_mem_erase hy)
    · exact h.apart j y hj (Finset.mem_of_mem_erase hy)

/-- A cell gives back what it holds, which is closed. -/
lemma give (h : Accounts cell opened loose log) (hi : cell i = some x) :
    Accounts (Function.update cell i none) (opened.erase x) loose (log ++ [given x]) := by
  have hcell : ∀ j y, Function.update cell i none j = some y ↔ y ≠ x ∧ cell j = some y := by
    intro j y
    rcases eq_or_ne j i with rfl | hne
    · simp [hi, eq_comm]
    · rw [Function.update_of_ne hne]
      refine ⟨fun hj => ⟨?_, hj⟩, fun hj => hj.2⟩
      rintro rfl
      exact hne (h.unique j i y hj hi)
  constructor
  · exact h.orderly.snoc ((h.held x).2 ⟨i, hi⟩)
  · intro y
    simp only [held_given, hcell, h.held, exists_and_left]
  · exact fun j k y hj hk => h.unique j k y ((hcell j y).1 hj).2 ((hcell k y).1 hk).2
  · intro j y hj
    obtain ⟨hne, hj⟩ := (hcell j y).1 hj
    exact Finset.mem_erase.2 ⟨hne, h.isOpen j y hj⟩
  · intro y hy
    refine Finset.mem_erase.2 ⟨?_, h.looseOpen y hy⟩
    rintro rfl
    exact h.apart i y hi hy
  · exact fun j y hj => h.apart j y ((hcell j y).1 hj).2

end Accounts

end BattleShips
