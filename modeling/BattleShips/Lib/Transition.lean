import Mathlib.Logic.Relation
import Mathlib.Data.List.Basic

/-!
# Transition systems

States, labels and what a step does, for systems whose steps are taken by several threads in any
order: the label says which thread moves and what the outside decides for it. Reachability is
relative to a guard on the steps, so that the same system can be looked at along all its runs and
along the runs that meet a condition.
-/

namespace BattleShips

open Relation

/-- The initial states of a system, and the state after a step if there is one. -/
structure System (σ α : Type*) where
  initial : σ → Prop
  step : σ → α → Option σ

namespace System

variable {σ τ α β η : Type*} {S : System σ α} {T : System τ β} {G : σ → α → Prop}
  {H : τ → β → Prop} {s s' : σ}

/-- A step that meets the guard. -/
def Step (S : System σ α) (G : σ → α → Prop) (s s' : σ) : Prop :=
  ∃ a, G s a ∧ S.step s a = some s'

/-- A state at the end of a run whose steps all meet the guard. -/
def Reachable (S : System σ α) (G : σ → α → Prop) (s : σ) : Prop :=
  ∃ s₀, S.initial s₀ ∧ ReflTransGen (S.Step G) s₀ s

/-- The guard that every step meets. -/
def anyStep (_ : σ) (_ : α) : Prop := True

lemma Reachable.of_initial (h : S.initial s) : S.Reachable G s := ⟨s, h, .refl⟩

lemma Reachable.steps (h : S.Reachable G s) (hsteps : ReflTransGen (S.Step G) s s') :
    S.Reachable G s' := by
  obtain ⟨s₀, h₀, hrun⟩ := h
  exact ⟨s₀, h₀, hrun.trans hsteps⟩

lemma Reachable.step {a : α} (h : S.Reachable G s) (hG : G s a) (hstep : S.step s a = some s') :
    S.Reachable G s' := h.steps (.single ⟨a, hG, hstep⟩)

/-- What the initial states satisfy and every step keeps. -/
lemma Reachable.invariant {I : σ → Prop} (h : S.Reachable G s) (hinit : ∀ s, S.initial s → I s)
    (hstep : ∀ s a s', S.Reachable G s → I s → G s a → S.step s a = some s' → I s') : I s := by
  obtain ⟨s₀, h₀, hrun⟩ := h
  induction hrun with
  | refl => exact hinit s₀ h₀
  | tail hrun hlast ih =>
    obtain ⟨a, hG, hs⟩ := hlast
    exact hstep _ a _ ⟨s₀, h₀, hrun⟩ ih hG hs

lemma Reachable.mono {G' : σ → α → Prop} (h : S.Reachable G s)
    (hG : ∀ s a, G s a → G' s a) : S.Reachable G' s := by
  obtain ⟨s₀, h₀, hrun⟩ := h
  refine ⟨s₀, h₀, ReflTransGen.mono ?_ _ _ hrun⟩
  rintro s s' ⟨a, ha, hs⟩
  exact ⟨a, hG s a ha, hs⟩

/-- Every step of the one system is no step or a step of the other. -/
lemma Reachable.simulate (f : σ → τ) (h : S.Reachable G s)
    (hinit : ∀ s, S.initial s → T.initial (f s))
    (hstep : ∀ s a s', S.Reachable G s → T.Reachable H (f s) → G s a → S.step s a = some s' →
      f s' = f s ∨ T.Step H (f s) (f s')) : T.Reachable H (f s) := by
  refine h.invariant (I := fun s => T.Reachable H (f s)) (fun s hs => .of_initial (hinit s hs)) ?_
  intro s a s' hs ih hG hs'
  rcases hstep s a s' hs ih hG hs' with hstays | hmoves
  · exact hstays ▸ ih
  · exact ih.steps (.single hmoves)

/-! ### Runs -/

/-- The state after the steps with these labels. -/
def run (S : System σ α) : σ → List α → Option σ
  | s, [] => some s
  | s, a :: as => (S.step s a).bind (S.run · as)

lemma run_append (s : σ) (as bs : List α) :
    S.run s (as ++ bs) = (S.run s as).bind (S.run · bs) := by
  induction as generalizing s with
  | nil => simp [run]
  | cons a as ih =>
    simp only [List.cons_append, run]
    cases S.step s a with
    | none => simp
    | some s₁ => simp [ih]

/-- The steps of the run with these labels meet the guard. -/
def Meets (S : System σ α) (G : σ → α → Prop) : σ → List α → Prop
  | _, [] => True
  | s, a :: as => G s a ∧ ∀ s' ∈ S.step s a, S.Meets G s' as

instance Meets.decidable [∀ s a, Decidable (G s a)] :
    ∀ (s : σ) (as : List α), Decidable (S.Meets G s as)
  | _, [] => inferInstanceAs (Decidable True)
  | s, a :: as =>
    have : DecidablePred fun s' => S.Meets G s' as := fun s' => Meets.decidable s' as
    inferInstanceAs (Decidable (G s a ∧ ∀ s' ∈ S.step s a, S.Meets G s' as))

lemma meets_of_labels {G : α → Prop} {as : List α} (h : ∀ a ∈ as, G a) :
    S.Meets (fun _ a => G a) s as := by
  induction as generalizing s with
  | nil => trivial
  | cons a as ih =>
    exact ⟨h a (by simp), fun s' _ => ih fun b hb => h b (by simp [hb])⟩

lemma Reachable.run {as : List α} (h : S.Reachable G s) (has : S.Meets G s as)
    (hrun : S.run s as = some s') : S.Reachable G s' := by
  induction as generalizing s with
  | nil =>
    obtain rfl : s = s' := by simpa [System.run] using hrun
    exact h
  | cons a as ih =>
    obtain ⟨s₁, hs₁, hrun'⟩ := Option.bind_eq_some_iff.1 hrun
    exact ih (h.step has.1 hs₁) (has.2 s₁ hs₁) hrun'

/-! ### Work that comes to an end -/

/-- Steps of this kind keep the invariant and lower the measure. -/
structure Lowers (S : System σ α) (G : σ → α → Prop) (K : α → Prop) (I : σ → Prop)
    (μ : σ → ℕ) : Prop where
  keeps : ∀ s a s', I s → K a → G s a → S.step s a = some s' → I s'
  lowers : ∀ s a s', I s → K a → G s a → S.step s a = some s' → μ s' < μ s

section Lowers

variable {K : α → Prop} {I : σ → Prop} {μ : σ → ℕ}

/-- The invariant holds after such steps, and there are no more of them than the measure says. -/
lemma Lowers.run (h : S.Lowers G K I μ) {as : List α} (hs : I s) (hK : ∀ a ∈ as, K a)
    (hG : S.Meets G s as) (hrun : S.run s as = some s') : I s' ∧ as.length + μ s' ≤ μ s := by
  induction as generalizing s with
  | nil =>
    obtain rfl : s = s' := by simpa [System.run] using hrun
    exact ⟨hs, by simp⟩
  | cons a as ih =>
    obtain ⟨s₁, hs₁, hrun⟩ := Option.bind_eq_some_iff.1 hrun
    have hKa := hK a (by simp)
    obtain ⟨hI, hle⟩ := ih (h.keeps s a s₁ hs hKa hG.1 hs₁) (fun b hb => hK b (by simp [hb]))
      (hG.2 s₁ hs₁) hrun
    have hlt := h.lowers s a s₁ hs hKa hG.1 hs₁
    exact ⟨hI, by rw [List.length_cons]; omega⟩

/-- Where such a step can be taken until all is done, there is a run after which it is. -/
lemma Lowers.exists_run (h : S.Lowers G K I μ) {Done : σ → Prop}
    (hgoes : ∀ s, I s → Done s ∨ ∃ a s', K a ∧ G s a ∧ S.step s a = some s') (hs : I s) :
    ∃ as s', (∀ a ∈ as, K a) ∧ S.Meets G s as ∧ S.run s as = some s' ∧ Done s' := by
  induction hn : μ s using Nat.strongRecOn generalizing s with
  | ind n ih =>
    rcases hgoes s hs with hdone | ⟨a, s₁, hK, hG, hs₁⟩
    · exact ⟨[], s, by simp, trivial, rfl, hdone⟩
    · obtain ⟨as, s', hKs, hGs, hrun, hdone⟩ :=
        ih (μ s₁) (hn ▸ h.lowers s a s₁ hs hK hG hs₁) (h.keeps s a s₁ hs hK hG hs₁) rfl
      refine ⟨a :: as, s', List.forall_mem_cons.2 ⟨hK, hKs⟩, ⟨hG, fun s₂ hs₂ => ?_⟩, ?_, hdone⟩
      · obtain rfl := Option.some.inj (hs₁.symm.trans hs₂)
        exact hGs
      · simp [System.run, hs₁, hrun]

end Lowers

/-- Every step leads to the goal or keeps the invariant, and then those of this kind lower the
measure and the others do not raise it. -/
structure Approaches (S : System σ α) (G : σ → α → Prop) (K : α → Bool) (I : σ → Prop) (μ : σ → ℕ)
    (Goal : σ → Prop) : Prop where
  step : ∀ s a s', I s → G s a → S.step s a = some s' →
    Goal s' ∨ I s' ∧ μ s' + (if K a then 1 else 0) ≤ μ s

/-- A run with more steps of this kind than the measure says comes by the goal, whatever other steps
there are between them. -/
lemma Approaches.run {K : α → Bool} {I : σ → Prop} {μ : σ → ℕ} {Goal : σ → Prop}
    (h : S.Approaches G K I μ Goal) {as : List α} (hs : I s) (hG : S.Meets G s as)
    (hrun : S.run s as = some s') (hmany : μ s < as.countP K) :
    ∃ as₁ as₂ s₁, as = as₁ ++ as₂ ∧ S.run s as₁ = some s₁ ∧ Goal s₁ := by
  induction as generalizing s with
  | nil => simp at hmany
  | cons a as ih =>
    obtain ⟨s₁, hs₁, hrun⟩ := Option.bind_eq_some_iff.1 hrun
    have hfirst : S.run s [a] = some s₁ := by simp [System.run, hs₁]
    rcases h.step s a s₁ hs hG.1 hs₁ with hgoal | ⟨hI, hle⟩
    · exact ⟨[a], as, s₁, rfl, hfirst, hgoal⟩
    · have hmany₁ : μ s₁ < as.countP K := by
        rw [List.countP_cons] at hmany
        omega
      obtain ⟨as₁, as₂, s₂, rfl, hrun₁, hgoal⟩ := ih hI (hG.2 s₁ hs₁) hrun hmany₁
      exact ⟨a :: as₁, as₂, s₂, rfl, by simp [System.run, hs₁, hrun₁], hgoal⟩

/-! ### History -/

/-- The system with a record of what has happened. -/
def withHistory (S : System σ α) (start : η) (record : η → σ → α → σ → η) :
    System (σ × η) α where
  initial s := S.initial s.1 ∧ s.2 = start
  step s a := (S.step s.1 a).map fun s' => (s', record s.2 s.1 a s')

variable {start : η} {record : η → σ → α → σ → η}

lemma withHistory_step {s s' : σ × η} {a : α} :
    (S.withHistory start record).step s a = some s' ↔
      S.step s.1 a = some s'.1 ∧ s'.2 = record s.2 s.1 a s'.1 := by
  obtain ⟨s₁, h₁⟩ := s
  obtain ⟨s₁', h₁'⟩ := s'
  simp only [withHistory, Option.map_eq_some_iff, Prod.mk.injEq]
  constructor
  · rintro ⟨s₂, hs, rfl, rfl⟩
    exact ⟨hs, rfl⟩
  · rintro ⟨hs, rfl⟩
    exact ⟨s₁', hs, rfl, rfl⟩

/-- Keeping a record does not keep the system from any step. -/
lemma Reachable.exists_history (start : η) (record : η → σ → α → σ → η) (h : S.Reachable G s) :
    ∃ history, (S.withHistory start record).Reachable (fun s a => G s.1 a) (s, history) := by
  refine h.invariant (I := fun s => ∃ history, (S.withHistory start record).Reachable
    (fun s a => G s.1 a) (s, history)) ?_ ?_
  · exact fun s hs => ⟨start, .of_initial ⟨hs, rfl⟩⟩
  · rintro s a s' - ⟨history, hs⟩ hG hstep
    exact ⟨record history s a s', hs.step hG (withHistory_step.2 ⟨hstep, rfl⟩)⟩

end System

end BattleShips
