import Mathlib.Logic.Relation
import Mathlib.Tactic

/-!
# Calls one after the other

An object whose calls take steps, used so that every call has returned before the next one is made.
A specification says which calls may be made, which of them have to return, and what they may
return; its state is what is known of the calls so far. Sequences of calls are looked at along all
their runs, with any property of the single calls.
-/

namespace BattleShips

open Relation

/-- How a call starts, the steps that it takes, and its result once it has returned, with the state
that it leaves behind. -/
structure CallObject (σ κ ρ : Type*) where
  start : σ → κ → Option σ
  step : κ → σ → σ → Prop
  result : κ → σ → Option (ρ × σ)

/-- Which calls may be made, which of them have to return, what they may return, and what is known
afterwards. -/
structure CallSpec (τ κ ρ : Type*) where
  legal : τ → κ → Prop
  returns : κ → Prop
  allowed : τ → κ → ρ → Prop
  next : τ → κ → ρ → τ

namespace CallObject

variable {σ τ κ ρ : Type*} {o : CallObject σ κ ρ} {spec : CallSpec τ κ ρ} {s s' s₁ : σ} {t : τ}
  {c : κ} {r : ρ}

/-- A state that the call comes to. -/
def Inside (o : CallObject σ κ ρ) (s : σ) (c : κ) (s' : σ) : Prop :=
  ∃ s₁, o.start s c = some s₁ ∧ ReflTransGen (o.step c) s₁ s'

def Returns (o : CallObject σ κ ρ) (s : σ) (c : κ) (r : ρ) (s' : σ) : Prop :=
  ∃ s₁, o.Inside s c s₁ ∧ o.result c s₁ = some (r, s')

/-- The call comes to where it has not returned and cannot go on by itself. -/
def Waits (o : CallObject σ κ ρ) (s : σ) (c : κ) : Prop :=
  ∃ s₁, o.Inside s c s₁ ∧ o.result c s₁ = none ∧ ∀ s₂, ¬ o.step c s₁ s₂

/-- The call does what the specification says. -/
structure Meets (o : CallObject σ κ ρ) (spec : CallSpec τ κ ρ) (s : σ) (t : τ) (c : κ) : Prop where
  not_waits : spec.returns c → ¬ o.Waits s c
  returns : spec.returns c → ∃ r s', o.Returns s c r s'
  allowed : ∀ r s', o.Returns s c r s' → spec.allowed t c r

/-- Every legal call of the sequence has the property when it is made. -/
def Along (o : CallObject σ κ ρ) (spec : CallSpec τ κ ρ) (P : σ → τ → κ → Prop) :
    σ → τ → List κ → Prop
  | _, _, [] => True
  | s, t, c :: cs => spec.legal t c →
      P s t c ∧ ∀ r s', o.Returns s c r s' → o.Along spec P s' (spec.next t c r) cs

/-- The object does what the specification says. -/
def Follows (o : CallObject σ κ ρ) (spec : CallSpec τ κ ρ) : σ → τ → List κ → Prop :=
  o.Along spec (o.Meets spec)

/-- Two properties that agree in the states that the calls with one of them lead to. -/
theorem along_congr (Rep : σ → τ → Prop) {P Q : σ → τ → κ → Prop}
    (hiff : ∀ s t c, Rep s t → spec.legal t c → (P s t c ↔ Q s t c))
    (hkeep : ∀ s t c r s', Rep s t → spec.legal t c → P s t c → o.Returns s c r s' →
      Rep s' (spec.next t c r)) (cs : List κ) (h : Rep s t) :
    o.Along spec P s t cs ↔ o.Along spec Q s t cs := by
  induction cs generalizing s t with
  | nil => exact Iff.rfl
  | cons c cs ih =>
    simp only [Along]
    constructor
    · intro hall hlegal
      obtain ⟨hP, hrest⟩ := hall hlegal
      refine ⟨(hiff s t c h hlegal).1 hP, ?_⟩
      intro r s' hreturns
      exact (ih (hkeep s t c r s' h hlegal hP hreturns)).1 (hrest r s' hreturns)
    · intro hall hlegal
      obtain ⟨hQ, hrest⟩ := hall hlegal
      have hP := (hiff s t c h hlegal).2 hQ
      refine ⟨hP, ?_⟩
      intro r s' hreturns
      exact (ih (hkeep s t c r s' h hlegal hP hreturns)).2 (hrest r s' hreturns)

lemma Inside.next {s₂ : σ} (h : o.Inside s c s₁) (hstep : o.step c s₁ s₂) : o.Inside s c s₂ := by
  obtain ⟨s₀, hstart, hrun⟩ := h
  exact ⟨s₀, hstart, hrun.tail hstep⟩

/-- What holds where the call starts, and every step keeps, holds in the states of the call. -/
lemma Inside.invariant {I : σ → Prop} (h : o.Inside s c s')
    (hstart : ∀ s₁, o.start s c = some s₁ → I s₁)
    (hstep : ∀ s₁ s₂, I s₁ → o.step c s₁ s₂ → I s₂) : I s' := by
  obtain ⟨s₁, hs₁, hrun⟩ := h
  induction hrun with
  | refl => exact hstart s₁ hs₁
  | tail _ hlast ih => exact hstep _ _ ih hlast

/-- A call that only comes to states from where it goes on or has returned does not wait. -/
lemma not_waits_of_invariant {I : σ → Prop} (hstart : ∀ s₁, o.start s c = some s₁ → I s₁)
    (hstep : ∀ s₁ s₂, I s₁ → o.step c s₁ s₂ → I s₂)
    (hgoes : ∀ s₁, I s₁ → o.result c s₁ = none → ∃ s₂, o.step c s₁ s₂) : ¬ o.Waits s c := by
  rintro ⟨s₁, hs₁, hnone, hstuck⟩
  obtain ⟨s₂, hs₂⟩ := hgoes s₁ (hs₁.invariant hstart hstep) hnone
  exact hstuck s₂ hs₂

/-! ### Objects with one way to go on -/

/-- A call has one way to go on, and none once it has returned. -/
structure Deterministic (o : CallObject σ κ ρ) : Prop where
  unique : ∀ c s s₁ s₂, o.step c s s₁ → o.step c s s₂ → s₁ = s₂
  returned : ∀ c s s₁, o.result c s ≠ none → ¬ o.step c s s₁

/-- The states of a call before one from where it does not go on. -/
lemma Deterministic.inside_reaches (h : o.Deterministic) {s₂ : σ} (hend : o.Inside s c s₂)
    (hstuck : ∀ s₃, ¬ o.step c s₂ s₃) (hs₁ : o.Inside s c s₁) :
    ReflTransGen (o.step c) s₁ s₂ := by
  obtain ⟨s₀, hstart, hrun⟩ := hs₁
  obtain ⟨s₀', hstart', hend⟩ := hend
  obtain rfl : s₀ = s₀' := Option.some.inj (hstart.symm.trans hstart')
  have hunique : Relator.RightUnique (o.step c) := fun a b b' hb hb' => h.unique c a b b' hb hb'
  rcases ReflTransGen.total_of_right_unique hunique hrun hend with hreach | hreach
  · exact hreach
  · rcases ReflTransGen.cases_head hreach with rfl | ⟨s₃, hs₃, -⟩
    · exact .refl
    · exact absurd hs₃ (hstuck s₃)

lemma Deterministic.not_waits (h : o.Deterministic) (hreturns : o.Returns s c r s') :
    ¬ o.Waits s c := by
  rintro ⟨s₁, hs₁, hnone, hstuck⟩
  obtain ⟨s₂, hs₂, hresult⟩ := hreturns
  have hreach := h.inside_reaches hs₁ hstuck hs₂
  rcases ReflTransGen.cases_head hreach with rfl | ⟨s₃, hs₃, -⟩
  · simp [hnone] at hresult
  · exact h.returned c s₂ s₃ (by simp [hresult]) hs₃

/-- A call returns at most one result. -/
lemma Deterministic.returns_unique (h : o.Deterministic) {q : ρ} {s₂ : σ}
    (hreturns : o.Returns s c r s') (hreturns' : o.Returns s c q s₂) : q = r ∧ s₂ = s' := by
  obtain ⟨s₁, hs₁, hresult⟩ := hreturns
  obtain ⟨s₂, hs₂, hresult'⟩ := hreturns'
  have hstuck : ∀ s₃, ¬ o.step c s₁ s₃ := fun s₃ => h.returned c s₁ s₃ (by simp [hresult])
  have hreach := h.inside_reaches hs₁ hstuck hs₂
  rcases ReflTransGen.cases_head hreach with rfl | ⟨s₃, hs₃, -⟩
  · rw [hresult] at hresult'
    exact ⟨(Prod.mk.inj (Option.some.inj hresult')).1.symm,
      (Prod.mk.inj (Option.some.inj hresult')).2.symm⟩
  · exact absurd hs₃ (h.returned c s₂ s₃ (by simp [hresult']))

/-- A call that returns what is allowed. -/
lemma Deterministic.meets (h : o.Deterministic) (hreturns : o.Returns s c r s')
    (hallowed : spec.allowed t c r) : o.Meets spec s t c where
  not_waits _ := h.not_waits hreturns
  returns _ := ⟨r, s', hreturns⟩
  allowed _ _ hreturns' := (h.returns_unique hreturns hreturns').1 ▸ hallowed

/-! ### Calls as a whole -/

/-- The object whose calls are single steps: `none` is a call that never returns. -/
def ofCalls (call : σ → κ → Option (ρ × σ)) : CallObject σ κ ρ where
  start s _ := some s
  step _ _ _ := False
  result c s := call s c

section

variable {call : σ → κ → Option (ρ × σ)}

lemma ofCalls_inside : (ofCalls call).Inside s c s' ↔ s' = s := by
  constructor
  · rintro ⟨s₁, hstart, hrun⟩
    obtain rfl : s = s₁ := Option.some.inj hstart
    cases hrun with
    | refl => rfl
    | tail _ hstep => exact hstep.elim
  · rintro rfl
    exact ⟨s', rfl, .refl⟩

lemma ofCalls_returns : (ofCalls call).Returns s c r s' ↔ call s c = some (r, s') := by
  simp only [Returns, ofCalls_inside, exists_eq_left]
  rfl

lemma ofCalls_waits : (ofCalls call).Waits s c ↔ call s c = none := by
  simp only [Waits, ofCalls_inside, exists_eq_left]
  exact and_iff_left fun _ => id

lemma ofCalls_meets_iff : (ofCalls call).Meets spec s t c ↔
    (spec.returns c → call s c ≠ none) ∧
      ∀ r s', call s c = some (r, s') → spec.allowed t c r := by
  constructor
  · intro h
    refine ⟨fun hreturns hnone => h.not_waits hreturns (ofCalls_waits.2 hnone), ?_⟩
    intro r s' hcall
    exact h.allowed r s' (ofCalls_returns.2 hcall)
  · rintro ⟨hsome, hallowed⟩
    refine ⟨fun hreturns hwaits => hsome hreturns (ofCalls_waits.1 hwaits), ?_, ?_⟩
    · intro hreturns
      obtain ⟨⟨r, s'⟩, hcall⟩ := Option.ne_none_iff_exists'.1 (hsome hreturns)
      exact ⟨r, s', ofCalls_returns.2 hcall⟩
    · intro r s' hreturns
      exact hallowed r s' (ofCalls_returns.1 hreturns)

end

end CallObject

/-! ### Bounded queues -/

/-- The calls of a queue, and what they return. -/
inductive FifoCall (α : Type*)
  | push (x : α)
  | pop
  deriving DecidableEq

inductive FifoResult (α : Type*)
  | pushed (accepted : Bool)
  | popped (x : Option α)
  deriving DecidableEq

/-- A first-in first-out queue of so many elements: a push is refused just when it is full. -/
def boundedFifo (α : Type*) (capacity : ℕ) :
    CallSpec (List α) (ℕ × FifoCall α) (FifoResult α) where
  legal _ _ := True
  returns _ := True
  allowed items c r := match c.2 with
    | .push _ => r = .pushed (items.length < capacity)
    | .pop => r = .popped items.head?
  next items c _ := match c.2 with
    | .push x => if items.length < capacity then items ++ [x] else items
    | .pop => items.tail

end BattleShips
