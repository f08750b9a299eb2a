import Mathlib.Data.List.Basic
import Mathlib.Tactic

/-!
# Stateful computations with a trace of events

`Traced σ ε α` is a program over a state `σ` that emits events of type `ε` and either returns a
value or stops for good. Its assertions speak about the state and the trace so far. A triple may
assume that every event is allowed by a guard, which may look at the events before it: this is how
properties of all runs without certain events are stated.
-/

universe u

namespace Traced

/-- What a program leaves behind; `value` is `none` if it has stopped. -/
structure Outcome (σ ε α : Type u) where
  value : Option α
  state : σ
  events : List ε

end Traced

/-- A program over the state `σ` with events `ε`. -/
def Traced (σ ε α : Type u) : Type u := σ → Traced.Outcome σ ε α

namespace Traced

variable {σ ε α β : Type u}

/-- Run `m` from the state `s`. -/
def run (m : Traced σ ε α) (s : σ) : Outcome σ ε α := m s

/-- Sequencing of outcomes: nothing happens after a stop. -/
def Outcome.andThen (r : Outcome σ ε α) (f : α → Traced σ ε β) : Outcome σ ε β :=
  match r.value with
  | none => ⟨none, r.state, r.events⟩
  | some a =>
    let r' := (f a).run r.state
    ⟨r'.value, r'.state, r.events ++ r'.events⟩

instance : Monad (Traced σ ε) where
  pure a s := ⟨some a, s, []⟩
  bind m f s := (m.run s).andThen f

def get : Traced σ ε σ := fun s => ⟨some s, s, []⟩

def modify (f : σ → σ) : Traced σ ε PUnit := fun s => ⟨some ⟨⟩, f s, []⟩

def emit (e : ε) : Traced σ ε PUnit := fun s => ⟨some ⟨⟩, s, [e]⟩

/-- Stop for good. -/
def stop : Traced σ ε α := fun s => ⟨none, s, []⟩

@[simp] lemma run_pure (a : α) (s : σ) :
    (pure a : Traced σ ε α).run s = ⟨some a, s, []⟩ := rfl

@[simp] lemma run_bind (m : Traced σ ε α) (f : α → Traced σ ε β) (s : σ) :
    (m >>= f).run s = (m.run s).andThen f := rfl

@[simp] lemma run_get (s : σ) : (get : Traced σ ε σ).run s = ⟨some s, s, []⟩ := rfl

@[simp] lemma run_modify (f : σ → σ) (s : σ) :
    (modify f : Traced σ ε PUnit).run s = ⟨some ⟨⟩, f s, []⟩ := rfl

@[simp] lemma run_emit (e : ε) (s : σ) :
    (emit e : Traced σ ε PUnit).run s = ⟨some ⟨⟩, s, [e]⟩ := rfl

@[simp] lemma run_stop (s : σ) : (stop : Traced σ ε α).run s = ⟨none, s, []⟩ := rfl

/-- What comes after `m` takes back none of its events. -/
lemma mem_events_bind {m : Traced σ ε α} {f : α → Traced σ ε β} {s : σ} {e : ε}
    (h : e ∈ (m.run s).events) : e ∈ ((m >>= f).run s).events := by
  rw [run_bind, Outcome.andThen]
  cases (m.run s).value with
  | none => exact h
  | some a => exact List.mem_append_left _ h

/-! ### Guards on events -/

/-- Every event of `es` is allowed after the events before it, of which `tr` are the first. -/
def Allowed (G : List ε → ε → Prop) : List ε → List ε → Prop
  | _, [] => True
  | tr, e :: es => G tr e ∧ Allowed G (tr ++ [e]) es

instance Allowed.decidable (G : List ε → ε → Prop) [∀ tr e, Decidable (G tr e)] :
    ∀ tr es, Decidable (Allowed G tr es)
  | _, [] => isTrue trivial
  | tr, e :: es =>
    have := Allowed.decidable G (tr ++ [e]) es
    inferInstanceAs (Decidable (_ ∧ _))

@[simp] lemma allowed_nil (G : List ε → ε → Prop) (tr : List ε) : Allowed G tr [] := trivial

lemma allowed_append {G : List ε → ε → Prop} {tr es es' : List ε} :
    Allowed G tr (es ++ es') ↔ Allowed G tr es ∧ Allowed G (tr ++ es) es' := by
  induction es generalizing tr with
  | nil => simp [Allowed]
  | cons e es ih => simp [Allowed, ih, and_assoc]

/-- Events that are allowed whatever there was before. -/
lemma allowed_of_forall {G : List ε → ε → Prop} {tr es : List ε} (h : ∀ e ∈ es, ∀ tr, G tr e) :
    Allowed G tr es := by
  induction es generalizing tr with
  | nil => trivial
  | cons e es ih => exact ⟨h e (by simp) tr, ih fun e' he' => h e' (by simp [he'])⟩

/-! ### Triples -/

/-- From a state and a trace that satisfy `P`, a run of `m` whose events are all allowed ends, if
it ends, with a value, a state and a trace that satisfy `Q`. -/
def Triple (G : List ε → ε → Prop) (P : σ → List ε → Prop) (m : Traced σ ε α)
    (Q : α → σ → List ε → Prop) : Prop :=
  ∀ s tr, P s tr → Allowed G tr (m.run s).events →
    ∀ a, (m.run s).value = some a → Q a (m.run s).state (tr ++ (m.run s).events)

section Rules

variable {G : List ε → ε → Prop} {P P' I : σ → List ε → Prop} {m : Traced σ ε α}
  {Q Q' : α → σ → List ε → Prop}

lemma Triple.pure {a : α} (h : ∀ s tr, P s tr → Q a s tr) :
    Triple G P (pure a : Traced σ ε α) Q := by
  intro s tr hP _ b hb
  obtain rfl : a = b := by simpa using hb
  simpa using h s tr hP

lemma Triple.bind {f : α → Traced σ ε β} {R : β → σ → List ε → Prop}
    (hm : Triple G P m Q) (hf : ∀ a, Triple G (Q a) (f a) R) : Triple G P (m >>= f) R := by
  intro s tr hP hG b hb
  have hm := hm s tr hP
  rw [run_bind, Outcome.andThen] at hG hb ⊢
  cases hvalue : (m.run s).value with
  | none => simp [hvalue] at hb
  | some a =>
    simp only [hvalue] at hG hb ⊢
    rw [allowed_append] at hG
    rw [← List.append_assoc]
    exact hf a _ _ (hm hG.1 a hvalue) hG.2 b hb

/-- What comes after `m` does not need anything of it. -/
lemma Triple.bind_any {f : α → Traced σ ε β} {R : β → σ → List ε → Prop}
    (hf : ∀ a, Triple G (fun _ _ => True) (f a) R) : Triple G P (m >>= f) R :=
  Triple.bind (fun _ _ _ _ _ _ => trivial) hf

lemma Triple.conseq (h : Triple G P m Q) (hP : ∀ s tr, P' s tr → P s tr)
    (hQ : ∀ a s tr, Q a s tr → Q' a s tr) : Triple G P' m Q' :=
  fun s tr hs hG a ha => hQ a _ _ (h s tr (hP s tr hs) hG a ha)

lemma Triple.pre (h : Triple G P m Q) (hP : ∀ s tr, P' s tr → P s tr) : Triple G P' m Q :=
  h.conseq hP fun _ _ _ => id

lemma Triple.post (h : Triple G P m Q) (hQ : ∀ a s tr, Q a s tr → Q' a s tr) : Triple G P m Q' :=
  h.conseq (fun _ _ => id) hQ

lemma Triple.and (h : Triple G P m Q) (h' : Triple G P' m Q') :
    Triple G (fun s tr => P s tr ∧ P' s tr) m (fun a s tr => Q a s tr ∧ Q' a s tr) :=
  fun s tr hs hG a ha => ⟨h s tr hs.1 hG a ha, h' s tr hs.2 hG a ha⟩

lemma Triple.get {Q : σ → σ → List ε → Prop} (h : ∀ s tr, P s tr → Q s s tr) :
    Triple G P (get : Traced σ ε σ) Q := by
  intro s tr hP _ b hb
  obtain rfl : s = b := by simpa using hb
  simpa using h s tr hP

lemma Triple.modify {f : σ → σ} {Q : PUnit → σ → List ε → Prop}
    (h : ∀ s tr, P s tr → Q ⟨⟩ (f s) tr) : Triple G P (modify f : Traced σ ε PUnit) Q := by
  intro s tr hP _ _ _
  simpa using h s tr hP

lemma Triple.emit {e : ε} {Q : PUnit → σ → List ε → Prop}
    (h : ∀ s tr, P s tr → G tr e → Q ⟨⟩ s (tr ++ [e])) :
    Triple G P (emit e : Traced σ ε PUnit) Q := by
  intro s tr hP hG _ _
  exact h s tr hP hG.1

lemma Triple.stop : Triple G P (stop : Traced σ ε α) Q := by
  intro s tr _ _ a ha
  simp at ha

lemma Triple.ite {c : Prop} [Decidable c] {m' : Traced σ ε α}
    (h : c → Triple G P m Q) (h' : ¬ c → Triple G P m' Q) :
    Triple G P (if c then m else m') Q := by
  split_ifs with hc
  · exact h hc
  · exact h' hc

/-- A fact that does not depend on the state may be taken out of the precondition. -/
lemma Triple.of_pre {p : Prop} (h : p → Triple G P m Q) :
    Triple G (fun s tr => p ∧ P s tr) m Q :=
  fun s tr hs => h hs.1 s tr hs.2

/-- `m` keeps `I`, whatever it returns. -/
def Keeps (G : List ε → ε → Prop) (I : σ → List ε → Prop) (m : Traced σ ε α) : Prop :=
  Triple G I m fun _ => I

lemma Keeps.pure {a : α} : Keeps G I (pure a : Traced σ ε α) := Triple.pure fun _ _ => id

lemma Keeps.bind {f : α → Traced σ ε β} (hm : Keeps G I m) (hf : ∀ a, Keeps G I (f a)) :
    Keeps G I (m >>= f) := Triple.bind hm hf

lemma Keeps.get : Keeps G I (get : Traced σ ε σ) := Triple.get fun _ _ => id

lemma Keeps.ite {c : Prop} [Decidable c] {m' : Traced σ ε α} (h : Keeps G I m)
    (h' : Keeps G I m') : Keeps G I (if c then m else m') :=
  Triple.ite (fun _ => h) fun _ => h'

/-! ### The events of a program -/

/-- Every event of every run of `m` satisfies `p`. -/
def Emits (p : ε → Prop) (m : Traced σ ε α) : Prop := ∀ s, ∀ e ∈ (m.run s).events, p e

section Emits

variable {p : ε → Prop} {m : Traced σ ε α}

lemma Emits.pure {a : α} : Emits p (pure a : Traced σ ε α) := by simp [Emits]

lemma Emits.get : Emits p (get : Traced σ ε σ) := by simp [Emits]

lemma Emits.modify {f : σ → σ} : Emits p (modify f : Traced σ ε PUnit) := by simp [Emits]

lemma Emits.stop : Emits p (stop : Traced σ ε α) := by simp [Emits]

lemma Emits.emit {e : ε} (h : p e) : Emits p (emit e : Traced σ ε PUnit) := by simp [Emits, h]

lemma Emits.bind {f : α → Traced σ ε β} (hm : Emits p m) (hf : ∀ a, Emits p (f a)) :
    Emits p (m >>= f) := by
  intro s e he
  rw [run_bind, Outcome.andThen] at he
  cases hvalue : (m.run s).value with
  | none => exact hm s e (by simpa [hvalue] using he)
  | some a =>
    simp only [hvalue, List.mem_append] at he
    exact he.elim (hm s e) (hf a _ e)

lemma Emits.triple (hm : Emits p m) {G : List ε → ε → Prop} {P : σ → List ε → Prop}
    (hP : ∀ s tr, P s tr → ∀ e ∈ tr, p e) : Triple G P m fun _ _ tr => ∀ e ∈ tr, p e := by
  intro s tr hs _ a _ e he
  rcases List.mem_append.1 he with htr | hrun
  · exact hP s tr hs e htr
  · exact hm s e hrun

/-- An event that the rest of a program never emits comes from its beginning. -/
lemma mem_events_bind_iff {f : α → Traced σ ε β} {s : σ} {e : ε}
    (hf : ∀ a, Emits (· ≠ e) (f a)) : e ∈ ((m >>= f).run s).events ↔ e ∈ (m.run s).events := by
  rw [run_bind, Outcome.andThen]
  cases (m.run s).value with
  | none => rfl
  | some a =>
    rw [List.mem_append]
    exact or_iff_left fun he => hf a _ e he rfl

end Emits

/-! ### Effects -/

/-- `R` relates a state to itself after no events, and what two programs do one after the other. -/
structure Composable (R : σ → List ε → σ → Prop) : Prop where
  refl : ∀ s, R s [] s
  trans : ∀ {s s' s'' es es'}, R s es s' → R s' es' s'' → R s (es ++ es') s''

/-- From a state and a trace that satisfy `P`, `R` relates the state before, the events and the
state after every run of `m` whose events are all allowed, also if `m` stops. -/
def Effect (G : List ε → ε → Prop) (P : σ → List ε → Prop) (m : Traced σ ε α)
    (R : σ → List ε → σ → Prop) : Prop :=
  ∀ s tr, P s tr → Allowed G tr (m.run s).events → R s (m.run s).events (m.run s).state

section Effects

variable {G : List ε → ε → Prop} {P P' : σ → List ε → Prop} {R S : σ → List ε → σ → Prop}
  {m : Traced σ ε α} {Q : α → σ → List ε → Prop}

lemma Effect.pure (hR : Composable R) {a : α} : Effect G P (pure a : Traced σ ε α) R :=
  fun s _ _ _ => hR.refl s

lemma Effect.stop (hR : Composable R) : Effect G P (stop : Traced σ ε α) R :=
  fun s _ _ _ => hR.refl s

lemma Effect.modify {f : σ → σ} (h : ∀ s tr, P s tr → R s [] (f s)) :
    Effect G P (modify f : Traced σ ε PUnit) R := fun s tr hs _ => h s tr hs

lemma Effect.emit {e : ε} (h : ∀ s tr, P s tr → G tr e → R s [e] s) :
    Effect G P (emit e : Traced σ ε PUnit) R := fun s tr hs hG => h s tr hs hG.1

/-- The rest of a program starts from what its beginning leaves behind. -/
lemma Effect.seq {f : α → Traced σ ε β} (hm : Effect G P m R) (hQ : Triple G P m Q)
    (hf : ∀ a, Effect G (Q a) (f a) S) {T : σ → List ε → σ → Prop}
    (hstop : ∀ s es s', R s es s' → T s es s')
    (hR : ∀ s es s' es' s'', R s es s' → S s' es' s'' → T s (es ++ es') s'') :
    Effect G P (m >>= f) T := by
  intro s tr hs hG
  rw [run_bind, Outcome.andThen] at hG ⊢
  cases hvalue : (m.run s).value with
  | none =>
    simp only [hvalue] at hG ⊢
    exact hstop _ _ _ (hm s tr hs hG)
  | some a =>
    simp only [hvalue, allowed_append] at hG ⊢
    exact hR _ _ _ _ _ (hm s tr hs hG.1) (hf a _ _ (hQ s tr hs hG.1 a hvalue) hG.2)

/-- The case of a beginning that does not stop. -/
lemma Effect.seq_of_returns {f : α → Traced σ ε β} {T : σ → List ε → σ → Prop}
    (hm : Effect G P m R) (hQ : Triple G P m Q) (hf : ∀ a, Effect G (Q a) (f a) S)
    (hreturns : ∀ s tr, P s tr → Allowed G tr (m.run s).events → ∃ a, (m.run s).value = some a)
    (hR : ∀ s es s' es' s'', R s es s' → S s' es' s'' → T s (es ++ es') s'') :
    Effect G P (m >>= f) T := by
  intro s tr hs hG
  rw [run_bind, Outcome.andThen] at hG ⊢
  cases hvalue : (m.run s).value with
  | none =>
    simp only [hvalue] at hG
    obtain ⟨a, ha⟩ := hreturns s tr hs hG
    rw [hvalue] at ha
    cases ha
  | some a =>
    simp only [hvalue, allowed_append] at hG ⊢
    exact hR _ _ _ _ _ (hm s tr hs hG.1) (hf a _ _ (hQ s tr hs hG.1 a hvalue) hG.2)

lemma Effect.bind {f : α → Traced σ ε β} (hR : Composable R) (hm : Effect G P m R)
    (hQ : Triple G P m Q) (hf : ∀ a, Effect G (Q a) (f a) R) : Effect G P (m >>= f) R :=
  hm.seq hQ hf (fun _ _ _ => id) fun _ _ _ _ _ => hR.trans

/-- The case of a rest that does not depend on what its beginning leaves behind. -/
lemma Effect.bind_of_forall {f : α → Traced σ ε β} (hR : Composable R) (hm : Effect G P m R)
    (hf : ∀ a, Effect G (fun _ _ => True) (f a) R) : Effect G P (m >>= f) R :=
  hm.bind hR (fun _ _ _ _ _ _ => trivial) hf

lemma Effect.get_bind {f : σ → Traced σ ε β}
    (hf : ∀ s₀, Effect G (fun s tr => s = s₀ ∧ P s tr) (f s₀) R) :
    Effect G P (Traced.get >>= f) R :=
  fun s tr hs hG => hf s s tr ⟨rfl, hs⟩ hG

/-- A program that starts with an event. -/
lemma Effect.emit_bind {e : ε} {f : PUnit → Traced σ ε β}
    (hf : Effect G (fun s tr => ∃ tr', tr = tr' ++ [e] ∧ P s tr' ∧ G tr' e) (f ⟨⟩) S)
    (hR : ∀ s tr es s', P s tr → S s es s' → R s (e :: es) s') :
    Effect G P (Traced.emit e >>= f) R :=
  fun s tr hs hG => hR s tr _ _ hs (hf s (tr ++ [e]) ⟨tr, rfl, hs, hG.1⟩ hG.2)

lemma Effect.ite {c : Prop} [Decidable c] {m' : Traced σ ε α} (h : c → Effect G P m R)
    (h' : ¬ c → Effect G P m' R) : Effect G P (if c then m else m') R := by
  split_ifs with hc
  · exact h hc
  · exact h' hc

lemma Effect.conseq (h : Effect G P m R) (hP : ∀ s tr, P' s tr → P s tr)
    (hR : ∀ s es s', R s es s' → S s es s') : Effect G P' m S :=
  fun s tr hs hG => hR _ _ _ (h s tr (hP s tr hs) hG)

lemma Effect.of_pre {p : Prop} (h : p → Effect G P m R) :
    Effect G (fun s tr => p ∧ P s tr) m R :=
  fun s tr hs => h hs.1 s tr hs.2

lemma Effect.pre (h : Effect G P m R) (hP : ∀ s tr, P' s tr → P s tr) : Effect G P' m R :=
  h.conseq hP fun _ _ _ => id

end Effects

/-! ### Total correctness -/

/-- From every state that satisfies `P`, a run of `m` whose events are all allowed returns, and `Q`
holds of the result, the events and the state after it. -/
def Achieves (G : ε → Prop) (P : σ → Prop) (m : Traced σ ε α) (Q : α → List ε → σ → Prop) : Prop :=
  ∀ s, P s → (∀ e ∈ (m.run s).events, G e) →
    ∃ a, (m.run s).value = some a ∧ Q a (m.run s).events (m.run s).state

section Achieves

variable {G : ε → Prop} {P P' : σ → Prop} {m : Traced σ ε α} {Q S : α → List ε → σ → Prop}

lemma Achieves.pure {a : α} (h : ∀ s, P s → Q a [] s) :
    Achieves G P (pure a : Traced σ ε α) Q := fun s hs _ => ⟨a, rfl, h s hs⟩

lemma Achieves.get {Q : σ → List ε → σ → Prop} (h : ∀ s, P s → Q s [] s) :
    Achieves G P (get : Traced σ ε σ) Q := fun s hs _ => ⟨s, rfl, h s hs⟩

lemma Achieves.modify {f : σ → σ} {Q : PUnit → List ε → σ → Prop} (h : ∀ s, P s → Q ⟨⟩ [] (f s)) :
    Achieves G P (modify f : Traced σ ε PUnit) Q := fun s hs _ => ⟨⟨⟩, rfl, h s hs⟩

lemma Achieves.emit {e : ε} {Q : PUnit → List ε → σ → Prop}
    (h : ∀ s, P s → G e → Q ⟨⟩ [e] s) : Achieves G P (emit e : Traced σ ε PUnit) Q :=
  fun s hs hG => ⟨⟨⟩, rfl, h s hs (hG e List.mem_cons_self)⟩

lemma Achieves.bind {f : α → Traced σ ε β} {R : β → List ε → σ → Prop} (hm : Achieves G P m Q)
    (hf : ∀ a es, Achieves G (Q a es) (f a) fun b es' s => R b (es ++ es') s) :
    Achieves G P (m >>= f) R := by
  intro s hs hG
  obtain ⟨a, hvalue, hQ⟩ := hm s hs fun e he => hG e (mem_events_bind he)
  rw [run_bind, Outcome.andThen, hvalue] at hG ⊢
  exact hf a _ _ hQ fun e he => hG e (List.mem_append_right _ he)

lemma Achieves.ite {c : Prop} [Decidable c] {m' : Traced σ ε α} (h : c → Achieves G P m Q)
    (h' : ¬ c → Achieves G P m' Q) : Achieves G P (if c then m else m') Q := by
  split_ifs with hc
  · exact h hc
  · exact h' hc

lemma Achieves.conseq (h : Achieves G P m Q) (hP : ∀ s, P' s → P s)
    (hQ : ∀ a es s, Q a es s → S a es s) : Achieves G P' m S := by
  intro s hs hG
  obtain ⟨a, hvalue, ha⟩ := h s (hP s hs) hG
  exact ⟨a, hvalue, hQ _ _ _ ha⟩

lemma Achieves.pre (h : Achieves G P m Q) (hP : ∀ s, P' s → P s) : Achieves G P' m Q :=
  h.conseq hP fun _ _ _ => id

lemma Achieves.post (h : Achieves G P m Q) (hQ : ∀ a es s, Q a es s → S a es s) :
    Achieves G P m S := h.conseq (fun _ => id) hQ

end Achieves

/-! ### Runs -/

/-- One program after the other. -/
def runAll : List (Traced σ ε PUnit) → Traced σ ε PUnit
  | [] => Pure.pure ⟨⟩
  | m :: ms => m >>= fun _ => runAll ms

/-- What every program keeps holds after every run. -/
lemma Keeps.runAll {ms : List (Traced σ ε PUnit)} (h : ∀ m ∈ ms, Keeps G I m) :
    Keeps G I (runAll ms) := by
  induction ms with
  | nil => exact Keeps.pure
  | cons m ms ih =>
    exact Keeps.bind (h m (by simp)) fun _ => ih fun m' hm' => h m' (by simp [hm'])

/-- What every program does, while it keeps what the others need, a run of them does. -/
lemma Effect.runAll {R : σ → List ε → σ → Prop} (hR : Composable R)
    {ms : List (Traced σ ε PUnit)} (hkeeps : ∀ m ∈ ms, Keeps G I m)
    (h : ∀ m ∈ ms, Effect G I m R) : Effect G I (runAll ms) R := by
  induction ms with
  | nil => exact Effect.pure hR
  | cons m ms ih =>
    exact (h m (by simp)).bind hR (hkeeps m (by simp)) fun _ =>
      ih (fun m' hm' => hkeeps m' (by simp [hm'])) fun m' hm' => h m' (by simp [hm'])

end Rules

end Traced
