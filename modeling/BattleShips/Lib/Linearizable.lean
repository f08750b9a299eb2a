import BattleShips.Lib.Transition
import Mathlib.Logic.Function.Basic

/-!
# Objects whose calls overlap

An object that threads call at the same time is understood through one whose calls take effect at a
single moment each, between the call and the return. A history of calls and returns is linearizable
if it is one of such an object.

A call may be allowed to fail for no other reason than that another call has changed the value since
it was made: the object keeps track of which of its calls are contended in this way.
-/

namespace BattleShips

open Function

/-- What a thread does: it makes a call, the call takes effect, and the call returns. -/
inductive CallEvent (ι κ ρ : Type*)
  | call (i : ι) (c : κ)
  | effect (i : ι) (r : ρ)
  | ret (i : ι) (r : ρ)
  deriving DecidableEq

/-- The calls and returns are what the threads see. -/
def CallEvent.visible {ι κ ρ : Type*} : CallEvent ι κ ρ → Bool
  | .effect _ _ => false
  | _ => true

/-- Where a thread is with its call. -/
inductive CallStatus (κ ρ : Type*)
  | idle
  | called (c : κ) (contended : Bool)
  | done (r : ρ)

/-- What the calls of an object return and do. -/
structure ObjectSpec (τ κ ρ : Type*) where
  allowed : τ → κ → ρ → Prop
  /-- What a call may also return if another one has changed the value since it was made. -/
  contended : κ → ρ → Prop
  /-- The value after the call, if the call changes it. -/
  next : τ → κ → ρ → Option τ

/-- The value of an object, and its threads. -/
structure Atomic (ι τ κ ρ : Type*) where
  value : τ
  thread : ι → CallStatus κ ρ := fun _ => .idle

variable {ι τ κ ρ σ α : Type*}

def CallStatus.contend : CallStatus κ ρ → CallStatus κ ρ
  | .called c _ => .called c true
  | status => status

/-- The call has not taken effect, and what it has found out still holds unless it is contended. -/
def CallStatus.Awaits (c : κ) (found : Prop) (status : CallStatus κ ρ) : Prop :=
  ∃ contended, status = .called c contended ∧ (found ∨ contended = true)

lemma CallStatus.Awaits.contend {c : κ} {found found' : Prop} {status : CallStatus κ ρ}
    (h : status.Awaits c found) : status.contend.Awaits c found' := by
  obtain ⟨contended, rfl, -⟩ := h
  exact ⟨true, rfl, .inr rfl⟩

lemma CallStatus.Awaits.imp {c : κ} {found found' : Prop} {status : CallStatus κ ρ}
    (h : status.Awaits c found) (himp : found → found') : status.Awaits c found' := by
  obtain ⟨contended, hstatus, hfound⟩ := h
  exact ⟨contended, hstatus, hfound.imp_left himp⟩

namespace Atomic

variable [DecidableEq ι] {spec : ObjectSpec τ κ ρ} {a a' b : Atomic ι τ κ ρ}

def goto (a : Atomic ι τ κ ρ) (i : ι) (status : CallStatus κ ρ) : Atomic ι τ κ ρ :=
  { a with thread := update a.thread i status }

/-- The value changes, and the calls that have not taken effect are contended. -/
def change (a : Atomic ι τ κ ρ) (value : τ) : Atomic ι τ κ ρ where
  value := value
  thread i := (a.thread i).contend

/-- The object after the call of `i` has taken effect. -/
def afterEffect (spec : ObjectSpec τ κ ρ) (a : Atomic ι τ κ ρ) (i : ι) (c : κ) (r : ρ) :
    Atomic ι τ κ ρ :=
  (((spec.next a.value c r).map a.change).getD a).goto i (.done r)

/-- A step of the object: a call takes effect at one moment. -/
inductive Step (spec : ObjectSpec τ κ ρ) (a : Atomic ι τ κ ρ) :
    CallEvent ι κ ρ → Atomic ι τ κ ρ → Prop
  | call {i : ι} {c : κ} (hidle : a.thread i = .idle) :
      Step spec a (.call i c) (a.goto i (.called c false))
  | effect {i : ι} {c : κ} {r : ρ} {contended : Bool} (hcalled : a.thread i = .called c contended)
      (hallowed : spec.allowed a.value c r ∨ contended = true ∧ spec.contended c r) :
      Step spec a (.effect i r) (a.afterEffect spec i c r)
  | ret {i : ι} {r : ρ} (hdone : a.thread i = .done r) :
      Step spec a (.ret i r) (a.goto i .idle)

/-- Steps with these events. -/
inductive Run (spec : ObjectSpec τ κ ρ) (a : Atomic ι τ κ ρ) :
    List (CallEvent ι κ ρ) → Atomic ι τ κ ρ → Prop
  | nil : Run spec a [] a
  | snoc {events : List (CallEvent ι κ ρ)} {event : CallEvent ι κ ρ} {b b' : Atomic ι τ κ ρ}
      (hrun : Run spec a events b) (hstep : Step spec b event b') :
      Run spec a (events ++ [event]) b'

/-- A call that fails leaves the value. -/
lemma effect_of_awaits {i : ι} {c : κ} {r : ρ} {found : Prop}
    (hawaits : (a.thread i).Awaits c found)
    (hallowed : found → spec.allowed a.value c r) (hcontended : spec.contended c r)
    (hnext : spec.next a.value c r = none) :
    Step spec a (.effect i r) (a.goto i (.done r)) := by
  obtain ⟨contended, hthread, hfound⟩ := hawaits
  have hstep := Step.effect hthread (hfound.imp hallowed fun h => ⟨h, hcontended⟩)
  rwa [afterEffect, hnext] at hstep

/-- A call goes through. -/
lemma effect_of_allowed {i : ι} {c : κ} {r : ρ} {found : Prop} {value : τ}
    (hawaits : (a.thread i).Awaits c found) (hallowed : spec.allowed a.value c r)
    (hnext : spec.next a.value c r = some value) :
    Step spec a (.effect i r) ((a.change value).goto i (.done r)) := by
  obtain ⟨contended, hthread, -⟩ := hawaits
  have hstep := Step.effect hthread (.inl hallowed)
  rwa [afterEffect, hnext] at hstep

lemma Step.run {event : CallEvent ι κ ρ} (h : Step spec a event a') : Run spec a [event] a' :=
  .snoc .nil h

lemma Run.append {events events' : List (CallEvent ι κ ρ)} (h : Run spec a events a')
    (h' : Run spec a' events' b) : Run spec a (events ++ events') b := by
  induction h' with
  | nil => simpa using h
  | snoc _ hstep ih =>
    rw [← List.append_assoc]
    exact ih.snoc hstep

end Atomic

/-- The threads see calls and returns of an object whose calls each take effect at one moment. -/
def Linearizable [DecidableEq ι] (spec : ObjectSpec τ κ ρ) (value : τ)
    (history : List (CallEvent ι κ ρ)) : Prop :=
  ∃ (events : List (CallEvent ι κ ρ)) (a : Atomic ι τ κ ρ),
    Atomic.Run spec { value := value } events a ∧ events.filter CallEvent.visible = history

/-! ### Systems that follow an object -/

/-- The system with the calls and returns so far. -/
def System.observed (S : System σ α) (event : σ → α → List (CallEvent ι κ ρ)) :
    System (σ × List (CallEvent ι κ ρ)) α :=
  S.withHistory [] fun history s a _ => history ++ event s a

/-- For every step of the system there are steps of the object that look the same. -/
structure FollowsObject [DecidableEq ι] (S : System σ α) (G : σ → α → Prop)
    (event : σ → α → List (CallEvent ι κ ρ)) (spec : ObjectSpec τ κ ρ) (value : τ)
    (R : σ → Atomic ι τ κ ρ → Prop) : Prop where
  initial : ∀ s, S.initial s → R s { value := value }
  step : ∀ s a s' b, S.Reachable G s → R s b → G s a → S.step s a = some s' →
    ∃ events b', Atomic.Run spec b events b' ∧ events.filter CallEvent.visible = event s a ∧
      R s' b'

/-- What the threads of such a system see is linearizable. -/
theorem FollowsObject.linearizable [DecidableEq ι] {S : System σ α} {G : σ → α → Prop}
    {event : σ → α → List (CallEvent ι κ ρ)} {spec : ObjectSpec τ κ ρ} {value : τ}
    {R : σ → Atomic ι τ κ ρ → Prop} (h : FollowsObject S G event spec value R) {s : σ}
    {history : List (CallEvent ι κ ρ)}
    (hreach : (S.observed event).Reachable (fun s a => G s.1 a) (s, history)) :
    Linearizable spec value history := by
  suffices hsuffices : S.Reachable G s ∧ ∃ events b,
      Atomic.Run spec { value := value } events b ∧
        events.filter CallEvent.visible = history ∧ R s b by
    obtain ⟨-, events, b, hrun, hvisible, -⟩ := hsuffices
    exact ⟨events, b, hrun, hvisible⟩
  refine hreach.invariant (I := fun s => S.Reachable G s.1 ∧ ∃ events b,
    Atomic.Run spec { value := value } events b ∧
      events.filter CallEvent.visible = s.2 ∧ R s.1 b) ?_ ?_
  · rintro ⟨s, _⟩ ⟨hinitial, rfl⟩
    exact ⟨.of_initial hinitial, [], _, .nil, rfl, h.initial s hinitial⟩
  · rintro ⟨s, _⟩ a ⟨s', history'⟩ - ⟨hs, events, b, hrun, rfl, hb⟩ hG hstep
    obtain ⟨hstep, rfl⟩ := System.withHistory_step.1 hstep
    obtain ⟨events', b', hrun', hvisible, hb'⟩ := h.step s a s' b hs hb hG hstep
    exact ⟨hs.step hG hstep, events ++ events', b', hrun.append hrun', by
      rw [List.filter_append, hvisible], hb'⟩

end BattleShips
