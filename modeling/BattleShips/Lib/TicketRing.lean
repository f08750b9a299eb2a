import BattleShips.Lib.Transition
import Mathlib.Logic.Function.Basic
import Mathlib.Tactic

/-!
# Rings with tickets

A ring of `n` slots that threads put things into and get them from. A thread first claims a ticket,
the next number of its side, and then waits for its turn to go into the slot of the ticket, which is
the ticket modulo `n`. The turns of a slot are numbered: in its lap `k`, a put goes in at turn
`4 * k` and out at turn `4 * k + 1`, and a get goes in at turn `4 * k + 2` and out at turn
`4 * k + 3`, so that the ticket of a thread determines its turns.

If threads only go in when it is their turn, then no two of them are ever in one slot. A program
that tests less than the turn is safe along the runs in which its tests let threads in at their
turns, and it is shown to be so by a simulation of this system.

Values that go through the ring in this way are each got once, which a ledger of what has been put
and got shows.
-/

namespace BattleShips

open Function

namespace TicketRing

/-- Threads put or get. -/
inductive Side
  | put
  | get
  deriving DecidableEq

/-- A claimed ticket, and whether its thread is in the slot. -/
structure Claim where
  side : Side
  ticket : ℕ
  inside : Bool := false
  deriving DecidableEq

/-- A ring: the turn of each slot, the claim of each thread, and the next tickets. -/
structure Tickets (ι : Type*) where
  turn : ℕ → ℕ := fun _ => 0
  claim : ι → Option Claim := fun _ => none
  next : Side → ℕ := fun _ => 0

/-- What a thread does. -/
inductive Action
  | claim (side : Side)
  | enter
  | leave

variable {ι : Type*} [DecidableEq ι] {n : ℕ} {r r' : Tickets ι} {i j : ι} {c c' : Claim}

/-- The first turn of each side in a lap. -/
def Side.first : Side → ℕ
  | .put => 0
  | .get => 2

/-- The turn at which the thread goes into its slot, or, if it is inside, out of it. -/
def Claim.due (n : ℕ) (c : Claim) : ℕ :=
  4 * (c.ticket / n) + c.side.first + if c.inside then 1 else 0

/-- The thread claims the next ticket of its side. -/
def Tickets.take (r : Tickets ι) (i : ι) (side : Side) : Tickets ι where
  turn := r.turn
  claim := update r.claim i (some { side := side, ticket := r.next side })
  next := update r.next side (r.next side + 1)

@[simp] lemma Claim.due_put (n t : ℕ) : Claim.due n { side := .put, ticket := t } = 4 * (t / n) :=
  rfl

@[simp] lemma Claim.due_putting (n t : ℕ) :
    Claim.due n { side := .put, ticket := t, inside := true } = 4 * (t / n) + 1 := rfl

@[simp] lemma Claim.due_get (n t : ℕ) :
    Claim.due n { side := .get, ticket := t } = 4 * (t / n) + 2 := rfl

@[simp] lemma Claim.due_getting (n t : ℕ) :
    Claim.due n { side := .get, ticket := t, inside := true } = 4 * (t / n) + 3 := rfl

/-- The slot of `c` comes to its next turn, and the claim of the thread changes. -/
def Tickets.pass (n : ℕ) (r : Tickets ι) (i : ι) (c : Claim) (claim : Option Claim) :
    Tickets ι where
  turn := update r.turn (c.ticket % n) (r.turn (c.ticket % n) + 1)
  claim := update r.claim i claim
  next := r.next

/-- One step of the thread `i`. -/
def step (n : ℕ) (r : Tickets ι) : ι × Action → Option (Tickets ι)
  | (i, .claim side) => match r.claim i with
    | none => some (r.take i side)
    | some _ => none
  | (i, .enter) => match r.claim i with
    | none => none
    | some c =>
      if c.inside = false ∧ r.turn (c.ticket % n) = c.due n then
        some (r.pass n i c (some { c with inside := true }))
      else none
  | (i, .leave) => match r.claim i with
    | none => none
    | some c => if c.inside then some (r.pass n i c none) else none

/-- The ring of `n` slots, empty at first and without claims. -/
def system (ι : Type*) [DecidableEq ι] (n : ℕ) : System (Tickets ι) (ι × Action) where
  initial r := r = {}
  step := step n

/-- The turn of a claim and the slot of its ticket determine it. -/
lemma Claim.eq_of_due (hslot : c.ticket % n = c'.ticket % n) (hdue : c.due n = c'.due n) :
    c = c' := by
  obtain ⟨side, ticket, inside⟩ := c
  obtain ⟨side', ticket', inside'⟩ := c'
  have hparts : side = side' ∧ inside = inside' ∧ ticket / n = ticket' / n := by
    simp only [due] at hdue
    cases side <;> cases side' <;> cases inside <;> cases inside' <;>
      simp [Side.first] at hdue ⊢ <;> omega
  obtain ⟨rfl, rfl, hlap⟩ := hparts
  have hticket : ticket = ticket' := by
    rw [← Nat.div_add_mod ticket n, ← Nat.div_add_mod ticket' n, hlap, hslot]
  rw [hticket]

lemma Claim.due_inside (hinside : c.inside = false) :
    ({ c with inside := true } : Claim).due n = c.due n + 1 := by
  simp [due, hinside]

lemma step_claim {side : Side} (hclaim : r.claim i = none) :
    step n r (i, .claim side) = some (r.take i side) := by
  simp [step, hclaim]

lemma step_enter (hclaim : r.claim i = some c) (hinside : c.inside = false)
    (hturn : r.turn (c.ticket % n) = c.due n) :
    step n r (i, .enter) = some (r.pass n i c (some { c with inside := true })) := by
  simp [step, hclaim, hinside, hturn]

lemma step_leave (hclaim : r.claim i = some c) (hinside : c.inside = true) :
    step n r (i, .leave) = some (r.pass n i c none) := by
  simp [step, hclaim, hinside]

/-- What a step can do. -/
lemma step_cases {a : ι × Action} (h : step n r a = some r') :
    (∃ side, r.claim a.1 = none ∧ r' = r.take a.1 side) ∨
    ∃ c, r.claim a.1 = some c ∧
      (c.inside = false ∧ r.turn (c.ticket % n) = c.due n ∧
        r' = r.pass n a.1 c (some { c with inside := true }) ∨
      c.inside = true ∧ r' = r.pass n a.1 c none) := by
  obtain ⟨i, a⟩ := a
  cases a with
  | claim side =>
    left
    cases hclaim : r.claim i with
    | none => exact ⟨side, rfl, by simpa [step, hclaim] using h.symm⟩
    | some c => simp [step, hclaim] at h
  | enter =>
    right
    cases hclaim : r.claim i with
    | none => simp [step, hclaim] at h
    | some c =>
      simp only [step, hclaim] at h
      split_ifs at h with hc
      exact ⟨c, rfl, .inl ⟨hc.1, hc.2, (Option.some.inj h).symm⟩⟩
  | leave =>
    right
    cases hclaim : r.claim i with
    | none => simp [step, hclaim] at h
    | some c =>
      simp only [step, hclaim] at h
      split_ifs at h with hc
      exact ⟨c, rfl, .inr ⟨hc, (Option.some.inj h).symm⟩⟩

/-! ### The invariant -/

/-- The claim is one of a thread, or one that a thread may still come to make. -/
def Tickets.Outstanding (r : Tickets ι) (c : Claim) : Prop :=
  (∃ i, r.claim i = some c) ∨ c.inside = false ∧ r.next c.side ≤ c.ticket

/-- What holds of a ring whose threads only go in at their turns. -/
structure Tickets.Sound (n : ℕ) (r : Tickets ι) : Prop where
  ticket_lt : ∀ i c, r.claim i = some c → c.ticket < r.next c.side
  /-- No two threads of one side have the same ticket. -/
  unique : ∀ i j c c', r.claim i = some c → r.claim j = some c' → c.side = c'.side →
    c.ticket = c'.ticket → i = j
  turn_le : ∀ c, r.Outstanding c → r.turn (c.ticket % n) ≤ c.due n
  turn_eq : ∀ i c, r.claim i = some c → c.inside = true → r.turn (c.ticket % n) = c.due n
  /-- A ticket that no thread holds any more has had its turns. -/
  past : ∀ side ticket, ticket < r.next side →
    (∃ i inside, r.claim i = some { side, ticket, inside }) ∨
      Claim.due n { side, ticket, inside := true } < r.turn (ticket % n)
  /-- A slot in the middle of a put or get has a thread in it. -/
  occupied : ∀ s, r.turn s % 2 = 1 → ∃ i c, r.claim i = some c ∧ c.inside = true ∧
    c.ticket % n = s

namespace Tickets.Sound

omit [DecidableEq ι] in
lemma initial : ({} : Tickets ι).Sound n := by
  constructor <;> simp [Outstanding]

lemma take (h : r.Sound n) {side : Side} (hclaim : r.claim i = none) : (r.take i side).Sound n := by
  have hlt : ∀ side', r.next side' ≤ update r.next side (r.next side + 1) side' := by
    intro side'
    rcases eq_or_ne side' side with rfl | hne
    · simp
    · simp [hne]
  -- the claims afterwards are the new one and the ones before
  have hcases : ∀ j c, (r.take i side).claim j = some c →
      j = i ∧ c = { side := side, ticket := r.next side } ∨ j ≠ i ∧ r.claim j = some c := by
    intro j c hj
    rcases eq_or_ne j i with rfl | hne
    · left
      simpa [Tickets.take, eq_comm] using hj
    · right
      simpa [Tickets.take, hne] using hj
  constructor
  · intro j c hj
    rcases hcases j c hj with ⟨-, rfl⟩ | ⟨-, hj⟩
    · simp [Tickets.take]
    · exact (h.ticket_lt j c hj).trans_le (hlt _)
  · intro j k c c' hj hk hside hticket
    rcases hcases j c hj with ⟨rfl, rfl⟩ | ⟨-, hj⟩ <;>
      rcases hcases k c' hk with ⟨rfl, rfl⟩ | ⟨-, hk⟩
    · rfl
    · have := h.ticket_lt k c' hk
      rw [← hside, ← hticket] at this
      exact absurd this (lt_irrefl _)
    · have := h.ticket_lt j c ‹_›
      rw [hside, hticket] at this
      exact absurd this (lt_irrefl _)
    · exact h.unique j k c c' hj hk hside hticket
  · intro c hc
    apply h.turn_le c
    rcases hc with ⟨j, hj⟩ | ⟨hinside, hnext⟩
    · rcases hcases j c hj with ⟨-, rfl⟩ | ⟨-, hj⟩
      · exact .inr ⟨rfl, le_rfl⟩
      · exact .inl ⟨j, hj⟩
    · exact .inr ⟨hinside, (hlt _).trans hnext⟩
  · intro j c hj hinside
    rcases hcases j c hj with ⟨-, rfl⟩ | ⟨-, hj⟩
    · simp at hinside
    · exact h.turn_eq j c hj hinside
  · intro side' ticket hticket
    by_cases hnew : side' = side ∧ ticket = r.next side
    · obtain ⟨rfl, rfl⟩ := hnew
      exact .inl ⟨i, false, by simp [Tickets.take]⟩
    · have hold : ticket < r.next side' := by
        rcases eq_or_ne side' side with rfl | hne
        · have : ticket < r.next side' + 1 := by simpa [Tickets.take] using hticket
          have : ticket ≠ r.next side' := fun heq => hnew ⟨rfl, heq⟩
          omega
        · simpa [Tickets.take, hne] using hticket
      refine (h.past side' ticket hold).imp_left ?_
      rintro ⟨j, inside, hj⟩
      refine ⟨j, inside, ?_⟩
      have hne : j ≠ i := by
        rintro rfl
        simp [hclaim] at hj
      simpa [Tickets.take, hne] using hj
  · intro s hs
    obtain ⟨j, c, hj, hinside, hslot⟩ := h.occupied s hs
    refine ⟨j, c, ?_, hinside, hslot⟩
    have hne : j ≠ i := by
      rintro rfl
      simp [hclaim] at hj
    simpa [Tickets.take, hne] using hj

omit [DecidableEq ι] in
/-- While it is the turn of one thread, there is no other in its slot. -/
lemma slot_ne (h : r.Sound n) (hi : r.claim i = some c) (hturn : r.turn (c.ticket % n) = c.due n)
    (hj : r.claim j = some c') (hinside : c'.inside = true) (hne : j ≠ i) :
    c'.ticket % n ≠ c.ticket % n := by
  intro hslot
  have hdue : c'.due n = c.due n := by rw [← h.turn_eq j c' hj hinside, hslot, hturn]
  obtain rfl := Claim.eq_of_due hslot hdue
  exact hne (h.unique j i c' c' hj hi rfl rfl)

/-- A thread goes into its slot at its turn, or out of it. -/
lemma pass (h : r.Sound n) (hclaim : r.claim i = some c) (hturn : r.turn (c.ticket % n) = c.due n)
    {claim : Option Claim} (hnew : c.inside = false ∧ claim = some { c with inside := true } ∨
      c.inside = true ∧ claim = none) : (r.pass n i c claim).Sound n := by
  have hself : (r.pass n i c claim).turn (c.ticket % n) = c.due n + 1 := by
    simp [Tickets.pass, hturn]
  have hother : ∀ s, s ≠ c.ticket % n → (r.pass n i c claim).turn s = r.turn s := by
    intro s hs
    simp [Tickets.pass, hs]
  have hcases : ∀ j c', (r.pass n i c claim).claim j = some c' →
      j = i ∧ c.inside = false ∧ c' = { c with inside := true } ∨ j ≠ i ∧ r.claim j = some c' := by
    intro j c' hj
    rcases eq_or_ne j i with rfl | hne
    · left
      rcases hnew with ⟨hinside, rfl⟩ | ⟨-, rfl⟩
      · exact ⟨rfl, hinside, by simpa [Tickets.pass, eq_comm] using hj⟩
      · simp [Tickets.pass] at hj
    · right
      simpa [Tickets.pass, hne] using hj
  have hkept : ∀ j c', j ≠ i → r.claim j = some c' → (r.pass n i c claim).claim j = some c' := by
    intro j c' hne hj
    simpa [Tickets.pass, hne] using hj
  have hlt := h.ticket_lt i c hclaim
  -- a claim for the same slot that is not due yet is due later
  have hlater : ∀ c', r.Outstanding c' → c' ≠ c →
      (r.pass n i c claim).turn (c'.ticket % n) ≤ c'.due n := by
    intro c' hc' hne
    have hle := h.turn_le c' hc'
    by_cases hslot : c'.ticket % n = c.ticket % n
    · rw [hslot, hturn] at hle
      rw [hslot, hself]
      have : c'.due n ≠ c.due n := fun heq => hne (Claim.eq_of_due hslot heq)
      omega
    · rwa [hother _ hslot]
  have hne_of_claim : ∀ j c', j ≠ i → r.claim j = some c' →
      ¬ (c'.side = c.side ∧ c'.ticket = c.ticket) := by
    rintro j c' hne hj ⟨hside, hticket⟩
    exact hne (h.unique j i c' c hj hclaim hside hticket)
  constructor
  · intro j c' hj
    rcases hcases j c' hj with ⟨-, -, rfl⟩ | ⟨-, hj⟩
    · exact hlt
    · exact h.ticket_lt j c' hj
  · intro j k c₁ c₂ hj hk hside hticket
    rcases hcases j c₁ hj with ⟨rfl, -, rfl⟩ | ⟨hji, hj⟩ <;>
      rcases hcases k c₂ hk with ⟨rfl, -, rfl⟩ | ⟨hki, hk⟩
    · rfl
    · exact absurd ⟨hside.symm, hticket.symm⟩ (hne_of_claim k c₂ hki hk)
    · exact absurd ⟨hside, hticket⟩ (hne_of_claim j c₁ hji ‹_›)
    · exact h.unique j k c₁ c₂ hj hk hside hticket
  · intro c' hc'
    rcases hc' with ⟨j, hj⟩ | ⟨hinside, hnext⟩
    · rcases hcases j c' hj with ⟨-, hinside, rfl⟩ | ⟨hne, hj⟩
      · rw [hself, Claim.due_inside hinside]
      · refine hlater c' (.inl ⟨j, hj⟩) ?_
        rintro rfl
        exact hne_of_claim j c' hne ‹_› ⟨rfl, rfl⟩
    · refine hlater c' (.inr ⟨hinside, hnext⟩) ?_
      rintro rfl
      exact absurd hlt (not_lt.2 hnext)
  · intro j c' hj hinside
    rcases hcases j c' hj with ⟨-, hc, rfl⟩ | ⟨hne, hj⟩
    · rw [hself, Claim.due_inside hc]
    · rw [hother _ (h.slot_ne hclaim hturn hj hinside hne)]
      exact h.turn_eq j c' hj hinside
  · intro side ticket hticket
    by_cases hsame : side = c.side ∧ ticket = c.ticket
    · obtain ⟨rfl, rfl⟩ := hsame
      rcases hnew with ⟨-, rfl⟩ | ⟨hinside, rfl⟩
      · exact .inl ⟨i, true, by simp [Tickets.pass]⟩
      · right
        rw [hself, ← hinside]
        exact Nat.lt_succ_self _
    · rcases h.past side ticket hticket with ⟨j, inside, hj⟩ | hpast
      · refine .inl ⟨j, inside, hkept j _ ?_ hj⟩
        rintro rfl
        obtain rfl : c = _ := Option.some.inj (hclaim.symm.trans hj)
        exact hsame ⟨rfl, rfl⟩
      · right
        by_cases hslot : ticket % n = c.ticket % n
        · rw [hslot, hself]
          rw [hslot, hturn] at hpast
          omega
        · rwa [hother _ hslot]
  · intro s hs
    by_cases hslot : s = c.ticket % n
    · subst hslot
      rw [hself] at hs
      rcases hnew with ⟨hinside, rfl⟩ | ⟨hinside, rfl⟩
      · exact ⟨i, { c with inside := true }, by simp [Tickets.pass], rfl, rfl⟩
      · exfalso
        cases hside : c.side <;> simp [Claim.due, hinside, hside, Side.first] at hs <;> omega
    · rw [hother s hslot] at hs
      obtain ⟨j, c', hj, hinside, hc'⟩ := h.occupied s hs
      refine ⟨j, c', hkept j c' ?_ hj, hinside, hc'⟩
      rintro rfl
      obtain rfl : c = c' := Option.some.inj (hclaim.symm.trans hj)
      exact hslot hc'.symm

end Tickets.Sound

/-- In every reachable ring. -/
lemma sound_of_reachable {G : Tickets ι → ι × Action → Prop} (h : (system ι n).Reachable G r) :
    r.Sound n := by
  refine h.invariant (fun r hr => ?_) fun r a r' _ hr _ hstep => ?_
  · obtain rfl := hr
    exact .initial
  · rcases step_cases hstep with
      ⟨side, hclaim, rfl⟩ | ⟨c, hclaim, ⟨hinside, hturn, rfl⟩ | ⟨hinside, rfl⟩⟩
    · exact hr.take hclaim
    · exact hr.pass hclaim hturn (.inl ⟨hinside, rfl⟩)
    · exact hr.pass hclaim (hr.turn_eq _ c hclaim hinside) (.inr ⟨hinside, rfl⟩)

/-! ### Values -/

/-- What goes through a ring: a list of the values that have been put, in the order of their
tickets, and one of those that have been got, with their tickets. -/
structure Ledger {α : Type*} (n : ℕ) (r : Tickets ι) (puts : List α) (gets : List (ℕ × α)) :
    Prop where
  length : puts.length = r.next .put
  nodup : (gets.map Prod.fst).Nodup
  returned : ∀ y ∈ gets, puts[y.1]? = some y.2 ∧
    Claim.due n { side := .get, ticket := y.1, inside := true } < r.turn (y.1 % n)
  /-- A get that is over has returned its value. -/
  past : ∀ t, Claim.due n { side := .get, ticket := t, inside := true } < r.turn (t % n) →
    ∃ x, (t, x) ∈ gets

namespace Ledger

variable {α : Type*} {puts : List α} {gets : List (ℕ × α)} {x : α} {claim : Option Claim}

lemma getElem?_append_of_some {xs ys : List α} {t : ℕ} (h : xs[t]? = some x) :
    (xs ++ ys)[t]? = some x := by
  rw [List.getElem?_append_left (List.getElem?_eq_some_iff.1 h).1, h]

omit [DecidableEq ι] in
lemma initial : Ledger n ({} : Tickets ι) ([] : List α) [] where
  length := rfl
  nodup := .nil
  returned := nofun
  past := nofun

lemma take_put (h : Ledger n r puts gets) :
    Ledger n (r.take i .put) (puts ++ [x]) gets where
  length := by simp [Tickets.take, h.length]
  nodup := h.nodup
  returned y hy := ⟨getElem?_append_of_some (h.returned y hy).1, (h.returned y hy).2⟩
  past := h.past

lemma take_get (h : Ledger n r puts gets) :
    Ledger n (r.take i .get) puts gets where
  length := by simp [Tickets.take, h.length]
  nodup := h.nodup
  returned := h.returned
  past := h.past

lemma turn_le_pass (r : Tickets ι) (i : ι) (c : Claim) (claim : Option Claim) (s : ℕ) :
    r.turn s ≤ (r.pass n i c claim).turn s := by
  simp only [Tickets.pass, update_apply]
  split_ifs with hs
  · rw [hs]
    exact Nat.le_succ _
  · exact le_rfl

/-- A get is over after a turn of its slot if it was before, or if the turn was its last. -/
lemma past_of_pass {t : ℕ} (hturn : r.turn (c.ticket % n) = c.due n)
    (h : Claim.due n { side := .get, ticket := t, inside := true } <
      (r.pass n i c claim).turn (t % n)) :
    Claim.due n { side := .get, ticket := t, inside := true } < r.turn (t % n) ∨
      c = { side := .get, ticket := t, inside := true } := by
  simp only [Tickets.pass, update_apply] at h
  split_ifs at h with hslot
  · rw [hturn] at h
    rw [hslot, hturn]
    rcases Nat.lt_succ_iff_lt_or_eq.1 h with hlt | heq
    · exact .inl hlt
    · exact .inr (Claim.eq_of_due hslot.symm heq.symm)
  · exact .inl h

/-- A turn with which no get is over. -/
lemma pass (h : Ledger n r puts gets) (hturn : r.turn (c.ticket % n) = c.due n)
    (hc : c.side = .put ∨ c.inside = false) : Ledger n (r.pass n i c claim) puts gets where
  length := h.length
  nodup := h.nodup
  returned y hy := ⟨(h.returned y hy).1, (h.returned y hy).2.trans_le (turn_le_pass r i c claim _)⟩
  past t ht := by
    rcases past_of_pass hturn ht with hlt | rfl
    · exact h.past t hlt
    · simp at hc

/-- The last turn of a get. -/
lemma pass_get {t : ℕ} (h : Ledger n r puts gets)
    (hturn : r.turn (t % n) = Claim.due n { side := .get, ticket := t, inside := true })
    (hx : puts[t]? = some x) :
    Ledger n (r.pass n i { side := .get, ticket := t, inside := true } claim) puts
      (gets ++ [(t, x)]) where
  length := h.length
  nodup := by
    rw [List.map_append, List.nodup_append']
    refine ⟨h.nodup, List.nodup_singleton _, ?_⟩
    simp only [List.map_cons, List.map_nil, List.disjoint_singleton, List.mem_map, not_exists]
    rintro y ⟨hy, rfl⟩
    exact absurd (h.returned y hy).2 (by simp [hturn])
  returned y hy := by
    rcases List.mem_append.1 hy with hy | hy
    · exact ⟨(h.returned y hy).1, (h.returned y hy).2.trans_le (turn_le_pass r i _ claim _)⟩
    · obtain rfl := List.mem_singleton.1 hy
      exact ⟨hx, by simp [Tickets.pass, hturn]⟩
  past t' ht' := by
    rcases past_of_pass (c := { side := .get, ticket := t, inside := true }) hturn ht' with
      hlt | heq
    · obtain ⟨y, hy⟩ := h.past t' hlt
      exact ⟨y, List.mem_append_left _ hy⟩
    · obtain rfl : t = t' := congrArg Claim.ticket heq
      exact ⟨x, by simp⟩

omit [DecidableEq ι] in
/-- How far a value has got that has been put: its put is not over, it is in its slot, its get is in
the slot, or it has been got. -/
lemma stage (h : Ledger n r puts gets) (hr : r.Sound n) {t : ℕ}
    (hx : puts[t]? = some x) :
    (∃ i inside, r.claim i = some { side := .put, ticket := t, inside }) ∨
    r.turn (t % n) = 4 * (t / n) + 2 ∨
    (∃ i, r.claim i = some { side := .get, ticket := t, inside := true }) ∨
    (t, x) ∈ gets := by
  have ht : t < r.next .put := by
    rw [← h.length]
    exact (List.getElem?_eq_some_iff.1 hx).1
  rcases hr.past .put t ht with hputting | hpast
  · exact .inl hputting
  right
  rw [Claim.due_putting] at hpast
  rcases Nat.lt_trichotomy (r.turn (t % n)) (4 * (t / n) + 3) with hlt | heq | hgt
  · exact .inl (by omega)
  · obtain ⟨i, c, hclaim, hinside, hslot⟩ := hr.occupied (t % n) (by omega)
    have hdue := hr.turn_eq i c hclaim hinside
    rw [hslot, heq] at hdue
    obtain rfl : c = { side := .get, ticket := t, inside := true } :=
      Claim.eq_of_due hslot hdue.symm
    exact .inr (.inl ⟨i, hclaim⟩)
  · obtain ⟨y, hy⟩ := h.past t (by rwa [Claim.due_getting])
    obtain rfl : y = x := Option.some.inj ((h.returned _ hy).1.symm.trans hx)
    exact .inr (.inr hy)

end Ledger

end TicketRing

end BattleShips
