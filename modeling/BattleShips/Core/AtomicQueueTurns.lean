import BattleShips.Core.AtomicQueueSteps

/-!
# The turns of the queue

The indices of `AtomicQueue` are tickets of a ring, and the invariant of the runs in which threads
go into the slots at their turns: a thread that leaves its wait for the slot of an index does so
when all that has used the slot for earlier indices is out of it. At each turn it says what is in
the slot and what the thread in it relies on.
-/

namespace BattleShips

open Function TicketRing

variable {α : Type*} {s s' : QueueState α} {i j : ℕ} {pc : QueuePc α}

/-! ### What the threads of the queue are up to -/

/-- What a thread has claimed, and whether it is in the slot. -/
def QueuePc.claim : QueuePc α → Option Claim
  | .pushWait _ t | .pushCheck _ t => some { side := .put, ticket := t }
  | .pushEmplace _ t | .pushStore _ t => some { side := .put, ticket := t, inside := true }
  | .popWait h | .popCheck h => some { side := .get, ticket := h }
  | .popTake h | .popClear h _ | .popClearAgain h _ =>
    some { side := .get, ticket := h, inside := true }
  | _ => none

/-- What a thread relies on about the slot of its index and about what has been accepted. -/
def QueuePc.Fits (slot : ℕ → AtomicSlot α) (accepted : List α) : QueuePc α → Prop
  | .pushWait x t | .pushCheck x t => accepted[t]? = some x
  | .pushEmplace x t => accepted[t]? = some x ∧
    (slot (normilizeRingSlot t)).isInitialized = false ∧
    (slot (normilizeRingSlot t)).untaken = false
  | .pushStore x t => accepted[t]? = some x ∧
    (slot (normilizeRingSlot t)).isInitialized = false ∧
    (slot (normilizeRingSlot t)).untaken = true ∧
    (slot (normilizeRingSlot t)).object = some (t, x)
  | .popTake h => (slot (normilizeRingSlot h)).isInitialized = true ∧
    (slot (normilizeRingSlot h)).untaken = true ∧
    ∃ x, (slot (normilizeRingSlot h)).object = some (h, x) ∧ accepted[h]? = some x
  | .popClear h data | .popClearAgain h data =>
    (slot (normilizeRingSlot h)).untaken = false ∧ data.1 = h ∧ accepted[h]? = some data.2
  | _ => True

/-- Only the slot that the thread is in matters to it. -/
lemma QueuePc.Fits.congr {slot slot' : ℕ → AtomicSlot α} {accepted accepted' : List α}
    (h : pc.Fits slot accepted)
    (hslot : ∀ c, pc.claim = some c → c.inside = true →
      slot' (normilizeRingSlot c.ticket) = slot (normilizeRingSlot c.ticket))
    (haccepted : ∀ (t : ℕ) (x : α), accepted[t]? = some x → accepted'[t]? = some x) :
    pc.Fits slot' accepted' := by
  cases pc with
  | pushWait x t | pushCheck x t => exact haccepted t x h
  | pushEmplace x t | pushStore x t =>
    simp only [Fits] at h ⊢
    rw [hslot _ rfl rfl]
    exact ⟨haccepted t x h.1, h.2⟩
  | popTake t =>
    obtain ⟨hflag, huntaken, x, hobject, hx⟩ := h
    simp only [Fits]
    rw [hslot _ rfl rfl]
    exact ⟨hflag, huntaken, x, hobject, haccepted t x hx⟩
  | popClear t data | popClearAgain t data =>
    simp only [Fits] at h ⊢
    rw [hslot _ rfl rfl]
    exact ⟨h.1, h.2.1, haccepted t _ h.2.2⟩
  | _ => trivial

namespace QueueState

/-- The turns and claims of the queue. -/
def tickets (s : QueueState α) : Tickets ℕ where
  turn n := (s.slot n).turn
  claim i := (s.thread i).claim
  next
    | .put => s.tail
    | .get => s.head

lemma turn_tickets (s : QueueState α) (t : ℕ) :
    s.tickets.turn (t % ringBufferSize) = (s.slotOf t).turn := by
  rw [slotOf, normilizeRingSlot_eq]
  rfl

/-- What a thread has claimed whose next step takes it into its slot: the flag is as it waits for
it. -/
def enters (s : QueueState α) (i : ℕ) : Option Claim :=
  match s.thread i with
  | .pushCheck _ t =>
    if (s.slotOf t).isInitialized then none else some { side := .put, ticket := t }
  | .popCheck t => if (s.slotOf t).isInitialized then some { side := .get, ticket := t } else none
  | _ => none

lemma claim_of_enters {c : Claim} (h : c ∈ s.enters i) :
    (s.thread i).claim = some c ∧ c.inside = false := by
  simp only [enters] at h
  split at h <;> try split at h
  all_goals first
    | contradiction
    | obtain rfl := Option.some.inj h
      simp_all [QueuePc.claim]

/-- A thread that goes into its slot does so at its turn. -/
def InTurn (s : QueueState α) (a : ℕ × QueueAction α) : Prop :=
  ∀ c ∈ s.enters a.1, (s.slotOf c.ticket).turn = c.due ringBufferSize

instance (s : QueueState α) (a : ℕ × QueueAction α) : Decidable (s.InTurn a) :=
  inferInstanceAs (Decidable (∀ c ∈ s.enters a.1, _))

/-- What the thread `i` can do in a step. -/
inductive Stepped (s : QueueState α) (i : ℕ) : QueueState α → Prop
  | goto {pc : QueuePc α} (hclaim : pc.claim = (s.thread i).claim)
      (hfits : ∀ slot accepted, (s.thread i).Fits slot accepted → pc.Fits slot accepted) :
      Stepped s i (s.goto i pc)
  | claimPush {x : α} {t : ℕ} (hpc : s.thread i = .pushClaim x t) :
      Stepped s i (s.claimTail i x)
  | claimPop {t : ℕ} (hpc : s.thread i = .popClaim t) :
      Stepped s i (s.claimHead i)
  | enterPush {x : α} {t : ℕ} (hpc : s.thread i = .pushCheck x t)
      (hflag : (s.slotOf t).isInitialized = false) :
      Stepped s i (s.touch i (.pushEmplace x t) t
        { s.slotOf t with turn := (s.slotOf t).turn + 1 })
  | emplace {x : α} {t : ℕ} (hpc : s.thread i = .pushEmplace x t) :
      Stepped s i (s.touch i (.pushStore x t) t
        { s.slotOf t with object := some (t, x), untaken := true })
  | store {x : α} {t : ℕ} (hpc : s.thread i = .pushStore x t) :
      Stepped s i (s.touch i (.pushed true) t
        { s.slotOf t with isInitialized := true, turn := (s.slotOf t).turn + 1 })
  | enterPop {t : ℕ} (hpc : s.thread i = .popCheck t)
      (hflag : (s.slotOf t).isInitialized = true) :
      Stepped s i (s.touch i (.popTake t) t
        { s.slotOf t with turn := (s.slotOf t).turn + 1 })
  | take {t : ℕ} {data : ℕ × α} (hpc : s.thread i = .popTake t)
      (hobject : (s.slotOf t).object = some data) :
      Stepped s i (s.touch i (.popClear t data) t { s.slotOf t with untaken := false })
  | clear {t : ℕ} {data : ℕ × α} (hpc : s.thread i = .popClear t data) :
      Stepped s i (s.touch i (.popClearAgain t data) t
        { s.slotOf t with isInitialized := false })
  | clearAgain {t : ℕ} {data : ℕ × α} (hpc : s.thread i = .popClearAgain t data) :
      Stepped s i { s.touch i (.popped (some data)) t
          { s.slotOf t with isInitialized := false, turn := (s.slotOf t).turn + 1 } with
        returned := s.returned ++ [data] }

lemma stepped_of_next (h : s.next i = some s') : s.Stepped i s' := by
  cases hpc : s.thread i <;> simp only [next, hpc] at h <;> try split at h
  case h_1 t _ data hobject =>
    obtain rfl := Option.some.inj h
    exact .take hpc hobject
  case pushClaim.isTrue x t _ =>
    obtain rfl := Option.some.inj h
    exact .claimPush hpc
  case popClaim.isTrue t _ =>
    obtain rfl := Option.some.inj h
    exact .claimPop hpc
  case pushCheck.isFalse x t hflag =>
    obtain rfl := Option.some.inj h
    exact .enterPush hpc (by simpa using hflag)
  case popCheck.isTrue t hflag =>
    obtain rfl := Option.some.inj h
    exact .enterPop hpc hflag
  case pushEmplace x t =>
    obtain rfl := Option.some.inj h
    exact .emplace hpc
  case pushStore x t =>
    obtain rfl := Option.some.inj h
    exact .store hpc
  case popClear t data =>
    obtain rfl := Option.some.inj h
    exact .clear hpc
  case popClearAgain t data =>
    obtain rfl := Option.some.inj h
    exact .clearAgain hpc
  all_goals first
    | contradiction
    | obtain rfl := Option.some.inj h
      exact .goto (by rw [hpc]; rfl) (by rw [hpc]; exact fun _ _ hfits => hfits)

lemma stepped {a : ℕ × QueueAction α} (h : s.step a = some s') : s.Stepped a.1 s' := by
  obtain ⟨i, a⟩ := a
  cases a with
  | next => exact stepped_of_next h
  | push x =>
    cases hpc : s.thread i <;> simp only [step, hpc, reduceCtorEq] at h
    obtain rfl := Option.some.inj h
    exact .goto (by rw [hpc]; rfl) (by simp [QueuePc.Fits])
  | pop =>
    cases hpc : s.thread i <;> simp only [step, hpc, reduceCtorEq] at h
    obtain rfl := Option.some.inj h
    exact .goto (by rw [hpc]; rfl) (by simp [QueuePc.Fits])
  | leave =>
    cases hpc : s.thread i <;> simp only [step, hpc, reduceCtorEq] at h <;>
      obtain rfl := Option.some.inj h <;>
      exact .goto (by rw [hpc]; rfl) (by simp [QueuePc.Fits])

/-- A step is one of its own thread. -/
lemma thread_of_ne {a : ℕ × QueueAction α} (h : s.step a = some s') (hne : j ≠ a.1) :
    s'.thread j = s.thread j := by
  cases stepped h <;> exact update_of_ne hne _ _

lemma tail_le {a : ℕ × QueueAction α} (h : s.step a = some s') : s.tail ≤ s'.tail := by
  cases stepped h
  case claimPush => exact Nat.le_succ _
  all_goals exact le_rfl

/-! ### Runs in which threads keep to their turns -/

lemma tickets_initial : ({} : QueueState α).tickets = {} := by
  rw [QueueState.tickets, Tickets.mk.injEq]
  exact ⟨rfl, rfl, funext fun side => by cases side <;> rfl⟩

lemma tickets_goto (h : pc.claim = (s.thread i).claim) : (s.goto i pc).tickets = s.tickets := by
  have hclaim : (s.goto i pc).tickets.claim = s.tickets.claim := by
    funext j
    rcases eq_or_ne j i with rfl | hne
    · simp [tickets, goto, h]
    · simp [tickets, goto, hne]
  rw [tickets, tickets, Tickets.mk.injEq]
  exact ⟨rfl, hclaim, rfl⟩

lemma tickets_touch {t : ℕ} {slot : AtomicSlot α} (hclaim : pc.claim = (s.thread i).claim)
    (hturn : slot.turn = (s.slotOf t).turn) : (s.touch i pc t slot).tickets = s.tickets := by
  rw [← tickets_goto hclaim, tickets, tickets, Tickets.mk.injEq]
  refine ⟨funext fun n => ?_, rfl, rfl⟩
  rcases eq_or_ne n (normilizeRingSlot t) with rfl | hne
  · simpa [touch, goto, slotOf] using hturn
  · simp [touch, goto, hne]

lemma tickets_pass {c : Claim} {slot : AtomicSlot α} {returned : List (ℕ × α)}
    (hturn : slot.turn = (s.slotOf c.ticket).turn + 1) :
    { s.touch i pc c.ticket slot with returned := returned }.tickets =
      s.tickets.pass ringBufferSize i c pc.claim := by
  rw [tickets, Tickets.pass, Tickets.mk.injEq]
  refine ⟨funext fun n => ?_, funext fun j => ?_, rfl⟩
  · rcases eq_or_ne n (c.ticket % ringBufferSize) with rfl | hne
    · simpa [touch, tickets, normilizeRingSlot_eq, slotOf] using hturn
    · simp [touch, tickets, normilizeRingSlot_eq, hne]
  · rcases eq_or_ne j i with rfl | hne
    · simp [touch]
    · simp [touch, tickets, hne]

lemma tickets_claimTail {x : α} : (s.claimTail i x).tickets = s.tickets.take i .put := by
  rw [tickets, Tickets.take, Tickets.mk.injEq]
  refine ⟨rfl, funext fun j => ?_, funext fun side => ?_⟩
  · rcases eq_or_ne j i with rfl | hne
    · simp [claimTail, tickets, QueuePc.claim]
    · simp [claimTail, tickets, hne]
  · cases side <;> simp [tickets, claimTail]

lemma tickets_claimHead : (s.claimHead i).tickets = s.tickets.take i .get := by
  rw [tickets, Tickets.take, Tickets.mk.injEq]
  refine ⟨rfl, funext fun j => ?_, funext fun side => ?_⟩
  · rcases eq_or_ne j i with rfl | hne
    · simp [claimHead, tickets, QueuePc.claim]
    · simp [claimHead, tickets, hne]
  · cases side <;> simp [tickets, claimHead]

/-- What the queue does is no step of its tickets or one that keeps to the turns. -/
lemma tickets_step {a : ℕ × QueueAction α} (hturn : s.InTurn a) (h : s.step a = some s') :
    s'.tickets = s.tickets ∨
      (system ℕ ringBufferSize).Step System.anyStep s.tickets s'.tickets := by
  obtain ⟨i, a⟩ := a
  cases stepped h with
  | goto hclaim hfits => exact .inl (tickets_goto hclaim)
  | emplace hpc => exact .inl (tickets_touch (by rw [hpc]; rfl) rfl)
  | take hpc hobject => exact .inl (tickets_touch (by rw [hpc]; rfl) rfl)
  | clear hpc => exact .inl (tickets_touch (by rw [hpc]; rfl) rfl)
  | claimPush hpc =>
    have hclaim : s.tickets.claim i = none := by simp [tickets, hpc, QueuePc.claim]
    refine .inr ⟨(i, .claim .put), trivial, ?_⟩
    rw [tickets_claimTail]
    exact step_claim (n := ringBufferSize) hclaim
  | claimPop hpc =>
    have hclaim : s.tickets.claim i = none := by simp [tickets, hpc, QueuePc.claim]
    refine .inr ⟨(i, .claim .get), trivial, ?_⟩
    rw [tickets_claimHead]
    exact step_claim (n := ringBufferSize) hclaim
  | @enterPush x t hpc hflag =>
    have hclaim : s.tickets.claim i = some { side := .put, ticket := t } := by
      simp [tickets, hpc, QueuePc.claim]
    have hdue := hturn { side := .put, ticket := t } (by simp [enters, hpc, hflag])
    refine .inr ⟨(i, .enter), trivial, ?_⟩
    rw [tickets_pass (c := { side := .put, ticket := t }) rfl]
    exact step_enter hclaim rfl (by simpa [tickets, slotOf, normilizeRingSlot_eq] using hdue)
  | @enterPop t hpc hflag =>
    have hclaim : s.tickets.claim i = some { side := .get, ticket := t } := by
      simp [tickets, hpc, QueuePc.claim]
    have hdue := hturn { side := .get, ticket := t } (by simp [enters, hpc, hflag])
    refine .inr ⟨(i, .enter), trivial, ?_⟩
    rw [tickets_pass (c := { side := .get, ticket := t }) rfl]
    exact step_enter hclaim rfl (by simpa [tickets, slotOf, normilizeRingSlot_eq] using hdue)
  | @store x t hpc =>
    have hclaim : s.tickets.claim i = some { side := .put, ticket := t, inside := true } := by
      simp [tickets, hpc, QueuePc.claim]
    refine .inr ⟨(i, .leave), trivial, ?_⟩
    rw [tickets_pass (c := { side := .put, ticket := t, inside := true }) rfl]
    exact step_leave hclaim rfl
  | @clearAgain t data hpc =>
    have hclaim : s.tickets.claim i = some { side := .get, ticket := t, inside := true } := by
      simp [tickets, hpc, QueuePc.claim]
    refine .inr ⟨(i, .leave), trivial, ?_⟩
    rw [tickets_pass (c := { side := .get, ticket := t, inside := true }) rfl]
    exact step_leave hclaim rfl

lemma tickets_sound (h : (queueSystem α).Reachable InTurn s) : s.tickets.Sound ringBufferSize := by
  refine sound_of_reachable (h.simulate (H := System.anyStep) tickets ?_ ?_)
  · rintro s rfl
    exact tickets_initial
  · exact fun s a s' _ _ hturn hstep => tickets_step hturn hstep

/-- What the slot `n` holds between two threads. -/
structure SlotFits (accepted : List α) (n : ℕ) (slot : AtomicSlot α) : Prop where
  empty : slot.turn % 4 = 0 → slot.isInitialized = false ∧ slot.untaken = false
  full : slot.turn % 4 = 2 → slot.isInitialized = true ∧ slot.untaken = true ∧
    ∃ x, slot.object = some (ringBufferSize * (slot.turn / 4) + n, x) ∧
      accepted[ringBufferSize * (slot.turn / 4) + n]? = some x

/-- What holds in a run in which threads keep to their turns. -/
structure Sound (s : QueueState α) : Prop where
  tickets : s.tickets.Sound ringBufferSize
  ledger : Ledger ringBufferSize s.tickets s.accepted s.returned
  threads : ∀ i, (s.thread i).Fits s.slot s.accepted
  slots : ∀ n, n < ringBufferSize → SlotFits s.accepted n (s.slot n)

lemma SlotFits.append {accepted : List α} {n : ℕ} {slot : AtomicSlot α}
    (h : SlotFits accepted n slot)
    (x : α) : SlotFits (accepted ++ [x]) n slot where
  empty := h.empty
  full hturn := by
    obtain ⟨hflag, huntaken, y, hobject, hy⟩ := h.full hturn
    exact ⟨hflag, huntaken, y, hobject, Ledger.getElem?_append_of_some hy⟩

lemma SlotFits.of_odd {accepted : List α} {n : ℕ} {slot : AtomicSlot α}
    (h : slot.turn % 2 = 1) : SlotFits accepted n slot where
  empty _ := by omega
  full _ := by omega

namespace Sound

lemma initial : ({} : QueueState α).Sound where
  tickets := tickets_initial (α := α) ▸ .initial
  ledger := tickets_initial (α := α) ▸ .initial
  threads _ := trivial
  slots _ _ := { empty := fun _ => ⟨rfl, rfl⟩, full := nofun }

lemma goto (h : s.Sound) (hclaim : pc.claim = (s.thread i).claim)
    (hfits : pc.Fits s.slot s.accepted) : (s.goto i pc).Sound where
  tickets := tickets_goto hclaim ▸ h.tickets
  ledger := tickets_goto hclaim ▸ h.ledger
  threads j := by
    rcases eq_or_ne j i with rfl | hne
    · simpa [QueueState.goto] using hfits
    · simpa [QueueState.goto, hne] using h.threads j
  slots := h.slots

lemma claimTail (h : s.Sound) {x : α} (hclaim : (s.thread i).claim = none) :
    (s.claimTail i x).Sound where
  tickets := tickets_claimTail ▸ h.tickets.take hclaim
  ledger := by
    rw [tickets_claimTail]
    exact h.ledger.take_put
  threads j := by
    have hlength : s.accepted.length = s.tail := h.ledger.length
    rcases eq_or_ne j i with rfl | hne
    · simp [QueueState.claimTail, QueuePc.Fits, ← hlength]
    · have hfits : (s.thread j).Fits s.slot (s.accepted ++ [x]) :=
        (h.threads j).congr (fun _ _ _ => rfl) fun t y hy => Ledger.getElem?_append_of_some hy
      simpa [QueueState.claimTail, hne] using hfits
  slots n hn := (h.slots n hn).append x

lemma claimHead (h : s.Sound) (hclaim : (s.thread i).claim = none) : (s.claimHead i).Sound where
  tickets := tickets_claimHead ▸ h.tickets.take hclaim
  ledger := by
    rw [tickets_claimHead]
    exact h.ledger.take_get
  threads j := by
    rcases eq_or_ne j i with rfl | hne
    · simp [QueueState.claimHead, QueuePc.Fits]
    · simpa [QueueState.claimHead, hne] using h.threads j
  slots := h.slots

/-- A thread touches its slot while it is its turn, or as it comes to be: the others do not notice,
for they are not in this slot. -/
lemma touch (h : s.Sound) {c : Claim} {slot : AtomicSlot α} {returned : List (ℕ × α)}
    (hclaim : (s.thread i).claim = some c)
    (hturn : (s.slotOf c.ticket).turn = c.due ringBufferSize)
    {s' : QueueState α} (hs' : s' = { s.touch i pc c.ticket slot with returned := returned })
    (htickets : s'.tickets.Sound ringBufferSize)
    (hledger : Ledger ringBufferSize s'.tickets s.accepted returned)
    (hfits : pc.Fits (update s.slot (normilizeRingSlot c.ticket) slot) s.accepted)
    (hslot : SlotFits s.accepted (normilizeRingSlot c.ticket) slot) : s'.Sound := by
  subst hs'
  refine ⟨htickets, hledger, fun j => ?_, fun n hn => ?_⟩
  · rcases eq_or_ne j i with rfl | hne
    · simpa [QueueState.touch] using hfits
    · have hother : (s.thread j).Fits (update s.slot (normilizeRingSlot c.ticket) slot)
          s.accepted := by
        refine (h.threads j).congr (fun c' hc' hinside => ?_) fun _ _ hx => hx
        apply update_of_ne
        simp only [normilizeRingSlot_eq]
        refine h.tickets.slot_ne hclaim ?_ hc' hinside hne
        simpa [QueueState.tickets, slotOf, normilizeRingSlot_eq] using hturn
      simpa [QueueState.touch, hne] using hother
  · rcases eq_or_ne n (normilizeRingSlot c.ticket) with rfl | hne
    · simpa [QueueState.touch] using hslot
    · simpa [QueueState.touch, hne] using h.slots n hn

lemma turn_of_inside (h : s.Sound) {c : Claim} (hclaim : (s.thread i).claim = some c)
    (hinside : c.inside = true) : (s.slotOf c.ticket).turn = c.due ringBufferSize := by
  rw [← turn_tickets]
  exact h.tickets.turn_eq i c hclaim hinside

/-- The thread stays in its slot. -/
lemma stay (h : s.Sound) {c : Claim} {slot : AtomicSlot α} (hclaim : (s.thread i).claim = some c)
    (hinside : c.inside = true) (hpc : pc.claim = some c)
    (hturn : slot.turn = (s.slotOf c.ticket).turn)
    (hfits : pc.Fits (update s.slot (normilizeRingSlot c.ticket) slot) s.accepted) :
    (s.touch i pc c.ticket slot).Sound := by
  have hdue := h.turn_of_inside hclaim hinside
  have htickets := tickets_touch (hpc.trans hclaim.symm) hturn
  refine h.touch hclaim hdue rfl (htickets ▸ h.tickets) (htickets ▸ h.ledger) hfits (.of_odd ?_)
  rw [hturn, hdue, Claim.due, hinside]
  cases c.side <;> simp only [Side.first, if_true] <;> omega

/-- The slot comes to its next turn, and no pop is over. -/
lemma pass (h : s.Sound) {c : Claim} {slot : AtomicSlot α} (hclaim : (s.thread i).claim = some c)
    (hturn : (s.slotOf c.ticket).turn = c.due ringBufferSize)
    (hnext : slot.turn = (s.slotOf c.ticket).turn + 1) (hc : c.side = .put ∨ c.inside = false)
    (htickets : (s.touch i pc c.ticket slot).tickets.Sound ringBufferSize)
    (hfits : pc.Fits (update s.slot (normilizeRingSlot c.ticket) slot) s.accepted)
    (hslot : SlotFits s.accepted (normilizeRingSlot c.ticket) slot) :
    (s.touch i pc c.ticket slot).Sound := by
  have hpass : (s.touch i pc c.ticket slot).tickets =
      s.tickets.pass ringBufferSize i c pc.claim := tickets_pass hnext
  refine h.touch hclaim hturn rfl htickets ?_ hfits hslot
  rw [hpass]
  exact h.ledger.pass (by rwa [turn_tickets]) hc

/-- The slot before the push of `t` goes in. -/
lemma slot_empty (h : s.Sound) {t : ℕ} (hturn : (s.slotOf t).turn = 4 * (t / ringBufferSize)) :
    (s.slotOf t).isInitialized = false ∧ (s.slotOf t).untaken = false := by
  refine (h.slots _ (normilizeRingSlot_lt t)).empty ?_
  rw [slotOf] at hturn
  omega

/-- The slot after the push of `t`. -/
lemma slot_full (h : s.Sound) {t : ℕ} (hturn : (s.slotOf t).turn = 4 * (t / ringBufferSize) + 2) :
    (s.slotOf t).isInitialized = true ∧ (s.slotOf t).untaken = true ∧
      ∃ x, (s.slotOf t).object = some (t, x) ∧ s.accepted[t]? = some x := by
  have hfull := (h.slots _ (normilizeRingSlot_lt t)).full (by rw [slotOf] at hturn; omega)
  have hlap : (4 * (t / ringBufferSize) + 2) / 4 = t / ringBufferSize := by omega
  rwa [← slotOf, hturn, hlap, normilizeRingSlot_eq, Nat.div_add_mod] at hfull

lemma enterPush (h : s.Sound) {x : α} {t : ℕ} (hpc : s.thread i = .pushCheck x t)
    (hturn : (s.slotOf t).turn = 4 * (t / ringBufferSize))
    {s' : QueueState α} (hs' : s' = s.touch i (.pushEmplace x t) t
      { s.slotOf t with turn := (s.slotOf t).turn + 1 })
    (htickets : s'.tickets.Sound ringBufferSize) : s'.Sound := by
  subst hs'
  have hfits := h.threads i
  rw [hpc] at hfits
  have hclaim : (s.thread i).claim = some { side := .put, ticket := t } := by rw [hpc]; rfl
  obtain ⟨hflag, huntaken⟩ := h.slot_empty hturn
  refine h.pass hclaim hturn rfl (.inl rfl) htickets ?_ ?_
  · exact ⟨hfits, by simpa using hflag, by simpa using huntaken⟩
  · apply SlotFits.of_odd
    simp only
    omega

lemma emplace (h : s.Sound) {x : α} {t : ℕ} (hpc : s.thread i = .pushEmplace x t)
    {s' : QueueState α} (hs' : s' = s.touch i (.pushStore x t) t
      { s.slotOf t with object := some (t, x), untaken := true }) : s'.Sound := by
  subst hs'
  have hfits := h.threads i
  rw [hpc] at hfits
  have hclaim : (s.thread i).claim = some { side := .put, ticket := t, inside := true } := by
    rw [hpc]; rfl
  refine h.stay hclaim rfl rfl rfl ?_
  exact ⟨hfits.1, by simpa [slotOf] using hfits.2.1, by simp, by simp⟩

lemma store (h : s.Sound) {x : α} {t : ℕ} (hpc : s.thread i = .pushStore x t)
    {s' : QueueState α} (hs' : s' = s.touch i (.pushed true) t
      { s.slotOf t with isInitialized := true, turn := (s.slotOf t).turn + 1 })
    (htickets : s'.tickets.Sound ringBufferSize) : s'.Sound := by
  subst hs'
  have hfits := h.threads i
  rw [hpc] at hfits
  have hclaim : (s.thread i).claim = some { side := .put, ticket := t, inside := true } := by
    rw [hpc]; rfl
  have hturn := h.turn_of_inside hclaim rfl
  refine h.pass hclaim hturn rfl (.inl rfl) htickets trivial ?_
  simp only [Claim.due_putting] at hturn
  constructor
  · simp only
    omega
  · intro _
    have hlap : ((s.slotOf t).turn + 1) / 4 = t / ringBufferSize := by omega
    simp only [hlap, normilizeRingSlot_eq, Nat.div_add_mod]
    exact ⟨trivial, hfits.2.2.1, x, hfits.2.2.2, hfits.1⟩

lemma enterPop (h : s.Sound) {t : ℕ} (hpc : s.thread i = .popCheck t)
    (hturn : (s.slotOf t).turn = 4 * (t / ringBufferSize) + 2)
    {s' : QueueState α} (hs' : s' = s.touch i (.popTake t) t
      { s.slotOf t with turn := (s.slotOf t).turn + 1 })
    (htickets : s'.tickets.Sound ringBufferSize) : s'.Sound := by
  subst hs'
  have hclaim : (s.thread i).claim = some { side := .get, ticket := t } := by rw [hpc]; rfl
  obtain ⟨hflag, huntaken, x, hobject, hx⟩ := h.slot_full hturn
  refine h.pass hclaim hturn rfl (.inr rfl) htickets ?_ ?_
  · exact ⟨by simpa using hflag, by simpa using huntaken, x, by simpa using hobject, hx⟩
  · apply SlotFits.of_odd
    simp only
    omega

lemma take (h : s.Sound) {t : ℕ} {data : ℕ × α} (hpc : s.thread i = .popTake t)
    (hobject : (s.slotOf t).object = some data)
    {s' : QueueState α} (hs' : s' = s.touch i (.popClear t data) t
      { s.slotOf t with untaken := false }) : s'.Sound := by
  subst hs'
  have hfits := h.threads i
  rw [hpc] at hfits
  obtain ⟨-, -, x, hx, haccepted⟩ := hfits
  obtain rfl : data = (t, x) := Option.some.inj (hobject.symm.trans hx)
  have hclaim : (s.thread i).claim = some { side := .get, ticket := t, inside := true } := by
    rw [hpc]; rfl
  refine h.stay hclaim rfl rfl rfl ?_
  exact ⟨by simp, rfl, haccepted⟩

lemma clear (h : s.Sound) {t : ℕ} {data : ℕ × α} (hpc : s.thread i = .popClear t data)
    {s' : QueueState α} (hs' : s' = s.touch i (.popClearAgain t data) t
      { s.slotOf t with isInitialized := false }) : s'.Sound := by
  subst hs'
  have hfits := h.threads i
  rw [hpc] at hfits
  have hclaim : (s.thread i).claim = some { side := .get, ticket := t, inside := true } := by
    rw [hpc]; rfl
  refine h.stay hclaim rfl rfl rfl ?_
  exact ⟨by simpa [slotOf] using hfits.1, hfits.2⟩

lemma clearAgain (h : s.Sound) {t : ℕ} {data : ℕ × α} (hpc : s.thread i = .popClearAgain t data)
    {s' : QueueState α} (hs' : s' = { s.touch i (.popped (some data)) t
      { s.slotOf t with isInitialized := false, turn := (s.slotOf t).turn + 1 } with
        returned := s.returned ++ [data] })
    (htickets : s'.tickets.Sound ringBufferSize) : s'.Sound := by
  have hfits := h.threads i
  rw [hpc] at hfits
  obtain ⟨huntaken, rfl, haccepted⟩ := hfits
  have hclaim : (s.thread i).claim = some { side := .get, ticket := data.1, inside := true } := by
    rw [hpc]; rfl
  have hturn := h.turn_of_inside hclaim rfl
  refine h.touch hclaim hturn hs' htickets ?_ trivial ?_
  · rw [hs', tickets_pass (c := { side := .get, ticket := data.1, inside := true }) rfl]
    exact h.ledger.pass_get (by rwa [turn_tickets]) haccepted
  · constructor
    · exact fun _ => ⟨rfl, huntaken⟩
    · simp only [hturn, Claim.due_getting]
      omega

end Sound

/-- In every state of such a run. -/
lemma sound_of_reachable (h : (queueSystem α).Reachable InTurn s) : s.Sound := by
  refine h.invariant (fun s hs => ?_) fun s a s' hreach hs hturn hstep => ?_
  · obtain rfl := hs
    exact .initial
  have htickets := tickets_sound (hreach.step hturn hstep)
  obtain ⟨i, a⟩ := a
  cases stepped hstep with
  | goto hclaim hfits => exact hs.goto hclaim (hfits _ _ (hs.threads i))
  | claimPush hpc => exact hs.claimTail (by rw [hpc]; rfl)
  | claimPop hpc => exact hs.claimHead (by rw [hpc]; rfl)
  | @enterPush x t hpc hflag =>
    have hdue := hturn { side := .put, ticket := t } (by simp [enters, hpc, hflag])
    exact hs.enterPush hpc hdue rfl htickets
  | emplace hpc => exact hs.emplace hpc rfl
  | store hpc => exact hs.store hpc rfl htickets
  | @enterPop t hpc hflag =>
    have hdue := hturn { side := .get, ticket := t } (by simp [enters, hpc, hflag])
    exact hs.enterPop hpc hdue rfl htickets
  | take hpc hobject => exact hs.take hpc hobject rfl
  | clear hpc => exact hs.clear hpc rfl
  | clearAgain hpc => exact hs.clearAgain hpc rfl htickets

end QueueState

end BattleShips
