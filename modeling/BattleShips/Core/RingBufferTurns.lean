import BattleShips.Core.RingBuffer

/-!
# The turns of the ring of freed indices

The places of `RingBuffer` are tickets of a ring of slots, and the invariant of the runs in which
threads go into the slots at their turns: a thread whose load lets it store into the slot of its
place, or take from it, comes after all that has used the slot for earlier places.
-/

namespace BattleShips

open Function TicketRing

variable {s s' : RingState} {i j : ℕ} {pc : RingPc}

/-- What a thread has claimed, and whether it is in the slot. -/
def RingPc.claim : RingPc → Option Claim
  | .pushCheck _ h | .pushWait _ h _ => some { side := .put, ticket := h }
  | .pushStore _ h => some { side := .put, ticket := h, inside := true }
  | .popCheck t | .popWait t => some { side := .get, ticket := t }
  | .popExchange t => some { side := .get, ticket := t, inside := true }
  | _ => none

/-- What a thread relies on about its index, the slot of its place and what has been accepted. -/
def RingPc.Fits (slot : ℕ → RingSlot) (accepted : List ℕ) : RingPc → Prop
  | .pushLoadHead _ x | .pushLoadTail _ x _ | .pushHeadWait x _ | .pushClaim _ x _ => x ≠ maxValue
  | .pushCheck x h | .pushWait x h _ => accepted[h]? = some x
  | .pushStore x h => accepted[h]? = some x ∧ (slot (normilizeRingSlot h)).value = maxValue
  | .popExchange t => accepted[t]? = some (slot (normilizeRingSlot t)).value
  | _ => True

/-- Only the slot that the thread is in matters to it. -/
lemma RingPc.Fits.congr {slot slot' : ℕ → RingSlot} {accepted accepted' : List ℕ}
    (h : pc.Fits slot accepted)
    (hslot : ∀ c, pc.claim = some c → c.inside = true →
      slot' (normilizeRingSlot c.ticket) = slot (normilizeRingSlot c.ticket))
    (haccepted : ∀ (t : ℕ) (x : ℕ), accepted[t]? = some x → accepted'[t]? = some x) :
    pc.Fits slot' accepted' := by
  cases pc with
  | pushLoadHead | pushLoadTail | pushHeadWait | pushClaim => exact h
  | pushCheck x t | pushWait x t => exact haccepted t x h
  | pushStore x t =>
    simp only [Fits] at h ⊢
    rw [hslot _ rfl rfl]
    exact ⟨haccepted t x h.1, h.2⟩
  | popExchange t =>
    simp only [Fits] at h ⊢
    rw [hslot _ rfl rfl]
    exact haccepted t _ h
  | _ => trivial

/-- The calls of the environment are for indices. -/
def RingAction.FreesIndex : RingAction → Prop
  | .tryPush x | .push x => x ≠ maxValue
  | _ => True

instance : DecidablePred RingAction.FreesIndex := fun a =>
  match a with
  | .tryPush x | .push x => inferInstanceAs (Decidable (x ≠ maxValue))
  | .tryPop | .next | .fail | .leave => inferInstanceAs (Decidable True)

namespace RingState

/-- The turns and claims of the ring. -/
def tickets (s : RingState) : Tickets ℕ where
  turn n := (s.slot n).turn
  claim i := (s.thread i).claim
  next
    | .put => s.head
    | .get => s.tail

lemma turn_tickets (s : RingState) (t : ℕ) :
    s.tickets.turn (t % ringBufferSize) = (s.slotOf t).turn := by
  rw [slotOf, normilizeRingSlot_eq]
  rfl

/-- What a thread has claimed whose next step takes it into its slot. -/
def enters (s : RingState) (i : ℕ) : Option Claim :=
  match s.thread i with
  | .pushCheck _ h =>
    if (s.slotOf h).value = maxValue then some { side := .put, ticket := h } else none
  | .popCheck t =>
    if (s.slotOf t).value = maxValue then none else some { side := .get, ticket := t }
  | _ => none

/-- A thread that goes into its slot does so at its turn. -/
def InTurn (s : RingState) (a : ℕ × RingAction) : Prop :=
  ∀ c ∈ s.enters a.1, (s.slotOf c.ticket).turn = c.due ringBufferSize

instance (s : RingState) (a : ℕ × RingAction) : Decidable (s.InTurn a) :=
  inferInstanceAs (Decidable (∀ c ∈ s.enters a.1, _))

/-- The steps of threads that keep to their turns. -/
def Keeps (s : RingState) (a : ℕ × RingAction) : Prop := s.InTurn a ∧ a.2.FreesIndex

instance (s : RingState) (a : ℕ × RingAction) : Decidable (s.Keeps a) :=
  inferInstanceAs (Decidable (_ ∧ _))

/-- What the thread `i` can do in a step. -/
inductive Stepped (s : RingState) (i : ℕ) : RingState → Prop
  | goto {pc : RingPc} (hclaim : pc.claim = (s.thread i).claim)
      (hfits : ∀ slot accepted, (s.thread i).Fits slot accepted → pc.Fits slot accepted) :
      Stepped s i (s.goto i pc)
  | claimPush {blocking : Bool} {x h : ℕ} (hpc : s.thread i = .pushClaim blocking x h) :
      Stepped s i (s.claimHead i x)
  | claimPop {t : ℕ} (hpc : s.thread i = .popClaim t) :
      Stepped s i (s.claimTail i)
  | enterPush {x h : ℕ} (hpc : s.thread i = .pushCheck x h)
      (hvalue : (s.slotOf h).value = maxValue) :
      Stepped s i (s.touch i (.pushStore x h) h
        { s.slotOf h with turn := (s.slotOf h).turn + 1 })
  | store {x h : ℕ} (hpc : s.thread i = .pushStore x h) :
      Stepped s i (s.touch i (.pushed true) h { value := x, turn := (s.slotOf h).turn + 1 })
  | enterPop {t : ℕ} (hpc : s.thread i = .popCheck t) (hvalue : (s.slotOf t).value ≠ maxValue) :
      Stepped s i (s.touch i (.popExchange t) t
        { s.slotOf t with turn := (s.slotOf t).turn + 1 })
  | exchange {t : ℕ} (hpc : s.thread i = .popExchange t) :
      Stepped s i { s.touch i (.popped (some (s.slotOf t).value)) t
          { value := maxValue, turn := (s.slotOf t).turn + 1 } with
        returned := s.returned ++ [(t, (s.slotOf t).value)] }

lemma stepped_of_next (h : s.next i = some s') : s.Stepped i s' := by
  cases hpc : s.thread i <;> simp only [next, hpc] at h <;> try split at h
  case pushClaim.isTrue blocking x t _ =>
    obtain rfl := Option.some.inj h
    exact .claimPush hpc
  case popClaim.isTrue t _ =>
    obtain rfl := Option.some.inj h
    exact .claimPop hpc
  case pushCheck.isTrue x t hvalue =>
    obtain rfl := Option.some.inj h
    exact .enterPush hpc hvalue
  case popCheck.isFalse t hvalue =>
    obtain rfl := Option.some.inj h
    exact .enterPop hpc hvalue
  case pushStore x t =>
    obtain rfl := Option.some.inj h
    exact .store hpc
  case popExchange t =>
    obtain rfl := Option.some.inj h
    exact .exchange hpc
  case pushLoadTail.isTrue blocking x t _ =>
    obtain rfl := Option.some.inj h
    cases blocking
    · exact .goto (by rw [hpc]; rfl) (by simp [RingPc.Fits])
    · exact .goto (by rw [hpc]; rfl) (by rw [hpc]; exact fun _ _ hfits => hfits)
  all_goals first
    | contradiction
    | obtain rfl := Option.some.inj h
      exact .goto (by rw [hpc]; rfl) (by rw [hpc]; exact fun _ _ hfits => hfits)

lemma stepped {a : ℕ × RingAction} (hindex : a.2.FreesIndex) (h : s.step a = some s') :
    s.Stepped a.1 s' := by
  obtain ⟨i, a⟩ := a
  cases a with
  | next => exact stepped_of_next h
  | tryPush x | push x =>
    cases hpc : s.thread i <;> simp only [step, hpc, reduceCtorEq] at h
    obtain rfl := Option.some.inj h
    exact .goto (by rw [hpc]; rfl) fun _ _ _ => hindex
  | tryPop =>
    cases hpc : s.thread i <;> simp only [step, hpc, reduceCtorEq] at h
    obtain rfl := Option.some.inj h
    exact .goto (by rw [hpc]; rfl) (by simp [RingPc.Fits])
  | fail | leave =>
    cases hpc : s.thread i <;> simp only [step, hpc, reduceCtorEq] at h <;>
      obtain rfl := Option.some.inj h <;>
      exact .goto (by rw [hpc]; rfl) (by rw [hpc]; simp [RingPc.Fits])

/-! ### Runs in which threads keep to their turns -/

lemma tickets_initial : ({} : RingState).tickets = {} := by
  rw [tickets, Tickets.mk.injEq]
  exact ⟨rfl, rfl, funext fun side => by cases side <;> rfl⟩

lemma tickets_goto (h : pc.claim = (s.thread i).claim) : (s.goto i pc).tickets = s.tickets := by
  have hclaim : (s.goto i pc).tickets.claim = s.tickets.claim := by
    funext j
    rcases eq_or_ne j i with rfl | hne
    · simp [tickets, goto, h]
    · simp [tickets, goto, hne]
  rw [tickets, tickets, Tickets.mk.injEq]
  exact ⟨rfl, hclaim, rfl⟩

lemma tickets_pass {c : Claim} {slot : RingSlot} {returned : List (ℕ × ℕ)}
    (hturn : slot.turn = (s.slotOf c.ticket).turn + 1) :
    { s.touch i pc c.ticket slot with returned := returned }.tickets =
      s.tickets.pass ringBufferSize i c pc.claim := by
  rw [tickets, Tickets.pass, Tickets.mk.injEq]
  refine ⟨funext fun n => ?_, funext fun j => ?_, rfl⟩
  · rcases eq_or_ne n (c.ticket % ringBufferSize) with rfl | hne
    · simpa [touch, tickets, normilizeRingSlot_eq, slotOf] using hturn
    · simp [touch, tickets, normilizeRingSlot_eq, hne]
  · rcases eq_or_ne j i with rfl | hne
    · simp [touch]
    · simp [touch, tickets, hne]

lemma tickets_claimHead {x : ℕ} : (s.claimHead i x).tickets = s.tickets.take i .put := by
  rw [tickets, Tickets.take, Tickets.mk.injEq]
  refine ⟨rfl, funext fun j => ?_, funext fun side => ?_⟩
  · rcases eq_or_ne j i with rfl | hne
    · simp [claimHead, tickets, RingPc.claim]
    · simp [claimHead, tickets, hne]
  · cases side <;> simp [tickets, claimHead]

lemma tickets_claimTail : (s.claimTail i).tickets = s.tickets.take i .get := by
  rw [tickets, Tickets.take, Tickets.mk.injEq]
  refine ⟨rfl, funext fun j => ?_, funext fun side => ?_⟩
  · rcases eq_or_ne j i with rfl | hne
    · simp [claimTail, tickets, RingPc.claim]
    · simp [claimTail, tickets, hne]
  · cases side <;> simp [tickets, claimTail]

/-- What the slot `n` holds between two threads. -/
structure SlotFits (accepted : List ℕ) (n : ℕ) (slot : RingSlot) : Prop where
  empty : slot.turn % 4 = 0 → slot.value = maxValue
  full : slot.turn % 4 = 2 → accepted[ringBufferSize * (slot.turn / 4) + n]? = some slot.value

/-- What holds in a run in which threads keep to their turns. -/
structure Sound (s : RingState) : Prop where
  tickets : s.tickets.Sound ringBufferSize
  ledger : Ledger ringBufferSize s.tickets s.accepted s.returned
  threads : ∀ i, (s.thread i).Fits s.slot s.accepted
  slots : ∀ n, n < ringBufferSize → SlotFits s.accepted n (s.slot n)
  indexes : ∀ x ∈ s.accepted, x ≠ maxValue

lemma SlotFits.of_odd {accepted : List ℕ} {n : ℕ} {slot : RingSlot} (h : slot.turn % 2 = 1) :
    SlotFits accepted n slot where
  empty _ := by omega
  full _ := by omega

namespace Sound

lemma initial : ({} : RingState).Sound where
  tickets := tickets_initial ▸ .initial
  ledger := tickets_initial ▸ .initial
  threads _ := trivial
  slots _ _ := { empty := fun _ => rfl, full := nofun }
  indexes := nofun

lemma goto (h : s.Sound) (hclaim : pc.claim = (s.thread i).claim)
    (hfits : pc.Fits s.slot s.accepted) : (s.goto i pc).Sound where
  tickets := tickets_goto hclaim ▸ h.tickets
  ledger := tickets_goto hclaim ▸ h.ledger
  threads j := by
    rcases eq_or_ne j i with rfl | hne
    · simpa [RingState.goto] using hfits
    · simpa [RingState.goto, hne] using h.threads j
  slots := h.slots
  indexes := h.indexes

lemma claimHead (h : s.Sound) {blocking : Bool} {x t : ℕ}
    (hpc : s.thread i = .pushClaim blocking x t) : (s.claimHead i x).Sound where
  tickets := tickets_claimHead ▸ h.tickets.take (by simp [RingState.tickets, hpc, RingPc.claim])
  ledger := by
    rw [tickets_claimHead]
    exact h.ledger.take_put
  threads j := by
    have hlength : s.accepted.length = s.head := h.ledger.length
    rcases eq_or_ne j i with rfl | hne
    · simp [RingState.claimHead, RingPc.Fits, ← hlength]
    · have hfits : (s.thread j).Fits s.slot (s.accepted ++ [x]) :=
        (h.threads j).congr (fun _ _ _ => rfl) fun t y hy => Ledger.getElem?_append_of_some hy
      simpa [RingState.claimHead, hne] using hfits
  slots n hn := {
    empty := (h.slots n hn).empty
    full := fun hturn => Ledger.getElem?_append_of_some ((h.slots n hn).full hturn) }
  indexes y hy := by
    have hx := h.threads i
    rw [hpc] at hx
    rcases List.mem_append.1 hy with hy | hy
    · exact h.indexes y hy
    · obtain rfl := List.mem_singleton.1 hy
      exact hx

lemma claimTail (h : s.Sound) (hclaim : (s.thread i).claim = none) : (s.claimTail i).Sound where
  tickets := tickets_claimTail ▸ h.tickets.take hclaim
  ledger := by
    rw [tickets_claimTail]
    exact h.ledger.take_get
  threads j := by
    rcases eq_or_ne j i with rfl | hne
    · simp [RingState.claimTail, RingPc.Fits]
    · simpa [RingState.claimTail, hne] using h.threads j
  slots := h.slots
  indexes := h.indexes

/-- The slot comes to its next turn: the other threads do not notice, for they are not in it. -/
lemma pass (h : s.Sound) {c : Claim} {slot : RingSlot} {returned : List (ℕ × ℕ)}
    (hclaim : (s.thread i).claim = some c)
    (hturn : (s.slotOf c.ticket).turn = c.due ringBufferSize)
    (hnew : c.inside = false ∧ pc.claim = some { c with inside := true } ∨
      c.inside = true ∧ pc.claim = none)
    (hnext : slot.turn = (s.slotOf c.ticket).turn + 1)
    (hledger : Ledger ringBufferSize (s.tickets.pass ringBufferSize i c pc.claim) s.accepted
      returned)
    (hfits : pc.Fits (update s.slot (normilizeRingSlot c.ticket) slot) s.accepted)
    (hslot : SlotFits s.accepted (normilizeRingSlot c.ticket) slot) :
    Sound { s.touch i pc c.ticket slot with returned := returned } where
  tickets := by
    rw [tickets_pass hnext]
    exact h.tickets.pass hclaim (by rwa [turn_tickets]) hnew
  ledger := by rwa [tickets_pass hnext]
  threads j := by
    rcases eq_or_ne j i with rfl | hne
    · simpa [touch] using hfits
    · have hother : (s.thread j).Fits (update s.slot (normilizeRingSlot c.ticket) slot)
          s.accepted := by
        refine (h.threads j).congr (fun c' hc' hinside => ?_) fun _ _ hx => hx
        apply update_of_ne
        simp only [normilizeRingSlot_eq]
        exact h.tickets.slot_ne hclaim (by rwa [turn_tickets]) hc' hinside hne
      simpa [touch, hne] using hother
  slots n hn := by
    rcases eq_or_ne n (normilizeRingSlot c.ticket) with rfl | hne
    · simpa [touch] using hslot
    · simpa [touch, hne] using h.slots n hn
  indexes := h.indexes

/-- The slot before the push to the place `t` goes in. -/
lemma slot_empty (h : s.Sound) {t : ℕ} (hturn : (s.slotOf t).turn = 4 * (t / ringBufferSize)) :
    (s.slotOf t).value = maxValue := by
  refine (h.slots _ (normilizeRingSlot_lt t)).empty ?_
  rw [slotOf] at hturn
  omega

/-- The slot after the push to the place `t`. -/
lemma slot_full (h : s.Sound) {t : ℕ} (hturn : (s.slotOf t).turn = 4 * (t / ringBufferSize) + 2) :
    s.accepted[t]? = some (s.slotOf t).value := by
  have hfull := (h.slots _ (normilizeRingSlot_lt t)).full (by rw [slotOf] at hturn; omega)
  have hlap : (4 * (t / ringBufferSize) + 2) / 4 = t / ringBufferSize := by omega
  rwa [← slotOf, hturn, hlap, normilizeRingSlot_eq, Nat.div_add_mod] at hfull

lemma turn_of_inside (h : s.Sound) {c : Claim} (hclaim : (s.thread i).claim = some c)
    (hinside : c.inside = true) : (s.slotOf c.ticket).turn = c.due ringBufferSize := by
  rw [← turn_tickets]
  exact h.tickets.turn_eq i c hclaim hinside

lemma enterPush (h : s.Sound) {x t : ℕ} (hpc : s.thread i = .pushCheck x t)
    (hvalue : (s.slotOf t).value = maxValue)
    (hturn : (s.slotOf t).turn = 4 * (t / ringBufferSize)) :
    (s.touch i (.pushStore x t) t { s.slotOf t with turn := (s.slotOf t).turn + 1 }).Sound := by
  have hfits := h.threads i
  rw [hpc] at hfits
  have hclaim : (s.thread i).claim = some { side := .put, ticket := t } := by rw [hpc]; rfl
  refine h.pass hclaim hturn (.inl ⟨rfl, rfl⟩) rfl ?_ ?_ (.of_odd ?_)
  · exact h.ledger.pass (by rwa [turn_tickets]) (.inl rfl)
  · exact ⟨hfits, by simpa using hvalue⟩
  · simp only
    omega

lemma store (h : s.Sound) {x t : ℕ} (hpc : s.thread i = .pushStore x t) :
    (s.touch i (.pushed true) t { value := x, turn := (s.slotOf t).turn + 1 }).Sound := by
  have hfits := h.threads i
  rw [hpc] at hfits
  have hclaim : (s.thread i).claim = some { side := .put, ticket := t, inside := true } := by
    rw [hpc]; rfl
  have hturn := h.turn_of_inside hclaim rfl
  refine h.pass hclaim hturn (.inr ⟨rfl, rfl⟩) rfl ?_ trivial ?_
  · exact h.ledger.pass (by rwa [turn_tickets]) (.inl rfl)
  simp only [Claim.due_putting] at hturn
  constructor
  · simp only
    omega
  · intro _
    have hlap : ((s.slotOf t).turn + 1) / 4 = t / ringBufferSize := by omega
    simp only [hlap, normilizeRingSlot_eq, Nat.div_add_mod]
    exact hfits.1

lemma enterPop (h : s.Sound) {t : ℕ} (hpc : s.thread i = .popCheck t)
    (hturn : (s.slotOf t).turn = 4 * (t / ringBufferSize) + 2) :
    (s.touch i (.popExchange t) t { s.slotOf t with turn := (s.slotOf t).turn + 1 }).Sound := by
  have hclaim : (s.thread i).claim = some { side := .get, ticket := t } := by rw [hpc]; rfl
  have hvalue := h.slot_full hturn
  refine h.pass hclaim hturn (.inl ⟨rfl, rfl⟩) rfl ?_ ?_ (.of_odd ?_)
  · exact h.ledger.pass (by rwa [turn_tickets]) (.inr rfl)
  · simpa [RingPc.Fits] using hvalue
  · simp only
    omega

lemma exchange (h : s.Sound) {t : ℕ} (hpc : s.thread i = .popExchange t) :
    Sound { s.touch i (.popped (some (s.slotOf t).value)) t
        { value := maxValue, turn := (s.slotOf t).turn + 1 } with
      returned := s.returned ++ [(t, (s.slotOf t).value)] } := by
  have hfits := h.threads i
  rw [hpc] at hfits
  have hclaim : (s.thread i).claim = some { side := .get, ticket := t, inside := true } := by
    rw [hpc]; rfl
  have hturn := h.turn_of_inside hclaim rfl
  refine h.pass hclaim hturn (.inr ⟨rfl, rfl⟩) rfl ?_ trivial ?_
  · exact h.ledger.pass_get (by rwa [turn_tickets]) hfits
  · constructor
    · exact fun _ => rfl
    · simp only [hturn, Claim.due_getting]
      omega

end Sound

/-- In every state of such a run. -/
lemma sound_of_reachable (h : ringSystem.Reachable Keeps s) : s.Sound := by
  refine h.invariant (fun s hs => ?_) fun s a s' _ hs hkeeps hstep => ?_
  · obtain rfl := hs
    exact .initial
  obtain ⟨hturn, hindex⟩ := hkeeps
  obtain ⟨i, a⟩ := a
  cases stepped hindex hstep with
  | goto hclaim hfits => exact hs.goto hclaim (hfits _ _ (hs.threads i))
  | claimPush hpc => exact hs.claimHead hpc
  | claimPop hpc => exact hs.claimTail (by rw [hpc]; rfl)
  | @enterPush x t hpc hvalue =>
    have hdue := hturn { side := .put, ticket := t } (by simp [enters, hpc, hvalue])
    exact hs.enterPush hpc hvalue hdue
  | store hpc => exact hs.store hpc
  | @enterPop t hpc hvalue =>
    have hdue := hturn { side := .get, ticket := t } (by simp [enters, hpc, hvalue])
    exact hs.enterPop hpc hdue
  | exchange hpc => exact hs.exchange hpc

end RingState

end BattleShips
