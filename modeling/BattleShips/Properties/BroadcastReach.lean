import BattleShips.Net.Broadcast

/-!
# What a broadcast reaches

`NetworkEngine::send_message` makes one attempt for each connection that its filter accepts, in the
order of the slots; the connections it does not reach lose their slots, and nothing else changes.
-/

namespace BattleShips

open Traced

variable {σ : Type} {w w' : World σ} {message : OutgoingMessage} {filter : ConnectionMeta → Bool}
  {slot index : ℕ} {indices : List ℕ} {report : DeliveryReport}

/-- How many slots are available. -/
def World.freeSlots (w : World σ) : ℕ := w.pool.availableSlots.items.length

/-- Every slot that has been issued is in use, or free and available once. -/
structure World.Partitioned (w : World σ) : Prop where
  slots : ∀ slot < w.pool.counter,
    (w.entry slot).connectionType ≠ .none ∧ slot ∉ w.pool.availableSlots.items ∨
    (w.entry slot).connectionType = .none ∧ w.pool.availableSlots.items.count slot = 1
  issued : ∀ slot ∈ w.pool.availableSlots.items, slot < w.pool.counter

/-- The slot holds a connection that the filter accepts. -/
def World.Accepts (w : World σ) (filter : ConnectionMeta → Bool) (slot : ℕ) : Prop :=
  (w.entry slot).connectionType ≠ .none ∧
    filter { slot := slot, type := (w.entry slot).connectionType }

instance (w : World σ) (filter : ConnectionMeta → Bool) (slot : ℕ) :
    Decidable (w.Accepts filter slot) := inferInstanceAs (Decidable (_ ∧ _))

/-- The slots among these that the filter accepts. -/
def World.accepted (w : World σ) (filter : ConnectionMeta → Bool) (indices : List ℕ) : List ℕ :=
  indices.filter fun slot => w.Accepts filter slot

/-- Those of the slots for which `sendmsg` gives -1, with these results: there is no socket, or the
call fails. -/
def World.unreached (w : World σ) : List ℕ → List (Option ℕ) → List ℕ
  | [], _ => []
  | slot :: slots, results =>
    if (w.entry slot).socketHandler.socket = -1 ∨ results.head? = some none then
      slot :: w.unreached slots results.tail
    else w.unreached slots results.tail

/-- An attempt to send. -/
def Event.attempt : Event → Option (ℕ × OutgoingMessage)
  | .sent slot message _ => some (slot, message)
  | _ => none

/-- The slot of an attempt that has failed. -/
def Event.failure : Event → Option ℕ
  | .sent slot _ none => some slot
  | _ => none

/-- The slots of the attempts that have failed. -/
def failures (es : List Event) : List ℕ := es.filterMap Event.failure

@[simp] lemma failures_append (es es' : List Event) :
    failures (es ++ es') = failures es ++ failures es' := List.filterMap_append

/-- What a broadcast over some slots does. -/
structure Reaches (message : OutgoingMessage) (filter : ConnectionMeta → Bool) (indices : List ℕ)
    (report : DeliveryReport) (w : World σ) (r : Outcome (World σ) Event DeliveryReport) :
    Prop where
  returns : ∃ report', r.value = some report' ∧
    report'.delivered + report'.failed =
      report.delivered + report.failed + (w.accepted filter indices).length ∧
    report'.failed = report.failed + (failures r.events).length
  attempts : r.events.filterMap Event.attempt =
    (w.accepted filter indices).map fun slot => (slot, message)
  failures : (failures r.events).Sublist (w.accepted filter indices)
  unreached : BattleShips.failures r.events =
    w.unreached (w.accepted filter indices) w.results.sendmsg
  entries : ∀ slot, r.state.entry slot =
    if slot ∈ BattleShips.failures r.events then (w.entry slot).cleared else w.entry slot
  items : r.state.pool.availableSlots.items =
    w.pool.availableSlots.items ++ BattleShips.failures r.events
  counter : r.state.pool.counter = w.pool.counter

lemma World.accepted_cons (haccepts : w.Accepts filter index) :
    w.accepted filter (index :: indices) = index :: w.accepted filter indices :=
  List.filter_cons_of_pos (decide_eq_true haccepts)

lemma World.accepted_cons_of_not (haccepts : ¬ w.Accepts filter index) :
    w.accepted filter (index :: indices) = w.accepted filter indices :=
  List.filter_cons_of_neg (by simpa using haccepts)

lemma World.accepted_congr (h : ∀ slot ∈ indices, w'.entry slot = w.entry slot) :
    w'.accepted filter indices = w.accepted filter indices := by
  refine List.filter_congr fun slot hslot => ?_
  rw [decide_eq_decide, World.Accepts, World.Accepts, h slot hslot]

lemma World.unreached_congr {slots : List ℕ} (h : ∀ slot ∈ slots, w'.entry slot = w.entry slot)
    (results : List (Option ℕ)) : w'.unreached slots results = w.unreached slots results := by
  induction slots generalizing results with
  | nil => rfl
  | cons slot slots ih =>
    have htail := ih (fun s hs => h s (List.mem_cons_of_mem _ hs)) results.tail
    simp only [unreached, h slot List.mem_cons_self, htail]

namespace Reaches

lemma nil : Reaches message filter [] report w ⟨some report, w, []⟩ where
  returns := ⟨report, rfl, rfl, rfl⟩
  attempts := rfl
  failures := List.Sublist.slnil
  unreached := rfl
  entries _ := rfl
  items := (List.append_nil _).symm
  counter := rfl

variable {r : Outcome (World σ) Event DeliveryReport}

/-- A slot that is passed over. -/
lemma skip (haccepts : ¬ w.Accepts filter index) (h : Reaches message filter indices report w r) :
    Reaches message filter (index :: indices) report w r := by
  have haccepted : w.accepted filter (index :: indices) = w.accepted filter indices :=
    World.accepted_cons_of_not haccepts
  exact ⟨haccepted ▸ h.returns, haccepted ▸ h.attempts, haccepted ▸ h.failures,
    haccepted ▸ h.unreached, h.entries, h.items, h.counter⟩

/-- A slot whose connection gets the message. -/
lemma delivered {written : ℕ} (haccepts : w.Accepts filter index) (hsame : w.SameConnections w')
    (hsent : w'.results.sendmsg = w.results.sendmsg.tail)
    (hreached : ¬ ((w.entry index).socketHandler.socket = -1 ∨
      w.results.sendmsg.head? = some none))
    (h : Reaches message filter indices { report with delivered := report.delivered + 1 } w' r) :
    Reaches message filter (index :: indices) report w
      ⟨r.value, r.state, .sent index message (some written) :: r.events⟩ := by
  have haccepted : w'.accepted filter indices = w.accepted filter indices :=
    World.accepted_congr fun slot _ => hsame.entry slot
  have hreturns := h.returns
  have hattempts := h.attempts
  have hfailures := h.failures
  have hunreached := h.unreached
  rw [haccepted] at hreturns hattempts hfailures hunreached
  obtain ⟨report', hvalue, htotal, hfailed⟩ := hreturns
  refine ⟨⟨report', hvalue, ?_, hfailed⟩, ?_, ?_, ?_, ?_, ?_, ?_⟩
  · rw [World.accepted_cons haccepts, List.length_cons]
    simp only at htotal
    omega
  · rw [World.accepted_cons haccepts, List.map_cons, ← hattempts]
    rfl
  · rw [World.accepted_cons haccepts]
    exact hfailures.cons index
  · rw [World.accepted_cons haccepts, World.unreached, if_neg hreached, ← hsent,
      ← World.unreached_congr fun slot _ => hsame.entry slot]
    exact hunreached
  · intro slot
    rw [← hsame.entry slot]
    exact h.entries slot
  · rw [← hsame.pool]
    exact h.items
  · rw [← hsame.pool]
    exact h.counter

/-- A slot whose connection is lost. -/
lemma failed {w₂ : World σ} (haccepts : w.Accepts filter index) (hnot : index ∉ indices)
    (hsame : w.SameConnections w') (hretired : w'.Retired index true w₂)
    (hsent : w'.results.sendmsg = w.results.sendmsg.tail)
    (hunreached : (w.entry index).socketHandler.socket = -1 ∨
      w.results.sendmsg.head? = some none)
    (h : Reaches message filter indices { report with failed := report.failed + 1 } w₂ r) :
    Reaches message filter (index :: indices) report w
      ⟨r.value, r.state, .sent index message none :: .released index true :: r.events⟩ := by
  have hentry : ∀ slot, slot ≠ index → w₂.entry slot = w.entry slot := fun slot hne => by
    rw [hretired.entry_of_ne hne, hsame.entry]
  have haccepted : w₂.accepted filter indices = w.accepted filter indices :=
    World.accepted_congr fun slot hslot => hentry slot fun heq => hnot (heq ▸ hslot)
  have hreturns := h.returns
  have hattempts := h.attempts
  have hfailures := h.failures
  have hrest := h.unreached
  rw [haccepted] at hreturns hattempts hfailures hrest
  have hindex : index ∉ BattleShips.failures r.events := fun hmem =>
    hnot (List.mem_of_mem_filter (hfailures.subset hmem))
  have hcons : BattleShips.failures
      (.sent index message none :: .released index true :: r.events) =
      index :: BattleShips.failures r.events := rfl
  obtain ⟨report', hvalue, htotal, hfailed⟩ := hreturns
  refine ⟨⟨report', hvalue, ?_, ?_⟩, ?_, ?_, ?_, ?_, ?_, ?_⟩
  · rw [World.accepted_cons haccepts, List.length_cons]
    simp only at htotal
    omega
  · rw [hcons, List.length_cons]
    simp only at hfailed
    omega
  · rw [World.accepted_cons haccepts, List.map_cons, ← hattempts]
    rfl
  · rw [World.accepted_cons haccepts, hcons]
    exact hfailures.cons_cons index
  · rw [World.accepted_cons haccepts, World.unreached, if_pos hunreached, hcons, hrest,
      hretired.results, hsent]
    refine congrArg (index :: ·) (World.unreached_congr (fun slot hslot => hentry slot ?_) _)
    rintro rfl
    exact hnot (List.mem_of_mem_filter hslot)
  · intro slot
    rw [hcons]
    rcases eq_or_ne slot index with rfl | hne
    · have hself : r.state.entry slot = w₂.entry slot := by
        rw [h.entries slot, if_neg hindex]
      rw [if_pos List.mem_cons_self, ← hsame.entry slot, ← hretired.entry_self]
      exact hself
    · rw [← hentry slot hne]
      simpa [hne] using h.entries slot
  · rw [hcons, ← hsame.pool, List.append_cons]
    have hitems := hretired.items
    rw [if_pos rfl] at hitems
    rw [← hitems]
    exact h.items
  · rw [← hsame.pool, ← hretired.counter]
    exact h.counter

end Reaches

/-! ### Giving back a slot -/

/-- As long as there are fewer than 4095 slots available, there is room for one more. -/
lemma resetAndRelease_of_room (slot : ℕ) (hroom : w.freeSlots < ringBufferSize - 1) :
    ∃ w', (resetAndRelease slot).run w = ⟨some ⟨⟩, w', [.released slot true]⟩ ∧
      w.Retired slot true w' := by
  have havailable : (w.reset slot).pool.availableSlots = w.pool.availableSlots := by
    rw [World.reset_pool]
    rfl
  have hpush := AtomicQueue.tryPush_of_lt hroom slot
  have hfull : ¬ looksFull w.pool.availableSlots.tail w.pool.availableSlots.head := by
    intro hfull
    rw [AtomicQueue.tryPush, if_pos hfull] at hpush
    cases hpush
  obtain ⟨hresults, hnextPid, happ⟩ := w.reset_rest slot
  let pool : ObjectPool ConnectionEntry :=
    { (w.reset slot).pool with
      availableSlots :=
        { w.pool.availableSlots with items := w.pool.availableSlots.items ++ [slot] } }
  have hrelease : (w.reset slot).pool.release slot = some pool := by
    rw [ObjectPool.release, havailable, hpush]
  refine ⟨{ w.reset slot with pool := pool }, ?_, ?_⟩
  · simp [resetAndRelease, releaseSlot, Outcome.andThen, hrelease, havailable, hfull]
  · have hpool : (w.reset slot).pool = w.pool.setObject slot (w.entry slot).cleared :=
      World.reset_pool w slot
    exact {
      object := by simp [pool, hpool]
      counter := by simp [pool, hpool]
      lastNotIssuedIndex := by simp [pool, hpool]
      items := by simp [pool]
      results := hresults
      nextPid := hnextPid
      app := happ }

/-- The available slots do not get fewer. -/
def World.KeepsAvailable (w : World σ) (_ : List Event) (w' : World σ) : Prop :=
  w.freeSlots ≤ w'.freeSlots

lemma keepsAvailable_composable : Composable (World.KeepsAvailable (σ := σ)) where
  refl _ := le_rfl
  trans h h' := le_trans h h'

lemma resetAndRelease_keepsAvailable {G : List Event → Event → Prop}
    {P : World σ → List Event → Prop} :
    Effect G P (resetAndRelease slot) (World.KeepsAvailable (σ := σ)) := by
  intro w tr _ _
  have havailable : (w.reset slot).pool.availableSlots = w.pool.availableSlots := by
    rw [World.reset_pool]
    rfl
  simp only [resetAndRelease, releaseSlot, run_bind, run_modify, run_get, run_emit,
    Outcome.andThen]
  cases hrelease : (w.reset slot).pool.release slot with
  | none => exact (congrArg (·.items.length) havailable).ge
  | some pool =>
    obtain ⟨-, hitems⟩ := ObjectPool.release_items hrelease
    rw [havailable] at hitems
    change _ ≤ pool.availableSlots.items.length
    rw [hitems]
    split_ifs
    · rw [List.length_append]
      exact Nat.le_add_right _ _
    · exact le_rfl

lemma keepsAvailable_run {α : Type} {m : EngineM σ α}
    (h : Effect (fun _ _ => True) (fun _ _ => True) m (World.KeepsAvailable (σ := σ)))
    (w : World σ) : w.freeSlots ≤ (m.run w).state.freeSlots :=
  h w [] trivial (allowed_of_forall fun _ _ _ => trivial)

namespace NetworkEngine

lemma sendMessageImpl_keepsAvailable {G : List Event → Event → Prop}
    {P : World σ → List Event → Prop} :
    Effect G P (sendMessageImpl slot message) (World.KeepsAvailable (σ := σ)) := by
  intro w tr _ _
  rw [World.KeepsAvailable, World.freeSlots, World.freeSlots,
    (sendMessageImpl_run slot message w).2.pool]

lemma sendMessageLoop_keepsAvailable {G : List Event → Event → Prop}
    {P : World σ → List Event → Prop} :
    Effect G P (sendMessageLoop message filter indices report)
      (World.KeepsAvailable (σ := σ)) := by
  have hR : Composable (World.KeepsAvailable (σ := σ)) := keepsAvailable_composable
  refine Effect.pre (P := fun _ _ => True) ?_ fun _ _ _ => trivial
  induction indices generalizing report with
  | nil => exact .pure hR
  | cons index indices ih =>
    refine .get_bind fun w => .ite (fun _ => ?_) fun _ => ih.pre fun _ _ _ => trivial
    refine Effect.bind_of_forall hR sendMessageImpl_keepsAvailable fun r => ?_
    cases r with
    | none => exact ih
    | some e => exact .bind_of_forall hR resetAndRelease_keepsAvailable fun _ => ih

/-! ### The loop -/

/-- One attempt. -/
lemma sendMessageImpl_attempt (index : ℕ) (message : OutgoingMessage) (w : World σ) :
    ∃ written result w', (sendMessageImpl index message).run w =
        ⟨some result, w', [.sent index message written]⟩ ∧
      (result = none ↔ written ≠ none) ∧
      (written = none ↔ (w.entry index).socketHandler.socket = -1 ∨
        w.results.sendmsg.head? = some none) ∧
      w'.results.sendmsg = w.results.sendmsg.tail ∧ w.SameConnections w' := by
  obtain ⟨-, hsame⟩ := sendMessageImpl_run index message w
  let written := if (w.entry index).socketHandler.socket = -1 then none
    else w.results.sendmsg.headD (some (headerSize + message.payload.length))
  refine ⟨written, _, _, rfl, ?_, ?_, rfl, hsame⟩
  · change (if written = none then some _ else none).map _ = none ↔ _
    rw [Option.map_eq_none_iff]
    by_cases hnone : written = none
    · simp [hnone]
    · simp [hnone]
  · by_cases hsocket : (w.entry index).socketHandler.socket = -1
    · simp [written, hsocket]
    · simp only [written, if_neg hsocket, headD_eq_none, hsocket, false_or]

/-- A slot that the filter does not accept is passed over. -/
lemma sendMessageLoop_skip (haccepts : ¬ w.Accepts filter index) :
    (sendMessageLoop message filter (index :: indices) report).run w =
      (sendMessageLoop message filter indices report).run w := by
  have hfalse : ¬ ((w.entry index).connectionType ≠ .none ∧
    filter { slot := index, type := (w.entry index).connectionType }) := haccepts
  simp only [sendMessageLoop, run_bind, run_get, Outcome.andThen, if_neg hfalse, List.nil_append]

/-- The rest of the loop after an attempt. -/
def afterAttempt (message : OutgoingMessage) (filter : ConnectionMeta → Bool) (index : ℕ)
    (indices : List ℕ) (report : DeliveryReport) : Option Error → EngineM σ DeliveryReport
  | none =>
    sendMessageLoop message filter indices { report with delivered := report.delivered + 1 }
  | some _ => do
    resetAndRelease index
    sendMessageLoop message filter indices { report with failed := report.failed + 1 }

lemma sendMessageLoop_attempt (indices : List ℕ) (report : DeliveryReport)
    (haccepts : w.Accepts filter index) {written : Option ℕ} {result : Option Error}
    (hattempt : (sendMessageImpl index message).run w =
      ⟨some result, w', [.sent index message written]⟩) :
    ∃ r, (afterAttempt message filter index indices report result).run w' = r ∧
      (sendMessageLoop message filter (index :: indices) report).run w =
        ⟨r.value, r.state, .sent index message written :: r.events⟩ := by
  have htrue : (w.entry index).connectionType ≠ .none ∧
    filter { slot := index, type := (w.entry index).connectionType } := haccepts
  refine ⟨_, rfl, ?_⟩
  simp only [sendMessageLoop, run_bind, run_get, Outcome.andThen, if_pos htrue, hattempt]
  cases result with
  | none => rfl
  | some e => rfl

/-- A loop that ends with fewer than 4095 slots available. -/
lemma sendMessageLoop_reaches (hnodup : indices.Nodup)
    (hroom : ((sendMessageLoop message filter indices report).run w).state.freeSlots <
      ringBufferSize - 1) :
    Reaches message filter indices report w
      ((sendMessageLoop message filter indices report).run w) := by
  induction indices generalizing w report with
  | nil => exact Reaches.nil
  | cons index indices ih =>
    obtain ⟨hnot, hnodup⟩ := List.nodup_cons.1 hnodup
    by_cases haccepts : w.Accepts filter index
    · obtain ⟨written, result, w', hattempt, hresult, hwritten, hsent, hsame⟩ :=
        sendMessageImpl_attempt index message w
      obtain ⟨r, hr, hrun⟩ :=
        sendMessageLoop_attempt indices report haccepts hattempt
      rw [hrun] at hroom ⊢
      cases result with
      | none =>
        obtain ⟨n, rfl⟩ := Option.ne_none_iff_exists'.1 (hresult.1 rfl)
        subst hr
        exact Reaches.delivered haccepts hsame hsent
          (fun hunreached => absurd (hwritten.2 hunreached) (Option.some_ne_none n))
          (ih hnodup hroom)
      | some e =>
        obtain rfl : written = none := by
          by_contra hne
          cases hresult.2 hne
        -- the slots that are available now are so at the end
        have hafter : w'.freeSlots < ringBufferSize - 1 := by
          refine lt_of_le_of_lt ?_ hroom
          rw [← hr]
          exact keepsAvailable_run
            (.bind_of_forall keepsAvailable_composable resetAndRelease_keepsAvailable fun _ =>
              sendMessageLoop_keepsAvailable) w'
        obtain ⟨w₂, hrelease, hretired⟩ := resetAndRelease_of_room index hafter
        simp only [afterAttempt, run_bind, hrelease, Outcome.andThen] at hr
        subst hr
        exact Reaches.failed haccepts hnot hsame hretired hsent (hwritten.1 rfl) (ih hnodup hroom)
    · rw [sendMessageLoop_skip haccepts] at hroom ⊢
      exact (ih hnodup hroom).skip haccepts

/-! ### The broadcast -/

/-- One attempt for each connection in use that the filter accepts, in the order of the slots, and
none for any other; those for which `sendmsg` gives -1 are reset and their slots are available, the
others are as they were. -/
structure ReachesEach (message : OutgoingMessage) (filter : ConnectionMeta → Bool) (w : World σ)
    (r : Outcome (World σ) Event DeliveryReport) : Prop where
  returns : ∃ report, r.value = some report ∧
    report.delivered + report.failed = (w.accepted filter (List.range w.pool.counter)).length ∧
    report.failed = (failures r.events).length
  attempts : r.events.filterMap Event.attempt =
    (w.accepted filter (List.range w.pool.counter)).map fun slot => (slot, message)
  failures : failures r.events =
    w.unreached (w.accepted filter (List.range w.pool.counter)) w.results.sendmsg
  failed : ∀ slot ∈ BattleShips.failures r.events, r.state.entry slot = (w.entry slot).cleared ∧
    r.state.pool.availableSlots.items.count slot = 1
  others : ∀ slot ∉ BattleShips.failures r.events, r.state.entry slot = w.entry slot ∧
    r.state.pool.availableSlots.items.count slot = w.pool.availableSlots.items.count slot
  partitioned : r.state.Partitioned

theorem sendMessage_reachesEach (message : OutgoingMessage) (filter : ConnectionMeta → Bool)
    (hpartitioned : w.Partitioned) (hroom :
      ((sendMessage message filter).run w).state.freeSlots < ringBufferSize - 1) :
    ReachesEach message filter w ((sendMessage message filter).run w) := by
  have hrun : (sendMessage message filter).run w =
      (sendMessageLoop message filter (List.range w.pool.counter) {}).run w := rfl
  rw [hrun] at hroom ⊢
  have h := sendMessageLoop_reaches List.nodup_range hroom
  generalize (sendMessageLoop message filter (List.range w.pool.counter) {}).run w = r at h
  have haccepts : ∀ slot ∈ failures r.events,
      slot < w.pool.counter ∧ (w.entry slot).connectionType ≠ .none := by
    intro slot hslot
    obtain ⟨hrange, haccepts⟩ := List.mem_filter.1 (h.failures.subset hslot)
    exact ⟨List.mem_range.1 hrange, (of_decide_eq_true haccepts).1⟩
  have hnodup : (failures r.events).Nodup := (List.nodup_range.filter _).sublist h.failures
  have hfailed : ∀ slot ∈ failures r.events, r.state.entry slot = (w.entry slot).cleared ∧
      r.state.pool.availableSlots.items.count slot = 1 := by
    intro slot hslot
    obtain ⟨hissued, hinUse⟩ := haccepts slot hslot
    have hnot : slot ∉ w.pool.availableSlots.items := by
      rcases hpartitioned.slots slot hissued with ⟨-, hnot⟩ | ⟨hnone, -⟩
      · exact hnot
      · exact absurd hnone hinUse
    refine ⟨by rw [h.entries slot, if_pos hslot], ?_⟩
    rw [h.items, List.count_append, List.count_eq_zero_of_not_mem hnot,
      List.count_eq_one_of_mem hnodup hslot]
  have hothers : ∀ slot ∉ failures r.events, r.state.entry slot = w.entry slot ∧
      r.state.pool.availableSlots.items.count slot = w.pool.availableSlots.items.count slot := by
    intro slot hslot
    refine ⟨by rw [h.entries slot, if_neg hslot], ?_⟩
    rw [h.items, List.count_append, List.count_eq_zero_of_not_mem hslot, Nat.add_zero]
  refine ⟨?_, h.attempts, h.unreached, hfailed, hothers, ?_, ?_⟩
  · obtain ⟨report, hvalue, htotal, hfailed⟩ := h.returns
    exact ⟨report, hvalue, by simpa using htotal, by simpa using hfailed⟩
  · intro slot hslot
    rw [h.counter] at hslot
    by_cases hmem : slot ∈ failures r.events
    · obtain ⟨hentry, hcount⟩ := hfailed slot hmem
      exact .inr ⟨by rw [hentry]; rfl, hcount⟩
    · obtain ⟨hentry, hcount⟩ := hothers slot hmem
      rw [hentry, hcount, ← List.count_eq_zero, hcount, List.count_eq_zero]
      exact hpartitioned.slots slot hslot
  · intro slot hslot
    rw [h.counter]
    rw [h.items, List.mem_append] at hslot
    rcases hslot with hslot | hslot
    · exact hpartitioned.issued slot hslot
    · exact (haccepts slot hslot).1

/-- A process with two clients, the first of which cannot be reached. -/
def twoClients : World Unit where
  pool :=
    { object := fun slot => if slot < 2 then .ofSocket .toClient (slot + 5) else {}
      counter := 2
      lastNotIssuedIndex := 2 }
  epoll _ := none
  results := { sendmsg := [none] }
  nextPid := 0
  app := ()

theorem sendMessage_reachesEach_twoClients :
    let r := (sendMessage { payload := ascii "hi", type := .default }
      fun connection => connection.type = .toClient).run twoClients
    failures r.events = [0] ∧ ReachesEach { payload := ascii "hi", type := .default }
      (fun connection => connection.type = .toClient) twoClients r := by
  refine ⟨by decide, ?_⟩
  apply sendMessage_reachesEach
  · constructor
    · intro slot hslot
      have hlt : slot < 2 := hslot
      have hentry : twoClients.entry slot = .ofSocket .toClient (slot + 5) := if_pos hlt
      refine .inl ⟨?_, nofun⟩
      rw [hentry]
      nofun
    · exact nofun
  · decide

end NetworkEngine

end BattleShips
