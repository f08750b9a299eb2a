import BattleShips.Core.AtomicQueueTurns

/-!
# What a single consumer can count on

With one thread that pops, the flag of a slot is only cleared by it. A value that is stored sets at
most one flag, and a flag is cleared for each value that is claimed: there are as many values stored
as have been claimed and as there are flags set. A flag that the consumer finds set while it is in
no call is therefore that of a value which is not claimed yet.
-/

namespace BattleShips

open Function

variable {α : Type*} {s s' : QueueState α} {i j : ℕ} {stored stored' : Finset ℕ}

/-- The index that the thread has claimed and not stored a value for. -/
def QueuePc.storing : QueuePc α → Option ℕ
  | .pushWait _ t | .pushCheck _ t | .pushEmplace _ t | .pushStore _ t => some t
  | _ => none

/-- How many flags the thread is still to clear for what it has claimed. -/
def QueuePc.flagsDue : QueuePc α → ℕ
  | .popWait _ | .popCheck _ | .popTake _ | .popClear _ _ => 1
  | _ => 0

/-- What the thread `i` relies on where only the thread 0 pops. -/
def QueuePc.Relies (slot : ℕ → AtomicSlot α) (head i : ℕ) : QueuePc α → Prop
  | .pushStore _ t => (slot (normilizeRingSlot t)).object.isSome = true
  | .popLoadTail h | .popClaim h => i = 0 ∧ h = head
  | .popLoadHead | .popWait _ | .popCheck _ | .popClearAgain _ _ => i = 0
  | .popTake h | .popClear h _ => i = 0 ∧ (slot (normilizeRingSlot h)).isInitialized = true
  | _ => True

lemma QueuePc.Relies.mono {pc : QueuePc α} {slot slot' : ℕ → AtomicSlot α} {head head' : ℕ}
    (h : pc.Relies slot head i)
    (hobject : ∀ n, (slot n).object.isSome = true → (slot' n).object.isSome = true)
    (hpops : i = 0 → head' = head ∧
      ∀ n, (slot n).isInitialized = true → (slot' n).isInitialized = true) :
    pc.Relies slot' head' i := by
  cases pc with
  | pushStore x t => exact hobject _ h
  | popLoadTail t | popClaim t => exact ⟨h.1, h.2.trans (hpops h.1).1.symm⟩
  | popTake t | popClear t data => exact ⟨h.1, (hpops h.1).2 _ h.2⟩
  | _ => exact h

namespace QueueState

/-- The slots whose flag is set. -/
def flags (s : QueueState α) : Finset ℕ :=
  (Finset.range ringBufferSize).filter fun n => (s.slot n).isInitialized = true

lemma mem_flags {t : ℕ} :
    normilizeRingSlot t ∈ s.flags ↔ (s.slotOf t).isInitialized = true := by
  simp [flags, slotOf, normilizeRingSlot_lt]

lemma flags_subset {F : Finset ℕ}
    (h : ∀ n, n < ringBufferSize → (s.slot n).isInitialized = true → n ∈ F) : s.flags ⊆ F := by
  intro n hn
  rw [flags, Finset.mem_filter, Finset.mem_range] at hn
  exact h n hn.1 hn.2

lemma slot_touch {pc : QueuePc α} {t : ℕ} {slot : AtomicSlot α} (n : ℕ) :
    (s.touch i pc t slot).slot n = if n = normilizeRingSlot t then slot else s.slot n :=
  update_apply _ _ _ _

lemma flags_touch_subset {pc : QueuePc α} {t : ℕ} {slot : AtomicSlot α}
    (hslot : slot.isInitialized = true → (s.slotOf t).isInitialized = true) :
    (s.touch i pc t slot).flags ⊆ s.flags := by
  apply flags_subset
  intro n hn hflag
  rcases eq_or_ne n (normilizeRingSlot t) with rfl | hne
  · rw [slot_touch, if_pos rfl] at hflag
    exact mem_flags.2 (hslot hflag)
  · rw [slot_touch, if_neg hne] at hflag
    simpa [flags, hn] using hflag

/-- The counting of the values: those which have been stored, with the flags that stand for them. -/
structure Counted (s : QueueState α) (stored : Finset ℕ) : Prop where
  storing : ∀ i t, (s.thread i).storing = some t → t < s.tail ∧ t ∉ stored
  alone : ∀ i j t, (s.thread i).storing = some t → (s.thread j).storing = some t → i = j
  below : ∀ t ∈ stored, t < s.tail
  count : s.flags.card + s.head ≤ stored.card + (s.thread 0).flagsDue
  object : ∀ n, (s.slot n).isInitialized = true → (s.slot n).object.isSome = true
  relies : ∀ i, (s.thread i).Relies s.slot s.head i

namespace Counted

lemma initial : ({} : QueueState α).Counted ∅ where
  storing _ _ h := by cases h
  alone _ _ _ h := by cases h
  below _ h := by simp at h
  count := by simp [flags]
  object _ h := by cases h
  relies _ := trivial

/-- There is a value which is not claimed where the consumer, having none to clear a flag for, finds
one set. -/
lemma head_lt_tail (h : s.Counted stored) {t : ℕ} (hflag : (s.slotOf t).isInitialized = true)
    (hdue : (s.thread 0).flagsDue = 0) : s.head < s.tail := by
  have hcount := h.count
  have hpos : 0 < s.flags.card := Finset.card_pos.2 ⟨_, mem_flags.2 hflag⟩
  have hstored : stored ⊆ Finset.range s.tail := fun t ht => Finset.mem_range.2 (h.below t ht)
  have hcard := Finset.card_le_card hstored
  rw [Finset.card_range] at hcard
  omega

/-- What a step of the thread `i` has to see to. -/
lemma move (h : s.Counted stored) (hthread : ∀ j, j ≠ i → s'.thread j = s.thread j)
    (htail : s.tail ≤ s'.tail)
    (hstored : ∀ t ∈ stored', t ∈ stored ∨ (s.thread i).storing = some t)
    (hstoring : ∀ t, (s'.thread i).storing = some t →
      t < s'.tail ∧ t ∉ stored' ∧ ∀ j, j ≠ i → (s.thread j).storing ≠ some t)
    (hcount : s'.flags.card + s'.head ≤ stored'.card + (s'.thread 0).flagsDue)
    (hobject : ∀ n, (s.slot n).object.isSome = true → (s'.slot n).object.isSome = true)
    (hflags : ∀ n, (s'.slot n).isInitialized = true → (s'.slot n).object.isSome = true)
    (hpops : i ≠ 0 → s'.head = s.head ∧
      ∀ n, (s.slot n).isInitialized = true → (s'.slot n).isInitialized = true)
    (hrelies : (s'.thread i).Relies s'.slot s'.head i) : s'.Counted stored' where
  storing j t hj := by
    rcases eq_or_ne j i with rfl | hne
    · exact ⟨(hstoring t hj).1, (hstoring t hj).2.1⟩
    · rw [hthread j hne] at hj
      obtain ⟨hlt, hnot⟩ := h.storing j t hj
      refine ⟨hlt.trans_le htail, fun hmem => ?_⟩
      rcases hstored t hmem with hmem | hi
      · exact hnot hmem
      · exact hne (h.alone j i t hj hi)
  alone j k t hj hk := by
    rcases eq_or_ne j i with rfl | hj'
    · by_contra hne
      have hother := (hstoring t hj).2.2 k (Ne.symm hne)
      rw [hthread k (Ne.symm hne)] at hk
      exact hother hk
    · rcases eq_or_ne k i with rfl | hk'
      · rw [hthread j hj'] at hj
        exact absurd hj ((hstoring t hk).2.2 j hj')
      · rw [hthread j hj'] at hj
        rw [hthread k hk'] at hk
        exact h.alone j k t hj hk
  below t ht := by
    rcases hstored t ht with ht | hi
    · exact (h.below t ht).trans_le htail
    · exact (h.storing i t hi).1.trans_le htail
  count := hcount
  object := hflags
  relies j := by
    rcases eq_or_ne j i with rfl | hne
    · exact hrelies
    · rw [hthread j hne]
      exact (h.relies j).mono hobject fun hzero => hpops fun hi => hne (hzero.trans hi.symm)

/-- A step that leaves the counters and the flags as they are. -/
lemma keep (h : s.Counted stored) (hthread : ∀ j, j ≠ i → s'.thread j = s.thread j)
    (hhead : s'.head = s.head) (htail : s'.tail = s.tail)
    (hflag : ∀ n, (s'.slot n).isInitialized = (s.slot n).isInitialized)
    (hobject : ∀ n, (s.slot n).object.isSome = true → (s'.slot n).object.isSome = true)
    (hstoring : ∀ t, (s'.thread i).storing = some t → (s.thread i).storing = some t)
    (hdue : (s'.thread i).flagsDue = (s.thread i).flagsDue)
    (hrelies : (s'.thread i).Relies s'.slot s.head i) : s'.Counted stored := by
  refine h.move hthread htail.ge (fun t ht => .inl ht) ?_ ?_ hobject ?_ ?_ ?_
  · intro t ht
    obtain ⟨hlt, hnot⟩ := h.storing i t (hstoring t ht)
    rw [htail]
    exact ⟨hlt, hnot, fun j hne hj => hne (h.alone j i t hj (hstoring t ht))⟩
  · have hflags : s'.flags = s.flags := by simp only [flags, hflag]
    have hzero : (s'.thread 0).flagsDue = (s.thread 0).flagsDue := by
      rcases eq_or_ne 0 i with rfl | hne
      · exact hdue
      · rw [hthread 0 hne]
    rw [hflags, hhead, hzero]
    exact h.count
  · exact fun n hn => hobject n (h.object n (by rwa [← hflag]))
  · exact fun _ => ⟨hhead, fun n hn => by rwa [hflag]⟩
  · rw [hhead]
    exact hrelies

lemma goto {pc : QueuePc α} (h : s.Counted stored)
    (hstoring : ∀ t, pc.storing = some t → (s.thread i).storing = some t)
    (hdue : pc.flagsDue = (s.thread i).flagsDue) (hrelies : pc.Relies s.slot s.head i) :
    (s.goto i pc).Counted stored := by
  have hpc : (s.goto i pc).thread i = pc := update_self _ _ _
  have hthread : ∀ j, j ≠ i → (s.goto i pc).thread j = s.thread j :=
    fun j hne => update_of_ne hne _ _
  rw [← hpc] at hstoring hdue hrelies
  exact h.keep hthread rfl rfl (fun _ => rfl) (fun _ hn => hn) hstoring hdue hrelies

lemma touch {pc : QueuePc α} {t : ℕ} {slot : AtomicSlot α} (h : s.Counted stored)
    (hstoring : ∀ t, pc.storing = some t → (s.thread i).storing = some t)
    (hdue : pc.flagsDue = (s.thread i).flagsDue)
    (hflag : slot.isInitialized = (s.slotOf t).isInitialized)
    (hobject : (s.slotOf t).object.isSome = true → slot.object.isSome = true)
    (hrelies : pc.Relies (s.touch i pc t slot).slot s.head i) :
    (s.touch i pc t slot).Counted stored := by
  have hpc : (s.touch i pc t slot).thread i = pc := update_self _ _ _
  have hthread : ∀ j, j ≠ i → (s.touch i pc t slot).thread j = s.thread j :=
    fun j hne => update_of_ne hne _ _
  rw [← hpc] at hstoring hdue
  refine h.keep hthread rfl rfl ?_ ?_ hstoring hdue (by rw [hpc]; exact hrelies)
  · intro n
    rw [slot_touch]
    split_ifs with hn
    · rw [hflag, hn, slotOf]
    · rfl
  · intro n hn
    rw [slot_touch]
    split_ifs with heq
    · rw [heq] at hn
      exact hobject hn
    · exact hn

lemma claimTail {x : α} {t : ℕ} (h : s.Counted stored) (hpc : s.thread i = .pushClaim x t) :
    (s.claimTail i x).Counted stored := by
  have hthread : ∀ j, j ≠ i → (s.claimTail i x).thread j = s.thread j :=
    fun j hne => update_of_ne hne _ _
  have hi : (s.claimTail i x).thread i = .pushWait x s.tail := update_self _ _ _
  refine h.move hthread (Nat.le_succ _) (fun t ht => .inl ht) ?_ ?_ (fun _ hn => hn) h.object
    (fun _ => ⟨rfl, fun _ hn => hn⟩) (by rw [hi]; trivial)
  · intro t ht
    rw [hi] at ht
    obtain rfl := Option.some.inj ht
    refine ⟨Nat.lt_succ_self _, fun hmem => (h.below _ hmem).false, fun j _ hj => ?_⟩
    exact (h.storing j _ hj).1.false
  · have hzero : ((s.claimTail i x).thread 0).flagsDue = (s.thread 0).flagsDue := by
      rcases eq_or_ne 0 i with rfl | hne
      · rw [hi, hpc]
        rfl
      · rw [hthread 0 hne]
    rw [hzero]
    exact h.count

lemma claimHead {t : ℕ} (h : s.Counted stored) (hpc : s.thread 0 = .popClaim t) :
    (s.claimHead 0).Counted stored := by
  have hthread : ∀ j, j ≠ 0 → (s.claimHead 0).thread j = s.thread j :=
    fun j hne => update_of_ne hne _ _
  have hi : (s.claimHead 0).thread 0 = .popWait s.head := by simp [QueueState.claimHead]
  refine h.move hthread le_rfl (fun t ht => .inl ht) ?_ ?_ (fun _ hn => hn) h.object
    (fun hne => absurd rfl hne) (by rw [hi]; rfl)
  · intro t ht
    rw [hi] at ht
    cases ht
  · have hcount := h.count
    rw [hpc] at hcount
    rw [hi]
    exact Nat.succ_le_succ hcount

/-- A flag is set, at most one more than before, for a value that had none. -/
lemma store {x : α} {t : ℕ} (h : s.Counted stored) (hpc : s.thread i = .pushStore x t)
    {slot : AtomicSlot α} (hobject : slot.object = (s.slotOf t).object)
    (hflag : slot.isInitialized = true) :
    (s.touch i (.pushed true) t slot).Counted (insert t stored) := by
  have hthread : ∀ j, j ≠ i → (s.touch i (.pushed true) t slot).thread j = s.thread j :=
    fun j hne => update_of_ne hne _ _
  have hi : (s.touch i (.pushed true) t slot).thread i = .pushed true := update_self _ _ _
  have hstoring : (s.thread i).storing = some t := by rw [hpc]; rfl
  have hrelies := h.relies i
  rw [hpc] at hrelies
  have hslots : ∀ n, (s.slot n).object.isSome = true →
      ((s.touch i (.pushed true) t slot).slot n).object.isSome = true := by
    intro n hn
    rw [slot_touch]
    split_ifs
    · rw [hobject]
      exact hrelies
    · exact hn
  refine h.move hthread le_rfl ?_ ?_ ?_ hslots ?_ ?_ (by rw [hi]; trivial)
  · intro u hu
    rcases Finset.mem_insert.1 hu with rfl | hu
    · exact .inr hstoring
    · exact .inl hu
  · intro u hu
    rw [hi] at hu
    cases hu
  · have hsubset : (s.touch i (.pushed true) t slot).flags ⊆
        insert (normilizeRingSlot t) s.flags := by
      apply flags_subset
      intro n hn hset
      rw [slot_touch] at hset
      rw [Finset.mem_insert]
      split_ifs at hset with heq
      · exact .inl heq
      · exact .inr (by simpa [flags, hn] using hset)
    have hcard := (Finset.card_le_card hsubset).trans (Finset.card_insert_le _ _)
    have hnew := Finset.card_insert_of_notMem (h.storing i t hstoring).2
    have hzero : ((s.touch i (.pushed true) t slot).thread 0).flagsDue =
        (s.thread 0).flagsDue := by
      rcases eq_or_ne 0 i with rfl | hne
      · rw [hi, hpc]
        rfl
      · rw [hthread 0 hne]
    have hcount := h.count
    have hhead : (s.touch i (.pushed true) t slot).head = s.head := rfl
    rw [hzero, hnew, hhead]
    omega
  · intro n hn
    rw [slot_touch] at hn
    split_ifs at hn with heq
    · rw [slot_touch, if_pos heq, hobject]
      exact hrelies
    · exact hslots n (h.object n hn)
  · refine fun _ => ⟨rfl, fun n hn => ?_⟩
    rw [slot_touch]
    split_ifs
    · exact hflag
    · exact hn

/-- A flag is cleared, or has been already. -/
lemma clear {pc : QueuePc α} {t : ℕ} {slot : AtomicSlot α} (h : s.Counted stored)
    (hstoring : pc.storing = none) (hobject : slot.object = (s.slotOf t).object)
    (hflag : slot.isInitialized = false)
    (hcount : (s.touch 0 pc t slot).flags.card + s.head ≤ stored.card + pc.flagsDue)
    (hrelies : pc.Relies (s.touch 0 pc t slot).slot s.head 0) :
    (s.touch 0 pc t slot).Counted stored := by
  have hthread : ∀ j, j ≠ 0 → (s.touch 0 pc t slot).thread j = s.thread j :=
    fun j hne => update_of_ne hne _ _
  have hi : (s.touch 0 pc t slot).thread 0 = pc := by simp [QueueState.touch]
  have hslots : ∀ n, ((s.touch 0 pc t slot).slot n).object = (s.slot n).object := by
    intro n
    rw [slot_touch]
    split_ifs with heq
    · rw [hobject, heq, slotOf]
    · rfl
  refine h.move hthread le_rfl (fun t ht => .inl ht) ?_ (by rw [hi]; exact hcount)
    (fun n hn => by rw [hslots]; exact hn) ?_ (fun hne => absurd rfl hne)
    (by rw [hi]; exact hrelies)
  · intro u hu
    rw [hi, hstoring] at hu
    cases hu
  · intro n hn
    rw [hslots]
    rw [slot_touch] at hn
    split_ifs at hn
    · simp [hflag] at hn
    · exact h.object n hn

lemma clear_set {t : ℕ} {data : ℕ × α} {slot : AtomicSlot α} (h : s.Counted stored)
    (hpc : s.thread 0 = .popClear t data) (hobject : slot.object = (s.slotOf t).object)
    (hflag : slot.isInitialized = false) :
    (s.touch 0 (.popClearAgain t data) t slot).Counted stored := by
  have hrelies := h.relies 0
  rw [hpc] at hrelies
  have hmem : normilizeRingSlot t ∈ s.flags := mem_flags.2 hrelies.2
  refine h.clear rfl hobject hflag ?_ rfl
  have hsubset : (s.touch 0 (.popClearAgain t data) t slot).flags ⊆
      s.flags.erase (normilizeRingSlot t) := by
    apply flags_subset
    intro n hn hset
    rw [slot_touch] at hset
    split_ifs at hset with heq
    · simp [hflag] at hset
    · exact Finset.mem_erase.2 ⟨heq, by simpa [flags, hn] using hset⟩
  have hcard := Finset.card_le_card hsubset
  rw [Finset.card_erase_of_mem hmem] at hcard
  have hpos : 0 < s.flags.card := Finset.card_pos.2 ⟨_, hmem⟩
  have hcount := h.count
  rw [hpc] at hcount
  simp only [QueuePc.flagsDue] at hcount ⊢
  omega

lemma clear_again {t : ℕ} {data : ℕ × α} {slot : AtomicSlot α} (h : s.Counted stored)
    (hpc : s.thread 0 = .popClearAgain t data) (hobject : slot.object = (s.slotOf t).object)
    (hflag : slot.isInitialized = false) :
    (s.touch 0 (.popped (some data)) t slot).Counted stored := by
  refine h.clear rfl hobject hflag ?_ trivial
  have hsubset : (s.touch 0 (.popped (some data)) t slot).flags ⊆ s.flags :=
    flags_touch_subset fun hset => by simp [hflag] at hset
  have hcard := Finset.card_le_card hsubset
  have hcount := h.count
  rw [hpc] at hcount
  simp only [QueuePc.flagsDue] at hcount ⊢
  omega

lemma with_returned (h : s.Counted stored) (returned : List (ℕ × α)) :
    { s with returned := returned }.Counted stored :=
  ⟨h.storing, h.alone, h.below, h.count, h.object, h.relies⟩

lemma step_next (h : s.Counted stored) (hstep : s.next i = some s') :
    ∃ stored', s'.Counted stored' := by
  have hrelies := h.relies i
  cases hpc : s.thread i <;> simp only [next, hpc] at hstep <;> rw [hpc] at hrelies <;>
    try split at hstep
  case popClaim.isTrue t _ =>
    obtain rfl := Option.some.inj hstep
    obtain ⟨rfl, -⟩ := hrelies
    exact ⟨stored, h.claimHead hpc⟩
  case pushClaim.isTrue x t _ =>
    obtain rfl := Option.some.inj hstep
    exact ⟨stored, h.claimTail hpc⟩
  case pushStore x t =>
    obtain rfl := Option.some.inj hstep
    exact ⟨insert t stored, h.store hpc rfl rfl⟩
  case popClear t data =>
    obtain rfl := Option.some.inj hstep
    obtain ⟨rfl, -⟩ := hrelies
    exact ⟨stored, h.clear_set hpc rfl rfl⟩
  case popClearAgain t data =>
    obtain rfl := Option.some.inj hstep
    obtain rfl := hrelies
    have hcleared : (s.touch 0 (.popped (some data)) t
        { s.slotOf t with isInitialized := false, turn := (s.slotOf t).turn + 1 }).Counted
          stored := h.clear_again hpc rfl rfl
    exact ⟨stored, hcleared.with_returned _⟩
  case pushEmplace x t =>
    obtain rfl := Option.some.inj hstep
    refine ⟨stored, h.touch ?_ ?_ rfl (fun _ => rfl) ?_⟩
    · simp [hpc, QueuePc.storing]
    · simp [hpc, QueuePc.flagsDue]
    · simp [QueuePc.Relies, slot_touch]
  case pushCheck.isFalse x t _ =>
    obtain rfl := Option.some.inj hstep
    refine ⟨stored, h.touch ?_ ?_ rfl (fun hn => hn) trivial⟩
    · simp [hpc, QueuePc.storing]
    · simp [hpc, QueuePc.flagsDue]
  case popCheck.isTrue t hflag =>
    obtain rfl := Option.some.inj hstep
    refine ⟨stored, h.touch ?_ ?_ rfl (fun hn => hn) ⟨hrelies, ?_⟩⟩
    · simp [hpc, QueuePc.storing]
    · simp [hpc, QueuePc.flagsDue]
    · rw [slot_touch, if_pos rfl]
      exact hflag
  case h_1 t _ data _ =>
    obtain rfl := Option.some.inj hstep
    refine ⟨stored, h.touch ?_ ?_ rfl (fun hn => hn) ⟨hrelies.1, ?_⟩⟩
    · simp [hpc, QueuePc.storing]
    · simp [hpc, QueuePc.flagsDue]
    · rw [slot_touch, if_pos rfl]
      exact hrelies.2
  all_goals first
    | contradiction
    | obtain rfl := Option.some.inj hstep
      refine ⟨stored, h.goto ?_ ?_ ?_⟩
      · simp [hpc, QueuePc.storing]
      · simp [hpc, QueuePc.flagsDue]
      · trivial

/-- Only the thread 0 calls `try_pop`. -/
lemma step {a : ℕ × QueueAction α} (h : s.Counted stored) (hpops : a.2 = .pop → a.1 = 0)
    (hstep : s.step a = some s') : ∃ stored', s'.Counted stored' := by
  obtain ⟨i, a⟩ := a
  cases a with
  | next => exact h.step_next hstep
  | push x =>
    cases hpc : s.thread i <;> simp only [QueueState.step, hpc, reduceCtorEq] at hstep
    obtain rfl := Option.some.inj hstep
    refine ⟨stored, h.goto ?_ ?_ trivial⟩
    · simp [QueuePc.storing]
    · simp [hpc, QueuePc.flagsDue]
  | pop =>
    cases hpc : s.thread i <;> simp only [QueueState.step, hpc, reduceCtorEq] at hstep
    obtain rfl := Option.some.inj hstep
    refine ⟨stored, h.goto ?_ ?_ (hpops rfl)⟩
    · simp [QueuePc.storing]
    · simp [hpc, QueuePc.flagsDue]
  | leave =>
    cases hpc : s.thread i <;> simp only [QueueState.step, hpc, reduceCtorEq] at hstep <;>
    · obtain rfl := Option.some.inj hstep
      refine ⟨stored, h.goto ?_ ?_ trivial⟩
      · simp [QueuePc.storing]
      · simp [hpc, QueuePc.flagsDue]

/-- The other threads leave `head` as it is, and clear no flag. -/
lemma others {a : ℕ × QueueAction α} (h : s.Counted stored) (hstep : s.step a = some s')
    (hne : a.1 ≠ 0) : s'.head = s.head ∧
      ∀ n, (s.slot n).isInitialized = true → (s'.slot n).isInitialized = true := by
  have hrelies := h.relies a.1
  cases stepped hstep with
  | goto hclaim hfits => exact ⟨rfl, fun _ hn => hn⟩
  | claimPush hpc => exact ⟨rfl, fun _ hn => hn⟩
  | claimPop hpc =>
    rw [hpc] at hrelies
    exact absurd hrelies.1 hne
  | clear hpc =>
    rw [hpc] at hrelies
    exact absurd hrelies.1 hne
  | clearAgain hpc =>
    rw [hpc] at hrelies
    exact absurd hrelies hne
  | _ =>
    refine ⟨rfl, fun n hn => ?_⟩
    rw [slot_touch]
    split_ifs with heq
    · first
      | rfl
      | rw [heq] at hn
        exact hn
    · exact hn

end Counted

end QueueState

end BattleShips
