import BattleShips.Core.AllocatorPool

/-!
# First-time allocation

As long as nothing has been deallocated, the calls of `allocate` hand out the indices in order, each
to one call, and the memory of an index can be used when its call returns. A call that has found the
memory to end too early grows it by more than a chunk, or waits until another has, and the index it
gets afterwards is the one it has found the memory for.
-/

namespace BattleShips

open Function

variable {layout : AllocatorLayout} {s s' : AllocatorState} {i j : ℕ} {pc : AllocatorPc}

/-- The calls of the environment that give indices back. -/
def AllocatorAction.frees : AllocatorAction → Bool
  | .deallocate _ => true
  | _ => false

/-- The thread has the permit. -/
def AllocatorPc.growing : AllocatorPc → Bool
  | .loadNodeEnd _ | .protect _ _ | .fetchAdd _ | .release _ => true
  | _ => false

/-- Where the thread is in `free_indexes_queue`, which is empty. -/
def AllocatorPc.QueueFits (queuePc : RingPc) : AllocatorPc → Prop
  | .inTryPop => queuePc = .popLoadTail ∨ queuePc = .popLoadHead 0 ∨ queuePc = .popped none
  | _ => queuePc = .idle

namespace AllocatorState

/-- What a thread relies on. -/
def Fits (layout : AllocatorLayout) (s : AllocatorState) : AllocatorPc → Prop
  | .loadEnd n | .loadNodeEnd n => n ≤ s.lastNotIssuedIndex
  | .tryAcquire n e | .wait n e => n ≤ s.lastNotIssuedIndex ∧ n * layout.chunkSize ≤ e ∧
    (e = s.actualMemoryEnd ∨ e + layout.memoryAmount ≤ s.actualMemoryEnd)
  | .protect n e => n ≤ s.lastNotIssuedIndex ∧ e = s.actualMemoryEnd
  | .fetchAdd n => n ≤ s.lastNotIssuedIndex ∧
    ∀ address, address < s.actualMemoryEnd + layout.memoryAmount → s.accessible address = true
  | .release n | .exchange n => n ≤ s.lastNotIssuedIndex ∧
    (n + 1) * layout.chunkSize ≤ s.actualMemoryEnd
  | .allocated (some index) => index < s.lastNotIssuedIndex ∧ index ∉ s.returned
  | .inTryPush _ | .callPush _ | .inPush => False
  | _ => True

/-- `free_indexes_queue` is empty, and the permit is free or with one thread. -/
structure Placed (s : AllocatorState) : Prop where
  head : s.freeIndexesQueue.head = 0
  tail : s.freeIndexesQueue.tail = 0
  queue : ∀ i, (s.thread i).QueueFits (s.freeIndexesQueue.thread i)
  permit : s.pageAllocationPermit = true → ∀ i, (s.thread i).growing = false
  alone : ∀ i j, (s.thread i).growing = true → (s.thread j).growing = true → i = j

/-- What holds as long as nothing has been deallocated. -/
structure Sound (layout : AllocatorLayout) (s : AllocatorState) : Prop extends s.Placed where
  threads : ∀ i, s.Fits layout (s.thread i)
  committed : s.lastNotIssuedIndex * layout.chunkSize ≤ s.actualMemoryEnd
  accessible : ∀ address, address < s.actualMemoryEnd → s.accessible address = true
  nodup : s.returned.Nodup
  below : ∀ index ∈ s.returned, index < s.lastNotIssuedIndex
  unique : ∀ i j index, s.thread i = .allocated (some index) →
    s.thread j = .allocated (some index) → i = j
  issued : ∀ index, index < s.lastNotIssuedIndex →
    index ∈ s.returned ∨ ∃ i, s.thread i = .allocated (some index)

/-- What other threads may do. -/
lemma Fits.congr (h : s.Fits layout pc)
    (hindex : s.lastNotIssuedIndex ≤ s'.lastNotIssuedIndex)
    (hend : s'.actualMemoryEnd = s.actualMemoryEnd ∨ pc.growing = false ∧
      s'.actualMemoryEnd = s.actualMemoryEnd + layout.memoryAmount)
    (haccessible : ∀ address, s.accessible address = true → s'.accessible address = true)
    (hreturned : ∀ index, pc = .allocated (some index) → index ∉ s.returned →
      index ∉ s'.returned) : s'.Fits layout pc := by
  have hle : s.actualMemoryEnd ≤ s'.actualMemoryEnd := by
    rcases hend with heq | ⟨-, heq⟩ <;> rw [heq]
    exact Nat.le_add_right _ _
  cases pc with
  | loadEnd n | loadNodeEnd n => exact h.trans hindex
  | tryAcquire n e | wait n e =>
    obtain ⟨hn, hchunk, he⟩ := h
    refine ⟨hn.trans hindex, hchunk, ?_⟩
    rcases hend with heq | ⟨-, heq⟩ <;> omega
  | protect n e =>
    rcases hend with heq | ⟨hgrowing, -⟩
    · exact ⟨h.1.trans hindex, h.2.trans heq.symm⟩
    · cases hgrowing
  | fetchAdd n =>
    rcases hend with heq | ⟨hgrowing, -⟩
    · refine ⟨h.1.trans hindex, fun address haddress => haccessible _ (h.2 _ ?_)⟩
      rwa [← heq]
    · cases hgrowing
  | release n | exchange n => exact ⟨h.1.trans hindex, h.2.trans hle⟩
  | allocated result =>
    cases result with
    | none => trivial
    | some index => exact ⟨h.1.trans_le hindex, hreturned index rfl h.2⟩
  | inTryPush | callPush | inPush => exact h
  | _ => trivial

namespace Placed

lemma growing_of_ne (h : s.Placed) (hi : (s.thread i).growing = true) (hne : j ≠ i) :
    (s.thread j).growing = false := by
  cases hj : (s.thread j).growing with
  | false => rfl
  | true => exact absurd (h.alone j i hj hi) hne

/-- The thread `i` goes on, and the others stay where they are. -/
lemma move (h : s.Placed) (hthread : s'.thread = update s.thread i pc)
    (hhead : s'.freeIndexesQueue.head = 0) (htail : s'.freeIndexesQueue.tail = 0)
    (hqueue : pc.QueueFits (s'.freeIndexesQueue.thread i))
    (hothers : ∀ j, j ≠ i → s'.freeIndexesQueue.thread j = s.freeIndexesQueue.thread j)
    (hpermit : s'.pageAllocationPermit = true → pc.growing = false)
    (hgrowing : s'.pageAllocationPermit = true ∨ pc.growing = true →
      ∀ j, j ≠ i → (s.thread j).growing = false) : s'.Placed := by
  constructor
  · exact hhead
  · exact htail
  · intro j
    rcases eq_or_ne j i with rfl | hne
    · simpa [hthread] using hqueue
    · simpa [hthread, hne, hothers j hne] using h.queue j
  · intro hfree j
    rcases eq_or_ne j i with rfl | hne
    · simpa [hthread] using hpermit hfree
    · simpa [hthread, hne] using hgrowing (.inl hfree) j hne
  · intro j k hj hk
    by_cases hji : j = i
    · by_cases hki : k = i
      · exact hji.trans hki.symm
      · have hpc : pc.growing = true := by simpa [hthread, hji] using hj
        have hother := hgrowing (.inr hpc) k hki
        simp [hthread, hki, hother] at hk
    · by_cases hki : k = i
      · have hpc : pc.growing = true := by simpa [hthread, hki] using hk
        have hother := hgrowing (.inr hpc) j hji
        simp [hthread, hji, hother] at hj
      · exact h.alone j k (by simpa [hthread, hji] using hj) (by simpa [hthread, hki] using hk)

/-- The thread `i` goes on without the permit or keeps it. -/
lemma stay (h : s.Placed) (hthread : s'.thread = update s.thread i pc)
    (hsame : s'.freeIndexesQueue = s.freeIndexesQueue)
    (hpermit : s'.pageAllocationPermit = s.pageAllocationPermit)
    (hqueue : pc.QueueFits (s.freeIndexesQueue.thread i))
    (hgrowing : pc.growing = (s.thread i).growing) : s'.Placed := by
  refine h.move hthread (by rw [hsame, h.head]) (by rw [hsame, h.tail]) (by rwa [hsame])
    (fun _ _ => by rw [hsame]) ?_ ?_
  · rw [hpermit, hgrowing]
    exact fun hfree => h.permit hfree i
  · rw [hpermit, hgrowing]
    rintro (hfree | hpc) j hne
    · exact h.permit hfree j
    · exact h.growing_of_ne hpc hne

end Placed

namespace Sound

lemma initial : ({} : AllocatorState).Sound layout where
  head := rfl
  tail := rfl
  queue _ := rfl
  permit _ _ := rfl
  alone _ _ hi := by cases hi
  threads _ := trivial
  committed := by simp
  accessible _ haddress := by simp at haddress
  nodup := .nil
  below := nofun
  unique _ _ _ hi := by cases hi
  issued _ hindex := by simp at hindex

/-- A thread goes on that neither gets an index nor leaves with one. -/
lemma move (h : s.Sound layout) (hplaced : s'.Placed) (hthread : s'.thread = update s.thread i pc)
    (hindex : s'.lastNotIssuedIndex = s.lastNotIssuedIndex) (hreturned : s'.returned = s.returned)
    (hbefore : ∀ index, s.thread i ≠ .allocated (some index))
    (hafter : ∀ index, pc ≠ .allocated (some index))
    (hend : s'.actualMemoryEnd = s.actualMemoryEnd ∨ (s.thread i).growing = true ∧
      s'.actualMemoryEnd = s.actualMemoryEnd + layout.memoryAmount)
    (haccessible : ∀ address, s.accessible address = true → s'.accessible address = true)
    (husable : ∀ address, address < s'.actualMemoryEnd → s'.accessible address = true)
    (hfits : s'.Fits layout pc) : s'.Sound layout := by
  refine ⟨hplaced, ?_, ?_, ?_, ?_, ?_, ?_, ?_⟩
  · intro j
    rcases eq_or_ne j i with rfl | hne
    · simpa [hthread] using hfits
    · have hother := (h.threads j).congr hindex.ge
        (hend.imp_right fun hgrows => ⟨h.growing_of_ne hgrows.1 hne, hgrows.2⟩) haccessible
        fun _ _ => by rw [hreturned]; exact id
      simpa [hthread, hne] using hother
  · rw [hindex]
    refine h.committed.trans ?_
    rcases hend with heq | ⟨-, heq⟩ <;> rw [heq]
    exact Nat.le_add_right _ _
  · exact husable
  · rw [hreturned]
    exact h.nodup
  · rw [hreturned, hindex]
    exact h.below
  · intro j k index hj hk
    rcases eq_or_ne j i with rfl | hji
    · exact absurd (by simpa [hthread] using hj) (hafter index)
    rcases eq_or_ne k i with rfl | hki
    · exact absurd (by simpa [hthread] using hk) (hafter index)
    exact h.unique j k index (by simpa [hthread, hji] using hj) (by simpa [hthread, hki] using hk)
  · intro index hlt
    rw [hindex] at hlt
    rw [hreturned]
    refine (h.issued index hlt).imp_right ?_
    rintro ⟨j, hj⟩
    have hne : j ≠ i := by
      rintro rfl
      exact hbefore index hj
    exact ⟨j, by simpa [hthread, hne] using hj⟩

/-- A thread goes on without doing anything that others could see. -/
lemma goto (h : s.Sound layout) (hqueue : pc.QueueFits (s.freeIndexesQueue.thread i))
    (hbefore : ∀ index, s.thread i ≠ .allocated (some index))
    (hafter : ∀ index, pc ≠ .allocated (some index))
    (hgrowing : pc.growing = (s.thread i).growing) (hfits : s.Fits layout pc) :
    (s.goto i pc).Sound layout := by
  refine h.move (h.stay rfl rfl rfl hqueue hgrowing) rfl rfl rfl hbefore hafter (.inl rfl)
    (fun _ haddress => haddress) h.accessible (hfits.congr le_rfl (.inl rfl)
    (fun _ haddress => haddress) fun _ _ hindex => hindex)

/-- A step in `free_indexes_queue`. -/
lemma queueStep (h : s.Sound layout) {queuePc : RingPc} (hqueue : pc.QueueFits queuePc)
    (hbefore : ∀ index, s.thread i ≠ .allocated (some index))
    (hafter : ∀ index, pc ≠ .allocated (some index))
    (hpc : pc.growing = false) (hfits : s.Fits layout pc) :
    Sound layout { s.goto i pc with freeIndexesQueue := s.freeIndexesQueue.goto i queuePc } := by
  refine h.move (h.toPlaced.move rfl h.head h.tail (by simpa [RingState.goto] using hqueue)
    (fun j hne => by simp [RingState.goto, hne]) (fun _ => hpc) ?_) rfl rfl rfl hbefore hafter
    (.inl rfl) (fun _ haddress => haddress) h.accessible (hfits.congr le_rfl (.inl rfl)
    (fun _ haddress => haddress) fun _ _ hindex => hindex)
  rintro (hfree | hgrows) j _
  · exact h.permit hfree j
  · rw [hpc] at hgrows
    cases hgrows

lemma tryIndex (h : s.Sound layout) (hqueue : s.freeIndexesQueue.thread i = .idle)
    (hbefore : ∀ index, s.thread i ≠ .allocated (some index))
    (hgrowing : (s.thread i).growing = false) :
    (s.goto i (tryIndex s.lastNotIssuedIndex)).Sound layout := by
  by_cases hn : ringBufferSize < s.lastNotIssuedIndex
  · rw [AllocatorState.tryIndex, if_pos hn]
    exact h.goto hqueue hbefore nofun hgrowing.symm trivial
  · rw [AllocatorState.tryIndex, if_neg hn]
    exact h.goto hqueue hbefore nofun hgrowing.symm le_rfl

lemma acquire (h : s.Sound layout) {n e : ℕ} (hpc : s.thread i = .tryAcquire n e)
    (hfree : s.pageAllocationPermit = true) :
    Sound layout { s.goto i (.loadNodeEnd n) with pageAllocationPermit := false } := by
  have hfits := h.threads i
  have hqueue := h.queue i
  rw [hpc] at hfits hqueue
  refine h.move ?_ rfl rfl rfl (by simp [hpc]) nofun (.inl rfl)
    (fun _ haddress => haddress) h.accessible hfits.1
  exact h.toPlaced.move rfl h.head h.tail hqueue (fun _ _ => rfl) nofun
    fun _ j _ => h.permit hfree j

lemma protect (h : s.Sound layout) {n e : ℕ} (hpc : s.thread i = .protect n e) :
    Sound layout { s.goto i (.fetchAdd n) with
      accessible := fun address => s.accessible address ||
        (e ≤ address ∧ address < e + layout.memoryAmount) } := by
  have hfits := h.threads i
  have hqueue := h.queue i
  rw [hpc] at hfits hqueue
  obtain ⟨hn, rfl⟩ := hfits
  refine h.move (h.stay rfl rfl rfl hqueue (by rw [hpc]; rfl)) rfl rfl rfl
    (by simp [hpc]) nofun (.inl rfl) ?_ ?_ ⟨hn, ?_⟩
  · intro address haddress
    simp [haddress]
  · intro address haddress
    simp [h.accessible address haddress]
  · intro address haddress
    by_cases hold : address < s.actualMemoryEnd
    · simp [h.accessible address hold]
    · have hnew : s.actualMemoryEnd ≤ address ∧
          address < s.actualMemoryEnd + layout.memoryAmount := ⟨not_lt.1 hold, haddress⟩
      simp [hnew]

lemma fetchAdd (h : s.Sound layout) (hchunk : layout.chunkSize ≤ layout.memoryAmount) {n : ℕ}
    (hpc : s.thread i = .fetchAdd n) :
    Sound layout { s.goto i (.release n) with
      actualMemoryEnd := s.actualMemoryEnd + layout.memoryAmount } := by
  have hfits := h.threads i
  have hqueue := h.queue i
  rw [hpc] at hfits hqueue
  have hgrowing : (s.thread i).growing = true := by rw [hpc]; rfl
  refine h.move (h.stay rfl rfl rfl hqueue hgrowing.symm) rfl rfl rfl
    (by simp [hpc]) nofun (.inr ⟨hgrowing, rfl⟩) (fun _ haddress => haddress) hfits.2 ⟨hfits.1, ?_⟩
  calc (n + 1) * layout.chunkSize = n * layout.chunkSize + layout.chunkSize := Nat.succ_mul ..
    _ ≤ s.lastNotIssuedIndex * layout.chunkSize + layout.memoryAmount :=
      Nat.add_le_add (Nat.mul_le_mul_right _ hfits.1) hchunk
    _ ≤ s.actualMemoryEnd + layout.memoryAmount := Nat.add_le_add_right h.committed _

lemma release (h : s.Sound layout) {n : ℕ} (hpc : s.thread i = .release n) :
    Sound layout { s.goto i (.exchange n) with pageAllocationPermit := true } := by
  have hfits := h.threads i
  have hqueue := h.queue i
  rw [hpc] at hfits hqueue
  have hgrowing : (s.thread i).growing = true := by rw [hpc]; rfl
  refine h.move ?_ rfl rfl rfl (by simp [hpc]) nofun (.inl rfl)
    (fun _ haddress => haddress) h.accessible hfits
  exact h.toPlaced.move rfl h.head h.tail hqueue (fun _ _ => rfl) (fun _ => rfl)
    fun _ j hne => h.growing_of_ne hgrowing hne

/-- A thread that has waited finds the memory grown by more than its chunk. -/
lemma wait (h : s.Sound layout) (hchunk : layout.chunkSize ≤ layout.memoryAmount) {n e : ℕ}
    (hpc : s.thread i = .wait n e) (hend : s.actualMemoryEnd ≠ e) :
    (s.goto i (.exchange n)).Sound layout := by
  have hfits := h.threads i
  have hqueue := h.queue i
  rw [hpc] at hfits hqueue
  obtain ⟨hn, hne, hgrown⟩ := hfits
  refine h.goto hqueue (by simp [hpc]) nofun (by rw [hpc]; rfl) ⟨hn, ?_⟩
  calc (n + 1) * layout.chunkSize = n * layout.chunkSize + layout.chunkSize := Nat.succ_mul ..
    _ ≤ e + layout.memoryAmount := Nat.add_le_add hne hchunk
    _ ≤ s.actualMemoryEnd := hgrown.resolve_left fun heq => hend heq.symm

/-- The index that a thread has found the memory for is still the next one. -/
lemma exchange (h : s.Sound layout) (hpc : s.thread i = .exchange s.lastNotIssuedIndex) :
    Sound layout { s.goto i (.allocated (some s.lastNotIssuedIndex)) with
      lastNotIssuedIndex := s.lastNotIssuedIndex + 1 } := by
  have hfits := h.threads i
  have hqueue := h.queue i
  rw [hpc] at hfits hqueue
  have hnew : s.lastNotIssuedIndex ∉ s.returned := fun hmem =>
    absurd (h.below _ hmem) (lt_irrefl _)
  have hlt : ∀ j index, s.thread j = .allocated (some index) → index < s.lastNotIssuedIndex := by
    intro j index hj
    have hfits := h.threads j
    rw [hj] at hfits
    exact hfits.1
  have hplaced : Placed { s.goto i (.allocated (some s.lastNotIssuedIndex)) with
      lastNotIssuedIndex := s.lastNotIssuedIndex + 1 } :=
    h.stay rfl rfl rfl hqueue (by rw [hpc]; rfl)
  refine ⟨hplaced, ?_, ?_, ?_, ?_, ?_, ?_, ?_⟩
  · intro j
    rcases eq_or_ne j i with rfl | hne
    · simpa [AllocatorState.goto, Fits] using hnew
    · have hother : Fits layout { s.goto i (.allocated (some s.lastNotIssuedIndex)) with
          lastNotIssuedIndex := s.lastNotIssuedIndex + 1 } (s.thread j) :=
        (h.threads j).congr (Nat.le_succ _) (.inl rfl) (fun _ haddress => haddress)
          fun _ _ hindex => hindex
      simpa [AllocatorState.goto, hne] using hother
  · exact hfits.2
  · exact h.accessible
  · exact h.nodup
  · exact fun index hindex => (h.below index hindex).trans (Nat.lt_succ_self _)
  · intro j k index hj hk
    by_cases hji : j = i
    · by_cases hki : k = i
      · exact hji.trans hki.symm
      · obtain rfl : s.lastNotIssuedIndex = index := by simpa [AllocatorState.goto, hji] using hj
        exact absurd (hlt k _ (by simpa [AllocatorState.goto, hki] using hk)) (lt_irrefl _)
    · have hj' : s.thread j = .allocated (some index) := by
        simpa [AllocatorState.goto, hji] using hj
      by_cases hki : k = i
      · obtain rfl : s.lastNotIssuedIndex = index := by simpa [AllocatorState.goto, hki] using hk
        exact absurd (hlt j _ hj') (lt_irrefl _)
      · exact h.unique j k index hj' (by simpa [AllocatorState.goto, hki] using hk)
  · intro index hindex
    rcases Nat.lt_succ_iff_lt_or_eq.1 hindex with hlt | rfl
    · refine (h.issued index hlt).imp_right ?_
      rintro ⟨j, hj⟩
      have hne : j ≠ i := by
        rintro rfl
        simp [hpc] at hj
      exact ⟨j, by simpa [AllocatorState.goto, hne] using hj⟩
    · exact .inr ⟨i, by simp [AllocatorState.goto]⟩

lemma leave (h : s.Sound layout) {index : ℕ} (hpc : s.thread i = .allocated (some index)) :
    Sound layout { s.goto i .idle with returned := s.returned ++ [index] } := by
  have hfits := h.threads i
  have hqueue := h.queue i
  rw [hpc] at hfits hqueue
  have hplaced : Placed { s.goto i .idle with returned := s.returned ++ [index] } :=
    h.stay rfl rfl rfl hqueue (by rw [hpc]; rfl)
  refine ⟨hplaced, ?_, ?_, ?_, ?_, ?_, ?_, ?_⟩
  · intro j
    rcases eq_or_ne j i with rfl | hne
    · simp [AllocatorState.goto, Fits]
    · have hother : Fits layout { s.goto i .idle with returned := s.returned ++ [index] }
          (s.thread j) := by
        refine (h.threads j).congr le_rfl (.inl rfl) (fun _ haddress => haddress) ?_
        intro index' hj hindex' hmem
        rcases List.mem_append.1 hmem with hmem | hmem
        · exact hindex' hmem
        · obtain rfl := List.mem_singleton.1 hmem
          exact hne (h.unique j i index' hj hpc)
      simpa [AllocatorState.goto, hne] using hother
  · exact h.committed
  · exact h.accessible
  · exact List.nodup_append'.2 ⟨h.nodup, List.nodup_singleton _,
      List.disjoint_singleton.2 hfits.2⟩
  · intro index' hmem
    rcases List.mem_append.1 hmem with hmem | hmem
    · exact h.below index' hmem
    · obtain rfl := List.mem_singleton.1 hmem
      exact hfits.1
  · intro j k index' hj hk
    rcases eq_or_ne j i with rfl | hji
    · simp [AllocatorState.goto] at hj
    rcases eq_or_ne k i with rfl | hki
    · simp [AllocatorState.goto] at hk
    exact h.unique j k index' (by simpa [AllocatorState.goto, hji] using hj)
      (by simpa [AllocatorState.goto, hki] using hk)
  · intro index' hindex'
    rcases h.issued index' hindex' with hmem | ⟨j, hj⟩
    · exact .inl (List.mem_append_left _ hmem)
    · by_cases hji : j = i
      · subst hji
        obtain rfl : index = index' := by simpa [hpc] using hj
        exact .inl (by simp)
      · exact .inr ⟨j, by simpa [AllocatorState.goto, hji] using hj⟩

/-- `try_pop` finds the queue empty. -/
lemma inTryPop (h : s.Sound layout) (hpc : s.thread i = .inTryPop)
    (hstep : s.next layout i = some s') : s'.Sound layout := by
  have hqueue := h.queue i
  rw [hpc] at hqueue
  rcases hqueue with hring | hring | hring
  · have heq : s' = { s.goto i .inTryPop with
        freeIndexesQueue := s.freeIndexesQueue.goto i (.popLoadHead 0) } := by
      simpa [AllocatorState.next, AllocatorState.queueStep, RingState.step, RingState.next, hpc,
        hring, h.tail] using hstep.symm
    rw [heq]
    exact h.queueStep (.inr (.inl rfl)) (by simp [hpc]) (fun _ hpc => by cases hpc) rfl trivial
  · have heq : s' = { s.goto i .inTryPop with
        freeIndexesQueue := s.freeIndexesQueue.goto i (.popped none) } := by
      simpa [AllocatorState.next, AllocatorState.queueStep, RingState.step, RingState.next, hpc,
        hring, h.head] using hstep.symm
    rw [heq]
    exact h.queueStep (.inr (.inr rfl)) (by simp [hpc]) (fun _ hpc => by cases hpc) rfl trivial
  · have heq : s' = { s.goto i .loadIndex with
        freeIndexesQueue := s.freeIndexesQueue.goto i .idle } := by
      simpa [AllocatorState.next, AllocatorState.queueStep, RingState.step, hpc, hring] using
        hstep.symm
    rw [heq]
    exact h.queueStep rfl (by simp [hpc]) (fun _ hpc => by cases hpc) rfl trivial

lemma next (h : s.Sound layout) (hchunk : layout.chunkSize ≤ layout.memoryAmount)
    (hstep : s.next layout i = some s') : s'.Sound layout := by
  have hfits := h.threads i
  have hqueue := h.queue i
  cases hpc : s.thread i with
  | idle | allocated => simp [AllocatorState.next, hpc] at hstep
  | inTryPush | callPush | inPush =>
    rw [hpc] at hfits
    exact hfits.elim
  | inTryPop => exact h.inTryPop hpc hstep
  | loadIndex =>
    obtain rfl : s.goto i (AllocatorState.tryIndex s.lastNotIssuedIndex) = s' := by
      simpa [AllocatorState.next, hpc] using hstep
    rw [hpc] at hqueue
    exact h.tryIndex hqueue (by simp [hpc]) (by rw [hpc]; rfl)
  | loadEnd n =>
    rw [hpc] at hfits hqueue
    simp only [AllocatorState.next, hpc] at hstep
    split_ifs at hstep with hend
    · obtain rfl := Option.some.inj hstep
      refine h.goto hqueue (by simp [hpc]) nofun (by rw [hpc]; rfl) ⟨hfits, ?_, .inl rfl⟩
      exact (Nat.mul_le_mul_right _ hfits).trans h.committed
    · obtain rfl := Option.some.inj hstep
      exact h.goto hqueue (by simp [hpc]) nofun (by rw [hpc]; rfl) ⟨hfits, (not_le.1 hend).le⟩
  | tryAcquire n e =>
    simp only [AllocatorState.next, hpc] at hstep
    split_ifs at hstep with hfree
    · obtain rfl := Option.some.inj hstep
      exact h.acquire hpc hfree
    · obtain rfl := Option.some.inj hstep
      rw [hpc] at hfits hqueue
      exact h.goto hqueue (by simp [hpc]) nofun (by rw [hpc]; rfl) hfits
  | loadNodeEnd n =>
    obtain rfl : s.goto i (.protect n s.actualMemoryEnd) = s' := by
      simpa [AllocatorState.next, hpc] using hstep
    rw [hpc] at hfits hqueue
    exact h.goto hqueue (by simp [hpc]) nofun (by rw [hpc]; rfl) ⟨hfits, rfl⟩
  | protect n e =>
    simp only [AllocatorState.next, hpc] at hstep
    obtain rfl := Option.some.inj hstep
    exact h.protect hpc
  | fetchAdd n =>
    simp only [AllocatorState.next, hpc] at hstep
    obtain rfl := Option.some.inj hstep
    exact h.fetchAdd hchunk hpc
  | release n =>
    simp only [AllocatorState.next, hpc] at hstep
    obtain rfl := Option.some.inj hstep
    exact h.release hpc
  | wait n e =>
    simp only [AllocatorState.next, hpc] at hstep
    split_ifs at hstep with hend
    obtain rfl := Option.some.inj hstep
    exact h.wait hchunk hpc hend
  | exchange n =>
    simp only [AllocatorState.next, hpc] at hstep
    split_ifs at hstep with hindex
    · subst hindex
      obtain rfl := Option.some.inj hstep
      exact h.exchange hpc
    · obtain rfl := Option.some.inj hstep
      rw [hpc] at hqueue
      exact h.tryIndex hqueue (by simp [hpc]) (by rw [hpc]; rfl)

lemma step (h : s.Sound layout) (hchunk : layout.chunkSize ≤ layout.memoryAmount)
    {a : ℕ × AllocatorAction} (hfrees : a.2.frees = false) (hstep : s.step layout a = some s') :
    s'.Sound layout := by
  obtain ⟨i, a⟩ := a
  have hfits := h.threads i
  have hqueue := h.queue i
  cases a with
  | deallocate => cases hfrees
  | next => exact h.next hchunk hstep
  | allocate =>
    cases hpc : s.thread i <;> simp only [AllocatorState.step, hpc, reduceCtorEq] at hstep
    rw [hpc] at hqueue
    have heq : s' = { s.goto i .inTryPop with
        freeIndexesQueue := s.freeIndexesQueue.goto i .popLoadTail } := by
      simpa [AllocatorState.queueStep, RingState.step, show _ = RingPc.idle from hqueue] using
        hstep.symm
    rw [heq]
    exact h.queueStep (.inl rfl) (by simp [hpc]) (fun _ hpc => by cases hpc) rfl trivial
  | fail =>
    cases hpc : s.thread i <;> simp only [AllocatorState.step, hpc, reduceCtorEq] at hstep
    case inTryPop =>
      rw [hpc] at hqueue
      rcases hqueue with hring | hring | hring <;>
        simp [AllocatorState.queueStep, RingState.step, hring] at hstep
    case tryAcquire n e =>
      obtain rfl := Option.some.inj hstep
      rw [hpc] at hfits hqueue
      exact h.goto hqueue (by simp [hpc]) (fun _ hpc => by cases hpc) (by rw [hpc]; rfl) hfits
    case exchange n =>
      obtain rfl := Option.some.inj hstep
      rw [hpc] at hqueue
      exact h.tryIndex hqueue (by simp [hpc]) (by rw [hpc]; rfl)
    all_goals
      rw [hpc] at hfits
      exact hfits.elim
  | leave =>
    cases hpc : s.thread i <;> simp only [AllocatorState.step, hpc, reduceCtorEq] at hstep
    case allocated result =>
      cases result with
      | none =>
        obtain rfl := Option.some.inj hstep
        rw [hpc] at hqueue
        exact h.goto hqueue (by simp [hpc]) (fun _ hpc => by cases hpc) (by rw [hpc]; rfl) trivial
      | some index =>
        obtain rfl := Option.some.inj hstep
        exact h.leave hpc

end Sound

lemma sound_of_reachable (hchunk : layout.chunkSize ≤ layout.memoryAmount)
    (h : (allocatorSystem layout).Reachable (fun _ a => a.2.frees = false) s) :
    s.Sound layout := by
  refine h.invariant (I := fun s => s.Sound layout) (fun s hs => ?_)
    fun s a s' _ hs hfrees hstep => hs.step hchunk hfrees hstep
  obtain rfl := hs
  exact .initial

/-- What `allocate` returns when nothing has been deallocated. -/
structure AllocatesOnce (layout : AllocatorLayout) (s : AllocatorState) : Prop where
  distinct : s.returned.Nodup
  below : ∀ index ∈ s.returned, index < s.lastNotIssuedIndex
  /-- An index below `last_not_issued_index` has been returned by one call, or it is that of one
  call that is about to return. -/
  issued : ∀ index, index < s.lastNotIssuedIndex →
    (index ∈ s.returned ∧ ∀ i, s.thread i ≠ .allocated (some index)) ∨
    (index ∉ s.returned ∧ ∃! i, s.thread i = .allocated (some index))
  /-- The chunk is committed when the call returns, and from then on. -/
  committed : ∀ index, (index ∈ s.returned ∨ ∃ i, s.thread i = .allocated (some index)) →
    (index + 1) * layout.chunkSize ≤ s.actualMemoryEnd ∧
    ∀ address, address < (index + 1) * layout.chunkSize → s.accessible address = true

/-- In every run in which nothing is deallocated, on pools whose chunks are no larger than what the
memory grows by. -/
theorem allocates_once (layout : AllocatorLayout) (s : AllocatorState)
    (hchunk : layout.chunkSize ≤ layout.memoryAmount)
    (h : (allocatorSystem layout).Reachable (fun _ a => a.2.frees = false) s) :
    s.AllocatesOnce layout := by
  have hsound := sound_of_reachable hchunk h
  have hallocated : ∀ i index, s.thread i = .allocated (some index) →
      index < s.lastNotIssuedIndex ∧ index ∉ s.returned := by
    intro i index hi
    have hfits := hsound.threads i
    rw [hi] at hfits
    exact hfits
  constructor
  · exact hsound.nodup
  · exact hsound.below
  · intro index hindex
    by_cases hmem : index ∈ s.returned
    · exact .inl ⟨hmem, fun i hi => (hallocated i index hi).2 hmem⟩
    · obtain ⟨i, hi⟩ := (hsound.issued index hindex).resolve_left hmem
      exact .inr ⟨hmem, i, hi, fun j hj => hsound.unique j i index hj hi⟩
  · intro index hindex
    have hlt : index < s.lastNotIssuedIndex := by
      rcases hindex with hmem | ⟨i, hi⟩
      · exact hsound.below index hmem
      · exact (hallocated i index hi).1
    have hle : (index + 1) * layout.chunkSize ≤ s.actualMemoryEnd :=
      (Nat.mul_le_mul_right _ hlt).trans hsound.committed
    exact ⟨hle, fun address haddress => hsound.accessible address (haddress.trans_le hle)⟩

/-- The steps of two calls of which the first grows the memory, and the second waits for that. -/
def twoCalls : List (ℕ × AllocatorAction) :=
  ((1, .allocate) :: List.replicate 6 (1, .next)) ++
    ((2, .allocate) :: List.replicate 6 (2, .next)) ++
    List.replicate 5 (1, .next) ++ List.replicate 4 (2, .next) ++ [(1, .leave), (2, .leave)]

/-- On the pool of `MemoryManager`. -/
theorem allocates_once_two : ∃ s,
    (allocatorSystem ⟨512, 4096⟩).run {} twoCalls = some s ∧
    s.returned = [0, 1] ∧ s.AllocatesOnce ⟨512, 4096⟩ := by
  have hmeets : (allocatorSystem ⟨512, 4096⟩).Meets (fun _ a => a.2.frees = false) {} twoCalls :=
    System.meets_of_labels (G := fun a : ℕ × AllocatorAction => a.2.frees = false) (by decide)
  have hrun := (System.Reachable.of_initial rfl).run hmeets rfl
  exact ⟨_, rfl, rfl, allocates_once _ _ (by decide) hrun⟩

end AllocatorState

end BattleShips
