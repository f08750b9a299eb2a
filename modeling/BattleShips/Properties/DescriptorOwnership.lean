import BattleShips.Net.SocketObjects

/-!
# Who closes a descriptor

Each object with a socket closes the descriptor that it has got, once, as long as `setup_listener`
does not fail after it has opened its descriptor, and `setup_client` finds no descriptor in the
object.
-/

namespace BattleShips

namespace Sockets

/-- The descriptor of an object, or none. -/
def cell (s : Sockets) (h : ℕ) : Option ℤ :=
  if (s.object h).socket = -1 then none else some (s.object h).socket

/-- The accounts of the descriptors are in order. -/
structure Sound (s : Sockets) : Prop where
  accounts : Accounts s.cell s.opened s.loose s.log
  nonneg : ∀ fd ∈ s.opened, 0 ≤ fd

lemma cell_update (s : Sockets) (h : ℕ) (f : SocketHandler → SocketHandler) :
    (s.update h f).cell = Function.update s.cell h
      (if (f (s.object h)).socket = -1 then none else some (f (s.object h)).socket) := by
  funext i
  rcases eq_or_ne i h with rfl | hne
  · simp [cell, object_update]
  · simp [cell, object_update, hne]

/-- A change of the object that leaves its descriptor alone. -/
lemma cell_update_same {s : Sockets} {h : ℕ} {f : SocketHandler → SocketHandler}
    (hf : (f (s.object h)).socket = (s.object h).socket) : (s.update h f).cell = s.cell := by
  rw [cell_update, hf]
  exact Function.update_eq_self h s.cell

lemma cell_take (s : Sockets) (h : ℕ) {fd : ℤ} (hne : fd ≠ -1) :
    (s.take h fd).cell = Function.update s.cell h (some fd) := by
  have hupdate := cell_update s h ({ · with socket := fd })
  rwa [if_neg hne] at hupdate

namespace Sound

variable {s : Sockets} {h : ℕ}

/-- The invariant only looks at the cells, the descriptors and the log. -/
lemma of_eq {s' : Sockets} (hs : s.Sound) (hcell : s'.cell = s.cell)
    (hopened : s'.opened = s.opened)
    (hloose : s'.loose = s.loose) (hlog : s'.log = s.log) : s'.Sound where
  accounts := by rw [hcell, hopened, hloose, hlog]; exact hs.accounts
  nonneg := by rw [hopened]; exact hs.nonneg

lemma update_same (hs : s.Sound) (h : ℕ) (f : SocketHandler → SocketHandler)
    (hf : (f (s.object h)).socket = (s.object h).socket) : (s.update h f).Sound :=
  hs.of_eq (cell_update_same hf) rfl rfl rfl

lemma openDescriptor {fd : ℤ} (hs : s.Sound) (hfresh : s.Fresh fd) :
    (s.openDescriptor fd).Sound where
  accounts := hs.accounts.open_new fd
  nonneg fd' hfd' := by
    rcases Finset.mem_insert.1 hfd' with rfl | hfd'
    · exact hfresh.1
    · exact hs.nonneg fd' hfd'

lemma take {fd : ℤ} (hs : s.Sound) (hempty : (s.object h).socket = -1) (hopened : fd ∈ s.opened)
    (hheld : ¬ Custody.Held s.log fd) : (s.take h fd).Sound where
  accounts := by
    have hne : fd ≠ -1 := by
      rintro rfl
      exact absurd (hs.nonneg _ hopened) (by decide)
    rw [cell_take s h hne]
    exact hs.accounts.take (by simp [cell, hempty]) hopened hheld
  nonneg := hs.nonneg

lemma closeSocket (hs : s.Sound) :
    (s.closeSocket h).Sound ∧ ((s.closeSocket h).object h).socket = -1 := by
  rw [Sockets.closeSocket]
  split_ifs with hsocket
  · exact ⟨hs, hsocket⟩
  · refine ⟨⟨?_, fun fd hfd => hs.nonneg fd (Finset.mem_of_mem_erase hfd)⟩, ?_⟩
    · have hcell : ((s.close (s.object h).socket).update h ({ · with socket := -1 })).cell =
          Function.update s.cell h none := by
        have hupdate := cell_update (s.close (s.object h).socket) h ({ · with socket := -1 })
        rwa [if_pos rfl] at hupdate
      rw [hcell]
      exact hs.accounts.give (by simp [cell, hsocket])
    · simp [object_update]

/-- The object gives up its descriptor, and then something may be done with it that leaves it
without one. -/
lemma destroyCoHandle (hs : s.Sound) : (s.destroyCoHandle h).Sound := hs.update_same h _ rfl

lemma reset (hs : s.Sound) : ((s.destroyCoHandle h).closeSocket h).Sound ∧
    (((s.destroyCoHandle h).closeSocket h).object h).socket = -1 :=
  hs.destroyCoHandle.closeSocket

lemma exchange (hs : s.Sound) (hempty : (s.object h).socket = -1) (source : ℕ) :
    (s.exchange h source).Sound := by
  have hcell : (s.exchange h source).cell =
      Function.update (Function.update s.cell h (s.cell source)) source none := by
    rw [Sockets.exchange, cell_update, if_pos rfl, cell_update]
    rfl
  exact ⟨by rw [hcell]; exact hs.accounts.move (by simp [cell, hempty]) source, hs.nonneg⟩

/-- An object appears or goes, without a descriptor. -/
lemma setHandler {x : Option SocketHandler} (hs : s.Sound) (hempty : (s.object h).socket = -1)
    (hx : (x.getD {}).socket = -1) :
    ({ s with handler := Function.update s.handler h x } : Sockets).Sound := by
  refine hs.of_eq (funext fun i => ?_) rfl rfl rfl
  rcases eq_or_ne i h with rfl | hne
  · have hbefore : ((s.handler i).getD {}).socket = -1 := hempty
    simp [cell, object, hx, hbefore]
  · simp only [cell, object, Function.update_of_ne hne]
    rfl

end Sound

lemma socket_of_none {s : Sockets} {h : ℕ} (hnone : s.handler h = none) :
    (s.object h).socket = -1 := by
  rw [object, hnone]
  rfl

lemma closeSocket_loose (s : Sockets) (h : ℕ) : (s.closeSocket h).loose = s.loose := by
  rw [closeSocket]
  split_ifs <;> rfl

/-- `setup_listener` gets a descriptor and keeps it, and `setup_client` finds none. -/
def KeepsDescriptors (s : Sockets) : SocketOperation → Prop
  | .setupListener h result => (s.object h).socket ≠ -1 ∨
    ∀ fd, result ≠ .bindFailed fd ∧ result ≠ .listenFailed fd
  | .setupClient h _ => (s.object h).socket = -1
  | _ => True

lemma Sound.perform {s : Sockets} {operation : SocketOperation} (hs : s.Sound)
    (hkeeps : s.KeepsDescriptors operation) (hpossible : s.Possible operation) :
    (s.perform operation).Sound := by
  have hloose : ∀ {s : Sockets} {h : ℕ} {fd : ℤ}, s.Sound → (s.object h).socket = -1 →
      fd ∈ s.loose → (s.take h fd).Sound := fun hs hempty hfd =>
    hs.take hempty (hs.accounts.looseOpen _ hfd) (hs.accounts.not_held (.inr hfd))
  have hopen : ∀ h fd, (s.object h).socket = -1 → s.Fresh fd →
      ((s.openDescriptor fd).take h fd).Sound := fun h fd hempty hfresh =>
    (hs.openDescriptor hfresh).take hempty (Finset.mem_insert_self _ _)
      (hs.accounts.not_held (.inl hfresh.2))
  cases operation with
  | default h => exact hs.setHandler (socket_of_none hpossible) rfl
  | construct h fd =>
    have hnew := hs.setHandler (x := some { socketStatus := .alive })
      (socket_of_none hpossible.1) rfl
    exact hloose hnew (by simp [object]) hpossible.2
  | moveConstruct h source =>
    have hnew := hs.setHandler (x := some {}) (socket_of_none hpossible.1) rfl
    exact hnew.exchange (by simp [object]) source
  | moveAssign h source =>
    rw [Sockets.perform, moveAssign]
    split_ifs with heq
    · exact hs
    · exact hs.reset.1.exchange hs.reset.2 source
  | setupListener h result =>
    simp only [Sockets.perform, setupListener]
    split_ifs with hsocket
    · exact hs
    have hempty : (s.object h).socket = -1 := not_not.1 hsocket
    have hresult := hkeeps.resolve_left (not_not.2 hempty)
    cases result with
    | socketFailed => exact hs.update_same h _ hempty.symm
    | setsockoptFailed fd => exact hopen h fd hempty (hpossible.2 fd rfl)
    | bindFailed fd => exact absurd rfl (hresult fd).1
    | listenFailed fd => exact absurd rfl (hresult fd).2
    | listening fd => exact (hopen h fd hempty (hpossible.2 fd rfl)).update_same h _ rfl
  | setupClient h result =>
    have hempty : (s.object h).socket = -1 := hkeeps
    rw [Sockets.perform]
    cases result with
    | socketFailed => exact hs.update_same h ({ · with socket := -1 }) hempty.symm
    | connectFailed fd => exact hopen h fd hempty (hpossible.2 fd rfl)
    | connected fd =>
      exact (hopen h fd hempty (hpossible.2 fd rfl)).update_same h
        ({ · with socketStatus := .alive }) rfl
  | resetWithNew h fd =>
    obtain ⟨hreset, hempty⟩ := hs.reset (h := h)
    refine (hloose hreset hempty ?_).update_same h ({ · with socketStatus := .alive }) rfl
    rw [closeSocket_loose]
    exact hpossible.2
  | resetToEmpty h => exact hs.reset.1.update_same h ({ · with socketStatus := .empty }) rfl
  | destroy h => exact hs.reset.1.setHandler hs.reset.2 rfl
  | opened fd => exact ⟨hs.accounts.open_loose hpossible.2, (hs.openDescriptor hpossible).nonneg⟩
  | closed fd =>
    exact ⟨hs.accounts.close_loose hpossible,
      fun fd' hfd' => hs.nonneg fd' (Finset.mem_of_mem_erase hfd')⟩

lemma sound_of_reachable {s : Sockets} (h : socketSystem.Reachable KeepsDescriptors s) :
    s.Sound := by
  refine h.invariant (fun s hs => ?_) fun s operation s' _ hsound hkeeps hstep => ?_
  · rw [show s = {} from hs]
    exact ⟨.start, fun fd hfd => absurd hfd (Finset.notMem_empty fd)⟩
  · simp only [socketSystem] at hstep
    split_ifs at hstep with hpossible
    obtain rfl := Option.some.inj hstep
    exact hsound.perform hkeeps hpossible

/-- The object is alive and has the descriptor. -/
def Has (s : Sockets) (h : ℕ) (fd : ℤ) : Prop := ∃ x, s.handler h = some x ∧ x.socket = fd

/-- What objects and descriptors have to do with each other. -/
structure Owned (s : Sockets) : Prop where
  /-- An object has no descriptor, or an open one that no other object has. -/
  own : ∀ h fd, s.Has h fd → fd = -1 ∨ fd ∈ s.opened ∧ ∀ h', s.Has h' fd → h' = h
  /-- Objects only close what they have got and not closed since. -/
  orderly : Custody.Orderly s.log
  /-- All that objects have got they have closed as often, but for what an object still has. -/
  closed : ∀ fd, (∀ h, ¬ s.Has h fd) → s.log.count (.taken fd) = s.log.count (.given fd)
  unclosed : ∀ h fd, fd ≠ -1 → s.Has h fd →
    s.log.count (.taken fd) = s.log.count (.given fd) + 1

lemma Has.cell {s : Sockets} {h : ℕ} {fd : ℤ} (hhas : s.Has h fd) (hne : fd ≠ -1) :
    s.cell h = some fd := by
  obtain ⟨x, hx, rfl⟩ := hhas
  simp [Sockets.cell, object, hx, hne]

lemma has_of_cell {s : Sockets} {h : ℕ} {fd : ℤ} (hcell : s.cell h = some fd) : s.Has h fd := by
  rw [cell] at hcell
  split_ifs at hcell with hsocket
  cases hx : s.handler h with
  | none => exact absurd (socket_of_none hx) hsocket
  | some x =>
    rw [object, hx] at hcell
    exact ⟨x, hx, Option.some.inj hcell⟩

/-- **Descriptors.** As long as `setup_listener` keeps the descriptor that it has opened and
`setup_client` finds none, each descriptor has one owner, which closes it once. -/
theorem owned_of_reachable (s : Sockets) (h : socketSystem.Reachable KeepsDescriptors s) :
    s.Owned := by
  obtain ⟨haccounts, -⟩ := sound_of_reachable h
  constructor
  · intro h fd hhas
    rcases eq_or_ne fd (-1) with rfl | hne
    · exact .inl rfl
    · refine .inr ⟨haccounts.isOpen h fd (hhas.cell hne), fun h' hhas' => ?_⟩
      exact haccounts.unique h' h fd (hhas'.cell hne) (hhas.cell hne)
  · exact haccounts.orderly
  · intro fd hnone
    refine (haccounts.orderly.count fd).2 fun hheld => ?_
    obtain ⟨h, hcell⟩ := (haccounts.held fd).1 hheld
    exact hnone h (has_of_cell hcell)
  · intro h fd hne hhas
    exact (haccounts.orderly.count fd).1 ((haccounts.held fd).2 ⟨h, hhas.cell hne⟩)

/-- Nothing else keeps the descriptors in order: an operation that does not meet the condition
leaves an object with a descriptor that it has closed, or a descriptor that nobody has. -/
theorem perform_owned_iff {s : Sockets} (h : socketSystem.Reachable KeepsDescriptors s)
    {operation : SocketOperation} (hpossible : s.Possible operation) :
    (s.perform operation).Owned ↔ s.KeepsDescriptors operation := by
  have haccounts := (sound_of_reachable h).accounts
  constructor
  · intro howned
    by_contra hkeeps
    cases operation with
    | setupListener h result =>
      obtain ⟨hempty, hfailed⟩ := not_or.1 hkeeps
      have hclosed : ∀ fd, s.Fresh fd →
          ¬ (((s.openDescriptor fd).take h fd).close fd).Owned := by
        intro fd hfresh howned
        have hhas : (((s.openDescriptor fd).take h fd).close fd).Has h fd :=
          ⟨{ s.object h with socket := fd }, Function.update_self .., rfl⟩
        rcases howned.own h fd hhas with rfl | ⟨hopen, -⟩
        · exact absurd hfresh.1 (by decide)
        · exact Finset.notMem_erase fd _ hopen
      simp only [perform, setupListener, hempty, if_false] at howned
      cases result with
      | bindFailed fd => exact hclosed fd (hpossible.2 fd rfl) howned
      | listenFailed fd => exact hclosed fd (hpossible.2 fd rfl) howned
      | socketFailed => exact hfailed fun _ => by simp
      | setsockoptFailed fd => exact hfailed fun _ => by simp
      | listening fd => exact hfailed fun _ => by simp
    | setupClient h result =>
      -- the descriptor that was there is lost
      have hother : ∀ fd, s.Fresh fd → fd ≠ (s.object h).socket := by
        rintro fd hfresh rfl
        exact hfresh.2 (haccounts.isOpen h _ (if_neg hkeeps))
      have hlost : ∀ (s' : Sockets) (x : Option ℤ), s'.cell = Function.update s.cell h x →
          x ≠ some (s.object h).socket → Custody.Held s'.log (s.object h).socket →
            ¬ s'.Owned := by
        intro s' x hcell hx hheld howned
        have hnone : ∀ i, ¬ s'.Has i (s.object h).socket := by
          intro i hhas
          have hi := hhas.cell hkeeps
          rw [hcell] at hi
          rcases eq_or_ne i h with rfl | hne
          · exact hx (by simpa using hi)
          · rw [Function.update_of_ne hne] at hi
            exact hne (haccounts.unique i h _ hi (if_neg hkeeps))
        have hcount := (howned.orderly.count _).1 hheld
        rw [howned.closed _ hnone] at hcount
        omega
      have hheld : Custody.Held s.log (s.object h).socket :=
        (haccounts.held _).2 ⟨h, if_neg hkeeps⟩
      have htake : ∀ fd, s.Fresh fd → ((s.openDescriptor fd).take h fd).cell =
          Function.update s.cell h (some fd) := fun fd hfresh =>
        cell_take (s.openDescriptor fd) h (by rintro rfl; exact absurd hfresh.1 (by decide))
      rw [perform] at howned
      cases result with
      | socketFailed =>
        exact hlost (s.update h ({ · with socket := -1 })) none (cell_update s h _)
          (Option.some_ne_none _).symm hheld
          howned
      | connectFailed fd =>
        have hfresh := hpossible.2 fd rfl
        exact hlost ((s.openDescriptor fd).take h fd) _ (htake fd hfresh)
          (by simpa using hother fd hfresh) (Custody.held_taken.2 (.inr hheld)) howned
      | connected fd =>
        have hfresh := hpossible.2 fd rfl
        refine hlost
          (((s.openDescriptor fd).take h fd).update h ({ · with socketStatus := .alive }))
          _ ((cell_update_same ?_).trans (htake fd hfresh)) (by simpa using hother fd hfresh)
          (Custody.held_taken.2 (.inr hheld)) howned
        rfl
    | _ => exact hkeeps trivial
  · intro hkeeps
    exact owned_of_reachable _ (h.step hkeeps (if_pos hpossible))

instance (s : Sockets) : ∀ operation, Decidable (s.KeepsDescriptors operation)
  | .setupListener _ .socketFailed | .setupListener _ (.setsockoptFailed _)
  | .setupListener _ (.listening _) => isTrue (.inr fun _ => ⟨nofun, nofun⟩)
  | .setupListener h (.bindFailed fd) =>
    decidable_of_iff ((s.object h).socket ≠ -1)
      ⟨.inl, fun hkeeps => hkeeps.resolve_right fun hresult => (hresult fd).1 rfl⟩
  | .setupListener h (.listenFailed fd) =>
    decidable_of_iff ((s.object h).socket ≠ -1)
      ⟨.inl, fun hkeeps => hkeeps.resolve_right fun hresult => (hresult fd).2 rfl⟩
  | .setupClient h _ => inferInstanceAs (Decidable ((s.object h).socket = -1))
  | .default _ | .construct _ _ | .moveConstruct _ _ | .moveAssign _ _ | .resetWithNew _ _
  | .resetToEmpty _ | .destroy _ | .opened _ | .closed _ => isTrue trivial

/-- An accepted connection that is moved, next to a listener. -/
def accepting : List SocketOperation :=
  [.default 0, .setupListener 0 (.listening 3), .opened 4, .construct 1 4, .moveConstruct 2 1,
    .destroy 1, .resetToEmpty 2]

theorem owned_of_reachable_accepting : ∃ s, socketSystem.run {} accepting = some s ∧
    s.log = [.taken 3, .taken 4, .given 4] ∧ s.Owned := by
  have hmeets : socketSystem.Meets KeepsDescriptors {} accepting := by decide
  exact ⟨_, rfl, rfl, owned_of_reachable _ ((System.Reachable.of_initial rfl).run hmeets rfl)⟩

/-- A listener whose `bind` fails keeps the number of a descriptor that it has closed. -/
theorem not_owned_of_bindFailed :
    ¬ ∀ s, socketSystem.Reachable System.anyStep s → s.Owned := by
  intro h
  have hrun : socketSystem.run {} [.default 0, .setupListener 0 (.bindFailed 3)] =
      some (Sockets.setupListener (Sockets.perform {} (.default 0)) 0 (.bindFailed 3)) := rfl
  have howned := h _ ((System.Reachable.of_initial rfl).run
    (System.meets_of_labels (G := fun _ => True) fun _ _ => trivial) hrun)
  rcases howned.own 0 3 ⟨_, rfl, rfl⟩ with hnone | ⟨hopen, -⟩
  · exact absurd hnone (by decide)
  · exact absurd hopen (by decide)

end Sockets

end BattleShips
