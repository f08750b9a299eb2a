import BattleShips.Net.DescriptorRules
import BattleShips.Net.ProcessingLoop
import BattleShips.Properties.SlotOwnership

/-!
# Slots with a claim to them

An event takes its slot out of what epoll reports: a thread has a claim to the slot until the
socket is armed again. The programs of the engine arm the sockets of slots that nobody has a claim
to, as long as nobody gives back the slot of another and no transfer fails.
-/

namespace BattleShips

open Traced NetworkEngine

variable {σ α : Type} {claims : List ℕ} {own : Option ℕ} {w w' : World σ} {tr es : List Event}
  {slot : ℕ}

/-- The next event of some socket will be reported under this slot. -/
def World.Reports (w : World σ) (slot : ℕ) : Prop := ∃ fd, w.epoll fd = some ⟨slot, true⟩

/-- What an event may be while there are claims to these slots, and the worker is busy with its own:
what is given back was held and nobody else's, the worker's slot is not handed out, and no transfer
fails. -/
def Undisturbed (claims : List ℕ) (own : Option ℕ) (tr : List Event) : Event → Prop
  | .released slot _ => Owned tr slot ∧ slot ∉ claims
  | .acquired slot => own ≠ some slot
  | .transferFailed _ _ _ => False
  | _ => True

instance Event.ownedAfter.decidable {owned : ℕ → Prop} [DecidablePred owned] (e : Event) :
    DecidablePred (e.ownedAfter owned) := fun s =>
  match e with
  | .acquired _ => inferInstanceAs (Decidable (_ ∨ _))
  | .released _ _ => inferInstanceAs (Decidable (_ ∧ _))
  | .exhausted | .sent _ _ _ | .received _ _ _ | .handled _ _ | .acceptFailed _ | .handedOff _ _ _
  | .transferFailed _ _ _ | .recoverFailed _ | .attached _ _ _ | .killed _ | .printed _ =>
    inferInstanceAs (Decidable (owned s))

instance ownedFold.decidable : ∀ (tr : List Event) {owned : ℕ → Prop} [DecidablePred owned],
    DecidablePred (tr.foldl Event.ownedAfter owned)
  | [], _, h => h
  | _ :: tr, _, _ => ownedFold.decidable tr

instance (tr : List Event) : DecidablePred (Owned tr) := ownedFold.decidable tr

instance (claims : List ℕ) (own : Option ℕ) (tr : List Event) :
    DecidablePred (Undisturbed claims own tr) := fun e =>
  match e with
  | .released _ _ => inferInstanceAs (Decidable (_ ∧ _))
  | .acquired _ => inferInstanceAs (Decidable (¬ _))
  | .transferFailed _ _ _ => inferInstanceAs (Decidable False)
  | .exhausted | .sent _ _ _ | .received _ _ _ | .handled _ _ | .acceptFailed _ | .handedOff _ _ _
  | .recoverFailed _ | .attached _ _ _ | .killed _ | .printed _ =>
    inferInstanceAs (Decidable True)

/-- Sockets are reported under the slot that they are in, and slots that a thread has a claim to
are held and not reported. The worker may have given back its own slot, without its socket. -/
structure Claimed (claims : List ℕ) (own : Option ℕ) (w : World σ) (tr : List Event) : Prop where
  socket : ∀ fd slot, w.epoll fd = some ⟨slot, true⟩ →
    fd ≠ -1 ∧ (w.entry slot).socketHandler.socket = fd
  reported : ∀ slot, w.Reports slot → Owned tr slot
  held : ∀ slot ∈ claims, Owned tr slot ∧ ¬ w.Reports slot
  own : ∀ slot ∈ own, ¬ w.Reports slot ∧
    (Owned tr slot ∨ (w.entry slot).socketHandler.socket = -1)
  occupied : ∀ slot, Owned tr slot → w.Occupies slot
  nodup : w.pool.availableSlots.items.Nodup
  issued : ∀ slot ∈ w.pool.availableSlots.items, slot < w.pool.lastNotIssuedIndex

/-! ### Closing -/

lemma World.epoll_of_closeSocket {fd : ℤ} {i : Interest}
    (h : (w.closeSocket slot).epoll fd = some i) :
    w.epoll fd = some i ∧ (fd ≠ -1 → (w.entry slot).socketHandler.socket ≠ fd) := by
  rw [closeSocket] at h
  split_ifs at h with hsocket
  · exact ⟨h, fun hfd heq => hfd (heq.symm.trans hsocket)⟩
  · change Function.update w.epoll (w.entry slot).socketHandler.socket none fd = some i at h
    rw [Function.update_apply] at h
    split_ifs at h with heq
    exact ⟨h, fun _ => Ne.symm heq⟩

lemma World.epoll_of_reset {fd : ℤ} {i : Interest} (h : (w.reset slot).epoll fd = some i) :
    w.epoll fd = some i ∧ (fd ≠ -1 → (w.entry slot).socketHandler.socket ≠ fd) := by
  let w' := (w.updateEntry slot ({ · with connectionType := .none })).updateHandler slot
    ({ · with receiveHandle := none })
  have hsocket : (w'.entry slot).socketHandler.socket = (w.entry slot).socketHandler.socket := by
    simp [w', entry, updateHandler, updateEntry]
  have hclose : (w'.closeSocket slot).epoll fd = some i := h
  rw [← hsocket]
  exact epoll_of_closeSocket hclose

lemma World.epoll_of_pushToPool {connection : ConnectionEntry} {fd : ℤ} {i : Interest}
    (hpush : w.pushToPool connection = some (slot, w')) (h : w'.epoll fd = some i) :
    w.epoll fd = some i := by
  obtain ⟨⟨slot', pool⟩, -, hw'⟩ := Option.map_eq_some_iff.1 hpush
  obtain ⟨rfl, rfl⟩ := Prod.mk.inj hw'
  cases hpop : w.pool.availableSlots.tryPop with
  | none =>
    simp only [hpop] at h
    exact h
  | some popped =>
    simp only [hpop] at h
    exact (epoll_of_closeSocket h).1

namespace Claimed

/-! ### What keeps the claims -/

/-- A change that leaves the sockets where they are and arms none of them. -/
lemma frame (h : Claimed claims own w tr)
    (hepoll : ∀ fd slot, w'.epoll fd = some ⟨slot, true⟩ → w.epoll fd = some ⟨slot, true⟩)
    (hentry : ∀ slot,
      (w'.entry slot).socketHandler.socket = (w.entry slot).socketHandler.socket)
    (havailable : w'.pool.availableSlots = w.pool.availableSlots)
    (hlast : w'.pool.lastNotIssuedIndex = w.pool.lastNotIssuedIndex) :
    Claimed claims own w' tr := by
  have hreports : ∀ slot, w'.Reports slot → w.Reports slot :=
    fun slot ⟨fd, hfd⟩ => ⟨fd, hepoll fd slot hfd⟩
  constructor
  · intro fd slot hfd
    rw [hentry]
    exact h.socket fd slot (hepoll fd slot hfd)
  · exact fun slot hslot => h.reported slot (hreports slot hslot)
  · exact fun slot hslot => ⟨(h.held slot hslot).1, fun hr => (h.held slot hslot).2 (hreports _ hr)⟩
  · intro slot hslot
    rw [hentry]
    exact ⟨fun hr => (h.own slot hslot).1 (hreports _ hr), (h.own slot hslot).2⟩
  · intro slot hslot
    rw [World.Occupies, havailable, hlast]
    exact h.occupied slot hslot
  · rw [havailable]
    exact h.nodup
  · rw [havailable, hlast]
    exact h.issued

lemma silent (h : Claimed claims own w tr) (hes : ∀ e ∈ es, e.Silent) :
    Claimed claims own w (tr ++ es) := by
  obtain ⟨hsocket, hreported, hheld, hown, hoccupied, hnodup, hissued⟩ := h
  have howned : Owned (tr ++ es) = Owned tr := owned_append_silent hes
  rw [← howned] at hreported hheld hown hoccupied
  exact ⟨hsocket, hreported, hheld, hown, hoccupied, hnodup, hissued⟩

/-- Fewer claims, or one that the worker takes over. -/
lemma mono {claims' : List ℕ} {own' : Option ℕ} (h : Claimed claims own w tr)
    (hclaims : ∀ slot ∈ claims', slot ∈ claims)
    (hown : ∀ slot ∈ own', slot ∈ own ∨ slot ∈ claims) : Claimed claims' own' w tr where
  socket := h.socket
  reported := h.reported
  held slot hslot := h.held slot (hclaims slot hslot)
  own slot hslot := (hown slot hslot).elim (h.own slot) fun hmem =>
    ⟨(h.held slot hmem).2, .inl (h.held slot hmem).1⟩
  occupied := h.occupied
  nodup := h.nodup
  issued := h.issued

/-- A slot that is held and that nobody has a claim to is armed. -/
lemma arm (h : Claimed claims own w tr) (hsocket : (w.entry slot).socketHandler.socket ≠ -1)
    (howned : Owned tr slot) (hclaims : slot ∉ claims) (hown : own ≠ some slot)
    (hepoll : w'.epoll =
      Function.update w.epoll (w.entry slot).socketHandler.socket (some ⟨slot, true⟩))
    (hpool : w'.pool = w.pool) : Claimed claims own w' tr := by
  have hcases : ∀ fd s, w'.epoll fd = some ⟨s, true⟩ →
      w.epoll fd = some ⟨s, true⟩ ∨ s = slot ∧ (w.entry slot).socketHandler.socket = fd := by
    intro fd s hfd
    rw [hepoll, Function.update_apply] at hfd
    split_ifs at hfd with heq
    · right
      simp only [Option.some.injEq, Interest.mk.injEq, and_true] at hfd
      exact ⟨hfd.symm, heq.symm⟩
    · exact .inl hfd
  have hreports : ∀ s, w'.Reports s → w.Reports s ∨ s = slot := by
    rintro s ⟨fd, hfd⟩
    exact (hcases fd s hfd).imp (fun hfd => ⟨fd, hfd⟩) And.left
  have hentry : ∀ s, w'.entry s = w.entry s := fun s => by rw [World.entry, hpool, World.entry]
  constructor
  · intro fd s hfd
    rw [hentry]
    rcases hcases fd s hfd with hfd | ⟨rfl, rfl⟩
    · exact h.socket fd s hfd
    · exact ⟨hsocket, rfl⟩
  · intro s hs
    rcases hreports s hs with hs | rfl
    · exact h.reported s hs
    · exact howned
  · intro s hs
    refine ⟨(h.held s hs).1, fun hr => ?_⟩
    rcases hreports s hr with hr | rfl
    · exact (h.held s hs).2 hr
    · exact hclaims hs
  · intro s hs
    rw [hentry]
    refine ⟨fun hr => ?_, (h.own s hs).2⟩
    rcases hreports s hr with hr | rfl
    · exact (h.own s hs).1 hr
    · exact hown hs
  · intro s hs
    rw [World.Occupies, hpool]
    exact h.occupied s hs
  · rw [hpool]
    exact h.nodup
  · rw [hpool]
    exact h.issued

/-- Once a connection is reset its slot is not reported. -/
lemma reset (h : Claimed claims own w tr) (slot : ℕ) :
    Claimed claims own (w.reset slot) tr ∧ ¬ (w.reset slot).Reports slot := by
  have hcleared := w.reset_cleared slot
  have hentry : ∀ s fd, w.epoll fd = some ⟨s, true⟩ →
      (fd ≠ -1 → (w.entry slot).socketHandler.socket ≠ fd) →
        ((w.reset slot).entry s).socketHandler.socket = fd := by
    intro s fd hfd hne
    obtain ⟨hfd1, hsocket⟩ := h.socket fd s hfd
    rw [hcleared.entry, if_neg]
    · exact hsocket
    · rintro rfl
      exact hne hfd1 hsocket
  have hreports : ∀ s, (w.reset slot).Reports s → w.Reports s :=
    fun s ⟨fd, hfd⟩ => ⟨fd, (World.epoll_of_reset hfd).1⟩
  constructor
  · constructor
    · intro fd s hfd
      obtain ⟨hfd, hne⟩ := World.epoll_of_reset hfd
      exact ⟨(h.socket fd s hfd).1, hentry s fd hfd hne⟩
    · exact fun s hs => h.reported s (hreports s hs)
    · exact fun s hs => ⟨(h.held s hs).1, fun hr => (h.held s hs).2 (hreports s hr)⟩
    · intro s hs
      refine ⟨fun hr => (h.own s hs).1 (hreports s hr), ?_⟩
      rw [hcleared.entry]
      split_ifs
      · exact .inr rfl
      · exact (h.own s hs).2
    · intro s hs
      rw [World.Occupies, hcleared.availableSlots, hcleared.lastNotIssuedIndex]
      exact h.occupied s hs
    · rw [hcleared.availableSlots]
      exact h.nodup
    · rw [hcleared.availableSlots, hcleared.lastNotIssuedIndex]
      exact h.issued
  · rintro ⟨fd, hfd⟩
    obtain ⟨hfd, hne⟩ := World.epoll_of_reset hfd
    obtain ⟨hfd1, hsocket⟩ := h.socket fd slot hfd
    exact hne hfd1 hsocket

/-- A slot without its socket is given back. -/
lemma release {room : Bool} {pool : ObjectPool ConnectionEntry} (h : Claimed claims own w tr)
    (hreports : ¬ w.Reports slot)
    (hown : own = some slot → (w.entry slot).socketHandler.socket = -1)
    (hG : Undisturbed claims own tr (.released slot room))
    (hpool : w.pool.release slot = some pool) :
    Claimed claims own { w with pool := pool } (tr ++ [.released slot room]) := by
  obtain ⟨howned, hclaims⟩ := hG
  obtain ⟨heq, hitems⟩ := ObjectPool.release_items hpool
  have hentry : ∀ s, ({ w with pool := pool } : World σ).entry s = w.entry s := fun s => by
    rw [World.entry, heq]
    rfl
  have hlast : pool.lastNotIssuedIndex = w.pool.lastNotIssuedIndex := by rw [heq]
  obtain ⟨hlt, hfree⟩ := h.occupied slot howned
  have hafter : ∀ s, Owned (tr ++ [.released slot room]) s ↔ s ≠ slot ∧ Owned tr s := fun s => by
    rw [owned_append]
    rfl
  constructor
  · intro fd s hfd
    rw [hentry]
    exact h.socket fd s hfd
  · intro s hs
    rw [hafter]
    refine ⟨?_, h.reported s hs⟩
    rintro rfl
    exact hreports hs
  · intro s hs
    rw [hafter]
    refine ⟨⟨?_, (h.held s hs).1⟩, (h.held s hs).2⟩
    rintro rfl
    exact hclaims hs
  · intro s hs
    rw [hafter, hentry]
    refine ⟨(h.own s hs).1, ?_⟩
    by_cases hslot : s = slot
    · subst hslot
      exact .inr (hown hs)
    · exact (h.own s hs).2.imp_left fun hs => ⟨hslot, hs⟩
  · intro s hs
    obtain ⟨hne, hs⟩ := (hafter s).1 hs
    obtain ⟨hslt, hsfree⟩ := h.occupied s hs
    refine ⟨by rw [hlast]; exact hslt, ?_⟩
    rw [hitems]
    split_ifs
    · simpa using ⟨hsfree, hne⟩
    · exact hsfree
  · rw [hitems]
    split_ifs
    · rw [List.nodup_append_comm, List.singleton_append, List.nodup_cons]
      exact ⟨hfree, h.nodup⟩
    · exact h.nodup
  · intro s hs
    rw [hlast]
    rw [hitems] at hs
    split_ifs at hs
    · rcases List.mem_append.1 hs with hs | hs
      · exact h.issued s hs
      · rwa [List.mem_singleton.1 hs]
    · exact h.issued s hs

/-- Whoever gets a slot has a claim to it that nobody had. -/
lemma acquire {connection : ConnectionEntry} (h : Claimed claims own w tr)
    (hpush : w.pushToPool connection = some (slot, w')) (hown : own ≠ some slot) :
    Claimed (slot :: claims) own w' (tr ++ [.acquired slot]) ∧ slot ∉ claims := by
  have hfree : ¬ Owned tr slot := by
    intro howned
    obtain ⟨hlt, hnot⟩ := h.occupied slot howned
    rcases World.pushToPool_cases hpush with ⟨hitems, -⟩ | ⟨-, -, hslot, -⟩
    · exact hnot (hitems ▸ List.mem_cons_self)
    · omega
  have hne : ∀ s, Owned tr s → s ≠ slot := fun s hs heq => hfree (heq ▸ hs)
  have hclaims : slot ∉ claims := fun hmem => hfree (h.held slot hmem).1
  have hreports : ∀ s, w'.Reports s → w.Reports s :=
    fun s ⟨fd, hfd⟩ => ⟨fd, World.epoll_of_pushToPool hpush hfd⟩
  have hafter : ∀ s, Owned (tr ++ [.acquired slot]) s ↔ s = slot ∨ Owned tr s := fun s => by
    rw [owned_append]
    rfl
  refine ⟨⟨?_, ?_, ?_, ?_, ?_, ?_, ?_⟩, hclaims⟩
  · intro fd s hfd
    have hfd' := World.epoll_of_pushToPool hpush hfd
    rw [World.pushToPool_entry_of_ne hpush (hne s (h.reported s ⟨fd, hfd'⟩))]
    exact h.socket fd s hfd'
  · exact fun s hs => (hafter s).2 (.inr (h.reported s (hreports s hs)))
  · intro s hs
    rw [hafter]
    rcases List.mem_cons.1 hs with rfl | hs
    · exact ⟨.inl rfl, fun hr => hfree (h.reported s (hreports s hr))⟩
    · exact ⟨.inr (h.held s hs).1, fun hr => (h.held s hs).2 (hreports s hr)⟩
  · intro s hs
    have hs' : s ≠ slot := by
      rintro rfl
      exact hown hs
    rw [hafter, World.pushToPool_entry_of_ne hpush hs']
    exact ⟨fun hr => (h.own s hs).1 (hreports s hr), (h.own s hs).2.imp_left .inr⟩
  · intro s hs
    rcases World.pushToPool_cases hpush with
    ⟨hitems, -, hlast, -⟩ | ⟨-, havailable, hslot, -, hlast, -⟩
    · have hnodup := h.nodup
      rw [hitems, List.nodup_cons] at hnodup
      rw [World.Occupies, hlast]
      rcases (hafter s).1 hs with rfl | hs
      · exact ⟨h.issued s (hitems ▸ List.mem_cons_self), hnodup.1⟩
      · obtain ⟨hlt, hnot⟩ := h.occupied s hs
        exact ⟨hlt, fun hmem => hnot (hitems ▸ List.mem_cons_of_mem _ hmem)⟩
    · rw [World.Occupies, hlast, havailable]
      rcases (hafter s).1 hs with rfl | hs
      · refine ⟨by omega, fun hmem => ?_⟩
        have hlt := h.issued s hmem
        omega
      · obtain ⟨hlt, hnot⟩ := h.occupied s hs
        exact ⟨by omega, hnot⟩
  · rcases World.pushToPool_cases hpush with ⟨hitems, -⟩ | ⟨-, havailable, -⟩
    · have hnodup := h.nodup
      rw [hitems, List.nodup_cons] at hnodup
      exact hnodup.2
    · rw [havailable]
      exact h.nodup
  · intro s hs
    rcases World.pushToPool_cases hpush with ⟨hitems, -, hlast, -⟩ | ⟨-, havailable, -, -, hlast, -⟩
    · rw [hlast]
      exact h.issued s (hitems ▸ List.mem_cons_of_mem _ hs)
    · have hlt := h.issued s (havailable ▸ hs)
      omega

/-- An event takes its slot out of what is reported. -/
lemma event {fd : ℤ} (h : Claimed claims own w tr) (hfd : w.epoll fd = some ⟨slot, true⟩) :
    Claimed (slot :: claims) own
      { w with epoll := Function.update w.epoll fd (some ⟨slot, false⟩) } tr ∧
      slot ∉ claims ∧ own ≠ some slot := by
  let w' : World σ := { w with epoll := Function.update w.epoll fd (some ⟨slot, false⟩) }
  have hepoll : ∀ fd' s, w'.epoll fd' = some ⟨s, true⟩ →
      w.epoll fd' = some ⟨s, true⟩ ∧ fd' ≠ fd := by
    intro fd' s hfd'
    simp only [w', Function.update_apply] at hfd'
    split_ifs at hfd' with heq
    · simp at hfd'
    · exact ⟨hfd', heq⟩
  have hreports : ¬ w'.Reports slot := by
    rintro ⟨fd', hfd'⟩
    obtain ⟨hfd', hne⟩ := hepoll fd' slot hfd'
    exact hne ((h.socket fd' slot hfd').2.symm.trans (h.socket fd slot hfd).2)
  have hframe : Claimed claims own w' tr :=
    h.frame (fun fd' s hfd' => (hepoll fd' s hfd').1) (fun _ => rfl) rfl rfl
  refine ⟨{ hframe with held := fun s hs => ?_ }, fun hmem => ?_, ?_⟩
  · rcases List.mem_cons.1 hs with rfl | hs
    · exact ⟨h.reported s ⟨fd, hfd⟩, hreports⟩
    · exact hframe.held s hs
  · exact (h.held slot hmem).2 ⟨fd, hfd⟩
  · rintro rfl
    exact (h.own slot rfl).1 ⟨fd, hfd⟩

end Claimed

/-! ### The programs of the engine -/

section Programs

variable {G : List Event → Event → Prop}

/-- A program that leaves the pool alone and arms nothing. -/
lemma claimed_of_quiet {m : EngineM σ α} (hm : Quiet m)
    (hepoll : ∀ w : World σ, ∀ fd s, (m.run w).state.epoll fd = some ⟨s, true⟩ →
      w.epoll fd = some ⟨s, true⟩) : Keeps G (Claimed (σ := σ) claims own) m := by
  intro w tr h _ a _
  obtain ⟨hsame, hsilent⟩ := hm w
  refine (h.frame (hepoll w) (fun s => ?_) ?_ ?_).silent hsilent
  · rw [hsame.entry]
  · rw [hsame.pool]
  · rw [hsame.pool]

lemma claimed_sendMessage (i : ℕ) (message : OutgoingMessage) :
    Keeps G (Claimed (σ := σ) claims own) (sendMessageImpl i message) :=
  claimed_of_quiet (quiet_sendMessageImpl i message) fun _ _ _ => id

lemma claimed_answerUser (i : ℕ) (code : Option UserError) :
    Keeps G (Claimed (σ := σ) claims own) (answerUser i code) := by
  cases code with
  | none => exact Keeps.pure
  | some code => exact claimed_sendMessage i _

lemma claimed_unsubscribeFromEvents (i : ℕ) :
    Keeps G (Claimed (σ := σ) claims own) (unsubscribeFromEvents i) := by
  have hdel : Keeps G (Claimed (σ := σ) claims own) (epollCtl .del i) := by
    refine claimed_of_quiet (quiet_epollCtl .del i) fun w fd s hfd => ?_
    simp only [epollCtl, run_bind, Outcome.andThen, run_get, run_modify, run_pure] at hfd
    split_ifs at hfd with hsuccess
    · rw [Function.update_apply] at hfd
      split_ifs at hfd
      exact hfd
    · exact hfd
  exact Triple.bind (Triple.bind hdel fun _ => Keeps.ite Keeps.pure Keeps.pure) fun _ => Keeps.pure

/-- A socket that nobody else has a claim to is armed, or nothing happens. -/
lemma triple_epollCtl {op : EpollOp} (hop : op ≠ .del) {P : World σ → List Event → Prop} {i : ℕ}
    (hP : ∀ w tr, P w tr → Claimed claims own w tr ∧ i ∉ claims ∧ own ≠ some i ∧
      ((w.entry i).socketHandler.socket ≠ -1 → Owned tr i))
    (hfailed : ∀ w tr (results : SysResults), P w tr → P { w with results := results } tr) :
    Triple G P (epollCtl op i) fun success w tr =>
      if success then Claimed claims own w tr else P w tr := by
  intro w tr hw _ success hvalue
  simp only [epollCtl, run_bind, Outcome.andThen, run_get, run_modify, run_pure,
    Option.some.injEq] at hvalue ⊢
  simp only [hvalue, List.append_nil]
  cases success with
  | false => exact hfailed w tr _ hw
  | true =>
    obtain ⟨hclaimed, hclaims, hown, howned⟩ := hP w tr hw
    have hsocket : (w.entry i).socketHandler.socket ≠ -1 := by
      simp only [World.epollPossible, Bool.and_eq_true, decide_eq_true_eq] at hvalue
      exact hvalue.1.1
    refine hclaimed.arm hsocket (howned hsocket) hclaims hown ?_ rfl
    cases op with
    | del => exact absurd rfl hop
    | add => rfl
    | mod => rfl

lemma Claimed.results (h : Claimed claims own w tr) (results : SysResults) :
    Claimed claims own { w with results := results } tr :=
  h.frame (fun _ _ => id) (fun _ => rfl) rfl rfl

/-- To arm the socket of a slot is to give up the claim to it. -/
lemma triple_arm {op : EpollOp} (hop : op ≠ .del) {i : ℕ} (hclaims : i ∉ claims)
    (hown : own ≠ some i) :
    Triple G (Claimed (σ := σ) (i :: claims) own) (epollCtl op i) fun success w tr =>
      if success then Claimed claims own w tr else Claimed (i :: claims) own w tr := by
  refine triple_epollCtl hop (fun w tr h => ?_) fun w tr results h => h.results results
  refine ⟨h.mono (fun s hs => List.mem_cons_of_mem _ hs) fun _ => .inl, hclaims, hown,
    fun _ => ?_⟩
  exact (h.held i List.mem_cons_self).1

lemma triple_subscribeToEvents {i : ℕ} (hclaims : i ∉ claims) (hown : own ≠ some i) :
    Triple G (Claimed (σ := σ) (i :: claims) own) (subscribeToEvents i) fun r w tr =>
      if r = none then Claimed claims own w tr else Claimed (i :: claims) own w tr := by
  have hadd : Triple G (Claimed (σ := σ) (i :: claims) own) (addSocket i) fun r w tr =>
      if r = none then Claimed claims own w tr else Claimed (i :: claims) own w tr := by
    refine (triple_arm (by decide) hclaims hown).bind fun success => ?_
    cases success with
    | true => exact .pure fun _ _ => id
    | false => exact .pure fun _ _ => id
  refine hadd.bind fun r => .pure fun w tr hr => ?_
  simpa using hr

lemma triple_rearmSocket {i : ℕ} (hclaims : i ∉ claims) (hown : own ≠ some i) :
    Triple G (Claimed (σ := σ) (i :: claims) own) (rearmSocket i) fun r w tr =>
      if r = none then Claimed claims own w tr else Claimed (i :: claims) own w tr := by
  refine (triple_arm (by decide) hclaims hown).bind fun success => ?_
  cases success with
  | true => exact .pure fun _ _ => id
  | false => exact .pure fun _ _ => id

/-- What the worker does nothing more for: the loop ends, and leaves the connection alone. -/
def ActionResult.LetsGo (result : ActionResult) : Prop :=
  result.actionStatus = .terminate ∧ result.connStatus = .keep ∧ result.userCode = none

instance (result : ActionResult) : Decidable result.LetsGo := inferInstanceAs (Decidable (_ ∧ _))

/-- The worker rearms its connection. -/
lemma triple_rearmConnection (hclaims : slot ∉ claims) :
    Triple G (Claimed (σ := σ) claims (some slot)) (rearmConnection slot) fun r w tr =>
      Claimed claims (if r.LetsGo then none else some slot) w tr := by
  have hrearm : Triple G (Claimed (σ := σ) claims (some slot)) (rearmSocket slot) fun r w tr =>
      if r = none then Claimed claims none w tr else Claimed claims (some slot) w tr := by
    have hmodify : Triple G (Claimed (σ := σ) claims (some slot)) (epollCtl .mod slot)
        fun success w tr =>
          if success then Claimed claims none w tr else Claimed claims (some slot) w tr := by
      refine triple_epollCtl (by decide) (fun w tr h => ?_) fun w tr results h => h.results results
      refine ⟨h.mono (fun _ => id) (by simp), hclaims, by simp, fun hsocket => ?_⟩
      exact (h.own slot rfl).2.resolve_right hsocket
    refine hmodify.bind fun success => ?_
    cases success with
    | true => exact .pure fun _ _ => id
    | false => exact .pure fun _ _ => id
  refine hrearm.bind fun r => ?_
  cases r with
  | none => exact .pure fun _ _ => id
  | some e => exact .pure fun _ _ => id

lemma claimed_waitForEvent (socket : ℤ) :
    Triple G (Claimed (σ := σ) claims own) (waitForEvent socket) fun r w tr =>
      Claimed (r.toList ++ claims) own w tr ∧ ∀ i ∈ r, i ∉ claims ∧ own ≠ some i := by
  intro w tr h _ r hvalue
  have hevents : ((waitForEvent socket).run w).events = [] := by
    simp only [waitForEvent, run_bind, run_get, Outcome.andThen]
    split <;> rfl
  rw [hevents, List.append_nil]
  cases hepoll : w.epoll socket with
  | none =>
    simp only [waitForEvent, run_bind, run_get, Outcome.andThen, hepoll, run_pure,
      Option.some.injEq] at hvalue ⊢
    subst hvalue
    exact ⟨h, by simp⟩
  | some interest =>
    obtain ⟨i, armed⟩ := interest
    cases armed with
    | false =>
      simp only [waitForEvent, run_bind, run_get, Outcome.andThen, hepoll, run_pure,
        Option.some.injEq] at hvalue ⊢
      subst hvalue
      exact ⟨h, by simp⟩
    | true =>
      simp only [waitForEvent, run_bind, run_get, Outcome.andThen, hepoll, run_modify, run_pure,
        Option.some.injEq] at hvalue ⊢
      subst hvalue
      obtain ⟨hclaimed, hnew⟩ := h.event hepoll
      exact ⟨hclaimed, by simpa using hnew⟩

end Programs

section Undisturbed

lemma claimed_releaseSlot (i : ℕ) :
    Triple (Undisturbed claims own) (fun (w : World σ) tr => Claimed claims own w tr ∧
      ¬ w.Reports i ∧ (own = some i → (w.entry i).socketHandler.socket = -1)) (releaseSlot i)
      fun _ => Claimed claims own := by
  rintro w tr ⟨h, hreports, hown⟩ hG a hvalue
  simp only [releaseSlot, run_bind, run_get, run_emit, Outcome.andThen] at hG hvalue ⊢
  cases hrelease : w.pool.release i with
  | none => simp [hrelease] at hvalue
  | some pool =>
    simp only [hrelease, run_modify, List.append_nil, List.nil_append] at hG ⊢
    exact h.release hreports hown hG.1 hrelease

/-- Resetting a connection and giving back its slot. -/
lemma claimed_resetAndRelease (i : ℕ) :
    Keeps (Undisturbed claims own) (Claimed (σ := σ) claims own) (resetAndRelease i) := by
  refine Triple.bind (Triple.modify (Q := fun _ w tr => Claimed claims own w tr ∧ ¬ w.Reports i ∧
    (own = some i → (w.entry i).socketHandler.socket = -1)) fun w tr h => ?_)
    fun _ => claimed_releaseSlot i
  refine ⟨(h.reset i).1, (h.reset i).2, fun _ => ?_⟩
  rw [(w.reset_cleared i).entry, if_pos rfl]
  rfl

lemma claimed_releaseConnection (i : ℕ) :
    Keeps (Undisturbed claims own) (Claimed (σ := σ) claims own) (releaseConnection i) :=
  Triple.bind (claimed_unsubscribeFromEvents i) fun _ => claimed_resetAndRelease i

lemma claimed_pushToPool (connection : ConnectionEntry) :
    Triple (Undisturbed claims own) (Claimed (σ := σ) claims own) (pushToPool connection)
      fun i w tr => (i ∉ claims ∧ own ≠ some i) ∧ Claimed (i :: claims) own w tr :=
  triple_pushToPool fun _ _ _ _ h hpush hG =>
    ⟨⟨(h.acquire hpush hG).2, hG⟩, (h.acquire hpush hG).1⟩

lemma claimed_attachSocket (socket : ℤ) (socketType : EndPoint) :
    Keeps (Undisturbed claims own) (Claimed (σ := σ) claims own)
      (attachSocket socket socketType) := by
  have hregister : Keeps (Undisturbed claims own) (Claimed (σ := σ) claims own)
      (registerConnection socketType socket) := by
    refine (claimed_pushToPool _).bind fun i => Triple.of_pre fun hi => ?_
    refine (triple_subscribeToEvents hi.1 hi.2).bind fun r => ?_
    cases r with
    | none => exact .pure fun _ _ => id
    | some e =>
      have hfewer : ∀ (w : World σ) tr, Claimed (i :: claims) own w tr → Claimed claims own w tr :=
        fun w tr h => h.mono (fun s hs => List.mem_cons_of_mem _ hs) fun _ => .inl
      refine Triple.bind ((claimed_sendMessage i _).pre fun w tr h => hfewer w tr h) fun _ => ?_
      exact Triple.bind (claimed_resetAndRelease i) fun _ => Keeps.pure
  refine Triple.bind hregister fun r => ?_
  cases r with
  | ok i => exact Keeps.pure
  | error e => exact Keeps.pure

lemma claimed_transfer (destinationView sourceView : ConnectionView) :
    Keeps (Undisturbed claims own) (Claimed (σ := σ) claims own)
      (transfer destinationView sourceView) := by
  refine Triple.bind (claimed_unsubscribeFromEvents _) fun _ => ?_
  refine Triple.bind (Keeps.get (I := Claimed (σ := σ) claims own)) fun w₀ => ?_
  refine Triple.bind (claimed_sendMessage _ _) fun r => ?_
  cases r with
  | none => exact Triple.bind (claimed_resetAndRelease _) fun _ => Keeps.pure
  | some e =>
    refine Triple.bind (Triple.emit (Q := fun _ _ _ => False) ?_) fun _ => ?_
    · exact fun _ _ _ hG => hG
    · exact fun _ _ hfalse => hfalse.elim

lemma claimed_sendMessageLoop (message : OutgoingMessage) (filter : ConnectionMeta → Bool)
    (indices : List ℕ) (report : DeliveryReport) :
    Keeps (Undisturbed claims own) (Claimed (σ := σ) claims own)
      (sendMessageLoop message filter indices report) := by
  induction indices generalizing report with
  | nil => exact Keeps.pure
  | cons index indices ih =>
    refine Triple.bind (Keeps.get (I := Claimed (σ := σ) claims own)) fun w₀ => ?_
    refine Keeps.ite (Triple.bind (claimed_sendMessage index message) fun r => ?_) (ih report)
    cases r with
    | none => exact ih _
    | some e => exact Triple.bind (claimed_resetAndRelease index) fun _ => ih _

/-- A call that does not connect the root connection again. -/
def EngineCall.Serves : EngineCall → Prop
  | .resetBaseConnection _ => False
  | .attachSocket _ _ | .transfer _ _ | .sendMessageTo _ _ | .sendMessage _ _
  | .releaseConnectionByView _ => True

instance : DecidablePred EngineCall.Serves := fun call =>
  match call with
  | .resetBaseConnection _ => inferInstanceAs (Decidable False)
  | .attachSocket _ _ | .transfer _ _ | .sendMessageTo _ _ | .sendMessage _ _
  | .releaseConnectionByView _ => inferInstanceAs (Decidable True)

lemma claimed_engineCall {call : EngineCall} (hcall : call.Serves) :
    Keeps (Undisturbed claims own) (Claimed (σ := σ) claims own) call.program := by
  cases call with
  | attachSocket socket socketType =>
    exact Triple.bind (claimed_attachSocket socket socketType) fun _ => Keeps.pure
  | transfer destinationView sourceView =>
    exact Triple.bind (claimed_transfer destinationView sourceView) fun _ => Keeps.pure
  | sendMessageTo recipientView message =>
    exact Triple.bind (claimed_sendMessage _ message) fun _ => Keeps.pure
  | sendMessage message filter =>
    refine Triple.bind (Triple.bind (Keeps.get (I := Claimed (σ := σ) claims own)) fun w₀ => ?_)
      fun _ => Keeps.pure
    exact claimed_sendMessageLoop message filter _ _
  | releaseConnectionByView view =>
    refine Triple.bind (Keeps.get (I := Claimed (σ := σ) claims own)) fun w₀ => ?_
    exact Keeps.ite (claimed_releaseConnection view.slot) Keeps.pure
  | resetBaseConnection socketType => exact absurd hcall id

/-- The claim of the worker to its connection ends when the connection is rearmed. -/
lemma claimed_processMessage {calls : List EngineCall} {result : ActionResult}
    (hcalls : ∀ call ∈ calls, call.Serves) (hclaims : slot ∉ claims) (message : ReceivedMessage) :
    Triple (Undisturbed claims (some slot)) (Claimed (σ := σ) claims (some slot))
      (processMessage (handlerOf calls result) slot message) fun r w tr =>
        Claimed claims (if r.LetsGo then none else some slot) w tr := by
  have hkeep : ∀ (r : ActionResult) (w : World σ) tr, Claimed claims (some slot) w tr →
      Claimed claims (if r.LetsGo then none else some slot) w tr := by
    intro r w tr h
    refine h.mono (fun _ => id) fun s hs => ?_
    split_ifs at hs
    · cases hs
    · exact .inl hs
  rw [processMessage]
  cases message.status with
  | empty | wouldBlock => exact triple_rearmConnection hclaims
  | disconnected => exact .pure fun w tr h => hkeep _ w tr h
  | data =>
    refine Triple.bind (Keeps.get (I := Claimed (σ := σ) claims (some slot))) fun w₀ => ?_
    refine Triple.bind (Triple.emit (Q := fun _ => Claimed claims (some slot)) ?_) fun _ => ?_
    · exact fun w tr h _ => h.silent (List.forall_mem_singleton.2 trivial)
    have hhandler : Keeps (Undisturbed claims (some slot)) (Claimed (σ := σ) claims (some slot))
        (handlerOf calls result ⟨⟨slot⟩, message⟩) := by
      refine Triple.bind (Keeps.runAll fun m hm => ?_) fun _ => Keeps.pure
      obtain ⟨call, hcall, rfl⟩ := List.mem_map.1 hm
      exact claimed_engineCall (hcalls call hcall)
    refine Triple.bind hhandler fun r => ?_
    refine Triple.bind (Triple.emit (Q := fun _ => Claimed claims (some slot)) ?_) fun _ => ?_
    · exact fun w tr h _ => h.silent (List.forall_mem_singleton.2 trivial)
    · exact .pure fun w tr h => hkeep r w tr h

lemma claimed_getMessage {G : List Event → Event → Prop} (i : ℕ) :
    Keeps G (Claimed (σ := σ) claims own) (getMessage i) := by
  intro w tr h _ a _
  have hevents : ((getMessage i).run w).events = [] := rfl
  rw [hevents, List.append_nil]
  refine h.frame (fun _ _ => id) (fun s => ?_) rfl rfl
  by_cases hs : s = i
  · subst hs
    simp [getMessage, Outcome.andThen, World.updateHandler, World.updateEntry, World.entry,
      World.openDescriptors]
  · simp [getMessage, Outcome.andThen, World.updateHandler, World.updateEntry, World.entry,
      World.openDescriptors, hs]

end Undisturbed

end BattleShips
