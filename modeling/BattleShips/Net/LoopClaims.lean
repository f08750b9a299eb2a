import BattleShips.Net.SlotClaims

/-!
# The claims of the loop and of the event loop

The worker has a claim to the slot of its connection until it arms the socket again, the event loop
to the slot that it registers. What each step of `process_connection_impl` and of
`register_connection` makes of these claims.
-/

namespace BattleShips

open Traced NetworkEngine

variable {σ α : Type}

/-- The loop may still do something to the connection in its slot. -/
def LoopPc.Holds : LoopPc → Prop
  | .condition processResult => processResult.actionStatus = .continue
  | .answerUser processResult => ¬ processResult.LetsGo
  | .returned => False
  | .getMessage | .processMessage _ | .unsubscribe _ | .reset _ | .releaseSlot _ => True

instance (pc : LoopPc) : Decidable pc.Holds :=
  match pc with
  | .condition _ => inferInstanceAs (Decidable (_ = _))
  | .answerUser _ => inferInstanceAs (Decidable (¬ _))
  | .returned => inferInstanceAs (Decidable False)
  | .getMessage | .processMessage _ | .unsubscribe _ | .reset _ | .releaseSlot _ =>
    inferInstanceAs (Decidable True)

/-- The slot that the event loop is registering. -/
def RegisterPc.slots : RegisterPc → List ℕ
  | .idle => []
  | .subscribe slot | .refuse slot | .reset slot | .releaseSlot slot => [slot]

/-- The slot that the loop is called for, as long as it holds the connection. -/
def LoopRun.own (r : LoopRun σ) (slot : ℕ) : Option ℕ :=
  if r.worker.Holds then some slot else none

/-! ### The loop -/

namespace LoopPc

lemma not_holds_ofResult {processResult : ActionResult} (h : processResult.LetsGo) :
    ¬ (ofResult processResult).Holds := by
  obtain ⟨hterminate, hkeep, -⟩ := h
  rw [ofResult, if_neg (by rw [hkeep]; decide)]
  split_ifs
  · exact id
  · change ¬ processResult.actionStatus = .continue
    rw [hterminate]
    decide

lemma ofResult_ne (processResult : ActionResult) (next : Option ActionResult) :
    ofResult processResult ≠ .releaseSlot next := by
  rw [ofResult]
  split_ifs <;> simp [LoopPc.next]

end LoopPc

namespace LoopRun

variable {r r' : LoopRun σ} {claims : List ℕ} {own : Option ℕ} {slot : ℕ}

lemma of_exec {G : List Event → Event → Prop} {P : World σ → List Event → Prop} {m : EngineM σ α}
    {Q : α → World σ → List Event → Prop} {x : α × LoopRun σ} (hm : Triple G P m Q)
    (hP : P r.world r.events) (hexec : r.exec m = some x)
    (hG : Allowed G r.events (x.2.events.drop r.events.length)) : Q x.1 x.2.world x.2.events := by
  obtain ⟨a, hvalue, rfl⟩ := Option.map_eq_some_iff.1 hexec
  rw [List.drop_left] at hG
  exact hm r.world r.events hP hG a hvalue

lemma own_of_holds (h : r.worker.Holds) : r.own slot = some slot := if_pos h

lemma own_of_not_holds (h : ¬ r.worker.Holds) : r.own slot = none := if_neg h

/-- What holds of a run of the loop over the connection in the slot. -/
structure Busy (claims : List ℕ) (slot : ℕ) (r : LoopRun σ) : Prop where
  claimed : Claimed claims (r.own slot) r.world r.events
  closed : ∀ next, r.worker = .releaseSlot next → (r.world.entry slot).socketHandler.socket = -1

/-- The claim of the worker is the same as before, or it has ended. -/
lemma Busy.of_claimed (h : Claimed claims own r.world r.events)
    (hown : r.worker.Holds → own = some slot) (hpc : ∀ next, r.worker ≠ .releaseSlot next) :
    r.Busy claims slot := by
  refine ⟨h.mono (fun _ => id) fun s hs => .inl ?_, fun next heq => absurd heq (hpc next)⟩
  by_cases hholds : r.worker.Holds
  · rw [hown hholds]
    rwa [own_of_holds hholds] at hs
  · rw [own_of_not_holds hholds] at hs
    cases hs

lemma Busy.workerStep {calls : List EngineCall} {result : ActionResult} (h : r.Busy claims slot)
    (hslot : r.worker.Holds → slot ∉ claims) (hcalls : ∀ call ∈ calls, call.Serves)
    (hstep : r.workerStep slot calls result = some r')
    (hG : Allowed (Undisturbed claims (r.own slot)) r.events (r'.events.drop r.events.length)) :
    r'.Busy claims slot := by
  have hclaimed := h.claimed
  cases hpc : r.worker with
  | condition processResult =>
    simp only [LoopRun.workerStep, hpc] at hstep
    split_ifs at hstep with hcontinue
    · obtain rfl := Option.some.inj hstep
      have hholds : r.worker.Holds := by
        rw [hpc]
        exact hcontinue.2
      rw [own_of_holds hholds] at hclaimed
      exact .of_claimed hclaimed (fun _ => rfl) (by simp)
    · obtain rfl := Option.some.inj hstep
      exact .of_claimed hclaimed (fun hholds => absurd hholds id) (by simp)
  | getMessage =>
    simp only [LoopRun.workerStep, hpc] at hstep
    obtain ⟨x, hexec, rfl⟩ := Option.map_eq_some_iff.1 hstep
    have hholds : r.worker.Holds := by
      rw [hpc]
      trivial
    rw [own_of_holds hholds] at hclaimed hG
    have hkeeps := of_exec (r := r.act slot) (claimed_getMessage slot) hclaimed hexec hG
    refine .of_claimed hkeeps (fun _ => rfl) fun next => ?_
    cases hmessage : x.1 <;> simp [LoopPc.ofMessage]
  | processMessage message =>
    simp only [LoopRun.workerStep, hpc] at hstep
    obtain ⟨x, hexec, rfl⟩ := Option.map_eq_some_iff.1 hstep
    have hholds : r.worker.Holds := by
      rw [hpc]
      trivial
    have hslot := hslot hholds
    rw [own_of_holds hholds] at hclaimed hG
    have hprocess : Triple (Undisturbed claims (some slot)) (Claimed (σ := σ) claims (some slot))
        (NetworkEngine.processMessage (handlerOf calls result) slot message) _ :=
      claimed_processMessage hcalls hslot message
    have hafter : Claimed claims (if x.1.LetsGo then none else some slot) x.2.world x.2.events := by
      split_ifs at hexec
      · exact of_exec (r := r.act slot) hprocess hclaimed hexec hG
      · exact of_exec (r := r.calling slot calls) hprocess hclaimed hexec hG
      · exact of_exec hprocess hclaimed hexec hG
    exact .of_claimed hafter (fun hholds => if_neg hholds) (by simp)
  | answerUser processResult =>
    simp only [LoopRun.workerStep, hpc] at hstep
    obtain ⟨x, hexec, rfl⟩ := Option.map_eq_some_iff.1 hstep
    have hafter : Claimed claims (r.own slot) x.2.world x.2.events := by
      split_ifs at hexec
      · exact of_exec (r := r.act slot) (claimed_answerUser slot _) hclaimed hexec hG
      · exact of_exec (claimed_answerUser slot _) hclaimed hexec hG
    refine .of_claimed hafter (fun hholds => own_of_holds ?_) (LoopPc.ofResult_ne _)
    rw [hpc]
    exact fun hgo => LoopPc.not_holds_ofResult hgo hholds
  | unsubscribe next =>
    simp only [LoopRun.workerStep, hpc] at hstep
    obtain ⟨x, hexec, rfl⟩ := Option.map_eq_some_iff.1 hstep
    have hholds : r.worker.Holds := by
      rw [hpc]
      trivial
    have hafter := of_exec (r := r.act slot) (claimed_unsubscribeFromEvents slot) hclaimed hexec hG
    exact .of_claimed hafter (fun _ => own_of_holds hholds) (by simp)
  | reset next =>
    simp only [LoopRun.workerStep, hpc] at hstep
    obtain rfl := Option.some.inj hstep
    have hholds : r.worker.Holds := by
      rw [hpc]
      trivial
    rw [own_of_holds hholds] at hclaimed
    refine ⟨(hclaimed.reset slot).1, fun _ _ => ?_⟩
    change ((r.world.reset slot).entry slot).socketHandler.socket = -1
    rw [(r.world.reset_cleared slot).entry, if_pos rfl]
    rfl
  | releaseSlot next =>
    simp only [LoopRun.workerStep, hpc] at hstep
    obtain ⟨x, hexec, rfl⟩ := Option.map_eq_some_iff.1 hstep
    have hholds : r.worker.Holds := by
      rw [hpc]
      trivial
    rw [own_of_holds hholds] at hclaimed hG
    have hbefore : Claimed claims (some slot) r.world r.events ∧ ¬ r.world.Reports slot ∧
        (some slot = some slot → (r.world.entry slot).socketHandler.socket = -1) :=
      ⟨hclaimed, (hclaimed.own slot rfl).1, fun _ => h.closed next hpc⟩
    have hafter := of_exec (r := r.act slot) (claimed_releaseSlot slot) hbefore hexec hG
    refine .of_claimed hafter (fun _ => rfl) fun next' => ?_
    cases next <;> simp [LoopPc.next]
  | returned =>
    simp only [LoopRun.workerStep, hpc] at hstep
    cases hstep

/-! ### Registrations -/

/-- What holds of the event loop between its steps in `register_connection`. -/
structure Registers (claims : List ℕ) (own : Option ℕ) (r : LoopRun σ) : Prop where
  claimed : Claimed (claims ++ r.eventLoop.slots) own r.world r.events
  nodup : (own.toList ++ (claims ++ r.eventLoop.slots)).Nodup

lemma nodup_snoc {i : ℕ} : (own.toList ++ (claims ++ [i])).Nodup ↔
    (i ∉ claims ∧ own ≠ some i) ∧ (own.toList ++ claims).Nodup := by
  rw [← List.append_assoc, List.nodup_append_comm, List.singleton_append, List.nodup_cons,
    List.mem_append, not_or, and_comm (a := i ∉ own.toList), Option.mem_toList]

lemma Registers.of_idle (h : Claimed claims own r.world r.events) (hidle : r.eventLoop = .idle)
    (hnodup : (own.toList ++ claims).Nodup) : r.Registers claims own := by
  constructor
  · rwa [hidle, RegisterPc.slots, List.append_nil]
  · rwa [hidle, RegisterPc.slots, List.append_nil]

/-- The event loop goes on with the slot. -/
lemma Registers.of_slot {i : ℕ} (h : Claimed (i :: claims) own r.world r.events)
    (hslots : r.eventLoop.slots = [i])
    (hnodup : (own.toList ++ (claims ++ [i])).Nodup) : r.Registers claims own := by
  constructor
  · rw [hslots]
    exact h.mono (fun s hs => by simpa [or_comm] using hs) fun _ => .inl
  · rwa [hslots]

lemma Registers.eventLoopStep (h : r.Registers claims own) (hstep : r.eventLoopStep = some r')
    (hG : Allowed (Undisturbed claims own) r.events (r'.events.drop r.events.length)) :
    r'.Registers claims own := by
  obtain ⟨hclaimed, hnodup⟩ := h
  have hsplit : ∀ i, r.eventLoop.slots = [i] → Claimed (i :: claims) own r.world r.events ∧
      (own.toList ++ (claims ++ [i])).Nodup := by
    intro i hslots
    rw [hslots] at hclaimed hnodup
    exact ⟨hclaimed.mono (fun s hs => by simpa [or_comm] using hs) fun _ => .inl, hnodup⟩
  cases hpc : r.eventLoop with
  | idle =>
    simp only [LoopRun.eventLoopStep, hpc] at hstep
    cases hstep
  | subscribe i =>
    obtain ⟨hclaimed, hnodup⟩ := hsplit i (by rw [hpc]; rfl)
    obtain ⟨⟨hclaims, hown⟩, hrest⟩ := nodup_snoc.1 hnodup
    simp only [LoopRun.eventLoopStep, hpc] at hstep
    obtain ⟨x, hexec, rfl⟩ := Option.map_eq_some_iff.1 hstep
    have hafter := of_exec (triple_subscribeToEvents hclaims hown) hclaimed hexec hG
    cases hresult : x.1 with
    | none =>
      rw [if_pos hresult] at hafter
      exact .of_idle hafter (by simp) hrest
    | some e =>
      rw [if_neg (by simp [hresult])] at hafter
      exact .of_slot hafter (by simp [RegisterPc.slots]) hnodup
  | refuse i =>
    obtain ⟨hclaimed, hnodup⟩ := hsplit i (by rw [hpc]; rfl)
    simp only [LoopRun.eventLoopStep, hpc] at hstep
    obtain ⟨x, hexec, rfl⟩ := Option.map_eq_some_iff.1 hstep
    have hafter := of_exec (claimed_sendMessage i _) hclaimed hexec hG
    exact .of_slot hafter rfl hnodup
  | reset i =>
    obtain ⟨hclaimed, hnodup⟩ := hsplit i (by rw [hpc]; rfl)
    simp only [LoopRun.eventLoopStep, hpc] at hstep
    obtain rfl := Option.some.inj hstep
    exact .of_slot (hclaimed.reset i).1 rfl hnodup
  | releaseSlot i =>
    obtain ⟨hclaimed, hnodup⟩ := hsplit i (by rw [hpc]; rfl)
    obtain ⟨⟨hclaims, hown⟩, hrest⟩ := nodup_snoc.1 hnodup
    simp only [LoopRun.eventLoopStep, hpc] at hstep
    obtain ⟨x, hexec, rfl⟩ := Option.map_eq_some_iff.1 hstep
    have hbefore : Claimed claims own r.world r.events ∧ ¬ r.world.Reports i ∧
        (own = some i → (r.world.entry i).socketHandler.socket = -1) :=
      ⟨hclaimed.mono (fun s hs => List.mem_cons_of_mem _ hs) fun _ => .inl,
        (hclaimed.held i List.mem_cons_self).2, fun heq => absurd heq hown⟩
    exact .of_idle (of_exec (claimed_releaseSlot i) hbefore hexec hG) rfl hrest

lemma Registers.acceptStep {socket : ℤ} (h : r.Registers claims own)
    (hstep : r.acceptStep socket = some r')
    (hG : Allowed (Undisturbed claims own) r.events (r'.events.drop r.events.length)) :
    r'.Registers claims own := by
  rw [LoopRun.acceptStep] at hstep
  split_ifs at hstep with hidle
  obtain ⟨x, hexec, rfl⟩ := Option.map_eq_some_iff.1 hstep
  obtain ⟨hclaimed, hnodup⟩ := h
  simp only [hidle, RegisterPc.slots, List.append_nil] at hclaimed hnodup
  obtain ⟨hnew, hafter⟩ := of_exec (claimed_pushToPool _) hclaimed hexec hG
  exact .of_slot hafter rfl (nodup_snoc.2 ⟨hnew, hnodup⟩)

/-- The event loop leaves the connections in other slots alone. -/
lemma entry_eventLoopStep (hstep : r.eventLoopStep = some r') (hslot : slot ∉ r.eventLoop.slots) :
    r'.world.entry slot = r.world.entry slot := by
  cases hpc : r.eventLoop with
  | idle =>
    simp only [LoopRun.eventLoopStep, hpc] at hstep
    cases hstep
  | subscribe i =>
    simp only [LoopRun.eventLoopStep, hpc] at hstep
    obtain ⟨x, hexec, rfl⟩ := Option.map_eq_some_iff.1 hstep
    obtain ⟨result, -, rfl⟩ := Option.map_eq_some_iff.1 hexec
    exact (quiet_subscribeToEvents i r.world).1.entry slot
  | refuse i =>
    simp only [LoopRun.eventLoopStep, hpc] at hstep
    obtain ⟨x, hexec, rfl⟩ := Option.map_eq_some_iff.1 hstep
    obtain ⟨result, -, rfl⟩ := Option.map_eq_some_iff.1 hexec
    exact (quiet_sendMessageImpl i _ r.world).1.entry slot
  | reset i =>
    simp only [LoopRun.eventLoopStep, hpc] at hstep
    obtain rfl := Option.some.inj hstep
    refine ((r.world.reset_cleared i).entry slot).trans (if_neg ?_)
    simpa [hpc, RegisterPc.slots] using hslot
  | releaseSlot i =>
    simp only [LoopRun.eventLoopStep, hpc] at hstep
    obtain ⟨x, hexec, rfl⟩ := Option.map_eq_some_iff.1 hstep
    obtain ⟨result, -, rfl⟩ := Option.map_eq_some_iff.1 hexec
    simp only [BattleShips.releaseSlot, run_bind, run_get, run_emit, Outcome.andThen]
    cases hrelease : r.world.pool.release i with
    | none => rfl
    | some pool =>
      simp only [run_modify]
      rw [World.entry, (ObjectPool.release_items hrelease).1]
      rfl

lemma worker_eventLoopStep (hstep : r.eventLoopStep = some r') : r'.worker = r.worker := by
  cases hpc : r.eventLoop with
  | idle =>
    simp only [LoopRun.eventLoopStep, hpc] at hstep
    cases hstep
  | subscribe i | refuse i | releaseSlot i =>
    simp only [LoopRun.eventLoopStep, hpc] at hstep
    obtain ⟨x, hexec, rfl⟩ := Option.map_eq_some_iff.1 hstep
    obtain ⟨result, -, rfl⟩ := Option.map_eq_some_iff.1 hexec
    rfl
  | reset i =>
    simp only [LoopRun.eventLoopStep, hpc] at hstep
    obtain rfl := Option.some.inj hstep
    rfl

lemma worker_acceptStep {socket : ℤ} (hstep : r.acceptStep socket = some r') :
    r'.worker = r.worker := by
  rw [LoopRun.acceptStep] at hstep
  split_ifs at hstep
  obtain ⟨x, hexec, rfl⟩ := Option.map_eq_some_iff.1 hstep
  obtain ⟨result, -, rfl⟩ := Option.map_eq_some_iff.1 hexec
  rfl

lemma entry_acceptStep {socket : ℤ} (hstep : r.acceptStep socket = some r')
    (hG : Allowed (Undisturbed claims (some slot)) r.events (r'.events.drop r.events.length)) :
    r'.world.entry slot = r.world.entry slot := by
  rw [LoopRun.acceptStep] at hstep
  split_ifs at hstep
  obtain ⟨x, hexec, rfl⟩ := Option.map_eq_some_iff.1 hstep
  have hpush : Triple (Undisturbed claims (some slot)) (fun w _ => w = r.world)
      (pushToPool (.ofSocket .toClient socket)) fun _ w _ => w.entry slot = r.world.entry slot := by
    refine triple_pushToPool fun w tr i w' hw hpush hown => ?_
    subst hw
    exact World.pushToPool_entry_of_ne hpush fun heq => hown (heq ▸ rfl)
  exact of_exec hpush rfl hexec hG

lemma exec_eventLoop {m : EngineM σ α} {x : α × LoopRun σ} (h : r.exec m = some x) :
    x.2.eventLoop = r.eventLoop := by
  obtain ⟨a, -, rfl⟩ := Option.map_eq_some_iff.1 h
  rfl

lemma workerStep_eventLoop {calls : List EngineCall} {result : ActionResult}
    (hstep : r.workerStep slot calls result = some r') : r'.eventLoop = r.eventLoop := by
  cases hpc : r.worker with
  | condition processResult =>
    simp only [LoopRun.workerStep, hpc] at hstep
    split_ifs at hstep
    · obtain rfl := Option.some.inj hstep
      rfl
    · obtain rfl := Option.some.inj hstep
      rfl
  | reset next =>
    simp only [LoopRun.workerStep, hpc] at hstep
    obtain rfl := Option.some.inj hstep
    rfl
  | returned =>
    simp only [LoopRun.workerStep, hpc] at hstep
    cases hstep
  | getMessage | unsubscribe next | releaseSlot next =>
    simp only [LoopRun.workerStep, hpc] at hstep
    obtain ⟨x, hx, rfl⟩ := Option.map_eq_some_iff.1 hstep
    have heq := exec_eventLoop hx
    exact heq
  | processMessage message =>
    simp only [LoopRun.workerStep, hpc] at hstep
    obtain ⟨x, hx, rfl⟩ := Option.map_eq_some_iff.1 hstep
    have heq := exec_eventLoop hx
    split_ifs at heq
    · exact heq
    · exact heq
    · exact heq
  | answerUser processResult =>
    simp only [LoopRun.workerStep, hpc] at hstep
    obtain ⟨x, hx, rfl⟩ := Option.map_eq_some_iff.1 hstep
    have heq := exec_eventLoop hx
    split_ifs at heq
    · exact heq
    · exact heq

/-- A claim that has ended does not come back. -/
lemma holds_of_workerStep {calls : List EngineCall} {result : ActionResult}
    (hstep : r.workerStep slot calls result = some r') (h : r'.worker.Holds) :
    r.worker.Holds := by
  cases hpc : r.worker with
  | condition processResult =>
    simp only [LoopRun.workerStep, hpc] at hstep
    split_ifs at hstep with hcontinue
    · exact hcontinue.2
    · obtain rfl := Option.some.inj hstep
      exact absurd h id
  | answerUser processResult =>
    simp only [LoopRun.workerStep, hpc] at hstep
    obtain ⟨x, -, rfl⟩ := Option.map_eq_some_iff.1 hstep
    exact fun hgo => LoopPc.not_holds_ofResult hgo h
  | returned =>
    simp only [LoopRun.workerStep, hpc] at hstep
    cases hstep
  | getMessage => trivial
  | processMessage message => trivial
  | unsubscribe next => trivial
  | reset next => trivial
  | releaseSlot next => trivial

end LoopRun

end BattleShips
