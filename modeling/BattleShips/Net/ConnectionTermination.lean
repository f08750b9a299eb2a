import BattleShips.Net.ConnectionRules

/-!
# The loop over the messages of a connection ends

Every message that `process_connection_impl` hands to the application takes bytes from what there
is to receive, and the handlers add nothing to that. So the bound on the loop in
`NetworkEngine.processConnection` is never met.
-/

namespace BattleShips

open Traced

variable {σ : Type} {G : List Event → Event → Prop}

/-! ### The receive coroutine -/

lemma ParseLocals.moveLeftoverToBeginning_le (p : ParseLocals) :
    p.moveLeftoverToBeginning.2 ≤
      if p.bytesReceived < 0 then 2 ^ 16 else p.bytesReceived.toNat := by
  simp only [moveLeftoverToBeginning]
  split_ifs <;> omega

/-- Once there is a header, less than the pending work is left. -/
lemma ParseLocals.ensureHeader_pendingWork {p q : ParseLocals} (hpos : 0 < p.bytesReceived)
    (h : p.ensureHeader = some q) :
    0 ≤ q.bytesReceived ∧ q.bytesReceived.toNat < (ReceiveCo.parsing p).pendingWork := by
  have hnonneg : ¬ p.bytesReceived < 0 := by omega
  rw [ensureHeader] at h
  split_ifs at h with htype
  · rw [processMessageHeader] at h
    split_ifs at h with hsize
    cases h
    simp only [ReceiveCo.pendingWork, hnonneg, htype, if_false, if_true, headerSize] at hsize ⊢
    omega
  · cases h
    simp only [ReceiveCo.pendingWork, hnonneg, htype, if_false]
    omega

/-- A message takes at least one unit of work, and what is left over fits into the rest. -/
lemma ParseLocals.parseNext_pendingWork (p : ParseLocals) :
    match p.parseNext with
    | (some _, p') => (ReceiveCo.parsing p').pendingWork < (ReceiveCo.parsing p).pendingWork
    | (none, p') => p'.moveLeftoverToBeginning.2 ≤ (ReceiveCo.parsing p).pendingWork := by
  have hleftover : p.moveLeftoverToBeginning.2 ≤ (ReceiveCo.parsing p).pendingWork :=
    p.moveLeftoverToBeginning_le.trans (Nat.le_add_right ..)
  rw [parseNext]
  by_cases hpos : 0 < p.bytesReceived
  · rw [if_pos hpos]
    cases hheader : p.ensureHeader with
    | none => exact hleftover
    | some q =>
      obtain ⟨hnonneg, hlt⟩ := ensureHeader_pendingWork hpos hheader
      dsimp only
      cases hpayload : q.processMessagePayload with
      | none =>
        have := q.moveLeftoverToBeginning_le
        rw [if_neg (by omega)] at this
        exact this.trans hlt.le
      | some r =>
        rw [processMessagePayload] at hpayload
        split_ifs at hpayload with hsize
        cases hpayload
        have hnonneg' : ¬ q.bytesReceived - q.header.payloadSize < 0 := by omega
        refine lt_of_le_of_lt ?_ hlt
        simp only [yieldMessage, ReceiveCo.pendingWork, hnonneg', if_false, if_true]
        omega
  · rw [if_neg hpos]
    exact hleftover

/-- A resumption that yields a message of the peer leaves less to do. -/
lemma receiveLoop_pendingWork (receiveBuffer : Bytes) (freeBeggins : ℕ) (rs : List RecvResult)
    {message : ReceivedMessage} (hdata : message.status = .data)
    (h : (receiveLoop receiveBuffer freeBeggins rs).result = some message) :
    (receiveLoop receiveBuffer freeBeggins rs).co.elim 0 ReceiveCo.pendingWork +
      ((receiveLoop receiveBuffer freeBeggins rs).pending.map RecvResult.pendingWork).sum
        < freeBeggins + (rs.map RecvResult.pendingWork).sum := by
  induction rs generalizing receiveBuffer freeBeggins with
  | nil => cases h; cases hdata
  | cons r rs ih =>
    cases r with
    | wouldBlock => cases h; cases hdata
    | failed => cases h
    | received bytes socket =>
      simp only [receiveLoop] at h ⊢
      by_cases hbytes : bytes = []
      · simp only [hbytes, if_true, Option.some.injEq] at h
        rw [← h] at hdata
        cases hdata
      · simp only [hbytes, if_false] at h ⊢
        have hparse :=
          (ParseLocals.ofRead receiveBuffer freeBeggins bytes socket).parseNext_pendingWork
        have hread : (ReceiveCo.parsing
            (.ofRead receiveBuffer freeBeggins bytes socket)).pendingWork
              = bytes.length + freeBeggins := by
          have : ¬ ((bytes.length : ℤ) + freeBeggins < 0) := by omega
          simp only [ReceiveCo.pendingWork, ParseLocals.ofRead, this, if_false, if_true]
          omega
        rw [hread] at hparse
        cases hnext : (ParseLocals.ofRead receiveBuffer freeBeggins bytes socket).parseNext with
        | mk m p =>
          rw [hnext] at hparse
          cases m with
          | some m =>
            simp only [Option.elim_some, List.map_cons, List.sum_cons,
              RecvResult.pendingWork] at hparse ⊢
            omega
          | none =>
            simp only [hnext, Resumed.withCall] at h hparse ⊢
            have := ih _ _ h
            simp only [List.map_cons, List.sum_cons, RecvResult.pendingWork]
            omega

lemma ReceiveCo.resume_pendingWork (co : ReceiveCo) (rs : List RecvResult)
    {message : ReceivedMessage} (hdata : message.status = .data)
    (h : (co.resume rs).result = some message) :
    (co.resume rs).co.elim 0 ReceiveCo.pendingWork +
      ((co.resume rs).pending.map RecvResult.pendingWork).sum
        < co.pendingWork + (rs.map RecvResult.pendingWork).sum := by
  cases co with
  | reading receiveBuffer freeBeggins => exact receiveLoop_pendingWork _ _ rs hdata h
  | parsing p =>
    have hparse := p.parseNext_pendingWork
    cases hnext : p.parseNext with
    | mk m p' =>
      rw [hnext] at hparse
      cases m with
      | some m =>
        simp only [resume, hnext, Option.elim_some] at hparse ⊢
        omega
      | none =>
        simp only [resume, hnext] at h hparse ⊢
        have := receiveLoop_pendingWork _ _ rs hdata h
        omega

/-! ### Messages and handlers -/

/-- What there is to receive bounds the pending work of a slot. -/
lemma pendingWork_invariant (slot n : ℕ) :
    PoolInvariant G (fun (w : World σ) _ => w.pendingWork slot ≤ n) fun _ => True where
  same hsame hw := by
    rwa [World.pendingWork, hsame.entry, hsame.recvmsg]
  silent _ := id
  inUse_of_type _ := trivial
  inUse_handler _ _ := trivial
  inUse_of_alive _ _ := trivial
  acquire _ := by
    refine triple_pushToPool fun w tr slot' w' hw hpush _ => ?_
    have hresults := (World.pushToPool_rest hpush).2.2
    rw [World.pendingWork] at hw ⊢
    obtain ⟨-, -, -, hobject⟩ | ⟨-, -, -, -, -, hobject⟩ := World.pushToPool_cases hpush
    all_goals
      rw [hresults, World.entry, hobject]
      by_cases hslot : slot = slot'
      · subst hslot
        simp only [Function.update_self, ConnectionEntry.ofSocket, SocketHandler.ofSocket,
          Option.elim_none]
        omega
      · rw [Function.update_of_ne hslot]
        exact hw
  unused _ _ := .inr fun _ => trivial
  retire slot' := by
    refine (resetAndRelease_object slot' fun object results =>
      (object slot).socketHandler.receiveHandle.elim 0 ReceiveCo.pendingWork +
        (results.recvmsg.map RecvResult.pendingWork).sum ≤ n).pre ?_
    rintro w tr ⟨hw, -⟩
    rw [World.pendingWork] at hw
    by_cases hslot : slot = slot'
    · subst hslot
      simp only [Function.update_self, ConnectionEntry.cleared, Option.elim_none]
      omega
    · rwa [Function.update_of_ne hslot]

/-- The handler adds nothing to what there is to receive. -/
def KeepsPendingWork (handleAction : ActionContext → EngineM σ ActionResult) : Prop :=
  ∀ slot n context, Keeps (fun _ _ => True) (fun w _ => w.pendingWork slot ≤ n)
    (handleAction context)

namespace NetworkEngine

variable {handleAction : ActionContext → EngineM σ ActionResult}

lemma getMessage_pendingWork (slot n : ℕ) :
    Triple G (fun (w : World σ) _ => w.pendingWork slot ≤ n) (getMessage slot)
      fun received w _ => ∀ message, received = some message → message.status = .data →
        w.pendingWork slot < n := by
  intro w tr hw _ received hreceived message hmessage hdata
  simp only [getMessage, run_bind, Outcome.andThen, run_get, run_modify, run_pure,
    Option.some.injEq] at hreceived ⊢
  rw [hmessage] at hreceived
  have hresume := ReceiveCo.resume_pendingWork _ _ hdata hreceived
  have hhandle : ((w.entry slot).socketHandler.receiveHandle.getD coReceiveFromSocket).pendingWork
      = (w.entry slot).socketHandler.receiveHandle.elim 0 ReceiveCo.pendingWork := by
    cases (w.entry slot).socketHandler.receiveHandle <;> rfl
  rw [hhandle] at hresume
  rw [World.pendingWork] at hw ⊢
  simp only [World.entry, World.updateHandler_pool, ObjectPool.setObject_object,
    Function.update_self] at hresume hw ⊢
  exact hresume.trans_le hw

/-- The release of a connection leaves no live socket behind. -/
lemma releaseConnection_dead (slot : ℕ) :
    Triple G (fun _ _ => True) (releaseConnection slot) fun _ (w : World σ) _ =>
      (w.entry slot).socketHandler.isSocketAlive = false := by
  refine Triple.bind (Q := fun _ _ _ => True) (fun _ _ _ _ _ _ => trivial) fun _ => ?_
  refine (resetAndRelease_object slot fun object _ =>
    (object slot).socketHandler.isSocketAlive = false).pre fun w tr _ => ?_
  simp [ConnectionEntry.cleared, SocketHandler.isSocketAlive]

/-- The result of a message ends the loop, or the message has been taken from what there is to
receive. -/
lemma processMessage_pendingWork (hhandler : KeepsPendingWork handleAction) (slot n : ℕ)
    (message : ReceivedMessage) :
    Triple (fun _ _ => True) (fun w _ => message.status = .data → w.pendingWork slot < n)
      (processMessage handleAction slot message) fun result w _ => result.error ≠ none ∨
        result.actionStatus = .terminate ∨ result.connStatus = .release ∨
          w.pendingWork slot < n := by
  rw [processMessage]
  cases hstatus : message.status with
  | empty | wouldBlock =>
    refine Triple.bind (Q := fun _ _ _ => True) (fun _ _ _ _ _ _ => trivial) fun r => ?_
    cases r with
    | none => exact .pure fun w tr _ => .inr (.inl rfl)
    | some e => exact .pure fun w tr _ => .inl fun hresult => by cases hresult
  | disconnected => exact .pure fun w tr _ => .inr (.inr (.inl rfl))
  | data =>
    cases n with
    | zero => exact fun w tr hw => absurd (hw rfl) (Nat.not_lt_zero _)
    | succ n =>
      let P (w : World σ) (_ : List Event) : Prop := w.pendingWork slot ≤ n
      refine Triple.bind (Triple.get (Q := fun _ => P) fun w tr hw => Nat.le_of_lt_succ (hw rfl))
        fun _ => ?_
      refine Triple.bind (Triple.emit (Q := fun _ => P) fun w tr hw _ => hw) fun _ => ?_
      refine Triple.bind (hhandler slot n _) fun result => ?_
      refine Triple.bind (Triple.emit (Q := fun _ => P) fun w tr hw _ => hw) fun _ => ?_
      exact .pure fun w tr hw => .inr (.inr (.inr (Nat.lt_succ_of_le hw)))

lemma concludeMessage_pendingWork (slot n : ℕ) (result : ActionResult) :
    Triple (fun _ _ => True) (fun (w : World σ) _ => result.error ≠ none ∨
        result.actionStatus = .terminate ∨ result.connStatus = .release ∨ w.pendingWork slot < n)
      (concludeMessage slot result) fun _ w _ => result.error ≠ none ∨
        result.actionStatus = .terminate ∨
          (w.entry slot).socketHandler.isSocketAlive = false ∨ w.pendingWork slot < n := by
  by_cases hover : result.error ≠ none ∨ result.actionStatus = .terminate
  · exact fun w tr _ _ _ _ => hover.imp_right .inl
  · rw [not_or] at hover
    rw [concludeMessage]
    by_cases hrelease : result.connStatus = .release
    · refine Triple.bind (Q := fun _ _ _ => True) (fun _ _ _ _ _ _ => trivial) fun _ => ?_
      rw [if_pos hrelease]
      exact (releaseConnection_dead slot).post fun _ w tr hw => .inr (.inr (.inl hw))
    · cases n with
      | zero =>
        rintro w tr (herror | hterminate | hrelease' | hlt)
        · exact absurd herror hover.1
        · exact absurd hterminate hover.2
        · exact absurd hrelease' hrelease
        · exact absurd hlt (Nat.not_lt_zero _)
      | succ n =>
        refine Triple.bind (((pendingWork_invariant slot n).keeps_quiet
          (quiet_answerUser slot result.userCode)).pre fun w tr hw => ?_) fun _ => ?_
        · obtain herror | hterminate | hrelease' | hlt := hw
          · exact absurd herror hover.1
          · exact absurd hterminate hover.2
          · exact absurd hrelease' hrelease
          · exact Nat.le_of_lt_succ hlt
        · rw [if_neg hrelease]
          exact .pure fun w tr hw => .inr (.inr (.inr (Nat.lt_succ_of_le hw)))

/-- Unless the loop is over, a message has been taken from what there is to receive. -/
lemma processNextMessage_pendingWork (hhandler : KeepsPendingWork handleAction) (slot n : ℕ) :
    Triple (fun _ _ => True) (fun w _ => w.pendingWork slot ≤ n)
      (processNextMessage handleAction slot) fun next w _ => ∀ result, next = .ok result →
        (w.entry slot).socketHandler.isSocketAlive → result.actionStatus = .continue →
          w.pendingWork slot < n := by
  refine (getMessage_pendingWork slot n).bind fun received => ?_
  cases received with
  | none =>
    refine Triple.bind (Q := fun _ _ _ => True) (fun _ _ _ _ _ _ => trivial) fun _ => ?_
    exact .pure fun w tr _ => nofun
  | some message =>
    refine Triple.bind ((processMessage_pendingWork hhandler slot n message).pre
      fun w tr hw => hw message rfl) fun result => ?_
    refine (concludeMessage_pendingWork slot n result).bind fun _ => ?_
    cases herror : result.error with
    | some e => exact .pure fun w tr _ => nofun
    | none =>
      refine .pure fun w tr hw result' hresult halive hcontinue => ?_
      obtain rfl : result = result' := by cases hresult; rfl
      obtain herror | hterminate | hdead | hlt := hw
      · exact absurd rfl herror
      · simp [hcontinue] at hterminate
      · simp [halive] at hdead
      · exact hlt

/-- With a bound above the pending work, the loop finishes. -/
lemma processConnectionLoop_finishes (hhandler : KeepsPendingWork handleAction) (slot fuel : ℕ)
    (result : ActionResult) :
    Triple (fun _ _ => True) (fun w _ => 1 ≤ fuel ∧
        ((w.entry slot).socketHandler.isSocketAlive → result.actionStatus = .continue →
          w.pendingWork slot + 2 ≤ fuel))
      (processConnectionLoop handleAction slot fuel result) fun finished _ _ =>
        finished ≠ none := by
  induction fuel generalizing result with
  | zero => exact fun w tr hw => absurd hw.1 (by decide)
  | succ fuel ih =>
    refine (Triple.get (Q := fun w₀ w _ => w = w₀ ∧
      ((w.entry slot).socketHandler.isSocketAlive → result.actionStatus = .continue →
        w.pendingWork slot + 2 ≤ fuel + 1)) fun w tr hw => ⟨rfl, hw.2⟩).bind fun w₀ => ?_
    refine Triple.ite (fun hcontinue => ?_) fun _ => .pure fun w tr _ => nofun
    refine (Triple.of_pre (p := 1 ≤ fuel) fun hfuel => Triple.bind
      (processNextMessage_pendingWork hhandler slot (fuel - 1)) fun next => ?_).pre ?_
    · cases next with
      | error e => exact .pure fun w tr _ => nofun
      | ok result' =>
        refine (ih result').pre fun w tr hw => ⟨hfuel, fun halive hstatus => ?_⟩
        have := hw result' rfl halive hstatus
        omega
    · rintro w tr ⟨rfl, hw⟩
      have := hw hcontinue.1 hcontinue.2
      constructor <;> omega

/-- The bound in `processConnection` is enough, from every state. -/
theorem processConnection_finishes (hhandler : KeepsPendingWork handleAction) (w : World σ)
    (slot : ℕ) {finished : Option (Option Error)}
    (h : ((processConnectionLoop handleAction slot (w.pendingWork slot + 2) {}).run w).value
      = some finished) : finished ≠ none :=
  processConnectionLoop_finishes hhandler slot _ {} w [] ⟨by omega, fun _ _ => le_rfl⟩
    (allowed_of_forall fun _ _ _ => trivial) finished h

end NetworkEngine

end BattleShips
