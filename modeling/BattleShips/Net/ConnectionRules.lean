import BattleShips.Net.EngineRules

/-!
# Rules for processing a connection

`process_connection` receives messages, hands them to the handler of the application and releases
or rearms the connection. The rules say that all of this keeps an invariant that the handler keeps,
and how it leaves the connection behind. The loop ends after as many messages as there are bytes to
receive.
-/

namespace BattleShips

open Traced

variable {σ α : Type}

/-! ### Closed sockets -/

/-- The process with the socket in the slot alive again. -/
def World.revive (w : World σ) (slot : ℕ) : World σ :=
  w.updateHandler slot ({ · with socketStatus := .alive })

lemma World.revive_of_alive {w : World σ} {slot : ℕ}
    (h : (w.entry slot).socketHandler.isSocketAlive) : w.revive slot = w := by
  have hstatus : (w.pool.object slot).socketHandler.socketStatus = .alive := of_decide_eq_true h
  simp [revive, updateHandler, updateEntry, entry, ← hstatus, ObjectPool.setObject]

lemma World.revive_reset (w : World σ) (slot : ℕ) : (w.revive slot).reset slot = w.reset slot := by
  rw [reset, reset, resetToEmpty, resetToEmpty, closeSocket, closeSocket]
  by_cases hsocket : (w.pool.object slot).socketHandler.socket = -1
  · simp [revive, entry, updateHandler, updateEntry, ObjectPool.setObject, hsocket]
  · simp [revive, entry, updateHandler, updateEntry, ObjectPool.setObject, hsocket, close]

lemma World.SameConnections.revive {w w' : World σ} (h : w.SameConnections w') (slot : ℕ) :
    (w.revive slot).SameConnections (w'.revive slot) :=
  ⟨by simp [World.revive, World.entry, h.pool], h.app, h.nextPid, h.recvmsg⟩

lemma resetAndRelease_revive (w : World σ) (slot : ℕ) :
    (resetAndRelease slot).run (w.revive slot) = (resetAndRelease slot).run w := by
  simp only [resetAndRelease, run_bind, run_modify, World.revive_reset]

/-- What else an invariant needs while a connection is processed: it does not look at what there is
to receive. -/
structure ConnectionInvariant (G : List Event → Event → Prop) (I : World σ → List Event → Prop)
    (InUse : ConnectionEntry → Prop) : Prop extends ReleaseInvariant G I InUse where
  receive : ∀ {w tr} (slot : ℕ) (handle : Option ReceiveCo) (tape : List RecvResult), I w tr →
    I ({ w with results.recvmsg := tape }.updateHandler slot
      ({ · with receiveHandle := handle })) tr

/-- What an invariant needs for everything that the engine does. -/
structure EngineInvariant (G : List Event → Event → Prop) (I : World σ → List Event → Prop)
    (InUse : ConnectionEntry → Prop) : Prop extends ConnectionInvariant G I InUse,
    PoolInvariant G I InUse

/-- The handler keeps the invariant, never ends the loop, and only asks for the release of a
connection that is still in use. It is called with a message that the connection was allowed to
receive. -/
def HandlerKeeps (G : List Event → Event → Prop) (I : World σ → List Event → Prop)
    (InUse : ConnectionEntry → Prop)
    (handleAction : ActionContext → EngineM σ ActionResult) : Prop :=
  ∀ context, Triple G (fun w tr => (I w tr ∧ InUse (w.entry context.pendingView.slot)) ∧
      ∃ tr', G tr' (.received context.pendingView.slot
        (w.entry context.pendingView.slot).connectionType context.receivedMessage))
    (handleAction context) fun r w tr => I w tr ∧ r.actionStatus = .continue ∧
      (r.connStatus = .release → InUse (w.entry context.pendingView.slot))

lemma HandlerKeeps.of_inUse {G : List Event → Event → Prop} {I : World σ → List Event → Prop}
    {InUse : ConnectionEntry → Prop} {handleAction : ActionContext → EngineM σ ActionResult}
    (h : ∀ context, Triple G (fun w tr => I w tr ∧ InUse (w.entry context.pendingView.slot))
      (handleAction context) fun r w tr => I w tr ∧ r.actionStatus = .continue ∧
        (r.connStatus = .release → InUse (w.entry context.pendingView.slot))) :
    HandlerKeeps G I InUse handleAction :=
  fun context => (h context).pre fun _ _ hI => hI.1

namespace ConnectionInvariant

open NetworkEngine

variable {G : List Event → Event → Prop} {I : World σ → List Event → Prop}
  {InUse : ConnectionEntry → Prop} {handleAction : ActionContext → EngineM σ ActionResult}

/-- The connection in the slot may be released: it is in use, and the invariant holds but for the
end of its stream having been seen. -/
def Retirable (I : World σ → List Event → Prop) (InUse : ConnectionEntry → Prop) (slot : ℕ)
    (w : World σ) (tr : List Event) : Prop :=
  (I w tr ∨ I (w.revive slot) tr) ∧ InUse (w.entry slot)

lemma retirable_quiet (h : ConnectionInvariant G I InUse) {m : EngineM σ α} (hm : Quiet m)
    (slot : ℕ) : Triple G (Retirable I InUse slot) m fun _ => Retirable I InUse slot := by
  rintro w tr ⟨hI, hinUse⟩ _ a _
  obtain ⟨hsame, hsilent⟩ := hm w
  refine ⟨hI.imp (fun hI => ?_) fun hI => ?_, by rwa [hsame.entry]⟩
  · exact h.silent_all hsilent (h.same hsame hI)
  · exact h.silent_all hsilent (h.same (hsame.revive slot) hI)

lemma releaseConnection (h : ConnectionInvariant G I InUse) (slot : ℕ) :
    Triple G (Retirable I InUse slot) (releaseConnection slot) fun _ w tr =>
      I w tr ∧ (w.entry slot).socketHandler.isSocketAlive = false := by
  refine (h.retirable_quiet (quiet_unsubscribeFromEvents slot) slot).bind fun _ => ?_
  have hretire := h.retire_object slot fun object =>
    (object slot).socketHandler.isSocketAlive = false
  have hcleared : ∀ w : World σ, (Function.update w.pool.object slot (w.entry slot).cleared
      slot).socketHandler.isSocketAlive = false := fun w => by
    simp [ConnectionEntry.cleared, SocketHandler.isSocketAlive]
  rintro w tr ⟨hI | hI, hinUse⟩
  · exact hretire w tr ⟨⟨hI, hinUse⟩, hcleared w⟩
  · rw [← resetAndRelease_revive]
    refine hretire (w.revive slot) tr ⟨⟨hI, ?_⟩, hcleared _⟩
    have hentry : (w.revive slot).entry slot = { w.entry slot with
        socketHandler := { (w.entry slot).socketHandler with socketStatus := .alive } } := by
      simp [World.revive, World.entry]
    rw [hentry]
    exact h.inUse_handler _ hinUse

lemma getMessage (h : ConnectionInvariant G I InUse) (slot : ℕ) :
    Triple G (fun w tr => I w tr ∧ (w.entry slot).socketHandler.isSocketAlive) (getMessage slot)
      fun message w tr => I (w.revive slot) tr ∧ InUse (w.entry slot) ∧
        (message.any (·.status = .disconnected) = false →
          (w.entry slot).socketHandler.isSocketAlive) := by
  rintro w tr ⟨hI, halive⟩ _ message hmessage
  simp only [BattleShips.getMessage, run_bind, Outcome.andThen, run_get, run_modify, run_pure,
    Option.some.injEq] at hmessage ⊢
  set r := ((w.entry slot).socketHandler.receiveHandle.getD coReceiveFromSocket).resume
    w.results.recvmsg with hr
  have hstatus : (w.pool.object slot).socketHandler.socketStatus = .alive :=
    of_decide_eq_true halive
  refine ⟨?_, ?_, fun hconnected => ?_⟩
  · have hreceived := h.receive slot r.co r.pending hI
    simp only [List.append_nil]
    refine h.same ?_ hreceived
    refine ⟨?_, rfl, rfl, rfl⟩
    simp [World.revive, World.updateHandler, World.updateEntry, World.entry,
      ObjectPool.setObject, hstatus]
  · simpa [World.updateHandler, World.updateEntry, World.entry, ObjectPool.setObject] using
      h.inUse_handler _ (h.inUse_of_alive hI halive)
  · rw [← hmessage] at hconnected
    simp [World.entry, hconnected, hstatus, SocketHandler.isSocketAlive]

/-- What is known after a message has been processed: a connection to be released may be released,
any other is as it should be, the loop is only ended by a socket that is armed, and if there is an
error with a connection to be kept, it is one of the handler. -/
structure Processed (G : List Event → Event → Prop) (I : World σ → List Event → Prop)
    (InUse : ConnectionEntry → Prop) (slot : ℕ) (result : ActionResult) (w : World σ)
    (tr : List Event) : Prop where
  release : result.connStatus = .release → Retirable I InUse slot w tr
  keep : result.connStatus = .keep → I w tr
  terminate : result.actionStatus = .terminate →
    w.Armed slot ∧ result.connStatus = .keep ∧ result.userCode = none
  error : result.connStatus = .keep → result.error ≠ none → ∃ tr, G tr (.handled slot result)

lemma rearmConnection (h : ConnectionInvariant G I InUse) (slot : ℕ) :
    Triple G (fun w tr => I w tr ∧ InUse (w.entry slot)) (rearmConnection slot)
      (Processed G I InUse slot) := by
  refine Triple.bind (((h.quiet (quiet_rearmSocket slot) fun object =>
    InUse (object slot)).and (rearmSocket_value slot)).pre fun w tr hI => ⟨hI, trivial⟩) fun r => ?_
  cases r with
  | none =>
    exact .pure fun w tr hI => ⟨nofun, fun _ => hI.1.1, fun _ => ⟨hI.2 rfl, rfl, rfl⟩,
      fun _ herror => absurd rfl herror⟩
  | some e => exact .pure fun w tr hI => ⟨fun _ => ⟨.inl hI.1.1, hI.1.2⟩, nofun, nofun, nofun⟩

lemma processMessage (h : ConnectionInvariant G I InUse)
    (hhandler : HandlerKeeps G I InUse handleAction) (slot : ℕ) (message : ReceivedMessage) :
    Triple G (fun w tr => I (w.revive slot) tr ∧ InUse (w.entry slot) ∧
        (message.status ≠ .disconnected → (w.entry slot).socketHandler.isSocketAlive))
      (processMessage handleAction slot message) (Processed G I InUse slot) := by
  have hconnected : message.status ≠ .disconnected → ∀ w tr, (I (w.revive slot) tr ∧
      InUse (w.entry slot) ∧ (message.status ≠ .disconnected →
        (w.entry slot).socketHandler.isSocketAlive)) → I w tr ∧ InUse (w.entry slot) := by
    rintro hstatus w tr ⟨hI, hinUse, halive⟩
    rw [World.revive_of_alive (halive hstatus)] at hI
    exact ⟨hI, hinUse⟩
  rw [NetworkEngine.processMessage]
  cases hstatus : message.status with
  | empty | wouldBlock =>
    rw [hstatus] at hconnected
    exact (h.rearmConnection slot).pre (hconnected (by decide))
  | disconnected => exact .pure fun w tr hI => ⟨fun _ => ⟨.inr hI.1, hI.2.1⟩, nofun, nofun, nofun⟩
  | data =>
    rw [hstatus] at hconnected
    refine (Triple.get (Q := fun w₀ w tr => w = w₀ ∧ I w tr ∧ InUse (w.entry slot))
      fun w tr hI => ⟨rfl, hconnected (by decide) w tr hI⟩).bind fun w₀ => ?_
    refine Triple.bind (Triple.emit (Q := fun _ w tr => (I w tr ∧ InUse (w.entry slot)) ∧
      ∃ tr', G tr' (.received slot (w.entry slot).connectionType message)) ?_) fun _ => ?_
    · rintro w tr ⟨rfl, hI⟩ hG
      exact ⟨⟨h.silent trivial hI.1, hI.2⟩, tr, hG⟩
    refine (hhandler ⟨⟨slot⟩, message⟩).bind fun result => ?_
    refine Triple.bind (Triple.emit (Q := fun _ w tr => (I w tr ∧
      result.actionStatus = .continue ∧ (result.connStatus = .release → InUse (w.entry slot))) ∧
        ∃ tr, G tr (.handled slot result))
      fun w tr hI hG => ⟨⟨h.silent trivial hI.1, hI.2⟩, tr, hG⟩) fun _ => ?_
    refine .pure fun w tr hI => ⟨fun hrelease => ⟨.inl hI.1.1, hI.1.2.2 hrelease⟩,
      fun _ => hI.1.1, fun hterminate => ?_, fun _ _ => hI.2⟩
    rw [hI.1.2.1] at hterminate
    cases hterminate

/-- What is known after the result of a message has been acted on. -/
structure Concluded (G : List Event → Event → Prop) (I : World σ → List Event → Prop)
    (slot : ℕ) (result : ActionResult) (w : World σ) (tr : List Event) : Prop where
  keeps : I w tr
  terminate : result.actionStatus = .terminate → w.Armed slot
  error : result.error ≠ none → (w.entry slot).socketHandler.isSocketAlive →
    result.connStatus = .keep ∧ ∃ tr, G tr (.handled slot result)

lemma concludeMessage (h : ConnectionInvariant G I InUse) (slot : ℕ) (result : ActionResult) :
    Triple G (Processed G I InUse slot result) (concludeMessage slot result)
      fun _ => Concluded G I slot result := by
  rw [NetworkEngine.concludeMessage]
  cases hconn : result.connStatus with
  | release =>
    refine Triple.bind (Q := fun _ w tr => Retirable I InUse slot w tr ∧
      result.actionStatus ≠ .terminate) ?_ fun _ => ?_
    · refine (Triple.of_pre fun hcontinue => (h.retirable_quiet (quiet_answerUser slot
        result.userCode) slot).post fun _ w tr hI => ⟨hI, hcontinue⟩).pre fun w tr hI => ?_
      refine ⟨fun hterminate => ?_, hI.release hconn⟩
      simpa [hconn] using (hI.terminate hterminate).2.1
    · simp only [if_true]
      refine (Triple.of_pre fun hcontinue => (h.releaseConnection slot).post
        fun _ w tr hI => ?_).pre fun w tr hI => hI.symm
      exact ⟨hI.1, fun hterminate => absurd hterminate hcontinue,
        fun _ halive => by simp [hI.2] at halive⟩
  | keep =>
    refine Triple.bind (Q := fun _ => Concluded G I slot result) ?_ fun _ => ?_
    · cases hcode : result.userCode with
      | none =>
        exact .pure fun w tr hI => ⟨hI.keep hconn, fun hterminate => (hI.terminate hterminate).1,
          fun herror _ => ⟨hconn, hI.error hconn herror⟩⟩
      | some code =>
        refine (Triple.of_pre (p := result.actionStatus ≠ .terminate ∧ (result.error ≠ none →
          ∃ tr, G tr (.handled slot result))) fun hresult => (h.keeps_quiet
            (quiet_answerUser slot (some code))).post fun _ w tr hI => ?_).pre fun w tr hI => ?_
        · exact ⟨hI, fun hterminate => absurd hterminate hresult.1,
            fun herror _ => ⟨hconn, hresult.2 herror⟩⟩
        · refine ⟨⟨fun hterminate => ?_, hI.error hconn⟩, hI.keep hconn⟩
          simpa [hcode] using (hI.terminate hterminate).2.2
    · simp only [reduceCtorEq, if_false]
      exact .pure fun _ _ => id

/-- One message: it keeps the invariant, and leaves a socket that is still alive either armed, or
to be read again, or with an error of the handler. -/
lemma processNextMessage (h : ConnectionInvariant G I InUse)
    (hhandler : HandlerKeeps G I InUse handleAction) (slot : ℕ) :
    Triple G (fun w tr => I w tr ∧ (w.entry slot).socketHandler.isSocketAlive)
      (processNextMessage handleAction slot) fun next w tr => I w tr ∧ match next with
        | .ok result => result.actionStatus = .terminate → w.Armed slot
        | .error _ => (w.entry slot).socketHandler.isSocketAlive → ∃ result tr,
          G tr (.handled slot result) ∧ result.connStatus = .keep ∧ result.error ≠ none := by
  refine (h.getMessage slot).bind fun message => ?_
  cases message with
  | none =>
    refine Triple.bind ((h.releaseConnection slot).pre fun w tr hI => ⟨.inr hI.1, hI.2.1⟩)
      fun _ => .pure fun w tr hI => ⟨hI.1, fun halive => by simp [hI.2] at halive⟩
  | some message =>
    refine Triple.bind ((h.processMessage hhandler slot message).pre fun w tr hI =>
      ⟨hI.1, hI.2.1, fun hstatus => hI.2.2 (by simpa using hstatus)⟩) fun result => ?_
    refine (h.concludeMessage slot result).bind fun _ => ?_
    cases herror : result.error with
    | none => exact .pure fun w tr hI => ⟨hI.keeps, hI.terminate⟩
    | some e =>
      refine .pure fun w tr hI => ⟨hI.keeps, fun halive => ?_⟩
      have hresult : result.error ≠ none := by simp [herror]
      obtain ⟨hkeep, tr, hG⟩ := hI.error hresult halive
      exact ⟨result, tr, hG, hkeep, hresult⟩

/-- The loop, if it finishes: a socket that is still alive is armed, or the loop was left with an
error of the handler that keeps the connection. -/
lemma processConnectionLoop (h : ConnectionInvariant G I InUse)
    (hhandler : HandlerKeeps G I InUse handleAction) (slot fuel : ℕ) (result : ActionResult) :
    Triple G (fun w tr => I w tr ∧ (result.actionStatus = .terminate → w.Armed slot))
      (processConnectionLoop handleAction slot fuel result) fun finished w tr =>
        I w tr ∧ (finished ≠ none → (w.entry slot).socketHandler.isSocketAlive →
          w.Armed slot ∨ ∃ result tr, G tr (.handled slot result) ∧ result.connStatus = .keep ∧
            result.error ≠ none) := by
  induction fuel generalizing result with
  | zero => exact .pure fun w tr hI => ⟨hI.1, fun hnone => absurd rfl hnone⟩
  | succ fuel ih =>
    refine (Triple.get (Q := fun w₀ w tr => w = w₀ ∧ I w tr ∧
      (result.actionStatus = .terminate → w.Armed slot)) fun w tr hI => ⟨rfl, hI⟩).bind fun w₀ => ?_
    refine Triple.ite (fun hcontinue => ?_) fun hstop => ?_
    · refine Triple.bind ((h.processNextMessage hhandler slot).pre ?_) fun next => ?_
      · rintro w tr ⟨rfl, hI, -⟩
        exact ⟨hI, hcontinue.1⟩
      cases next with
      | ok result => exact ih result
      | error e => exact .pure fun w tr hI => ⟨hI.1, fun _ halive => .inr (hI.2 halive)⟩
    · refine .pure ?_
      rintro w tr ⟨rfl, hI, harmed⟩
      refine ⟨hI, fun _ halive => .inl (harmed ?_)⟩
      cases hstatus : result.actionStatus with
      | «continue» => exact absurd ⟨halive, hstatus⟩ hstop
      | terminate => rfl

lemma processConnection (h : ConnectionInvariant G I InUse)
    (hhandler : HandlerKeeps G I InUse handleAction) (view : ConnectionView) :
    Triple G I (processConnection handleAction view) fun _ w tr =>
      I w tr ∧ ((w.entry view.slot).socketHandler.isSocketAlive → w.Armed view.slot ∨
        ∃ result tr, G tr (.handled view.slot result) ∧ result.connStatus = .keep ∧
          result.error ≠ none) := by
  refine Triple.bind (Keeps.get (I := I)) fun w₀ => ?_
  refine Triple.bind ((h.processConnectionLoop hhandler view.slot _ {}).pre
    fun w tr hI => ⟨hI, nofun⟩) fun finished => ?_
  cases finished with
  | none => exact Triple.stop
  | some e => exact .pure fun w tr hI => ⟨hI.1, hI.2 nofun⟩

end ConnectionInvariant

end BattleShips
