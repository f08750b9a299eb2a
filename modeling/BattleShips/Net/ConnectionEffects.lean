import BattleShips.Net.ConnectionRules

/-!
# Effects of processing a connection

Whatever else is done with the connections, only the calls of the handler hand messages over, and
in a process whose handler never asks for an answer to the user, only they send messages.
-/

namespace BattleShips

open Traced

variable {σ α β : Type}

/-! ### Programs aside -/

/-- An event that is neither a message received nor one sent. -/
def Event.Aside : Event → Prop
  | .received _ _ _ | .sent _ _ _ => False
  | _ => True

/-- The program leaves the application alone, and has nothing to do with messages. -/
def Aside (m : EngineM σ α) : Prop :=
  ∀ w, (m.run w).state.app = w.app ∧ ∀ e ∈ (m.run w).events, e.Aside

lemma Aside.pure (a : α) : Aside (Pure.pure a : EngineM σ α) := fun _ => ⟨rfl, by simp⟩

lemma Aside.bind {m : EngineM σ α} {f : α → EngineM σ β} (hm : Aside m) (hf : ∀ a, Aside (f a)) :
    Aside (m >>= f) := by
  intro w
  obtain ⟨happ, hevents⟩ := hm w
  rw [run_bind, Outcome.andThen]
  cases hvalue : (m.run w).value with
  | none => exact ⟨happ, hevents⟩
  | some a =>
    obtain ⟨happ', hevents'⟩ := hf a (m.run w).state
    exact ⟨happ'.trans happ, List.forall_mem_append.2 ⟨hevents, hevents'⟩⟩

lemma Aside.ite {c : Prop} [Decidable c] {m m' : EngineM σ α} (h : Aside m) (h' : Aside m') :
    Aside (if c then m else m') := by
  split_ifs
  · exact h
  · exact h'

lemma aside_epollCtl (op : EpollOp) (slot : ℕ) : Aside (epollCtl op slot : EngineM σ _) :=
  fun w => ⟨rfl, by simp [epollCtl, Outcome.andThen]⟩

lemma aside_addSocket (slot : ℕ) : Aside (addSocket slot : EngineM σ _) :=
  (aside_epollCtl _ _).bind fun _ => .ite (.pure _) (.pure _)

lemma aside_rearmSocket (slot : ℕ) : Aside (rearmSocket slot : EngineM σ _) :=
  (aside_epollCtl _ _).bind fun _ => .ite (.pure _) (.pure _)

lemma aside_removeSocket (slot : ℕ) : Aside (removeSocket slot : EngineM σ _) :=
  (aside_epollCtl _ _).bind fun _ => .ite (.pure _) (.pure _)

lemma aside_getMessage (slot : ℕ) : Aside (getMessage slot : EngineM σ _) :=
  fun w => ⟨rfl, by simp [getMessage, Outcome.andThen]⟩

lemma getMessage_connectionType (slot s : ℕ) (w : World σ) :
    (((getMessage slot).run w).state.entry s).connectionType = (w.entry s).connectionType := by
  rcases eq_or_ne s slot with rfl | hne
  · simp [getMessage, Outcome.andThen, World.entry]
  · simp [getMessage, Outcome.andThen, World.entry, hne]

lemma aside_resetAndRelease (slot : ℕ) : Aside (resetAndRelease slot : EngineM σ _) := by
  intro w
  obtain ⟨⟨room, hevents⟩, happ, -⟩ := resetAndRelease_run slot w
  exact ⟨happ, by rw [hevents]; exact List.forall_mem_singleton.2 trivial⟩

lemma aside_pushToPool (connection : ConnectionEntry) :
    Aside (pushToPool connection : EngineM σ _) := by
  intro w
  simp only [pushToPool, run_bind, run_get, Outcome.andThen]
  cases hpush : w.pushToPool connection with
  | none => exact ⟨rfl, List.forall_mem_singleton.2 trivial⟩
  | some pushed => exact ⟨(World.pushToPool_rest hpush).1, List.forall_mem_singleton.2 trivial⟩

namespace NetworkEngine

lemma aside_subscribeToEvents (slot : ℕ) : Aside (subscribeToEvents slot : EngineM σ _) :=
  (aside_addSocket slot).bind fun _ => .pure _

lemma aside_unsubscribeFromEvents (slot : ℕ) : Aside (unsubscribeFromEvents slot : EngineM σ _) :=
  (aside_removeSocket slot).bind fun _ => .pure _

lemma aside_releaseConnection (slot : ℕ) : Aside (releaseConnection slot : EngineM σ _) :=
  (aside_unsubscribeFromEvents slot).bind fun _ => aside_resetAndRelease slot

lemma aside_rearmConnection (slot : ℕ) : Aside (rearmConnection slot : EngineM σ _) := by
  refine (aside_rearmSocket slot).bind fun r => ?_
  cases r with
  | none => exact .pure _
  | some e => exact .pure _

lemma aside_waitForEvent (socket : ℤ) : Aside (waitForEvent socket : EngineM σ _) := by
  intro w
  simp only [waitForEvent, run_bind, run_get, Outcome.andThen]
  split
  · exact ⟨rfl, by simp [Outcome.andThen]⟩
  · exact ⟨rfl, by simp⟩

lemma aside_initEpoll : Aside (initEpoll : EngineM σ _) := by
  intro w
  simp only [initEpoll, run_bind, run_get, Outcome.andThen, List.nil_append]
  split_ifs
  · exact (aside_subscribeToEvents 0).bind (fun _ => .pure _) w
  · exact Aside.pure _ w

end NetworkEngine

/-! ### Processing a connection -/

/-- What a relation needs so that it holds of processing a connection, if it holds of the calls of
the handler: it composes, and it does not look at anything but messages and the application. -/
structure ConnectionEffect (G : List Event → Event → Prop) (I : World σ → List Event → Prop)
    (InUse : ConnectionEntry → Prop) (handleAction : ActionContext → EngineM σ ActionResult)
    (R : World σ → List Event → World σ → Prop) : Prop extends Composable R where
  aside : ∀ {w w' es}, w'.app = w.app → (∀ e ∈ es, e.Aside) → R w es w'
  callHandler : ∀ slot message, Effect G (fun w tr => I w tr ∧ InUse (w.entry slot))
    (NetworkEngine.callHandler handleAction slot message) R
  userCode : ∀ context, Triple G (fun _ _ => True) (handleAction context)
    fun r _ _ => r.userCode = none

namespace ConnectionEffect

open NetworkEngine

variable {G : List Event → Event → Prop} {I : World σ → List Event → Prop}
  {InUse : ConnectionEntry → Prop} {handleAction : ActionContext → EngineM σ ActionResult}
  {R : World σ → List Event → World σ → Prop} {P : World σ → List Event → Prop}

lemma of_aside (h : ConnectionEffect G I InUse handleAction R) {m : EngineM σ α} (hm : Aside m) :
    Effect G P m R :=
  fun w _ _ _ => h.aside (hm w).1 (hm w).2

lemma processMessage (h : ConnectionEffect G I InUse handleAction R) (slot : ℕ)
    (message : ReceivedMessage) :
    Effect G (fun w tr => message.status = .data → I w tr ∧ InUse (w.entry slot))
      (processMessage handleAction slot message) R := by
  rw [NetworkEngine.processMessage]
  cases message.status with
  | empty | wouldBlock => exact h.of_aside (aside_rearmConnection slot)
  | disconnected => exact .pure h.toComposable
  | data => exact (h.callHandler slot message).pre fun w tr hI => hI rfl

lemma processMessage_userCode (h : ConnectionEffect G I InUse handleAction R) (slot : ℕ)
    (message : ReceivedMessage) :
    Triple G (fun _ _ => True) (NetworkEngine.processMessage handleAction slot message)
      fun r _ _ => r.userCode = none := by
  rw [NetworkEngine.processMessage]
  cases message.status with
  | empty | wouldBlock =>
    refine Triple.bind (Q := fun _ _ _ => True) (fun _ _ _ _ _ _ => trivial) fun r => ?_
    cases r with
    | none => exact .pure fun _ _ _ => rfl
    | some e => exact .pure fun _ _ _ => rfl
  | disconnected => exact .pure fun _ _ _ => rfl
  | data =>
    refine Triple.bind (Q := fun _ _ _ => True) (fun _ _ _ _ _ _ => trivial) fun w => ?_
    refine Triple.bind (Q := fun _ _ _ => True) (fun _ _ _ _ _ _ => trivial) fun _ => ?_
    refine Triple.bind (h.userCode ⟨⟨slot⟩, message⟩) fun r => ?_
    exact Triple.bind (Triple.emit (Q := fun _ _ _ => r.userCode = none) fun _ _ hr _ => hr)
      fun _ => .pure fun _ _ => id

lemma concludeMessage (h : ConnectionEffect G I InUse handleAction R) (slot : ℕ)
    (result : ActionResult) :
    Effect G (fun _ _ => result.userCode = none) (concludeMessage slot result) R := by
  intro w tr hcode
  have haside : Aside (NetworkEngine.concludeMessage slot result : EngineM σ _) := by
    rw [NetworkEngine.concludeMessage, hcode]
    exact Aside.bind (Aside.pure _) fun _ =>
      .ite (aside_releaseConnection slot) (.pure _)
  exact h.of_aside haside (P := fun _ _ => True) w tr trivial

lemma processNextMessage (h : ConnectionEffect G I InUse handleAction R)
    (hI : ConnectionInvariant G I InUse) (slot : ℕ) :
    Effect G (fun w tr => I w tr ∧ (w.entry slot).socketHandler.isSocketAlive)
      (processNextMessage handleAction slot) R := by
  refine (h.of_aside (aside_getMessage slot)).bind h.toComposable (hI.getMessage slot)
    fun received => ?_
  cases received with
  | none =>
    exact .bind_of_forall h.toComposable (h.of_aside (aside_releaseConnection slot))
      fun _ => .pure h.toComposable
  | some message =>
    refine Effect.bind h.toComposable ((h.processMessage slot message).pre ?_)
      ((h.processMessage_userCode slot message).pre fun _ _ _ => trivial) fun result => ?_
    · rintro w tr ⟨hw, hinUse, halive⟩ hdata
      rw [World.revive_of_alive (halive (by simp [hdata]))] at hw
      exact ⟨hw, hinUse⟩
    refine .bind_of_forall h.toComposable (h.concludeMessage slot result) fun _ => ?_
    cases result.error with
    | none => exact .pure h.toComposable
    | some e => exact .pure h.toComposable

lemma processConnection (h : ConnectionEffect G I InUse handleAction R)
    (hI : ConnectionInvariant G I InUse) (hhandler : HandlerKeeps G I InUse handleAction)
    (view : ConnectionView) : Effect G I (processConnection handleAction view) R := by
  have hloop : ∀ fuel result, Effect G I
      (processConnectionLoop handleAction view.slot fuel result) R := by
    intro fuel
    induction fuel with
    | zero => exact fun result => .pure h.toComposable
    | succ fuel ih =>
      refine fun result => .get_bind fun w₀ => .ite (fun hcontinue => ?_)
        fun _ => .pure h.toComposable
      refine Effect.bind h.toComposable ((h.processNextMessage hI view.slot).pre ?_)
        ((hI.processNextMessage hhandler view.slot).pre ?_) fun next => ?_
      · rintro w tr ⟨rfl, hw⟩
        exact ⟨hw, hcontinue.1⟩
      · rintro w tr ⟨rfl, hw⟩
        exact ⟨hw, hcontinue.1⟩
      cases next with
      | error e => exact .pure h.toComposable
      | ok result => exact (ih result).pre fun w tr hw => hw.1
  refine .get_bind fun w₀ => ?_
  refine .bind_of_forall h.toComposable ((hloop _ _).pre fun w tr hw => hw.2) fun finished => ?_
  cases finished with
  | none => exact .stop h.toComposable
  | some e => exact .pure h.toComposable

end ConnectionEffect

end BattleShips
