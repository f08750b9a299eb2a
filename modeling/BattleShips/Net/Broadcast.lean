import BattleShips.Net.EngineRules

/-!
# Broadcasts

`NetworkEngine::send_message` with a filter by type sends its message to connections of this type,
and releases those that it does not reach.
-/

namespace BattleShips

open Traced

variable {σ : Type} {G : List Event → Event → Prop} {P : World σ → List Event → Prop}
  {message : OutgoingMessage} {type : EndPoint}

/-- The event is a step of a broadcast of `message` to the connections that have the type `type`
in `w`. -/
def Event.OfBroadcast (message : OutgoingMessage) (type : EndPoint) (w : World σ) : Event → Prop
  | .sent slot message' _ => message' = message ∧ (w.entry slot).connectionType = type
  | .released _ _ => True
  | _ => False

/-- What a broadcast does. -/
structure Broadcast (message : OutgoingMessage) (type : EndPoint) (w : World σ)
    (es : List Event) (w' : World σ) : Prop where
  app : w'.app = w.app
  types : ∀ slot, (w'.entry slot).connectionType ≠ .none →
    (w'.entry slot).connectionType = (w.entry slot).connectionType
  events : ∀ e ∈ es, e.OfBroadcast message type w

lemma Broadcast.of_pool {w w' : World σ} (happ : w'.app = w.app)
    (hobject : w'.pool.object = w.pool.object) : Broadcast message type w [] w' :=
  ⟨happ, fun slot _ => by rw [World.entry, hobject, World.entry], nofun⟩

lemma broadcast_composable (htype : type ≠ .none) :
    Composable (Broadcast message type (σ := σ)) where
  refl w := .of_pool rfl rfl
  trans {w w' w'' es es'} h h' := by
    refine ⟨h'.app.trans h.app, fun slot hslot => ?_, fun e he => ?_⟩
    · have hsame := h'.types slot hslot
      exact hsame.trans (h.types slot (hsame ▸ hslot))
    · obtain he | he := List.mem_append.1 he
      · exact h.events e he
      · have hevent := h'.events e he
        cases e with
        | sent slot message' written =>
          refine ⟨hevent.1, ?_⟩
          rw [← h.types slot (hevent.2 ▸ htype), hevent.2]
        | released slot room => trivial
        | _ => exact hevent

lemma resetAndRelease_broadcast (slot : ℕ) :
    Effect G P (resetAndRelease slot) (Broadcast message type) := by
  intro w tr _ _
  obtain ⟨⟨room, hevents⟩, happ, hobject⟩ := resetAndRelease_run slot w
  refine ⟨happ, fun s hs => ?_, ?_⟩
  · rw [World.entry, hobject] at hs ⊢
    by_cases heq : s = slot
    · subst heq
      simp [ConnectionEntry.cleared] at hs
    · rw [Function.update_of_ne heq, World.entry]
  · rw [hevents]
    exact List.forall_mem_singleton.2 trivial

namespace NetworkEngine

lemma sendMessageImpl_run (slot : ℕ) (message : OutgoingMessage) (w : World σ) :
    (∃ written, ((sendMessageImpl slot message).run w).events = [.sent slot message written]) ∧
      w.SameConnections ((sendMessageImpl slot message).run w).state :=
  ⟨⟨_, rfl⟩, (quiet_sendMessageImpl slot message w).1⟩

lemma sendMessageImpl_broadcast (slot : ℕ) :
    Effect G (fun (w : World σ) _ => (w.entry slot).connectionType = type)
      (sendMessageImpl slot message) (Broadcast message type) := by
  intro w tr htype _
  obtain ⟨⟨written, hevents⟩, hsame⟩ := sendMessageImpl_run slot message w
  refine ⟨hsame.app, fun s _ => by rw [hsame.entry], ?_⟩
  rw [hevents]
  exact List.forall_mem_singleton.2 ⟨rfl, htype⟩

/-- A broadcast to the connections of one type. -/
lemma sendMessage_broadcast (htype : type ≠ .none) :
    Effect G P (sendMessage message fun connection => connection.type = type)
      (Broadcast message type (σ := σ)) := by
  have hR : Composable (Broadcast message type (σ := σ)) := broadcast_composable htype
  refine .get_bind fun w => Effect.pre (P := fun _ _ => True) ?_ fun _ _ _ => trivial
  generalize ({} : DeliveryReport) = report
  induction List.range w.pool.counter generalizing report with
  | nil => exact .pure hR
  | cons index indices ih =>
    refine .get_bind fun w => .ite (fun hfilter => ?_) fun _ => (ih _).pre fun _ _ _ => trivial
    refine Effect.bind_of_forall hR ((sendMessageImpl_broadcast index).pre fun w' _ hw' => ?_)
      fun r => ?_
    · rw [hw'.1]
      exact of_decide_eq_true hfilter.2
    cases r with
    | none => exact ih _
    | some e => exact .bind_of_forall hR (resetAndRelease_broadcast index) fun _ => ih _

end NetworkEngine

end BattleShips
