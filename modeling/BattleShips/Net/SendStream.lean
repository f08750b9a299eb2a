import BattleShips.Net.NetworkEngine
import BattleShips.Net.ReceiveStream

/-!
# The outgoing stream

What a sequence of `send_message` calls puts on a connection. `send_message` looks at the result of
`sendmsg` for -1 only: a frame of which the socket has taken the first bytes counts as sent, and the
next frame follows these bytes.
-/

namespace BattleShips

variable {σ : Type}

/-- Calls of `send_message` on the socket in a slot, one after the other. -/
def sendMessages (slot : ℕ) : List SentMessage → EngineM σ (List (Option Error))
  | [] => return []
  | m :: ms => do
    let e ← sendMessage slot m.toOutgoingMessage
    let es ← sendMessages slot ms
    return e :: es

/-- What `sendmsg` has given on the socket in a slot. -/
def sendmsgResults (slot : ℕ) (tr : List Event) : List (Option ℕ) :=
  tr.filterMap fun
    | .sent s _ written => if s = slot then some written else none
    | _ => none

/-- The bytes that the socket has taken: of each frame as many as `sendmsg` says. -/
def onWire (ms : List SentMessage) (results : List (Option ℕ)) : Bytes :=
  framing.written ms (results.map (·.getD 0))

/-- `sendmsg` gives -1, or a number of bytes from 1 to all of the frame. -/
def PossibleResult (m : SentMessage) (result : Option ℕ) : Prop :=
  ∀ n ∈ result, 0 < n ∧ n ≤ m.encode.length

instance (m : SentMessage) (result : Option ℕ) : Decidable (PossibleResult m result) :=
  inferInstanceAs (Decidable (∀ n ∈ result, _))

lemma sendMessage_run (slot : ℕ) (msg : OutgoingMessage) (w : World σ) :
    ∃ written, ((sendMessage slot msg).run w).events = [.sent slot msg written] ∧
      ∃ e, ((sendMessage slot msg).run w).value = some e ∧ (e = none ↔ written ≠ none) := by
  refine ⟨_, rfl, _, rfl, ?_⟩
  simp only [ite_eq_right_iff, reduceCtorEq, imp_false, ne_eq]

/-- A call has an error just if its `sendmsg` gives -1. -/
lemma sendMessages_run (slot : ℕ) (ms : List SentMessage) (w : World σ) :
    (sendmsgResults slot ((sendMessages slot ms).run w).events).length = ms.length ∧
      ∃ es, ((sendMessages slot ms).run w).value = some es ∧
        ((∀ e ∈ es, e = none) ↔
          none ∉ sendmsgResults slot ((sendMessages slot ms).run w).events) := by
  induction ms generalizing w with
  | nil => exact ⟨rfl, [], rfl, by simp [sendMessages, sendmsgResults]⟩
  | cons m ms ih =>
    obtain ⟨written, hevents, e, hvalue, he⟩ := sendMessage_run slot m.toOutgoingMessage w
    obtain ⟨hlength, es, hvalues, hes⟩ := ih ((sendMessage slot m.toOutgoingMessage).run w).state
    have hresults : sendmsgResults slot ((sendMessages slot (m :: ms)).run w).events =
        written :: sendmsgResults slot ((sendMessages slot ms).run
          ((sendMessage slot m.toOutgoingMessage).run w).state).events := by
      simp [sendMessages, Traced.Outcome.andThen, hvalue, hvalues, hevents, sendmsgResults]
    refine ⟨by rw [hresults, List.length_cons, hlength, List.length_cons], e :: es, ?_, ?_⟩
    · simp [sendMessages, Traced.Outcome.andThen, hvalue, hvalues]
    · rw [hresults, List.forall_mem_cons, List.mem_cons, not_or, he, hes, ne_comm]

/-- If no call has an error, the stream is made of whole frames just if every `sendmsg` takes all of
its frame. -/
theorem sendMessages_stream_iff (slot : ℕ) (ms : List SentMessage) (w : World σ)
    (hpossible : ∀ x ∈ ms.zip (sendmsgResults slot ((sendMessages slot ms).run w).events),
      PossibleResult x.1 x.2) :
    ((∀ es ∈ ((sendMessages slot ms).run w).value, ∀ e ∈ es, e = none) →
        onWire ms (sendmsgResults slot ((sendMessages slot ms).run w).events) =
          framing.stream ms) ↔
      (none ∈ sendmsgResults slot ((sendMessages slot ms).run w).events ∨
        ∀ x ∈ ms.zip (sendmsgResults slot ((sendMessages slot ms).run w).events),
          x.2 = some x.1.encode.length) := by
  obtain ⟨hlength, es, hvalue, hes⟩ := sendMessages_run slot ms w
  set results := sendmsgResults slot ((sendMessages slot ms).run w).events
  have hnone : (∀ es ∈ ((sendMessages slot ms).run w).value, ∀ e ∈ es, e = none) ↔
      none ∉ results := by
    rw [← hes, hvalue]
    simp
  rw [hnone]
  by_cases hfailed : none ∈ results
  · simp [hfailed]
  · have htaken : ∀ x ∈ ms.zip results, ∃ n, x.2 = some n := by
      intro x hx
      refine Option.ne_none_iff_exists'.1 fun hx' => hfailed ?_
      rw [← hx']
      exact (List.of_mem_zip hx).2
    have hzip :
        ms.zip (results.map (·.getD 0)) = (ms.zip results).map fun x => (x.1, x.2.getD 0) := by
      rw [List.zip_map_right]
      rfl
    have hle : ∀ x ∈ ms.zip (results.map (·.getD 0)), x.2 ≤ (framing.encode x.1).length := by
      rw [hzip]
      simp only [List.forall_mem_map]
      intro x hx
      obtain ⟨n, hn⟩ := htaken x hx
      rw [hn]
      exact (hpossible x hx n hn).2
    have hwhole : (∀ x ∈ ms.zip (results.map (·.getD 0)), x.2 = (framing.encode x.1).length) ↔
        ∀ x ∈ ms.zip results, x.2 = some x.1.encode.length := by
      rw [hzip]
      simp only [List.forall_mem_map]
      refine forall₂_congr fun x hx => ?_
      obtain ⟨n, hn⟩ := htaken x hx
      simp [hn]
    rw [onWire, framing.written_eq_stream_iff (by rw [List.length_map, hlength]) hle, hwhole]
    simp [hfailed]

/-- A process with a connection, on which `sendmsg` gives `results`. -/
def sendingWorld (results : List (Option ℕ)) : World Unit where
  pool := { object := fun _ => .ofSocket .toClient 4 }
  epoll := fun _ => none
  results := { sendmsg := results }
  nextPid := 1
  app := ()

/-- All bytes of two messages are taken at once. -/
theorem sendMessages_stream_iff_hi :
    onWire [hiMessage, hiMessage] (sendmsgResults 1 ((sendMessages 1 [hiMessage, hiMessage]).run
      (sendingWorld [some 18, some 18])).events) = framing.stream [hiMessage, hiMessage] :=
  (sendMessages_stream_iff 1 [hiMessage, hiMessage] (sendingWorld [some 18, some 18])
    (by decide)).2 (by decide) (by decide)

/-- The socket takes 17 of the 18 bytes of a message, and `send_message` returns no error. -/
theorem sendMessages_cuts_hi :
    ¬ ∀ (slot : ℕ) (ms : List SentMessage) (w : World Unit),
      (∀ x ∈ ms.zip (sendmsgResults slot ((sendMessages slot ms).run w).events),
        PossibleResult x.1 x.2) →
      (∀ es ∈ ((sendMessages slot ms).run w).value, ∀ e ∈ es, e = none) →
        onWire ms (sendmsgResults slot ((sendMessages slot ms).run w).events) =
          framing.stream ms := by
  intro h
  exact absurd (h 1 [hiMessage] (sendingWorld [some 17]) (by decide) (by decide)) (by decide)

end BattleShips
