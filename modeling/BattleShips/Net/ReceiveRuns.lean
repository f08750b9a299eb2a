import BattleShips.Net.ConnectionEffects
import BattleShips.Net.ReceiveScan

/-!
# Runs of the receive coroutine

The messages that a coroutine has yielded when it has been resumed a number of times, and what a
process gets of them.
-/

namespace BattleShips

open Traced

/-! ### Resuming the coroutine -/

/-- The coroutine is in `recvmsg`, not in the middle of what it has read. -/
def ReceiveCo.Waits : ReceiveCo → Prop
  | .reading _ _ => True
  | .parsing _ => False

instance : DecidablePred ReceiveCo.Waits
  | .reading _ _ => isTrue trivial
  | .parsing _ => isFalse id

/-- The coroutine `co` has been resumed a number of times, in which it has yielded the messages
`ms`; what is left is a coroutine and results of `recvmsg`. -/
inductive ReceiveCo.Yields (co : ReceiveCo) (rs : List RecvResult) :
    List ReceivedMessage → ReceiveCo → List RecvResult → Prop
  | start : Yields co rs [] co rs
  | resume {ms : List ReceivedMessage} {co' co'' : ReceiveCo} {rs' : List RecvResult}
      (h : Yields co rs ms co' rs') (hco : (co'.resume rs').co = some co'') :
      Yields co rs (ms ++ dataMessages [co'.resume rs']) co'' (co'.resume rs').pending

section Coroutine

variable {co co' : ReceiveCo} {rs rs' : List RecvResult} {ms : List ReceivedMessage}

lemma dataMessages_resumes_succ (h : (co.resume rs).co = some co') (n : ℕ) :
    dataMessages (co.resumes (n + 1) rs) =
      dataMessages [co.resume rs] ++ dataMessages (co'.resumes n (co.resume rs).pending) := by
  simp only [ReceiveCo.resumes, h]
  exact dataMessages_cons _ _

/-- The messages come first in what the coroutine yields. -/
lemma ReceiveCo.Yields.resumes (h : co.Yields rs ms co' rs') :
    ∃ n, ∀ k, dataMessages (co.resumes (n + k) rs) = ms ++ dataMessages (co'.resumes k rs') := by
  induction h with
  | start => exact ⟨0, fun k => by rw [Nat.zero_add, List.nil_append]⟩
  | resume _ hco ih =>
    obtain ⟨n, hn⟩ := ih
    refine ⟨n + 1, fun k => ?_⟩
    rw [Nat.add_assoc, Nat.add_comm 1 k, hn, dataMessages_resumes_succ hco, List.append_assoc]

/-- They are the first ones of the stream that the coroutine delivers. -/
lemma ReceiveCo.Yields.isPrefix (h : co.Yields rs ms co' rs') {frames : List SentMessage}
    (hdelivers : Delivers co rs frames) :
    ms.map (·.content) <+: frames.map (·.content) := by
  obtain ⟨n, hn⟩ := h.resumes
  obtain ⟨N, hN⟩ := hdelivers
  have hall := hN (n + N) (Nat.le_add_left _ _)
  rw [hn, List.map_append] at hall
  exact ⟨_, hall⟩

/-- The coroutine only ends with an error or with the end of the stream. -/
lemma receiveLoop_ends {buffer : Bytes} {free : ℕ} (h : (receiveLoop buffer free rs).co = none) :
    (receiveLoop buffer free rs).result.all fun m => m.status = .disconnected := by
  induction rs generalizing buffer free with
  | nil => cases h
  | cons r rs ih =>
    cases r with
    | wouldBlock => cases h
    | failed => rfl
    | received bytes socket =>
      simp only [receiveLoop] at h ⊢
      split_ifs at h ⊢ with hempty
      · rfl
      · revert h
        cases (ParseLocals.ofRead buffer free bytes socket).parseNext with
        | mk message p =>
          cases message with
          | some message => exact fun h => by cases h
          | none => exact fun h => ih h

lemma resume_ends (h : (co.resume rs).co = none) :
    (co.resume rs).result.all fun m => m.status = .disconnected := by
  cases co with
  | reading buffer free => exact receiveLoop_ends h
  | parsing p =>
    revert h
    simp only [ReceiveCo.resume]
    cases p.parseNext with
    | mk message p =>
      cases message with
      | some message => exact fun h => by cases h
      | none => exact fun h => receiveLoop_ends h

lemma ReceiveCo.Yields.trans {ms' : List ReceivedMessage} {co'' : ReceiveCo}
    {rs'' : List RecvResult} (h : co.Yields rs ms co' rs') (h' : co'.Yields rs' ms' co'' rs'') :
    co.Yields rs (ms ++ ms') co'' rs'' := by
  induction h' with
  | start => simpa using h
  | resume _ hco ih =>
    rw [← List.append_assoc]
    exact ih.resume hco

/-- A coroutine that waits with nothing to read yields no more. -/
lemma ReceiveCo.Waits.dataMessages_eq (h : co.Waits) (n : ℕ) :
    dataMessages (co.resumes n []) = [] := by
  cases co with
  | parsing p => exact absurd h id
  | reading buffer free =>
    induction n with
    | zero => rfl
    | succ n ih =>
      have hresume : ((ReceiveCo.reading buffer free).resume []).co = some (.reading buffer free) :=
        rfl
      rw [dataMessages_resumes_succ hresume]
      exact ih

/-- A coroutine that waits at the end has yielded all that it delivers. -/
lemma ReceiveCo.Yields.eq_of_waits (h : co.Yields rs ms co' []) (hwaits : co'.Waits)
    {frames : List SentMessage} (hdelivers : Delivers co rs frames) :
    ms.map (·.content) = frames.map (·.content) := by
  obtain ⟨n, hn⟩ := h.resumes
  obtain ⟨N, hN⟩ := hdelivers
  have hall := hN (n + N) (Nat.le_add_left _ _)
  rwa [hn, hwaits.dataMessages_eq, List.append_nil] at hall

/-- Messages whose frames make up all the bytes there are, are all that is delivered. -/
lemma ReceiveCo.Yields.delivers (h : co.Yields rs ms co' rs') (hco : co.Ready)
    {frames : List SentMessage} (hcontent : ms.map (·.content) = frames.map (·.content))
    (hbytes : co.room + (readBytes rs).length ≤ (framing.stream frames).length) :
    Delivers co rs frames := by
  obtain ⟨n, hn⟩ := h.resumes
  refine ⟨n, fun k hk => ?_⟩
  obtain ⟨j, rfl⟩ := Nat.exists_eq_add_of_le hk
  have hle := frameBytes_resumes_le hco rs (n + j)
  rw [hn, frameBytes_append, frameBytes_of_content hcontent] at hle
  have hnone : dataMessages (co'.resumes j rs') = [] := by
    cases hrest : dataMessages (co'.resumes j rs') with
    | nil => rfl
    | cons m rest =>
      rw [hrest] at hle
      simp only [frameBytes, List.map_cons, List.sum_cons, headerSize] at hle
      omega
  rw [hn, hnone, List.append_nil, hcontent]

/-- The frames of the messages were read before. -/
lemma ReceiveCo.Yields.frameBytes_le (h : co.Yields rs ms co' rs') (hco : co.Ready) :
    frameBytes ms ≤ co.room + (readBytes rs).length := by
  obtain ⟨n, hn⟩ := h.resumes
  have hle := frameBytes_resumes_le hco rs (n + 0)
  rwa [hn, ReceiveCo.resumes, dataMessages_nil, List.append_nil] at hle

/-! ### Reads without descriptors -/

/-- The coroutine has got no descriptor with what it still holds. -/
def ReceiveCo.Plain : ReceiveCo → Prop
  | .reading _ _ => True
  | .parsing p => p.receivedMessage.socket = none

/-- Results of `recvmsg` that pass no descriptor, on a stream that stays open. -/
def IsPlain (rs : List RecvResult) : Prop := IsCut rs ∧ ∀ r ∈ rs, r.socket = none

lemma IsPlain.tail {r : RecvResult} (h : IsPlain (r :: rs)) : IsPlain rs :=
  ⟨fun r' hr' => h.1 r' (List.mem_cons_of_mem _ hr'), fun r' hr' =>
    h.2 r' (List.mem_cons_of_mem _ hr')⟩

/-- What a resumption on such reads comes to: a message, or there is nothing more to read. -/
structure Resumed.GoesOn (r : Resumed) (rs : List RecvResult) (message : ReceivedMessage)
    (next : ReceiveCo) : Prop where
  result : r.result = some message
  co : r.co = some next
  plain : next.Plain ∧ IsPlain r.pending
  socket : message.socket = none
  status : (message.status = .data ∧ r.pending.length ≤ rs.length) ∨
    (message.status = .wouldBlock ∧ next.Waits ∧ (r.pending = [] ∨ r.pending.length < rs.length))

lemma parseNext_status {p p' : ParseLocals} {message : ReceivedMessage}
    (h : p.parseNext = (some message, p')) : message.status = .data := by
  rw [ParseLocals.parseNext] at h
  split_ifs at h
  swap
  · simp at h
  cases hheader : p.ensureHeader with
  | none => simp [hheader] at h
  | some p₁ =>
    cases hpayload : p₁.processMessagePayload with
    | none => simp [hheader, hpayload] at h
    | some p₂ =>
      simp only [hheader, hpayload, Prod.mk.injEq, Option.some.injEq] at h
      obtain ⟨rfl, -⟩ := h
      rw [ParseLocals.processMessagePayload] at hpayload
      split_ifs at hpayload
      rw [← Option.some.inj hpayload]
      rfl

lemma receiveLoop_goesOn {buffer : Bytes} {free : ℕ} (hplain : IsPlain rs) :
    ∃ message co, (receiveLoop buffer free rs).GoesOn rs message co := by
  induction rs generalizing buffer free with
  | nil => exact ⟨_, _, rfl, rfl, ⟨trivial, hplain⟩, rfl, .inr ⟨rfl, trivial, .inl rfl⟩⟩
  | cons r rs ih =>
    obtain rfl | ⟨bytes, socket, hne, rfl⟩ := hplain.1 r List.mem_cons_self
    · exact ⟨_, _, rfl, rfl, ⟨trivial, hplain.tail⟩, rfl,
        .inr ⟨rfl, trivial, .inr (Nat.lt_succ_self _)⟩⟩
    · obtain rfl : socket = none := hplain.2 _ List.mem_cons_self
      rw [receiveLoop]
      simp only [hne, if_false]
      cases hnext : (ParseLocals.ofRead buffer free bytes none).parseNext with
      | mk message p =>
        cases message with
        | some message =>
          obtain ⟨hsocket, hsocket'⟩ := parseNext_socket hnext
          exact ⟨message, .parsing p, rfl, rfl, ⟨hsocket', hplain.tail⟩, hsocket,
            .inl ⟨parseNext_status hnext, Nat.le_succ _⟩⟩
        | none =>
          obtain ⟨message, co, hgoes⟩ := @ih p.moveLeftoverToBeginning.1
            p.moveLeftoverToBeginning.2 hplain.tail
          refine ⟨message, co, hgoes.result, hgoes.co, hgoes.plain, hgoes.socket, ?_⟩
          rcases hgoes.status with ⟨hstatus, hle⟩ | ⟨hstatus, hwaits, hpending⟩
          · exact .inl ⟨hstatus, hle.trans (Nat.le_succ _)⟩
          · exact .inr ⟨hstatus, hwaits, hpending.imp_right fun hlt =>
              hlt.trans (Nat.lt_succ_self _)⟩

lemma resume_goesOn (hco : co.Plain) (hplain : IsPlain rs) :
    ∃ message co', (co.resume rs).GoesOn rs message co' := by
  cases co with
  | reading buffer free => exact receiveLoop_goesOn hplain
  | parsing p =>
    rw [ReceiveCo.resume]
    cases hnext : p.parseNext with
    | mk message p' =>
      cases message with
      | some message =>
        obtain ⟨hsocket, hsocket'⟩ := parseNext_socket hnext
        exact ⟨message, .parsing p', rfl, rfl, ⟨hsocket'.trans hco, hplain⟩, hsocket.trans hco,
          .inl ⟨parseNext_status hnext, le_rfl⟩⟩
      | none => exact receiveLoop_goesOn hplain

namespace Resumed.GoesOn

variable {m : ReceivedMessage} (h : (co.resume rs).GoesOn rs m co')
include h

lemma yields_message (hdata : m.status = .data) :
    co.Yields rs [m] co' (co.resume rs).pending := by
  have hyields := ReceiveCo.Yields.start.resume h.co
  simpa [dataMessages, h.result, hdata] using hyields

lemma yields_nil (hblock : m.status = .wouldBlock) :
    co.Yields rs [] co' (co.resume rs).pending := by
  have hyields := ReceiveCo.Yields.start.resume h.co
  simpa [dataMessages, h.result, hblock] using hyields

lemma pending_le (hdata : m.status = .data) : (co.resume rs).pending.length ≤ rs.length := by
  rcases h.status with ⟨-, hle⟩ | ⟨hblock, -⟩
  · exact hle
  · simp [hblock] at hdata

lemma waits (hblock : m.status = .wouldBlock) :
    co'.Waits ∧ ((co.resume rs).pending = [] ∨ (co.resume rs).pending.length < rs.length) := by
  rcases h.status with ⟨hdata, -⟩ | ⟨-, hwaits⟩
  · simp [hblock] at hdata
  · exact hwaits

end Resumed.GoesOn

end Coroutine

/-! ### Resuming it in a process -/

/-- The coroutine that the next `get_message` on the slot resumes. -/
def World.receiveCo (w : World σ) (slot : ℕ) : ReceiveCo :=
  (w.entry slot).socketHandler.receiveHandle.getD coReceiveFromSocket

/-- What a resumption of the coroutine does to the process. -/
lemma getMessage_run {σ : Type} (slot : ℕ) (w : World σ) :
    ((getMessage slot).run w).events = [] ∧
      ((getMessage slot).run w).state.results.recvmsg =
        ((w.receiveCo slot).resume w.results.recvmsg).pending ∧
      ((getMessage slot).run w).state.receiveCo slot =
        ((w.receiveCo slot).resume w.results.recvmsg).co.getD coReceiveFromSocket ∧
      ∀ s, (((getMessage slot).run w).state.entry s).connectionType =
        (w.entry s).connectionType := by
  refine ⟨rfl, rfl, ?_, fun s => getMessage_connectionType slot s w⟩
  simp [getMessage, Outcome.andThen, World.entry, World.receiveCo]

def Event.message : Event → Option ReceivedMessage
  | .received _ _ message => some message
  | _ => none

/-- The messages that have come to the handler. -/
def handledMessages (es : List Event) : List ReceivedMessage := es.filterMap Event.message

/-- The connection is not released, and what is sent on it goes out. -/
def StaysConnected (_ : List Event) : Event → Prop
  | .released _ _ => False
  | .sent _ _ written => written ≠ none
  | _ => True

instance (tr : List Event) : DecidablePred (StaysConnected tr) := fun e =>
  match e with
  | .released _ _ => isFalse id
  | .sent _ _ _ => inferInstanceAs (Decidable (_ ≠ _))
  | .acquired _ | .exhausted | .received _ _ _ | .handled _ _ | .acceptFailed _ | .handedOff _ _ _
  | .transferFailed _ _ _ | .recoverFailed _ | .attached _ _ _ | .killed _ | .printed _ =>
    isTrue trivial

end BattleShips
