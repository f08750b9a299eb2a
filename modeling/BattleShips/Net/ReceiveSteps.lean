import BattleShips.Lib.Transition
import BattleShips.Net.ReceiveStream

/-!
# The receive coroutine, step by step

`co_receive_from_socket` with a step for each access to its buffer: the window that `recvmsg` is
offered, the copies of headers and payloads, and the move of what is left. Whatever the peer sends,
every access stays inside of what has been received, there is always room for another header, and
the inner loop ends.
-/

namespace BattleShips

/-- Where the coroutine is. -/
inductive ReceivePoint
  /-- `recvmsg`. -/
  | recvmsg (receiveBuffer : Bytes) (freeBeggins : ℕ)
  /-- `while (bytes_received > 0)`, and the header. -/
  | loop (locals : ParseLocals)
  /-- `process_message_payload`. -/
  | payload (locals : ParseLocals)
  /-- Suspended in the `co_yield` of the inner loop. -/
  | yielded (locals : ParseLocals)
  /-- `move_leftover_to_beginning`. -/
  | leftover (locals : ParseLocals)
  /-- Suspended in the `co_yield` of the outer loop. -/
  | wouldBlock (receiveBuffer : Bytes) (freeBeggins : ℕ)
  | returned

structure ReceiveState where
  point : ReceivePoint := .recvmsg (List.replicate bufferSize 0) 0
  /-- How many bytes at the beginning of the buffer have been received. -/
  filled : ℕ := 0

/-- The result of a `recvmsg`, or a step that does not depend on one. -/
inductive ReceiveAction
  | read (result : RecvResult)
  | next

namespace ParseLocals

/-- From the head of the inner loop. -/
def enter (p : ParseLocals) : ReceivePoint :=
  if 0 < p.bytesReceived then
    match p.ensureHeader with
    | none => .leftover p
    | some q => .payload q
  else .leftover p

/-- From `process_message_payload`. -/
def takePayload (p : ParseLocals) : ReceivePoint :=
  match p.processMessagePayload with
  | none => .leftover p
  | some q => .yielded q.yieldMessage.2

end ParseLocals

namespace ReceiveState

/-- One step. `recvmsg` gives no more than its window has room for. -/
def step (s : ReceiveState) : ReceiveAction → Option ReceiveState
  | .read result => match s.point with
    | .recvmsg buffer free => match result with
      | .received bytes socket =>
        if bytes = [] then some { s with point := .returned }
        else if bytes.length ≤ bufferSize - free then
          some { point := .loop (.ofRead buffer free bytes socket), filled := free + bytes.length }
        else none
      | .wouldBlock => some { s with point := .wouldBlock buffer free }
      | .failed => some { s with point := .returned }
    | _ => none
  | .next => match s.point with
    | .loop p => some { s with point := p.enter }
    | .payload p => some { s with point := p.takePayload }
    | .yielded p => some { s with point := .loop p }
    | .leftover p =>
      some { point := .recvmsg p.moveLeftoverToBeginning.1 p.moveLeftoverToBeginning.2
             filled := p.moveLeftoverToBeginning.2 }
    | .wouldBlock buffer free => some { s with point := .recvmsg buffer free }
    | .recvmsg _ _ | .returned => none

end ReceiveState

/-- The coroutine with all results of `recvmsg`. -/
def receiveSystem : System ReceiveState ReceiveAction where
  initial s := s = {}
  step := ReceiveState.step

/-! ### The accesses to the buffer -/

/-- An access to the buffer: where it begins, and to how many bytes. -/
inductive BufferAccess
  | window (offset length : ℕ)
  | copy (offset length : ℕ)
  | move (offset length : ℕ)

namespace ReceiveState

/-- The access of the next step, with counts as unsigned 64 bits. -/
def access (s : ReceiveState) : Option BufferAccess :=
  match s.point with
  | .recvmsg _ free => some (.window free (bufferSize - free))
  | .loop p =>
    if 0 < p.bytesReceived ∧ p.header.type = .none ∧ (headerSize : ℤ) ≤ p.bytesReceived then
      some (.copy p.dataBeggins headerSize)
    else none
  | .payload p =>
    if (p.header.payloadSize : ℤ) ≤ p.bytesReceived then
      some (.copy p.dataBeggins p.header.payloadSize)
    else none
  | .leftover p => some (.move p.dataBeggins (p.bytesReceived % 2 ^ 64).toNat)
  | .yielded _ | .wouldBlock _ _ | .returned => none

/-- The buffer, where there is one. -/
def buffer (s : ReceiveState) : Option Bytes :=
  match s.point with
  | .recvmsg buffer _ | .wouldBlock buffer _ => some buffer
  | .loop p | .payload p | .yielded p | .leftover p => some p.receiveBuffer
  | .returned => none

/-- `bytes_received`, in and after the inner loop. -/
def bytesReceived (s : ReceiveState) : Option ℤ :=
  match s.point with
  | .loop p | .payload p | .yielded p | .leftover p => some p.bytesReceived
  | .recvmsg _ _ | .wouldBlock _ _ | .returned => none

/-- The inner loop is over for this read. -/
def AfterLoop (s : ReceiveState) : Prop := ∃ p, s.point = .leftover p

/-- An iteration of the inner loop is over: with the `co_yield` at its end, or by a `break` or the
condition of the loop. -/
def AfterIteration (s : ReceiveState) : Prop := (∃ p, s.point = .yielded p) ∨ s.AfterLoop

end ReceiveState

/-- The window is not empty and lies inside the buffer; what is copied and moved has been received;
and what is moved stays inside the buffer. -/
def BufferAccess.Safe (filled : ℕ) : BufferAccess → Prop
  | .window offset length => 0 < length ∧ offset + length ≤ bufferSize
  | .copy offset length => offset + length ≤ filled
  | .move offset length => offset + length ≤ filled ∧ length ≤ bufferSize

/-- The accesses are safe, `bytes_received` is not negative, and the iteration of the inner loop
that begins at its head takes 16 bytes or more or is the last, where the iteration goes to the first
state after it; so the loop ends. -/
structure ReceiveState.Safe (s : ReceiveState) : Prop where
  buffer : ∀ buffer ∈ s.buffer, buffer.length = bufferSize
  filled : s.filled ≤ bufferSize
  access : ∀ access ∈ s.access, access.Safe s.filled
  nonneg : ∀ n ∈ s.bytesReceived, 0 ≤ n
  iteration : ∀ p, s.point = .loop p → ∃ n s',
    receiveSystem.run s (List.replicate n .next) = some s' ∧
      (∀ m < n, ∀ s'', receiveSystem.run s (List.replicate m .next) = some s'' →
        ¬ s''.AfterIteration) ∧
      (s'.AfterLoop ∨ ∃ q, s'.point = .yielded q ∧ q.bytesReceived + headerSize ≤ p.bytesReceived)
  ends : ∀ p, s.point = .loop p → ∃ n s',
    receiveSystem.run s (List.replicate n .next) = some s' ∧ s'.AfterLoop

namespace ReceiveState

variable {s s' : ReceiveState} {p q : ParseLocals} {filled : ℕ}

/-- The unparsed bytes are the last ones that have been received. -/
structure Holding (p : ParseLocals) (filled : ℕ) : Prop extends p.InBounds where
  sum : p.dataBeggins + p.bytesReceived = filled

/-- What holds where the coroutine is. -/
def Fits (s : ReceiveState) : Prop :=
  match s.point with
  | .recvmsg buffer free | .wouldBlock buffer free =>
    buffer.length = bufferSize ∧ free ≤ bufferSize - headerSize ∧ s.filled = free
  | .loop p | .yielded p => Holding p s.filled ∧ p.header.type = .none
  | .payload p => Holding p s.filled ∧ headerSize ≤ p.dataBeggins
  | .leftover p => Holding p s.filled ∧ p.bytesReceived ≤ bufferSize - headerSize
  | .returned => s.filled ≤ bufferSize

lemma Holding.filled_le (h : Holding p filled) : filled ≤ bufferSize := by
  have hle := h.le
  have hsum := h.sum
  omega

lemma Fits.filled_le (h : s.Fits) : s.filled ≤ bufferSize := by
  obtain ⟨point, filled⟩ := s
  cases point with
  | recvmsg | wouldBlock =>
    obtain ⟨-, hfree, hfilled⟩ := h
    exact hfilled.le.trans (hfree.trans (Nat.sub_le _ _))
  | loop | yielded | payload | leftover => exact h.1.filled_le
  | returned => exact h

/-! ### The steps -/

lemma ofRead_holding {buffer bytes : Bytes} {free : ℕ} {socket : Option ℤ}
    (hbuffer : buffer.length = bufferSize) (hfree : free ≤ bufferSize)
    (hfit : bytes.length ≤ bufferSize - free) :
    Holding (.ofRead buffer free bytes socket) (free + bytes.length) where
  toInBounds := (ParseLocals.ofRead_held hbuffer (by omega)).1
  sum := by simp [ParseLocals.ofRead, add_comm]

/-- A header takes 16 bytes. -/
lemma Holding.header (h : Holding p filled) (hnone : p.header.type = .none)
    (hsome : p.ensureHeader = some q) :
    Holding q filled ∧ headerSize ≤ q.dataBeggins ∧
      q.bytesReceived = p.bytesReceived - headerSize := by
  rw [ParseLocals.ensureHeader, if_pos hnone, ParseLocals.processMessageHeader] at hsome
  split_ifs at hsome with hle
  obtain rfl := Option.some.inj hsome
  have hle' := h.le
  have hsum := h.sum
  refine ⟨⟨⟨h.size, ?_, ?_⟩, ?_⟩, Nat.le_add_left _ _, rfl⟩
  · exact sub_nonneg.2 hle
  · simp only [Nat.cast_add]
    omega
  · simp only [Nat.cast_add]
    omega

/-- The head of the inner loop: it ends with less than a header, or takes one. -/
lemma Holding.enter (h : Holding p filled) (hnone : p.header.type = .none) :
    (p.enter = .leftover p ∧ p.bytesReceived < headerSize) ∨
      ∃ q, p.enter = .payload q ∧ Holding q filled ∧ headerSize ≤ q.dataBeggins ∧
        q.bytesReceived = p.bytesReceived - headerSize := by
  rw [ParseLocals.enter]
  split_ifs with hpos
  · cases hheader : p.ensureHeader with
    | none =>
      refine .inl ⟨rfl, ?_⟩
      rw [ParseLocals.ensureHeader, if_pos hnone, ParseLocals.processMessageHeader] at hheader
      split_ifs at hheader with hle
      exact not_le.1 hle
    | some q => exact .inr ⟨q, rfl, h.header hnone hheader⟩
  · refine .inl ⟨rfl, ?_⟩
    have hsize : (0 : ℤ) < headerSize := by decide
    exact (not_lt.1 hpos).trans_lt hsize

/-- A payload that is complete is taken, another one ends the loop. -/
lemma Holding.takePayload (h : Holding p filled) :
    p.takePayload = .leftover p ∨
      ∃ q, p.takePayload = .yielded q ∧ Holding q filled ∧ q.header.type = .none ∧
        q.bytesReceived ≤ p.bytesReceived := by
  rw [ParseLocals.takePayload, ParseLocals.processMessagePayload]
  have hle' := h.le
  have hsum := h.sum
  split_ifs with hle
  · refine .inr ⟨_, rfl, ⟨⟨h.size, ?_, ?_⟩, ?_⟩, rfl, ?_⟩
    · exact sub_nonneg.2 hle
    · simp only [ParseLocals.yieldMessage, Nat.cast_add]
      omega
    · simp only [ParseLocals.yieldMessage, Nat.cast_add]
      omega
    · simp only [ParseLocals.yieldMessage]
      omega
  · exact .inl rfl

lemma Fits.step (h : s.Fits) {a : ReceiveAction} (hstep : s.step a = some s') : s'.Fits := by
  obtain ⟨point, filled⟩ := s
  cases a with
  | read result =>
    cases point with
    | recvmsg buffer free =>
      obtain ⟨hbuffer, hfree, hfilled⟩ := h
      have hfree' : free ≤ bufferSize := hfree.trans (Nat.sub_le _ _)
      cases result with
      | received bytes socket =>
        simp only [ReceiveState.step] at hstep
        split_ifs at hstep with hnil hfit
        · obtain rfl := Option.some.inj hstep
          change filled = free at hfilled
          exact hfilled ▸ hfree'
        · obtain rfl := Option.some.inj hstep
          exact ⟨ofRead_holding hbuffer hfree' hfit, rfl⟩
      | wouldBlock =>
        obtain rfl := Option.some.inj hstep
        exact ⟨hbuffer, hfree, hfilled⟩
      | failed =>
        obtain rfl := Option.some.inj hstep
        change filled = free at hfilled
        exact hfilled ▸ hfree'
    | _ => simp [ReceiveState.step] at hstep
  | next =>
    cases point with
    | loop p =>
      obtain rfl := Option.some.inj hstep
      obtain ⟨hp, hnone⟩ := h
      rcases hp.enter hnone with ⟨henter, hlt⟩ | ⟨q, henter, hq, hdata, -⟩
      · simp only [Fits, henter]
        refine ⟨hp, ?_⟩
        simp only [headerSize, bufferSize] at hlt ⊢
        omega
      · simp only [Fits, henter]
        exact ⟨hq, hdata⟩
    | payload p =>
      obtain rfl := Option.some.inj hstep
      obtain ⟨hp, hdata⟩ := h
      rcases hp.takePayload with htake | ⟨q, htake, hq, hnone, -⟩
      · simp only [Fits, htake]
        have hle := hp.le
        refine ⟨hp, ?_⟩
        simp only [headerSize, bufferSize] at hdata hle ⊢
        omega
      · simp only [Fits, htake]
        exact ⟨hq, hnone⟩
    | yielded p =>
      obtain rfl := Option.some.inj hstep
      exact h
    | leftover p =>
      obtain rfl := Option.some.inj hstep
      obtain ⟨hp, hle⟩ := h
      obtain ⟨hsize, hfree, -⟩ := ParseLocals.moveLeftover_held hp.toInBounds
      have hheld := hp.length_held
      refine ⟨hsize, ?_, rfl⟩
      rw [hfree]
      simp only [headerSize, bufferSize] at hle ⊢
      omega
    | wouldBlock buffer free =>
      obtain rfl := Option.some.inj hstep
      exact h
    | _ => simp [ReceiveState.step] at hstep

lemma fits_of_reachable (h : receiveSystem.Reachable System.anyStep s) : s.Fits := by
  refine h.invariant ?_ fun _ _ _ _ hfits _ hstep => hfits.step hstep
  rintro s rfl
  exact ⟨List.length_replicate, Nat.zero_le _, rfl⟩

/-! ### The iterations of the inner loop -/

lemma run_next (h : s.step .next = some s') (n : ℕ) :
    receiveSystem.run s (List.replicate (n + 1) .next) =
      receiveSystem.run s' (List.replicate n .next) := by
  rw [List.replicate_succ, System.run]
  change (s.step .next).bind _ = _
  rw [h]
  rfl

lemma not_afterIteration_loop : ¬ AfterIteration { point := .loop p, filled := filled } := by
  rintro (⟨q, hq⟩ | ⟨q, hq⟩)
  · cases hq
  · cases hq

lemma not_afterIteration_payload : ¬ AfterIteration { point := .payload p, filled := filled } := by
  rintro (⟨q, hq⟩ | ⟨q, hq⟩)
  · cases hq
  · cases hq

/-- One iteration takes a header or more, or is the last. -/
lemma Holding.iteration (h : Holding p filled) (hnone : p.header.type = .none) :
    ∃ n s', receiveSystem.run { point := .loop p, filled := filled } (List.replicate n .next) =
        some s' ∧
      (∀ m < n, ∀ s'', receiveSystem.run { point := .loop p, filled := filled }
        (List.replicate m .next) = some s'' → ¬ s''.AfterIteration) ∧
      (s'.AfterLoop ∨ ∃ q, s' = { point := .yielded q, filled := filled } ∧ Holding q filled ∧
        q.header.type = .none ∧ q.bytesReceived + headerSize ≤ p.bytesReceived) := by
  have hhead : ∀ s'', receiveSystem.run { point := .loop p, filled := filled }
      (List.replicate 0 .next) = some s'' → ¬ s''.AfterIteration := by
    intro s'' hrun
    obtain rfl := Option.some.inj hrun
    exact not_afterIteration_loop
  rcases h.enter hnone with ⟨henter, -⟩ | ⟨q, henter, hq, -, htaken⟩
  · refine ⟨1, { point := .leftover p, filled := filled }, by rw [← henter]; rfl, ?_, .inl ⟨p, rfl⟩⟩
    intro m hm
    obtain rfl : m = 0 := by omega
    exact hhead
  · have hfirst : ({ point := .loop p, filled := filled } : ReceiveState).step .next =
        some { point := .payload q, filled := filled } := by rw [← henter]; rfl
    have hbefore : ∀ m < 2, ∀ s'', receiveSystem.run { point := .loop p, filled := filled }
        (List.replicate m .next) = some s'' → ¬ s''.AfterIteration := by
      intro m hm
      obtain rfl | rfl : m = 0 ∨ m = 1 := by omega
      · exact hhead
      · intro s'' hrun
        rw [run_next hfirst] at hrun
        obtain rfl := Option.some.inj hrun
        exact not_afterIteration_payload
    rcases hq.takePayload with htake | ⟨q', htake, hq', hnone', hle⟩
    · refine ⟨2, { point := .leftover q, filled := filled }, ?_, hbefore, .inl ⟨q, rfl⟩⟩
      rw [run_next hfirst, ← htake]
      rfl
    · refine ⟨2, { point := .yielded q', filled := filled }, ?_, hbefore,
        .inr ⟨q', rfl, hq', hnone', ?_⟩⟩
      · rw [run_next hfirst, ← htake]
        rfl
      · omega

/-- So the loop ends. -/
lemma Holding.ends (h : Holding p filled) (hnone : p.header.type = .none) :
    ∃ n s', receiveSystem.run { point := .loop p, filled := filled } (List.replicate n .next) =
      some s' ∧ s'.AfterLoop := by
  -- by induction on the bytes that are left
  generalize hm : p.bytesReceived.toNat = m
  induction m using Nat.strong_induction_on generalizing p with
  | _ m ih =>
    obtain ⟨n, s', hrun, -, hafter | ⟨q, rfl, hq, hnone', hle⟩⟩ := h.iteration hnone
    · exact ⟨n, s', hrun, hafter⟩
    · have hlt : q.bytesReceived.toNat < m := by
        have hnonneg := hq.nonneg
        simp only [headerSize] at hle
        omega
      obtain ⟨n', s', hrun', hafter⟩ := ih _ hlt hq hnone' rfl
      refine ⟨n + (n' + 1), s', ?_, hafter⟩
      rw [List.replicate_add, System.run_append, hrun]
      exact hrun'

/-! ### The accesses are safe -/

lemma Fits.access_safe (h : s.Fits) : ∀ access ∈ s.access, access.Safe s.filled := by
  obtain ⟨point, filled⟩ := s
  intro access haccess
  cases point with
  | recvmsg buffer free =>
    obtain ⟨-, hfree, -⟩ := h
    obtain rfl : BufferAccess.window free (bufferSize - free) = access := by
      simpa [ReceiveState.access] using haccess
    simp only [BufferAccess.Safe, headerSize, bufferSize] at hfree ⊢
    omega
  | loop p =>
    have hsum : p.dataBeggins + p.bytesReceived = (filled : ℤ) := h.1.sum
    simp only [ReceiveState.access] at haccess
    split_ifs at haccess with hheader
    · obtain rfl := Option.some.inj haccess
      obtain ⟨-, -, hle⟩ := hheader
      simp only [BufferAccess.Safe, headerSize] at hle ⊢
      omega
    · cases haccess
  | payload p =>
    have hsum : p.dataBeggins + p.bytesReceived = (filled : ℤ) := h.1.sum
    simp only [ReceiveState.access] at haccess
    split_ifs at haccess with hle
    · obtain rfl := Option.some.inj haccess
      simp only [BufferAccess.Safe]
      omega
    · cases haccess
  | leftover p =>
    have hsum : p.dataBeggins + p.bytesReceived = (filled : ℤ) := h.1.sum
    have hnonneg := h.1.nonneg
    have hle := h.1.le
    obtain rfl : BufferAccess.move p.dataBeggins (p.bytesReceived % 2 ^ 64).toNat = access := by
      simpa [ReceiveState.access] using haccess
    simp only [BufferAccess.Safe, bufferSize] at hle ⊢
    omega
  | _ => cases haccess

lemma Fits.buffer_size (h : s.Fits) : ∀ buffer ∈ s.buffer, buffer.length = bufferSize := by
  obtain ⟨point, filled⟩ := s
  intro buffer hbuffer
  cases point with
  | recvmsg | wouldBlock =>
    obtain rfl := Option.some.inj hbuffer
    exact h.1
  | loop | yielded | payload | leftover =>
    obtain rfl := Option.some.inj hbuffer
    exact h.1.size
  | returned => cases hbuffer

lemma Fits.nonneg (h : s.Fits) : ∀ n ∈ s.bytesReceived, 0 ≤ n := by
  obtain ⟨point, filled⟩ := s
  intro n hn
  cases point with
  | loop | yielded | payload | leftover =>
    obtain rfl := Option.some.inj hn
    exact h.1.nonneg
  | _ => cases hn

/-- From the first resumption on, whatever the peer sends. -/
theorem receiver_safe (h : receiveSystem.Reachable System.anyStep s) : s.Safe := by
  have hfits := fits_of_reachable h
  refine ⟨hfits.buffer_size, hfits.filled_le, hfits.access_safe, hfits.nonneg, ?_, ?_⟩
  · rintro p hpoint
    obtain ⟨point, filled⟩ := s
    subst hpoint
    obtain ⟨hp, hnone⟩ := hfits
    obtain ⟨n, s', hrun, hfirst, hends | ⟨q, rfl, -, -, hle⟩⟩ := hp.iteration hnone
    · exact ⟨n, s', hrun, hfirst, .inl hends⟩
    · exact ⟨n, _, hrun, hfirst, .inr ⟨q, rfl, hle⟩⟩
  · rintro p hpoint
    obtain ⟨point, filled⟩ := s
    subst hpoint
    obtain ⟨hp, hnone⟩ := hfits
    exact hp.ends hnone

/-- A first read of nothing but ones. -/
theorem receiver_safe_ones : Safe {
    point := .loop (.ofRead (List.replicate bufferSize 0) 0 (List.replicate 16 255) none)
    filled := 16 } := by
  apply receiver_safe
  have hinitial : receiveSystem.Reachable System.anyStep {} := .of_initial rfl
  exact hinitial.step (a := .read (.received (List.replicate 16 255) none)) trivial rfl

/-! ### The resumptions -/

/-- The `recvmsg` results among these actions. -/
def results (as : List ReceiveAction) : List RecvResult :=
  as.filterMap fun
    | .read result => some result
    | .next => none

/-- Where the coroutine is before a resumption. -/
def ofCo : ReceiveCo → ReceivePoint
  | .reading buffer free => .recvmsg buffer free
  | .parsing p => .yielded p

/-- Where it is after one. -/
def ofResumed (r : Resumed) : ReceivePoint :=
  match r.co with
  | none => .returned
  | some (.reading buffer free) => .wouldBlock buffer free
  | some (.parsing p) => .yielded p

/-- The inner loop as a whole is made of these steps. -/
lemma run_parseNext (p : ParseLocals) (filled : ℕ) :
    ∃ n, receiveSystem.run { point := .loop p, filled := filled } (List.replicate n .next) =
      some { point := match p.parseNext with
               | (some _, q) => .yielded q
               | (none, q) => .leftover q
             filled := filled } := by
  have hfirst : ({ point := .loop p, filled := filled } : ReceiveState).step .next =
      some { point := p.enter, filled := filled } := rfl
  rw [ParseLocals.parseNext]
  split_ifs with hpos
  · cases hheader : p.ensureHeader with
    | none =>
      refine ⟨1, ?_⟩
      rw [run_next hfirst, ParseLocals.enter, if_pos hpos, hheader]
      rfl
    | some q =>
      have henter : p.enter = .payload q := by rw [ParseLocals.enter, if_pos hpos, hheader]
      have hsecond : ({ point := p.enter, filled := filled } : ReceiveState).step .next =
          some { point := q.takePayload, filled := filled } := by rw [henter]; rfl
      refine ⟨2, ?_⟩
      rw [run_next hfirst, run_next hsecond, ParseLocals.takePayload]
      cases hpayload : q.processMessagePayload with
      | none => simp only [hpayload]; rfl
      | some q' => simp only [hpayload]; rfl
  · refine ⟨1, ?_⟩
    rw [run_next hfirst, ParseLocals.enter, if_neg hpos]
    rfl

lemma results_replicate (n : ℕ) : results (List.replicate n .next) = [] := by
  simp [results]

lemma results_append (as bs : List ReceiveAction) :
    results (as ++ bs) = results as ++ results bs := List.filterMap_append

/-- A read with the inner loop that follows it. -/
lemma run_read (socket : Option ℤ) {buffer bytes : Bytes} {free : ℕ} (hne : bytes ≠ [])
    (hfit : bytes.length ≤ bufferSize - free) (filled : ℕ) : ∃ as,
    receiveSystem.run { point := .recvmsg buffer free, filled := filled } as =
      some { point := match (ParseLocals.ofRead buffer free bytes socket).parseNext with
               | (some _, q) => .yielded q
               | (none, q) => .leftover q
             filled := free + bytes.length } ∧
      results as = [.received bytes socket] := by
  obtain ⟨n, hrun⟩ :=
    run_parseNext (.ofRead buffer free bytes socket) (free + bytes.length)
  have hread : receiveSystem.step { point := .recvmsg buffer free, filled := filled }
      (.read (.received bytes socket)) = some { point := .loop (.ofRead buffer free bytes socket)
                                                filled := free + bytes.length } := by
    simp [receiveSystem, ReceiveState.step, hne, hfit]
  refine ⟨.read (.received bytes socket) :: List.replicate n .next, ?_, ?_⟩
  · rw [System.run, hread]
    exact hrun
  · change _ :: results (List.replicate n .next) = _
    rw [results_replicate]

/-- What one resumption does from `recvmsg` on, these steps do. -/
lemma receiveLoop_runs (rs : List RecvResult) (buffer : Bytes) (free filled : ℕ)
    (hwindows : ∀ call ∈ (receiveLoop buffer free rs).calls,
      call.result.bytes.length ≤ call.window) :
    ∃ as s', receiveSystem.run { point := .recvmsg buffer free, filled := filled } as = some s' ∧
      s'.point = ofResumed (receiveLoop buffer free rs) ∧
      results as = (receiveLoop buffer free rs).calls.map (·.result) := by
  induction rs generalizing buffer free filled with
  | nil => exact ⟨[.read .wouldBlock], _, rfl, rfl, rfl⟩
  | cons r rs ih =>
    cases r with
    | wouldBlock => exact ⟨[.read .wouldBlock], _, rfl, rfl, rfl⟩
    | failed => exact ⟨[.read .failed], _, rfl, rfl, rfl⟩
    | received bytes socket =>
      by_cases hnil : bytes = []
      · subst hnil
        exact ⟨[.read (.received [] socket)], _, rfl, rfl, rfl⟩
      · cases hparse : (ParseLocals.ofRead buffer free bytes socket).parseNext with
        | mk message q =>
          cases message with
          | some message =>
            simp only [receiveLoop, if_neg hnil, hparse] at hwindows ⊢
            have hfit : bytes.length ≤ bufferSize - free := hwindows _ List.mem_cons_self
            obtain ⟨as, hrun, hresults⟩ := run_read socket hnil hfit filled
            rw [hparse] at hrun
            exact ⟨as, _, hrun, rfl, hresults⟩
          | none =>
            simp only [receiveLoop, if_neg hnil, hparse, Resumed.withCall_calls] at hwindows ⊢
            have hfit : bytes.length ≤ bufferSize - free := hwindows _ List.mem_cons_self
            obtain ⟨as, hrun, hresults⟩ := run_read socket hnil hfit filled
            rw [hparse] at hrun
            obtain ⟨bs, s', hrun', hpoint, hresults'⟩ := ih q.moveLeftoverToBeginning.1
              q.moveLeftoverToBeginning.2 q.moveLeftoverToBeginning.2
              fun call hcall => hwindows call (List.mem_cons_of_mem _ hcall)
            refine ⟨as ++ .next :: bs, s', ?_, hpoint, ?_⟩
            · rw [System.run_append, hrun]
              exact hrun'
            · rw [results_append, hresults]
              change _ :: results bs = _
              rw [hresults']
              rfl

/-- Every resumption of the coroutine is made of these steps. -/
theorem resume_runs (co : ReceiveCo) (rs : List RecvResult) (filled : ℕ)
    (hwindows : ∀ call ∈ (co.resume rs).calls, call.result.bytes.length ≤ call.window) :
    ∃ as s', receiveSystem.run { point := ofCo co, filled := filled } as = some s' ∧
      s'.point = ofResumed (co.resume rs) ∧
      results as = (co.resume rs).calls.map (·.result) := by
  cases co with
  | reading buffer free => exact receiveLoop_runs rs buffer free filled hwindows
  | parsing p =>
    obtain ⟨n, hrun⟩ := run_parseNext p filled
    have hfirst : ({ point := .yielded p, filled := filled } : ReceiveState).step .next =
        some { point := .loop p, filled := filled } := rfl
    cases hparse : p.parseNext with
    | mk message q =>
      rw [hparse] at hrun
      cases message with
      | some message =>
        rw [resume_of_yield hparse]
        refine ⟨List.replicate (n + 1) .next, _, (run_next hfirst n).trans hrun, rfl, ?_⟩
        exact results_replicate (n + 1)
      | none =>
        rw [resume_of_stop hparse] at hwindows ⊢
        obtain ⟨bs, s', hrun', hpoint, hresults⟩ := receiveLoop_runs rs
          q.moveLeftoverToBeginning.1 q.moveLeftoverToBeginning.2 q.moveLeftoverToBeginning.2
          hwindows
        refine ⟨List.replicate (n + 1) .next ++ .next :: bs, s', ?_, hpoint, ?_⟩
        · rw [System.run_append, ofCo, run_next hfirst, hrun]
          exact hrun'
        · rw [results_append, results_replicate]
          exact hresults

end ReceiveState

end BattleShips
