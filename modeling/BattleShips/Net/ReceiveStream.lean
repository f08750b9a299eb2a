import BattleShips.Net.Receive

/-!
# The receive coroutine on a stream of frames

What the coroutine holds of the stream between two reads is a list of bytes. The lemmas on
`parseNext` and `resume` say what each step does to these bytes; the rest of the file follows the
coroutine along a stream that is cut into reads.

The coroutine keeps an incomplete header for the next read, but it forgets a header whose payload
is still incomplete. So it delivers a stream exactly when no read ends inside a payload.
-/

namespace BattleShips

/-- The bytes of one result of `recvmsg`. -/
def RecvResult.bytes : RecvResult → Bytes
  | .received bytes _ => bytes
  | .wouldBlock => []
  | .failed => []

/-- The bytes that a list of results of `recvmsg` delivers. -/
def readBytes (rs : List RecvResult) : Bytes := rs.flatMap RecvResult.bytes

@[simp] lemma readBytes_nil : readBytes [] = [] := rfl

@[simp] lemma readBytes_cons (r : RecvResult) (rs : List RecvResult) :
    readBytes (r :: rs) = r.bytes ++ readBytes rs := rfl

lemma length_writeBuffer {buffer bs : Bytes} {offset : ℕ} (h : offset + bs.length ≤ buffer.length) :
    (writeBuffer buffer offset bs).length = buffer.length := by
  simp [writeBuffer]; omega

lemma take_writeBuffer {buffer bs : Bytes} {offset : ℕ} (h : offset ≤ buffer.length) :
    (writeBuffer buffer offset bs).take (offset + bs.length) = buffer.take offset ++ bs := by
  rw [writeBuffer, List.take_left' (by simp; omega)]

/-! ### The inner loop on the bytes it holds -/

namespace ParseLocals

/-- The bytes of the buffer that are not parsed yet. -/
def held (p : ParseLocals) : Bytes := p.peek p.bytesReceived.toNat

/-- The unparsed bytes lie inside the buffer. -/
structure InBounds (p : ParseLocals) : Prop where
  size : p.receiveBuffer.length = bufferSize
  nonneg : 0 ≤ p.bytesReceived
  le : p.dataBeggins + p.bytesReceived ≤ bufferSize

lemma length_peek_le (p : ParseLocals) (n : ℕ) : (p.peek n).length ≤ n := by
  simp [peek]

namespace InBounds

variable {p : ParseLocals} (hp : p.InBounds)
include hp

lemma length_held : (p.held.length : ℤ) = p.bytesReceived := by
  obtain ⟨hsize, hnonneg, hle⟩ := hp
  simp [held, peek, hsize]; omega

lemma peek_eq {n : ℕ} (h : n ≤ p.held.length) : p.peek n = p.held.take n := by
  have := hp.length_held
  rw [held, peek, peek, List.take_take, min_eq_left (by omega)]

end InBounds

lemma drop_held {p q : ParseLocals} {n : ℕ} (hp : p.InBounds) (hn : n ≤ p.held.length)
    (hbuffer : q.receiveBuffer = p.receiveBuffer) (hdata : q.dataBeggins = p.dataBeggins + n)
    (hbytes : q.bytesReceived = p.bytesReceived - n) :
    q.InBounds ∧ q.held = p.held.drop n := by
  have hlen := hp.length_held
  obtain ⟨hsize, hnonneg, hle⟩ := hp
  refine ⟨⟨hbuffer ▸ hsize, by omega, by omega⟩, ?_⟩
  have hsub : (p.bytesReceived - n).toNat = p.bytesReceived.toNat - n := by omega
  rw [held, held, peek, peek, hbuffer, hdata, hbytes, hsub, List.drop_take, List.drop_drop]

lemma processMessageHeader_of_lt {p : ParseLocals} (hp : p.InBounds)
    (h : p.held.length < headerSize) : p.processMessageHeader = none := by
  have := hp.length_held
  rw [processMessageHeader, if_neg (by omega)]

lemma processMessageHeader_of_le {p : ParseLocals} (hp : p.InBounds)
    (h : headerSize ≤ p.held.length) :
    ∃ p', p.processMessageHeader = some p' ∧ p'.InBounds ∧
      p'.header = .ofBytes (p.held.take headerSize) ∧ p'.held = p.held.drop headerSize ∧
      p'.receivedMessage = p.receivedMessage := by
  have := hp.length_held
  obtain ⟨hbounds, hheld⟩ := drop_held (q := { p with
    header := .ofBytes (p.peek headerSize)
    dataBeggins := p.dataBeggins + headerSize
    bytesReceived := p.bytesReceived - headerSize }) hp h rfl rfl rfl
  exact ⟨_, by rw [processMessageHeader, if_pos (by omega)], hbounds, by rw [hp.peek_eq h],
    hheld, rfl⟩

lemma processMessagePayload_of_lt {p : ParseLocals} (hp : p.InBounds)
    (h : p.held.length < p.header.payloadSize) : p.processMessagePayload = none := by
  have := hp.length_held
  rw [processMessagePayload, if_neg (by omega)]

lemma processMessagePayload_of_le {p : ParseLocals} (hp : p.InBounds)
    (h : p.header.payloadSize ≤ p.held.length) :
    ∃ p', p.processMessagePayload = some p' ∧ p'.InBounds ∧ p'.header = p.header ∧
      p'.held = p.held.drop p.header.payloadSize ∧
      p'.receivedMessage =
        { p.receivedMessage with
          payload := p.held.take p.header.payloadSize, status := .data } := by
  have := hp.length_held
  obtain ⟨hbounds, hheld⟩ := drop_held (q := { p with
    receivedMessage :=
      { p.receivedMessage with payload := p.peek p.header.payloadSize, status := .data }
    dataBeggins := p.dataBeggins + p.header.payloadSize
    bytesReceived := p.bytesReceived - p.header.payloadSize }) hp h rfl rfl rfl
  exact ⟨_, by rw [processMessagePayload, if_pos (by omega)], hbounds, rfl, hheld,
    by rw [hp.peek_eq h]⟩

/-- The inner loop stops on less than a header and keeps it. -/
lemma parseNext_of_lt {p : ParseLocals} (hp : p.InBounds) (hnone : p.header.type = .none)
    (h : p.held.length < headerSize) : p.parseNext = (none, p) := by
  rw [parseNext, ensureHeader, if_pos hnone, processMessageHeader_of_lt hp h]
  split_ifs <;> rfl

/-- The inner loop stops on a header whose payload is incomplete, and has dropped the header. -/
lemma parseNext_of_payload_lt {p : ParseLocals} (hp : p.InBounds) (hnone : p.header.type = .none)
    (h : headerSize ≤ p.held.length)
    (hsize : p.held.length <
      headerSize + (MessageHeader.ofBytes (p.held.take headerSize)).payloadSize) :
    ∃ p', p.parseNext = (none, p') ∧ p'.InBounds ∧ p'.held = p.held.drop headerSize := by
  have hlen := hp.length_held
  obtain ⟨p', hsome, hbounds, hheader, hheld, -⟩ := processMessageHeader_of_le hp h
  refine ⟨p', ?_, hbounds, hheld⟩
  have hlt : p'.held.length < p'.header.payloadSize := by
    rw [hheld, hheader, List.length_drop]; omega
  have hpos : 0 < headerSize := by decide
  rw [parseNext, if_pos (by omega), ensureHeader, if_pos hnone, hsome]
  simp only [processMessagePayload_of_lt hbounds hlt]

/-- The inner loop yields the frame at the front of what it holds. -/
lemma parseNext_of_frame {p : ParseLocals} (hp : p.InBounds) (hnone : p.header.type = .none)
    {m : SentMessage} (hm : m.payload.length < 256 ^ 8) {rest : Bytes}
    (h : p.held = m.encode ++ rest) :
    ∃ message p', p.parseNext = (some message, p') ∧ p'.InBounds ∧ p'.header.type = .none ∧
      p'.held = rest ∧ message.status = .data ∧ message.type = m.type ∧
      message.payload = m.payload ∧ message.socket = p.receivedMessage.socket := by
  have hlen := hp.length_held
  have hsplit : p.held = MessageHeader.toBytes m.padding
      { type := m.type, payloadSize := m.payload.length } ++ (m.payload ++ rest) := by
    rw [h, SentMessage.encode, List.append_assoc]
  have hle : headerSize ≤ p.held.length := by rw [hsplit]; simp
  obtain ⟨p₁, hsome₁, hbounds₁, hheader₁, hheld₁, hmessage₁⟩ := processMessageHeader_of_le hp hle
  have hdecode : p₁.header = { type := m.type, payloadSize := m.payload.length } := by
    rw [hheader₁, hsplit, List.take_left' (by simp)]
    simpa using MessageHeader.ofBytes_toBytes m.padding
      (h := { type := m.type, payloadSize := m.payload.length }) hm []
  have hrest₁ : p₁.held = m.payload ++ rest := by
    rw [hheld₁, hsplit, List.drop_left' (by simp)]
  obtain ⟨p₂, hsome₂, hbounds₂, hheader₂, hheld₂, hmessage₂⟩ :=
    processMessagePayload_of_le hbounds₁ (by simp [hdecode, hrest₁])
  have hpos : 0 < headerSize := by decide
  refine ⟨p₂.yieldMessage.1, p₂.yieldMessage.2, ?_, ⟨hbounds₂.size, hbounds₂.nonneg, hbounds₂.le⟩,
    rfl, ?_, ?_, ?_, ?_, ?_⟩
  · rw [parseNext, if_pos (by omega), ensureHeader, if_pos hnone, hsome₁]
    simp only [hsome₂]
  · have : p₂.yieldMessage.2.held = p₂.held := rfl
    rw [this, hheld₂, hdecode, hrest₁, List.drop_left]
  · simp [yieldMessage, hmessage₂]
  · simp [yieldMessage, hheader₂, hdecode]
  · simp [yieldMessage, hmessage₂, hdecode, hrest₁]
  · simp [yieldMessage, hmessage₂, hmessage₁]

/-- `recvmsg` appends to what was kept of the earlier reads. -/
lemma ofRead_held {buffer bytes : Bytes} {free : ℕ} {socket : Option ℤ}
    (hbuffer : buffer.length = bufferSize) (hfit : free + bytes.length ≤ bufferSize) :
    (ofRead buffer free bytes socket).InBounds ∧
      (ofRead buffer free bytes socket).held = buffer.take free ++ bytes := by
  have hle : free + bytes.length ≤ buffer.length := by omega
  refine ⟨⟨?_, by simp [ofRead]; omega, by simp only [ofRead]; omega⟩, ?_⟩
  · simp only [ofRead]
    rw [length_writeBuffer hle, hbuffer]
  · have hcount : ((bytes.length : ℤ) + free).toNat = free + bytes.length := by omega
    simp only [held, peek, ofRead, hcount, List.drop_zero]
    exact take_writeBuffer (by omega)

/-- `move_leftover_to_beginning` keeps what is not parsed. -/
lemma moveLeftover_held {p : ParseLocals} (hp : p.InBounds) :
    p.moveLeftoverToBeginning.1.length = bufferSize ∧
      p.moveLeftoverToBeginning.2 = p.held.length ∧
      p.moveLeftoverToBeginning.1.take p.moveLeftoverToBeginning.2 = p.held := by
  have hlen := hp.length_held
  obtain ⟨hsize, hnonneg, hle⟩ := hp
  have hfree : p.moveLeftoverToBeginning.2 = p.held.length := by
    have : bufferSize < 2 ^ 16 := by decide
    simp only [moveLeftoverToBeginning]; omega
  refine ⟨?_, hfree, ?_⟩
  · simp only [moveLeftoverToBeginning]
    rw [length_writeBuffer (by have : p.held.length ≤ bufferSize := by omega
                               simpa [held, hsize] using this), hsize]
  · have htake : (writeBuffer p.receiveBuffer 0 p.held).take (0 + p.held.length)
        = p.receiveBuffer.take 0 ++ p.held := take_writeBuffer (Nat.zero_le _)
    rw [hfree]
    simpa [moveLeftoverToBeginning, held] using htake

end ParseLocals

/-! ### One resumption -/

open ParseLocals

@[simp] lemma Resumed.withCall_result (call : RecvCall) (r : Resumed) :
    (r.withCall call).result = r.result := rfl

@[simp] lemma Resumed.withCall_co (call : RecvCall) (r : Resumed) :
    (r.withCall call).co = r.co := rfl

@[simp] lemma Resumed.withCall_pending (call : RecvCall) (r : Resumed) :
    (r.withCall call).pending = r.pending := rfl

@[simp] lemma Resumed.withCall_calls (call : RecvCall) (r : Resumed) :
    (r.withCall call).calls = call :: r.calls := rfl

/-- A read that delivers bytes enters the inner loop. -/
lemma resume_received {buffer bytes : Bytes} {free : ℕ} {socket : Option ℤ} (hne : bytes ≠ [])
    (rs : List RecvResult) :
    (ReceiveCo.reading buffer free).resume (.received bytes socket :: rs)
      = ((ReceiveCo.parsing (ofRead buffer free bytes socket)).resume rs).withCall
          ⟨bufferSize - free, .received bytes socket⟩ := by
  simp only [ReceiveCo.resume, receiveLoop, if_neg hne]
  cases (ofRead buffer free bytes socket).parseNext with
  | mk message p => cases message <;> rfl

/-- Where the inner loop stops, the coroutine is back at `recvmsg` with the leftover. -/
lemma resume_of_stop {p p' : ParseLocals} (h : p.parseNext = (none, p')) (rs : List RecvResult) :
    (ReceiveCo.parsing p).resume rs
      = (ReceiveCo.reading p'.moveLeftoverToBeginning.1
          p'.moveLeftoverToBeginning.2).resume rs := by
  simp only [ReceiveCo.resume, h]

lemma resume_of_yield {p p' : ParseLocals} {message : ReceivedMessage}
    (h : p.parseNext = (some message, p')) (rs : List RecvResult) :
    (ReceiveCo.parsing p).resume rs
      = { result := some message, co := some (.parsing p'), pending := rs, calls := [] } := by
  simp only [ReceiveCo.resume, h]

/-! ### Repeated resumptions -/

/-- What is compared of a message: its type and its payload. -/
def ReceivedMessage.content (m : ReceivedMessage) : MessageType × Bytes := (m.type, m.payload)

def OutgoingMessage.content (m : OutgoingMessage) : MessageType × Bytes := (m.type, m.payload)

/-- The coroutine, resumed often enough, yields exactly the messages `ms`. -/
def Delivers (co : ReceiveCo) (rs : List RecvResult) (ms : List SentMessage) : Prop :=
  ∃ N, ∀ n ≥ N, (dataMessages (co.resumes n rs)).map (·.content) = ms.map (·.content)

/-- No call of `recvmsg` gets more bytes than its window has room for. -/
def WindowsRespected (co : ReceiveCo) (rs : List RecvResult) : Prop :=
  ∀ n, ∀ r ∈ co.resumes n rs, ∀ c ∈ r.calls, c.result.bytes.length ≤ c.window

lemma resumes_succ_isPrefix (n : ℕ) (co : ReceiveCo) (rs : List RecvResult) :
    co.resumes n rs <+: co.resumes (n + 1) rs := by
  induction n generalizing co rs with
  | zero => exact List.nil_prefix
  | succ n ih =>
    rw [ReceiveCo.resumes, ReceiveCo.resumes]
    cases (co.resume rs).co with
    | none => exact List.prefix_rfl
    | some co' => exact List.cons_prefix_cons.2 ⟨rfl, ih co' _⟩

lemma resumes_le {m n : ℕ} (h : m ≤ n) (co : ReceiveCo) (rs : List RecvResult) :
    co.resumes m rs <+: co.resumes n rs := by
  induction h with
  | refl => exact List.prefix_rfl
  | step _ ih => exact ih.trans (resumes_succ_isPrefix _ co rs)

@[simp] lemma dataMessages_nil : dataMessages [] = [] := rfl

lemma dataMessages_cons (r : Resumed) (rs : List Resumed) :
    dataMessages (r :: rs) = dataMessages [r] ++ dataMessages rs := by
  simp only [dataMessages, ← List.filter_append, ← List.filterMap_append, List.singleton_append]

lemma dataMessages_congr {r r' : Resumed} (h : r.result = r'.result) :
    dataMessages [r] = dataMessages [r'] := by
  simp only [dataMessages, List.filterMap_cons, h]

/-- Delivery does not depend on how the coroutine is entered, only on what it goes on with. -/
lemma dataMessages_resumes_congr {co co' : ReceiveCo} {rs rs' : List RecvResult}
    (hresult : (co.resume rs).result = (co'.resume rs').result)
    (hco : (co.resume rs).co = (co'.resume rs').co)
    (hpending : (co.resume rs).pending = (co'.resume rs').pending) (n : ℕ) :
    dataMessages (co.resumes n rs) = dataMessages (co'.resumes n rs') := by
  cases n with
  | zero => rfl
  | succ n =>
    simp only [ReceiveCo.resumes, hco, hpending]
    cases (co'.resume rs').co with
    | none => exact dataMessages_congr hresult
    | some co'' =>
      rw [dataMessages_cons, dataMessages_cons (co'.resume rs'), dataMessages_congr hresult]

lemma delivers_congr {co co' : ReceiveCo} {rs rs' : List RecvResult} {ms : List SentMessage}
    (hresult : (co.resume rs).result = (co'.resume rs').result)
    (hco : (co.resume rs).co = (co'.resume rs').co)
    (hpending : (co.resume rs).pending = (co'.resume rs').pending) :
    Delivers co rs ms ↔ Delivers co' rs' ms := by
  simp only [Delivers, dataMessages_resumes_congr hresult hco hpending]

lemma delivers_received {buffer bytes : Bytes} {free : ℕ} {socket : Option ℤ} (hne : bytes ≠ [])
    {rs : List RecvResult} {ms : List SentMessage} :
    Delivers (.reading buffer free) (.received bytes socket :: rs) ms
      ↔ Delivers (.parsing (ofRead buffer free bytes socket)) rs ms :=
  delivers_congr (by simp [resume_received hne]) (by simp [resume_received hne])
    (by simp [resume_received hne])

lemma delivers_of_stop {p p' : ParseLocals} (h : p.parseNext = (none, p')) {rs : List RecvResult}
    {ms : List SentMessage} :
    Delivers (.parsing p) rs ms
      ↔ Delivers (.reading p'.moveLeftoverToBeginning.1 p'.moveLeftoverToBeginning.2) rs ms :=
  delivers_congr (by rw [resume_of_stop h]) (by rw [resume_of_stop h]) (by rw [resume_of_stop h])

/-- The first resumption of `n + 1`. -/
lemma delivers_succ {co co' : ReceiveCo} {rs : List RecvResult} (h : (co.resume rs).co = some co')
    {ms : List SentMessage} :
    Delivers co rs ms ↔ ∃ N, ∀ n ≥ N, (dataMessages [co.resume rs] ++
      dataMessages (co'.resumes n (co.resume rs).pending)).map (·.content) =
        ms.map (·.content) := by
  have hsucc : ∀ n, dataMessages (co.resumes (n + 1) rs) = dataMessages [co.resume rs] ++
      dataMessages (co'.resumes n (co.resume rs).pending) := by
    intro n
    simp only [ReceiveCo.resumes, h]
    exact dataMessages_cons _ _
  constructor
  · rintro ⟨N, hN⟩
    exact ⟨N, fun n hn => hsucc n ▸ hN (n + 1) (by omega)⟩
  · rintro ⟨N, hN⟩
    refine ⟨N + 1, fun n hn => ?_⟩
    obtain ⟨k, rfl⟩ : ∃ k, n = k + 1 := ⟨n - 1, by omega⟩
    rw [hsucc]
    exact hN k (by omega)

lemma delivers_wouldBlock {buffer : Bytes} {free : ℕ} {rs : List RecvResult}
    {ms : List SentMessage} :
    Delivers (.reading buffer free) (.wouldBlock :: rs) ms
      ↔ Delivers (.reading buffer free) rs ms := by
  rw [delivers_succ rfl]
  rfl

/-- With nothing left to read, the coroutine yields no message. -/
lemma delivers_nil {buffer : Bytes} {free : ℕ} {ms : List SentMessage} :
    Delivers (.reading buffer free) [] ms ↔ ms = [] := by
  have hdata : ∀ n, dataMessages ((ReceiveCo.reading buffer free).resumes n []) = [] := by
    intro n
    induction n with
    | zero => rfl
    | succ n ih =>
      have : (ReceiveCo.reading buffer free).resumes (n + 1) []
          = (ReceiveCo.reading buffer free).resume [] ::
            (ReceiveCo.reading buffer free).resumes n [] := rfl
      rw [this, dataMessages_cons, ih]
      rfl
  constructor
  · rintro ⟨N, hN⟩
    simpa [hdata] using (hN N le_rfl).symm
  · rintro rfl
    exact ⟨0, fun n _ => by rw [hdata]; rfl⟩

/-- A complete frame at the front of what the coroutine holds is the next message. -/
lemma delivers_frame {p : ParseLocals} (hp : p.InBounds) (hnone : p.header.type = .none)
    {m : SentMessage} (hm : m.payload.length < 256 ^ 8) {rest : Bytes}
    (h : p.held = m.encode ++ rest) (rs : List RecvResult) :
    ∃ p', p'.InBounds ∧ p'.header.type = .none ∧ p'.held = rest ∧
      (∀ ms, Delivers (.parsing p) rs (m :: ms) ↔ Delivers (.parsing p') rs ms) ∧
      (WindowsRespected (.parsing p) rs → WindowsRespected (.parsing p') rs) := by
  obtain ⟨message, p', hnext, hbounds, hnone', hheld, hstatus, htype, hpayload, -⟩ :=
    parseNext_of_frame hp hnone hm h
  have hresume := resume_of_yield hnext rs
  refine ⟨p', hbounds, hnone', hheld, fun ms => ?_, fun hw n r hr => ?_⟩
  · have hdata : dataMessages [(ReceiveCo.parsing p).resume rs] = [message] := by
      simp [dataMessages, hresume, hstatus]
    rw [delivers_succ (by rw [hresume])]
    simp only [hdata, List.singleton_append, List.map_cons]
    simp only [hresume, Delivers, ReceivedMessage.content, OutgoingMessage.content, htype, hpayload,
      List.cons.injEq, true_and]
  · refine hw (n + 1) r ?_
    simp only [ReceiveCo.resumes, hresume]
    exact List.mem_cons_of_mem _ hr

/-- All complete frames at the front of what the coroutine holds are the next messages; it is
then about to read, with the rest kept at the start of its buffer. -/
lemma delivers_frames {p : ParseLocals} (hp : p.InBounds) (hnone : p.header.type = .none)
    {ms : List SentMessage} (hms : ∀ m ∈ ms, m.payload.length < 256 ^ 8) {rest : Bytes}
    (h : p.held = framing.stream ms ++ rest) (rs : List RecvResult) :
    ∃ p', p'.InBounds ∧ p'.header.type = .none ∧ p'.held = rest ∧
      (∀ ns, Delivers (.parsing p) rs (ms ++ ns) ↔ Delivers (.parsing p') rs ns) ∧
      (WindowsRespected (.parsing p) rs → WindowsRespected (.parsing p') rs) := by
  induction ms generalizing p with
  | nil => exact ⟨p, hp, hnone, by simpa using h, fun ns => by simp, id⟩
  | cons m ms ih =>
    obtain ⟨p₁, hp₁, hnone₁, hheld₁, hdel₁, hwin₁⟩ :=
      delivers_frame hp hnone (hms m (by simp))
        (show p.held = m.encode ++ (framing.stream ms ++ rest) by simpa using h) rs
    obtain ⟨p₂, hp₂, hnone₂, hheld₂, hdel₂, hwin₂⟩ :=
      ih hp₁ hnone₁ (fun m' hm' => hms m' (by simp [hm'])) hheld₁
    exact ⟨p₂, hp₂, hnone₂, hheld₂, fun ns => (hdel₁ (ms ++ ns)).trans (hdel₂ ns),
      fun hw => hwin₂ (hwin₁ hw)⟩

/-! ### Counting bytes -/

/-- The bytes of the frames of the messages `ms`. -/
def frameBytes (ms : List ReceivedMessage) : ℕ :=
  (ms.map fun m => headerSize + m.payload.length).sum

/-- The number of bytes that the suspended coroutine has read and not used. -/
def ReceiveCo.room : ReceiveCo → ℕ
  | .reading _ free => free
  | .parsing p => p.bytesReceived.toNat

/-- A suspended inner loop has no negative count and holds no header. -/
def ReceiveCo.Ready : ReceiveCo → Prop
  | .reading _ _ => True
  | .parsing p => 0 ≤ p.bytesReceived ∧ p.header.type = .none

@[simp] lemma frameBytes_nil : frameBytes [] = 0 := rfl

@[simp] lemma frameBytes_append (ms ns : List ReceivedMessage) :
    frameBytes (ms ++ ns) = frameBytes ms + frameBytes ns := by
  simp [frameBytes]

lemma ParseLocals.processMessageHeader_room {p p' : ParseLocals}
    (h : p.processMessageHeader = some p') :
    0 ≤ p'.bytesReceived ∧ headerSize + p'.bytesReceived.toNat ≤ p.bytesReceived.toNat := by
  rw [processMessageHeader] at h
  split_ifs at h
  obtain rfl := Option.some.inj h
  simp only
  omega

lemma ParseLocals.processMessagePayload_room {p p' : ParseLocals}
    (h : p.processMessagePayload = some p') :
    0 ≤ p'.bytesReceived ∧
      p'.receivedMessage.payload.length + p'.bytesReceived.toNat ≤ p.bytesReceived.toNat := by
  rw [processMessagePayload] at h
  split_ifs at h
  obtain rfl := Option.some.inj h
  have := p.length_peek_le p.header.payloadSize
  simp only
  omega

/-- A message costs the inner loop at least the bytes of its frame. -/
lemma ParseLocals.parseNext_room {p : ParseLocals} (hp : (ReceiveCo.parsing p).Ready) :
    0 ≤ p.parseNext.2.bytesReceived ∧
      (p.parseNext.1 ≠ none → p.parseNext.2.header.type = .none) ∧
      frameBytes p.parseNext.1.toList + p.parseNext.2.bytesReceived.toNat
        ≤ p.bytesReceived.toNat := by
  obtain ⟨hnonneg, hnone⟩ := hp
  rw [parseNext, ensureHeader, if_pos hnone]
  split_ifs
  swap
  · simp [hnonneg]
  cases hheader : p.processMessageHeader with
  | none => simp [hnonneg]
  | some p₁ =>
    have h₁ := processMessageHeader_room hheader
    cases hpayload : p₁.processMessagePayload with
    | none => simp [hpayload, h₁.1]; omega
    | some p₂ =>
      have h₂ := processMessagePayload_room hpayload
      simp only [hpayload, yieldMessage]
      exact ⟨h₂.1, fun _ => trivial, by simp [frameBytes]; omega⟩

lemma ParseLocals.moveLeftover_room {p : ParseLocals} (hp : 0 ≤ p.bytesReceived) :
    p.moveLeftoverToBeginning.2 ≤ p.bytesReceived.toNat := by
  simp only [moveLeftoverToBeginning]
  omega

/-- What one resumption yields and keeps, and what it leaves to be read, is at most what it had. -/
def Resumed.Accounts (r : Resumed) (available : ℕ) : Prop :=
  (∀ co, r.co = some co → co.Ready) ∧
    frameBytes (dataMessages [r]) + (r.co.map ReceiveCo.room).getD 0
      + (readBytes r.pending).length ≤ available

lemma Resumed.Accounts.withCall {r : Resumed} {n : ℕ} (h : r.Accounts n) (call : RecvCall) :
    (r.withCall call).Accounts n := h

lemma Resumed.Accounts.mono {r : Resumed} {m n : ℕ} (h : r.Accounts m) (hmn : m ≤ n) :
    r.Accounts n := ⟨h.1, h.2.trans hmn⟩

/-- The inner loop yields, or it hands its leftover to the outer loop. -/
lemma resume_parsing_accounts {p : ParseLocals} (hp : (ReceiveCo.parsing p).Ready)
    {rs : List RecvResult}
    (hloop : ∀ buffer free, (receiveLoop buffer free rs).Accounts (free + (readBytes rs).length)) :
    ((ReceiveCo.parsing p).resume rs).Accounts (p.bytesReceived.toNat + (readBytes rs).length) := by
  obtain ⟨hnonneg, hheader, hroom⟩ := parseNext_room hp
  rcases hnext : p.parseNext with ⟨message, p'⟩
  simp only [hnext] at hnonneg hheader hroom
  cases message with
  | none =>
    have hmove := moveLeftover_room hnonneg
    simp only [ReceiveCo.resume, hnext]
    simp only [Option.toList_none, frameBytes_nil] at hroom
    exact (hloop _ _).mono (by omega)
  | some message =>
    rw [resume_of_yield hnext]
    refine ⟨fun co hco => ?_, ?_⟩
    · obtain rfl := Option.some.inj hco
      exact ⟨hnonneg, hheader (by simp)⟩
    · have hdata : frameBytes (dataMessages [⟨some message, some (.parsing p'), rs, []⟩])
          ≤ frameBytes [message] := by
        simp only [dataMessages, List.filterMap_cons, List.filterMap_nil, List.filter_cons]
        split_ifs <;> simp
      simp only [Option.toList_some] at hroom
      simp only [Option.map_some, Option.getD_some, ReceiveCo.room]
      omega

lemma receiveLoop_accounts (buffer : Bytes) (free : ℕ) (rs : List RecvResult) :
    (receiveLoop buffer free rs).Accounts (free + (readBytes rs).length) := by
  induction rs generalizing buffer free with
  | nil => exact ⟨by simp [receiveLoop, ReceiveCo.Ready], by simp [receiveLoop, dataMessages,
      ReceiveCo.room]⟩
  | cons r rs ih =>
    cases r with
    | wouldBlock => exact ⟨by simp [receiveLoop, ReceiveCo.Ready], by simp [receiveLoop,
        dataMessages, ReceiveCo.room, RecvResult.bytes]⟩
    | failed => exact ⟨by simp [receiveLoop], by simp [receiveLoop, dataMessages,
        RecvResult.bytes]⟩
    | received bytes socket =>
      by_cases hne : bytes = []
      · exact ⟨by simp [receiveLoop, hne], by simp [receiveLoop, hne, dataMessages,
          RecvResult.bytes]⟩
      · have hready : (ReceiveCo.parsing (ofRead buffer free bytes socket)).Ready :=
          ⟨by simp [ofRead]; omega, rfl⟩
        have heq := @resume_received buffer bytes free socket hne rs
        rw [ReceiveCo.resume] at heq
        rw [heq]
        refine ((resume_parsing_accounts hready ih).withCall _).mono ?_
        simp [ofRead, RecvResult.bytes]
        omega

lemma resume_accounts {co : ReceiveCo} (hco : co.Ready) (rs : List RecvResult) :
    (co.resume rs).Accounts (co.room + (readBytes rs).length) := by
  cases co with
  | reading buffer free => exact receiveLoop_accounts buffer free rs
  | parsing p => exact resume_parsing_accounts hco fun _ _ => receiveLoop_accounts _ _ _

/-- The frames of all messages yielded were read before. -/
lemma frameBytes_resumes_le {co : ReceiveCo} (hco : co.Ready) (rs : List RecvResult) (n : ℕ) :
    frameBytes (dataMessages (co.resumes n rs)) ≤ co.room + (readBytes rs).length := by
  induction n generalizing co rs with
  | zero => simp [ReceiveCo.resumes]
  | succ n ih =>
    obtain ⟨hready, hle⟩ := resume_accounts hco rs
    rw [ReceiveCo.resumes]
    cases hco' : (co.resume rs).co with
    | none =>
      simp only [hco', Option.map_none, Option.getD_none] at hle
      simp only
      omega
    | some co' =>
      have := ih (hready co' hco') (co.resume rs).pending
      simp only [hco', Option.map_some, Option.getD_some] at hle
      simp only
      rw [dataMessages_cons, frameBytes_append]
      omega

lemma frameBytes_of_content {ms : List ReceivedMessage} {ns : List SentMessage}
    (h : ms.map (·.content) = ns.map (·.content)) : frameBytes ms = (framing.stream ns).length := by
  induction ns generalizing ms with
  | nil => simp_all
  | cons n ns ih =>
    cases ms with
    | nil => simp at h
    | cons m ms =>
      simp only [List.map_cons, List.cons.injEq, ReceivedMessage.content, OutgoingMessage.content,
        Prod.mk.injEq] at h
      have := ih h.2
      simp only [frameBytes, List.map_cons, List.sum_cons, Framing.stream_cons, framing_encode,
        List.length_append, SentMessage.length_encode, h.1.2] at this ⊢
      omega

/-- Messages whose frames are longer than all the bytes there are do not arrive. -/
lemma not_delivers_of_lt {co : ReceiveCo} (hco : co.Ready) {rs : List RecvResult}
    {ms : List SentMessage} (h : co.room + (readBytes rs).length < (framing.stream ms).length) :
    ¬ Delivers co rs ms := by
  rintro ⟨N, hN⟩
  have hle := frameBytes_resumes_le hco rs N
  rw [frameBytes_of_content (hN N le_rfl)] at hle
  omega

/-! ### A stream cut into reads -/

/-- Results of `recvmsg` on a stream that stays open: every read delivers bytes or there is
nothing to read. -/
def IsCut (rs : List RecvResult) : Prop :=
  ∀ r ∈ rs, r = .wouldBlock ∨ ∃ bytes socket, bytes ≠ [] ∧ r = .received bytes socket

instance : DecidablePred fun r : RecvResult =>
    r = .wouldBlock ∨ ∃ bytes socket, bytes ≠ [] ∧ r = .received bytes socket
  | .received bytes socket => decidable_of_iff (bytes ≠ []) (by simp)
  | .wouldBlock => isTrue (.inl rfl)
  | .failed => isFalse (by simp)

instance (rs : List RecvResult) : Decidable (IsCut rs) :=
  inferInstanceAs (Decidable (∀ r ∈ rs, _))

/-- No read ends inside the payload of one of the messages `ms`, of whose stream the first
`offset` bytes were read earlier. -/
def CutsNoPayload (ms : List SentMessage) (offset : ℕ) (rs : List RecvResult) : Prop :=
  ∀ j, ¬ framing.InsideBody ms (offset + (readBytes (rs.take j)).length)

lemma cutsNoPayload_cons {ms : List SentMessage} {offset : ℕ} {r : RecvResult}
    {rs : List RecvResult} :
    CutsNoPayload ms offset (r :: rs) ↔
      ¬ framing.InsideBody ms offset ∧ CutsNoPayload ms (offset + r.bytes.length) rs := by
  constructor
  · intro h
    exact ⟨by simpa using h 0, fun j => by simpa [Nat.add_assoc] using h (j + 1)⟩
  · rintro ⟨h, htail⟩ j
    cases j with
    | zero => simpa using h
    | succ j => simpa [Nat.add_assoc] using htail j

instance CutsNoPayload.decidable (ms : List SentMessage) :
    ∀ (offset : ℕ) (rs : List RecvResult), Decidable (CutsNoPayload ms offset rs)
  | offset, [] => decidable_of_iff (¬ framing.InsideBody ms offset) (by simp [CutsNoPayload])
  | offset, r :: rs =>
    have := CutsNoPayload.decidable ms (offset + r.bytes.length) rs
    decidable_of_iff _ cutsNoPayload_cons.symm

lemma cutsNoPayload_drop {ms : List SentMessage} {k r : ℕ} {rs : List RecvResult} :
    CutsNoPayload ms ((framing.stream (ms.take k)).length + r) rs
      ↔ CutsNoPayload (ms.drop k) r rs := by
  simp only [CutsNoPayload, Nat.add_assoc, framing.insideBody_drop]

lemma not_insideBody_of_lt {ms : List SentMessage} {n : ℕ} (h : n < headerSize) :
    ¬ framing.InsideBody ms n := by
  cases ms with
  | nil => simp
  | cons m ms =>
    rw [Framing.InsideBody, framing_encode, framing_header, if_pos (by
      rw [m.length_encode]; omega)]
    omega

lemma eq_nil_of_stream_lt {ms : List SentMessage} (h : (framing.stream ms).length < headerSize) :
    ms = [] := by
  cases ms with
  | nil => rfl
  | cons m ms =>
    simp only [Framing.stream_cons, framing_encode, List.length_append, m.length_encode] at h
    omega

lemma resume_mem_resumes (n : ℕ) (co : ReceiveCo) (rs : List RecvResult) :
    co.resume rs ∈ co.resumes (n + 1) rs := by
  rw [ReceiveCo.resumes]
  cases (co.resume rs).co <;> simp

lemma WindowsRespected.wouldBlock {buffer : Bytes} {free : ℕ} {rs : List RecvResult}
    (h : WindowsRespected (.reading buffer free) (.wouldBlock :: rs)) :
    WindowsRespected (.reading buffer free) rs :=
  fun n r hr => h (n + 1) r (List.mem_cons_of_mem _ hr)

lemma WindowsRespected.received {buffer bytes : Bytes} {free : ℕ} {socket : Option ℤ}
    {rs : List RecvResult} (hne : bytes ≠ [])
    (h : WindowsRespected (.reading buffer free) (.received bytes socket :: rs)) :
    bytes.length ≤ bufferSize - free ∧
      WindowsRespected (.parsing (ofRead buffer free bytes socket)) rs := by
  have hresume := @resume_received buffer bytes free socket hne rs
  refine ⟨h 1 _ (resume_mem_resumes 0 _ _) ⟨bufferSize - free, .received bytes socket⟩
    (by rw [hresume]; simp), fun n r hr c hc => ?_⟩
  · cases n with
    | zero => simp [ReceiveCo.resumes] at hr
    | succ n =>
      have hn := h (n + 1)
      simp only [ReceiveCo.resumes, hresume, Resumed.withCall_co, Resumed.withCall_pending] at hn hr
      cases hco : ((ReceiveCo.parsing (ofRead buffer free bytes socket)).resume rs).co with
      | none =>
        simp only [hco, List.mem_singleton] at hn hr
        exact hn _ rfl c (by simp [← hr, hc])
      | some co =>
        simp only [hco, List.mem_cons] at hn hr
        rcases hr with rfl | hr
        · exact hn _ (.inl rfl) c (by simp [hc])
        · exact hn r (.inr hr) c hc

lemma WindowsRespected.of_stop {p p' : ParseLocals} (hstop : p.parseNext = (none, p'))
    {rs : List RecvResult} (h : WindowsRespected (.parsing p) rs) :
    WindowsRespected
      (.reading p'.moveLeftoverToBeginning.1 p'.moveLeftoverToBeginning.2) rs := by
  intro n r hr
  refine h n r ?_
  cases n with
  | zero => exact hr
  | succ n =>
    rw [ReceiveCo.resumes] at hr ⊢
    rwa [resume_of_stop hstop]

lemma parseNext_of_half_frame {p : ParseLocals} (hp : p.InBounds) (hnone : p.header.type = .none)
    {m : SentMessage} (hm : m.payload.length < 256 ^ 8) (hle : headerSize ≤ p.held.length)
    (hlt : p.held.length < m.encode.length) (hstarts : p.held <+: m.encode) :
    ∃ p', p.parseNext = (none, p') ∧ p'.InBounds ∧ p'.held.length = p.held.length - headerSize := by
  have hheader : MessageHeader.ofBytes (p.held.take headerSize)
      = { type := m.type, payloadSize := m.payload.length } := by
    obtain ⟨tail, htail⟩ := hstarts
    have : p.held.take headerSize = m.encode.take headerSize := by
      rw [← htail, List.take_append_of_le_length hle]
    rw [this, SentMessage.encode, List.take_left' (by simp)]
    simpa using MessageHeader.ofBytes_toBytes m.padding
      (h := { type := m.type, payloadSize := m.payload.length }) hm []
  rw [m.length_encode] at hlt
  obtain ⟨p', hnext, hbounds, hheld⟩ := parseNext_of_payload_lt hp hnone hle (by
    rw [hheader]; exact hlt)
  exact ⟨p', hnext, hbounds, by rw [hheld, List.length_drop]⟩

/-- A read that ends inside a payload loses the header of that payload for good. -/
lemma not_delivers_of_insideBody {p : ParseLocals} (hp : p.InBounds)
    (hnone : p.header.type = .none) {ms : List SentMessage}
    (hms : ∀ m ∈ ms, m.payload.length < 256 ^ 8) {rs : List RecvResult}
    (hstream : p.held ++ readBytes rs = framing.stream ms)
    (hin : framing.InsideBody ms p.held.length) : ¬ Delivers (.parsing p) rs ms := by
  obtain ⟨k, m, hm, r, hr, hlt, hlen⟩ := framing.exists_of_insideBody hin
  obtain ⟨zs, hzs, hheld, hrest⟩ := framing.exists_of_append_eq_stream hstream hlen
  obtain ⟨p₁, hp₁, hnone₁, hheld₁, hdel₁, -⟩ :=
    delivers_frames hp hnone (fun m hm => hms m (List.mem_of_mem_take hm)) hheld rs
  have hdrop : ms.drop k = m :: ms.drop (k + 1) := by
    obtain ⟨hk, rfl⟩ := List.getElem?_eq_some_iff.mp hm
    exact List.drop_eq_getElem_cons hk
  have hstarts : zs <+: m.encode := by
    rw [hdrop, Framing.stream_cons] at hrest
    exact List.prefix_of_prefix_length_le ⟨_, hrest⟩ (List.prefix_append _ _)
      (by rw [framing_encode] at hlt; omega)
  obtain ⟨p₂, hnext, hp₂, hheld₂⟩ := parseNext_of_half_frame hp₁ hnone₁
    (hms m (List.mem_of_getElem? hm)) (by rw [hheld₁, hzs]; exact hr)
    (by rw [hheld₁, hzs]; exact hlt) (by rw [hheld₁]; exact hstarts)
  have hmove := (moveLeftover_held hp₂).2.1
  have hsum := congrArg List.length hrest
  rw [← List.take_append_drop k ms, hdel₁, delivers_of_stop hnext]
  apply not_delivers_of_lt (by trivial)
  simp only [ReceiveCo.room]
  rw [List.length_append] at hsum
  rw [hheld₁] at hheld₂
  have hpos : 0 < headerSize := by decide
  rw [framing_header] at hr
  omega

/-- **The coroutine on a stream.** It holds less than a header of the stream of `ms` and is about
to read the rest: it then delivers exactly `ms` if and only if no read ends inside a payload. -/
theorem delivers_iff_cutsNoPayload {buffer : Bytes} {free : ℕ} {ms : List SentMessage}
    {rs : List RecvResult} (hbuffer : buffer.length = bufferSize) (hfree : free < headerSize)
    (hms : ∀ m ∈ ms, m.payload.length < 256 ^ 8) (hcut : IsCut rs)
    (hstream : buffer.take free ++ readBytes rs = framing.stream ms)
    (hwindow : WindowsRespected (.reading buffer free) rs) :
    Delivers (.reading buffer free) rs ms ↔ CutsNoPayload ms free rs := by
  have hfit : headerSize ≤ bufferSize := by decide
  induction rs generalizing buffer free ms with
  | nil =>
    have hnil : ms = [] := by
      refine eq_nil_of_stream_lt ?_
      rw [← hstream]
      simp
      omega
    subst hnil
    simp [delivers_nil, CutsNoPayload]
  | cons r rs ih =>
    have hcut' : IsCut rs := fun r' hr' => hcut r' (List.mem_cons_of_mem _ hr')
    rw [cutsNoPayload_cons]
    simp only [not_insideBody_of_lt hfree, not_false_eq_true, true_and]
    obtain rfl | ⟨bytes, socket, hne, rfl⟩ := hcut r List.mem_cons_self
    · rw [delivers_wouldBlock]
      exact ih hbuffer hfree hms hcut' hstream hwindow.wouldBlock
    -- the read enters the inner loop; its end is inside a payload or it is not
    obtain ⟨hroom, hwindow'⟩ := hwindow.received hne
    obtain ⟨hbounds, hheld⟩ := @ofRead_held buffer bytes free socket hbuffer (by omega)
    have hlen : (ofRead buffer free bytes socket).held.length = free + bytes.length := by
      rw [hheld, List.length_append, List.length_take]
      omega
    have hrest : (ofRead buffer free bytes socket).held ++ readBytes rs = framing.stream ms := by
      rw [hheld, ← hstream, List.append_assoc]
      rfl
    rw [delivers_received hne]
    by_cases hin : framing.InsideBody ms (free + bytes.length)
    · refine iff_of_false (not_delivers_of_insideBody hbounds rfl hms hrest (hlen ▸ hin)) ?_
      intro h
      exact h 0 (by simpa [RecvResult.bytes] using hin)
    · obtain ⟨k, -, r, hr, heq⟩ := framing.exists_of_not_insideBody (by
        rw [← hrest, List.length_append]; omega) (by decide) hin
      obtain ⟨zs, hzs, hsplit, hstream'⟩ :=
        framing.exists_of_append_eq_stream hrest (hlen.trans heq)
      obtain ⟨p, hp, hnone, hheld', hdel, hwin⟩ := delivers_frames hbounds rfl
        (fun m hm => hms m (List.mem_of_mem_take hm)) hsplit rs
      have hstop := parseNext_of_lt hp hnone (by rw [hheld', hzs]; exact hr)
      obtain ⟨hsize, hfree', htake⟩ := moveLeftover_held hp
      rw [hheld', hzs] at hfree'
      have hms' : ∀ m ∈ ms.drop k, m.payload.length < 256 ^ 8 :=
        fun m hm => hms m (List.mem_of_mem_drop hm)
      calc Delivers (.parsing (ofRead buffer free bytes socket)) rs ms
          ↔ Delivers (.parsing p) rs (ms.drop k) := by
            conv_lhs => rw [← List.take_append_drop k ms]
            exact hdel _
        _ ↔ _ := delivers_of_stop hstop
        _ ↔ CutsNoPayload (ms.drop k) r rs := by
            rw [hfree']
            refine ih hsize hr hms' hcut' ?_ ?_
            · rw [← hfree', htake, hheld', hstream']
            · have := (hwin hwindow').of_stop hstop
              rwa [hfree'] at this
        _ ↔ CutsNoPayload ms (free + bytes.length) rs := by rw [heq, cutsNoPayload_drop]

/-! ### Reads that fit into the buffer together -/

lemma receiveLoop_fits {buffer : Bytes} {free : ℕ} {rs : List RecvResult}
    (h : free + (readBytes rs).length ≤ bufferSize) :
    ∀ c ∈ (receiveLoop buffer free rs).calls, c.result.bytes.length ≤ c.window := by
  induction rs generalizing buffer free with
  | nil => simp [receiveLoop, RecvResult.bytes]
  | cons r rs ih =>
    cases r with
    | wouldBlock => simp [receiveLoop, RecvResult.bytes]
    | failed => simp [receiveLoop, RecvResult.bytes]
    | received bytes socket =>
      rw [readBytes_cons, List.length_append] at h
      have hcall : bytes.length ≤ bufferSize - free := by simp only [RecvResult.bytes] at h; omega
      have hready : (ReceiveCo.parsing (ofRead buffer free bytes socket)).Ready :=
        ⟨by simp [ofRead]; omega, rfl⟩
      obtain ⟨hnonneg, -, hroom⟩ := parseNext_room hready
      simp only [receiveLoop]
      rcases hnext : (ofRead buffer free bytes socket).parseNext with ⟨message, p⟩
      simp only [hnext] at hnonneg hroom
      split_ifs with hne
      · simp [RecvResult.bytes, hne]
      · cases message with
        | some message => simpa [RecvResult.bytes] using hcall
        | none =>
          have hmove := moveLeftover_room hnonneg
          have hread : (ofRead buffer free bytes socket).bytesReceived.toNat
              = bytes.length + free := by simp [ofRead]; omega
          simp only [Option.toList_none, frameBytes_nil, RecvResult.bytes] at hroom h
          simp only [Resumed.withCall_calls, List.mem_cons, forall_eq_or_imp]
          exact ⟨hcall, ih (by omega)⟩

/-- Reads that fit into the buffer together fit into every window. -/
lemma windowsRespected_of_le {co : ReceiveCo} (hco : co.Ready) {rs : List RecvResult}
    (h : co.room + (readBytes rs).length ≤ bufferSize) : WindowsRespected co rs := by
  intro n
  induction n generalizing co rs with
  | zero => simp [ReceiveCo.resumes]
  | succ n ih =>
    have hfirst : ∀ c ∈ (co.resume rs).calls, c.result.bytes.length ≤ c.window := by
      cases co with
      | reading buffer free => exact receiveLoop_fits h
      | parsing p =>
        obtain ⟨hnonneg, -, hroom⟩ := parseNext_room hco
        simp only [ReceiveCo.resume]
        rcases hnext : p.parseNext with ⟨message, p'⟩
        simp only [hnext] at hnonneg hroom
        cases message with
        | some message => simp
        | none =>
          have hmove := moveLeftover_room hnonneg
          simp only [ReceiveCo.room] at h
          simp only [Option.toList_none, frameBytes_nil] at hroom
          exact receiveLoop_fits (by omega)
    obtain ⟨hready, hle⟩ := resume_accounts hco rs
    rw [ReceiveCo.resumes]
    cases hco' : (co.resume rs).co with
    | none => simpa using hfirst
    | some co' =>
      simp only [hco', Option.map_some, Option.getD_some] at hle
      simp only [List.mem_cons, forall_eq_or_imp]
      exact ⟨hfirst, ih (hready co' hco') (by omega)⟩

/-! ### Delivery from the start of a stream -/

lemma coReceiveFromSocket_ready : coReceiveFromSocket.Ready := trivial

/-- Messages that fit into the buffer are delivered, all of them and nothing else and in their
order, if and only if no read ends inside a payload. -/
theorem coReceiveFromSocket_delivers_iff {ms : List SentMessage} {rs : List RecvResult}
    (hfit : ∀ m ∈ ms, m.encode.length ≤ bufferSize) (hcut : IsCut rs)
    (hstream : readBytes rs = framing.stream ms)
    (hwindow : WindowsRespected coReceiveFromSocket rs) :
    Delivers coReceiveFromSocket rs ms ↔ CutsNoPayload ms 0 rs := by
  have hms : ∀ m ∈ ms, m.payload.length < 256 ^ 8 := by
    intro m hm
    have := hfit m hm
    rw [m.length_encode] at this
    have : bufferSize < 256 ^ 8 := by decide
    omega
  exact delivers_iff_cutsNoPayload (by simp) (by decide) hms hcut (by simpa using hstream) hwindow

/-- A message that reads "hi". -/
def hiMessage : SentMessage := { payload := ascii "hi", padding := Vector.replicate 7 0 }

/-- "hi", three times. -/
def threeHi : List SentMessage := List.replicate 3 hiMessage

/-- A read ends inside the second header and one after the second message. -/
def threeReads : List RecvResult :=
  let bytes := framing.stream threeHi
  [.received (bytes.take 30) none, .wouldBlock, .received ((bytes.drop 30).take 6) none,
    .wouldBlock, .received (bytes.drop 36) none]

theorem coReceiveFromSocket_delivers_iff_hi :
    Delivers coReceiveFromSocket threeReads threeHi :=
  (coReceiveFromSocket_delivers_iff (by decide) (by decide) (by decide)
    (windowsRespected_of_le coReceiveFromSocket_ready (by decide))).2 (by decide)

/-- The header and the first letter of "hi" in one read and the second letter in another one: the
message fits, the reads are possible ones of its stream, and it is lost. -/
theorem coReceiveFromSocket_loses_hi :
    (hiMessage.type ≠ .none ∧ hiMessage.encode.length ≤ bufferSize ∧
      IsCut [.received (hiMessage.encode.take 17) none, .received (hiMessage.encode.drop 17) none] ∧
      readBytes [.received (hiMessage.encode.take 17) none,
        .received (hiMessage.encode.drop 17) none] = framing.stream [hiMessage] ∧
      WindowsRespected coReceiveFromSocket
        [.received (hiMessage.encode.take 17) none, .received (hiMessage.encode.drop 17) none]) ∧
    ¬ Delivers coReceiveFromSocket
      [.received (hiMessage.encode.take 17) none, .received (hiMessage.encode.drop 17) none]
      [hiMessage] := by
  have hcut : IsCut [.received (hiMessage.encode.take 17) none,
      .received (hiMessage.encode.drop 17) none] := by decide
  have hstream : readBytes [.received (hiMessage.encode.take 17) none,
      .received (hiMessage.encode.drop 17) none] = framing.stream [hiMessage] := by decide
  have hwindow : WindowsRespected coReceiveFromSocket [.received (hiMessage.encode.take 17) none,
      .received (hiMessage.encode.drop 17) none] :=
    windowsRespected_of_le coReceiveFromSocket_ready (by decide)
  refine ⟨⟨by decide, by decide, hcut, hstream, hwindow⟩, fun h => ?_⟩
  rw [coReceiveFromSocket, delivers_iff_cutsNoPayload (by simp) (by decide) (by decide) hcut
    (by simpa using hstream) hwindow] at h
  exact h 1 (by decide)

end BattleShips
