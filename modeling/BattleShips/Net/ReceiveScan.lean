import BattleShips.Lib.Scanning
import BattleShips.Net.ReceiveStream

/-!
# The receive coroutine as a scanner

The coroutine looks for headers in the stream as a scanner does that gets the reads as its pieces.
A frame that is longer than the buffer is cut by some read inside its payload, and from there on
the coroutine looks at the payload: every sixteen bytes after a read, until the eight bytes that it
takes for a payload size are a size of which it holds enough.
-/

namespace BattleShips

open ParseLocals

/-- What `process_message_header` and `process_message_payload` make of bytes. -/
@[simps] def scanner : Scanner UInt8 where
  header := headerSize
  header_pos := by decide
  bodySize bs := (MessageHeader.ofBytes (bs.take headerSize)).payloadSize

/-- The frame at the front. -/
def frameContent (held : Bytes) : MessageType × Bytes :=
  ((MessageHeader.ofBytes (held.take headerSize)).type,
    (held.drop headerSize).take (scanner.bodySize held))

/-- The bytes of the reads. -/
def pieces (rs : List RecvResult) : List Bytes :=
  rs.filterMap fun
    | .received bytes _ => some bytes
    | _ => none

lemma flatten_pieces (rs : List RecvResult) : (pieces rs).flatten = readBytes rs := by
  induction rs with
  | nil => rfl
  | cons r rs ih =>
    cases r with
    | received bytes socket => simpa [pieces, RecvResult.bytes] using ih
    | wouldBlock => simpa [pieces, RecvResult.bytes] using ih
    | failed => simpa [pieces, RecvResult.bytes] using ih

lemma frameLength_encode {m : SentMessage} (hm : m.payload.length < 256 ^ 8) (rest : Bytes) :
    scanner.frameLength (m.encode ++ rest) = m.encode.length := by
  have htake : (m.encode ++ rest).take headerSize =
      MessageHeader.toBytes m.padding { type := m.type, payloadSize := m.payload.length } := by
    rw [SentMessage.encode, List.append_assoc, List.take_left' (by simp)]
  have hheader := MessageHeader.ofBytes_toBytes m.padding
    (h := { type := m.type, payloadSize := m.payload.length }) hm []
  rw [List.append_nil] at hheader
  rw [Scanner.frameLength, scanner_header, scanner_bodySize, htake, hheader, m.length_encode]

/-- Where the coroutine looks for a header, and what it holds from there on. -/
def headerLooks (rs : List RecvResult) : List (ℕ × Bytes) := scanner.looks 0 [] (pieces rs)

/-- The offset in a stream of `total` bytes of the frame of a message that a resumption yields. -/
def Resumed.frameOffset (total : ℕ) (r : Resumed) (message : ReceivedMessage) : ℕ :=
  total - (readBytes r.pending).length - (r.co.map ReceiveCo.room).getD 0 -
    (headerSize + message.payload.length)

/-- The DATA messages that the coroutine has yielded, with the offsets of their frames. -/
def dataFrames (total : ℕ) (rs : List Resumed) : List (ℕ × MessageType × Bytes) :=
  rs.filterMap fun r => (r.result.filter (·.status = .data)).map fun message =>
    (r.frameOffset total message, message.content)

lemma dataFrames_content (total : ℕ) (rs : List Resumed) :
    (dataFrames total rs).map Prod.snd = (dataMessages rs).map (·.content) := by
  induction rs with
  | nil => rfl
  | cons r rs ih =>
    simp only [dataFrames, dataMessages, List.filterMap_cons] at ih ⊢
    cases hresult : r.result with
    | none => simpa using ih
    | some message =>
      by_cases hdata : message.status = .data
      · simpa [Option.filter, hdata] using ih
      · simpa [Option.filter, hdata] using ih

/-- The offset at which the frame of the `k`-th message begins. -/
def frameStart (ms : List SentMessage) (k : ℕ) : ℕ := (framing.stream (ms.take k)).length

/-- Every message that the coroutine yields on the stream of `ms` is one of the frames, where it is
in the stream, and they come in order. -/
def ParsesFramesOnly (ms : List SentMessage) (rs : List RecvResult) : Prop :=
  ∀ n, (∀ x ∈ dataFrames (readBytes rs).length (coReceiveFromSocket.resumes n rs),
      ∃ k m, ms[k]? = some m ∧ x = (frameStart ms k, m.content)) ∧
    ((dataMessages (coReceiveFromSocket.resumes n rs)).map (·.content)).Sublist
      (ms.map (·.content))

/-! ### What the coroutine finds -/

lemma parseNext_of_fits {p : ParseLocals} (hp : p.InBounds) (hnone : p.header.type = .none)
    (h : scanner.frameLength p.held ≤ p.held.length) :
    ∃ message p', p.parseNext = (some message, p') ∧ p'.InBounds ∧ p'.header.type = .none ∧
      p'.held = p.held.drop (scanner.frameLength p.held) ∧ message.status = .data ∧
      message.content = frameContent p.held ∧
      message.payload.length = scanner.bodySize p.held := by
  have hlen := hp.length_held
  rw [Scanner.frameLength, scanner_header] at h
  obtain ⟨p₁, hsome₁, hbounds₁, hheader₁, hheld₁, -⟩ := processMessageHeader_of_le hp (by omega)
  have hsize : p₁.header.payloadSize = scanner.bodySize p.held := by rw [hheader₁]; rfl
  obtain ⟨p₂, hsome₂, hbounds₂, hheader₂, hheld₂, hmessage₂⟩ :=
    processMessagePayload_of_le hbounds₁ (by rw [hsize, hheld₁, List.length_drop]; omega)
  have hpos : 0 < headerSize := by decide
  refine ⟨p₂.yieldMessage.1, p₂.yieldMessage.2, ?_, ⟨hbounds₂.size, hbounds₂.nonneg, hbounds₂.le⟩,
    rfl, ?_, ?_, ?_, ?_⟩
  · rw [parseNext, if_pos (by omega), ensureHeader, if_pos hnone, hsome₁]
    simp only [hsome₂]
  · have hheld : p₂.yieldMessage.2.held = p₂.held := rfl
    rw [hheld, hheld₂, hsize, hheld₁, List.drop_drop]
    rfl
  · simp [yieldMessage, hmessage₂]
  · rw [frameContent, ← hsize, ← hheld₁, ← hheader₁]
    simp [yieldMessage, ReceivedMessage.content, hmessage₂, hheader₂]
  · simp only [yieldMessage, hmessage₂]
    rw [hsize, hheld₁, List.length_take, List.length_drop]
    omega

/-- The inner loop neither gets nor loses a descriptor: what is moved from keeps it. -/
lemma parseNext_socket {p p' : ParseLocals} {message : ReceivedMessage}
    (h : p.parseNext = (some message, p')) :
    message.socket = p.receivedMessage.socket ∧
      p'.receivedMessage.socket = p.receivedMessage.socket := by
  have hensure : ∀ p₁, p.ensureHeader = some p₁ → p₁.receivedMessage = p.receivedMessage := by
    intro p₁ h₁
    rw [ensureHeader, processMessageHeader] at h₁
    split_ifs at h₁
    · rw [← Option.some.inj h₁]
    · rw [← Option.some.inj h₁]
  have hpayload : ∀ p₁ p₂ : ParseLocals, p₁.processMessagePayload = some p₂ →
      p₂.receivedMessage.socket = p₁.receivedMessage.socket := by
    intro p₁ p₂ h₂
    rw [processMessagePayload] at h₂
    split_ifs at h₂
    rw [← Option.some.inj h₂]
  rw [parseNext] at h
  split_ifs at h
  · cases h₁ : p.ensureHeader with
    | none => simp [h₁] at h
    | some p₁ =>
      cases h₂ : p₁.processMessagePayload with
      | none => simp [h₁, h₂] at h
      | some p₂ =>
        simp only [h₁, h₂, Prod.mk.injEq, Option.some.injEq] at h
        obtain ⟨rfl, rfl⟩ := h
        have hsocket : p₂.receivedMessage.socket = p.receivedMessage.socket := by
          rw [hpayload p₁ p₂ h₂, hensure p₁ h₁]
        exact ⟨hsocket, hsocket⟩
  · simp at h

/-- The coroutine, resumed often enough, has yielded exactly these messages at these offsets. -/
def Yields (total : ℕ) (co : ReceiveCo) (rs : List RecvResult)
    (xs : List (ℕ × MessageType × Bytes)) : Prop :=
  ∃ N, ∀ n ≥ N, dataFrames total (co.resumes n rs) = xs

/-- The frames that are complete where the coroutine looks. -/
def foundAt (ls : List (ℕ × Bytes)) : List (ℕ × MessageType × Bytes) :=
  (ls.filter fun l => scanner.frameLength l.2 ≤ l.2.length).map fun l => (l.1, frameContent l.2)

lemma foundAt_cons {a : ℕ} {held : Bytes} {ls : List (ℕ × Bytes)}
    (hfits : scanner.frameLength held ≤ held.length) :
    foundAt ((a, held) :: ls) = (a, frameContent held) :: foundAt ls := by
  simp [foundAt, hfits]

variable {total : ℕ} {rs : List RecvResult} {xs : List (ℕ × MessageType × Bytes)}

lemma dataFrames_cons (r : Resumed) (rs : List Resumed) :
    dataFrames total (r :: rs) = dataFrames total [r] ++ dataFrames total rs := by
  simp only [dataFrames, ← List.filterMap_append, List.singleton_append]

lemma yields_congr {co co' : ReceiveCo} {rs' : List RecvResult}
    (hresult : (co.resume rs).result = (co'.resume rs').result)
    (hco : (co.resume rs).co = (co'.resume rs').co)
    (hpending : (co.resume rs).pending = (co'.resume rs').pending) :
    Yields total co rs xs ↔ Yields total co' rs' xs := by
  have hone : dataFrames total [co.resume rs] = dataFrames total [co'.resume rs'] := by
    simp only [dataFrames, List.filterMap_cons, Resumed.frameOffset, hresult, hco, hpending]
  have heq : ∀ n, dataFrames total (co.resumes n rs) = dataFrames total (co'.resumes n rs') := by
    intro n
    cases n with
    | zero => rfl
    | succ n =>
      simp only [ReceiveCo.resumes, hco, hpending]
      cases (co'.resume rs').co with
      | none => exact hone
      | some co'' => rw [dataFrames_cons, dataFrames_cons (co'.resume rs'), hone]
  simp only [Yields, heq]

lemma yields_received {buffer bytes : Bytes} {free : ℕ} {socket : Option ℤ} (hne : bytes ≠ []) :
    Yields total (.reading buffer free) (.received bytes socket :: rs) xs ↔
      Yields total (.parsing (ofRead buffer free bytes socket)) rs xs :=
  yields_congr (by simp [resume_received hne]) (by simp [resume_received hne])
    (by simp [resume_received hne])

/-- The first resumption. -/
lemma Yields.succ {co co' : ReceiveCo} (hco : (co.resume rs).co = some co')
    (h : Yields total co' (co.resume rs).pending xs) :
    Yields total co rs (dataFrames total [co.resume rs] ++ xs) := by
  obtain ⟨N, hN⟩ := h
  refine ⟨N + 1, fun n hn => ?_⟩
  obtain ⟨k, rfl⟩ : ∃ k, n = k + 1 := ⟨n - 1, by omega⟩
  simp only [ReceiveCo.resumes, hco]
  rw [dataFrames_cons, hN k (by omega)]

lemma yields_nil {buffer : Bytes} {free : ℕ} : Yields total (.reading buffer free) [] [] := by
  refine ⟨0, fun n _ => ?_⟩
  induction n with
  | zero => rfl
  | succ n ih =>
    have hsucc : (ReceiveCo.reading buffer free).resumes (n + 1) []
        = (ReceiveCo.reading buffer free).resume [] ::
          (ReceiveCo.reading buffer free).resumes n [] := rfl
    rw [hsucc, dataFrames_cons, ih (Nat.zero_le _)]
    rfl

lemma WindowsRespected.of_resumes {co co' : ReceiveCo} {ys : List Resumed}
    (hw : WindowsRespected co rs)
    (hresumes : ∀ n, co.resumes (ys.length + (n + 1)) rs = ys ++ co'.resumes (n + 1) rs) :
    WindowsRespected co' rs := by
  intro n r hr
  cases n with
  | zero => exact absurd hr List.not_mem_nil
  | succ n =>
    apply hw (ys.length + (n + 1)) r
    rw [hresumes]
    exact List.mem_append_right _ hr

/-- What the inner loop does as long as it yields: the resumptions `ys` yield the frames that the
scan of what it holds finds, read nothing, and the coroutine goes on with what the scan leaves. -/
lemma resumes_parsing {p : ParseLocals} (hp : p.InBounds) (hnone : p.header.type = .none) {a : ℕ}
    (htotal : total = a + p.held.length + (readBytes rs).length) :
    ∃ (ys : List Resumed) (p' : ParseLocals), p'.InBounds ∧ p'.held = (scanner.scan a p.held).2 ∧
      dataFrames total ys = foundAt (scanner.scan a p.held).1 ∧
      (∀ y ∈ ys, y.calls = [] ∧ ∃ message, y.result = some message ∧ message.status = .data ∧
        message.socket = p.receivedMessage.socket) ∧
      ∀ n, (ReceiveCo.parsing p).resumes (ys.length + (n + 1)) rs =
        ys ++ (ReceiveCo.reading p'.moveLeftoverToBeginning.1
          p'.moveLeftoverToBeginning.2).resumes (n + 1) rs := by
  induction hlen : p.held.length using Nat.strong_induction_on generalizing p a with
  | _ n ih =>
    subst hlen
    by_cases hfits : scanner.frameLength p.held ≤ p.held.length
    · -- a frame is complete: it is yielded, and the loop goes on behind it
      obtain ⟨message, p₁, hnext, hp₁, hnone₁, hheld₁, hdata, hcontent, hpayload⟩ :=
        parseNext_of_fits hp hnone hfits
      obtain ⟨hsocket, hsocket₁⟩ := parseNext_socket hnext
      have hpos := scanner.frameLength_pos p.held
      have hlength : p₁.held.length = p.held.length - scanner.frameLength p.held := by
        rw [hheld₁, List.length_drop]
      obtain ⟨ys, p', hp', hheld', hframes, hys, hresumes⟩ := ih p₁.held.length (by omega) hp₁
        hnone₁ (a := a + scanner.frameLength p.held) (by omega) rfl
      have hresume := resume_of_yield hnext rs
      rw [Scanner.scan_of_fits hfits, ← hheld₁]
      refine ⟨(ReceiveCo.parsing p).resume rs :: ys, p', hp', hheld', ?_, ?_, ?_⟩
      · have hframe : dataFrames total [(ReceiveCo.parsing p).resume rs] =
            [(a, frameContent p.held)] := by
          have hoffset : total - (readBytes rs).length - p₁.bytesReceived.toNat -
              (headerSize + message.payload.length) = a := by
            have hroom := hp₁.length_held
            have hframeLength :
                scanner.frameLength p.held = headerSize + message.payload.length := by
              rw [hpayload]
              rfl
            omega
          simp [dataFrames, hresume, hdata, Resumed.frameOffset, ReceiveCo.room, hoffset, hcontent]
        rw [dataFrames_cons, hframe, hframes, foundAt_cons hfits]
        rfl
      · intro y hy
        rcases List.mem_cons.1 hy with rfl | hy
        · exact ⟨by rw [hresume], message, by rw [hresume], hdata, hsocket⟩
        · obtain ⟨hcalls, message', hresult, hdata', hsocket'⟩ := hys y hy
          exact ⟨hcalls, message', hresult, hdata', hsocket'.trans hsocket₁⟩
      · intro n
        rw [List.length_cons, Nat.succ_add, ReceiveCo.resumes, hresume]
        exact congrArg (List.cons _) (hresumes n)
    · rw [not_le] at hfits
      obtain ⟨p', hstop, hp', hheld', hfound⟩ : ∃ p', p.parseNext = (none, p') ∧ p'.InBounds ∧
          p'.held = (scanner.scan a p.held).2 ∧ foundAt (scanner.scan a p.held).1 = [] := by
        by_cases hheader : headerSize ≤ p.held.length
        · obtain ⟨p', hstop, hp', hheld'⟩ := parseNext_of_payload_lt hp hnone hheader hfits
          rw [Scanner.scan_of_header hfits hheader]
          exact ⟨p', hstop, hp', hheld', by simp [foundAt, hfits]⟩
        · rw [Scanner.scan_of_lt (not_le.1 hheader)]
          exact ⟨p, parseNext_of_lt hp hnone (not_le.1 hheader), hp, rfl, rfl⟩
      refine ⟨[], p', hp', hheld', hfound.symm, fun y hy => absurd hy List.not_mem_nil, fun n => ?_⟩
      rw [List.length_nil, Nat.zero_add, ReceiveCo.resumes, ReceiveCo.resumes,
        resume_of_stop hstop, List.nil_append]

/-- The inner loop yields the frames that the scan of what it holds finds, and the coroutine goes on
with what the scan leaves. -/
lemma yields_parsing {p : ParseLocals} (hp : p.InBounds) (hnone : p.header.type = .none) {a : ℕ}
    (htotal : total = a + p.held.length + (readBytes rs).length) :
    ∃ p' : ParseLocals, p'.InBounds ∧ p'.held = (scanner.scan a p.held).2 ∧
      (∀ xs, Yields total
          (.reading p'.moveLeftoverToBeginning.1 p'.moveLeftoverToBeginning.2) rs xs →
        Yields total (.parsing p) rs (foundAt (scanner.scan a p.held).1 ++ xs)) ∧
      (WindowsRespected (.parsing p) rs → WindowsRespected
        (.reading p'.moveLeftoverToBeginning.1 p'.moveLeftoverToBeginning.2) rs) := by
  obtain ⟨ys, p', hp', hheld', hframes, -, hresumes⟩ := resumes_parsing hp hnone htotal
  refine ⟨p', hp', hheld', fun xs hxs => ?_, fun hw => hw.of_resumes hresumes⟩
  obtain ⟨N, hN⟩ := hxs
  refine ⟨ys.length + (N + 1), fun n hn => ?_⟩
  obtain ⟨k, rfl⟩ : ∃ k, n = ys.length + (k + 1) := ⟨n - ys.length - 1, by omega⟩
  rw [hresumes, dataFrames, List.filterMap_append, ← hframes]
  exact congrArg _ (hN (k + 1) (by omega))

/-- **The coroutine is a scanner**: it yields the frames that are complete where it looks. It never
holds more than the buffer. -/
lemma yields_looks {buffer : Bytes} {free a : ℕ} (hbuffer : buffer.length = bufferSize)
    (hfree : free ≤ bufferSize) (hcut : IsCut rs)
    (htotal : total = a + free + (readBytes rs).length)
    (hwindow : WindowsRespected (.reading buffer free) rs) :
    Yields total (.reading buffer free) rs
        (foundAt (scanner.looks a (buffer.take free) (pieces rs))) ∧
      ∀ l ∈ scanner.looks a (buffer.take free) (pieces rs), l.2.length ≤ bufferSize := by
  induction rs generalizing buffer free a with
  | nil => exact ⟨yields_nil, fun l hl => absurd hl List.not_mem_nil⟩
  | cons r rs ih =>
    have hcut' : IsCut rs := fun r' hr' => hcut r' (List.mem_cons_of_mem _ hr')
    obtain rfl | ⟨bytes, socket, hne, rfl⟩ := hcut r List.mem_cons_self
    · have hco : ((ReceiveCo.reading buffer free).resume (.wouldBlock :: rs)).co =
          some (.reading buffer free) := rfl
      obtain ⟨hyields, hlooks⟩ :=
        ih hbuffer hfree hcut' (by simpa [RecvResult.bytes] using htotal) hwindow.wouldBlock
      exact ⟨Yields.succ hco hyields, hlooks⟩
    obtain ⟨hroom, hwindow'⟩ := hwindow.received hne
    obtain ⟨hbounds, hheld⟩ := @ofRead_held buffer bytes free socket hbuffer (by omega)
    have hlength : (buffer.take free ++ bytes).length = free + bytes.length := by
      rw [List.length_append, List.length_take]
      omega
    rw [readBytes_cons, List.length_append] at htotal
    simp only [RecvResult.bytes] at htotal
    have htotal' : total = a + (ofRead buffer free bytes socket).held.length +
        (readBytes rs).length := by
      rw [hheld, hlength]
      omega
    obtain ⟨p, hp, hheld', hyields, hwindows⟩ := yields_parsing hbounds rfl htotal'
    obtain ⟨hsize, hfree', htake⟩ := moveLeftover_held hp
    obtain ⟨k, hk, hleft, hscanned, -⟩ := scanner.scan_spec a (buffer.take free ++ bytes)
    rw [hheld, hleft] at hheld'
    have hheldLength : p.held.length = free + bytes.length - k := by
      rw [hheld', List.length_drop, hlength]
    obtain ⟨hrest, hlater⟩ := ih (a := a + k) hsize (by rw [hfree', hheldLength]; omega) hcut'
      (by rw [hfree', hheldLength]; omega) (hwindows hwindow')
    rw [htake, hheld'] at hrest hlater
    have hlooks : scanner.looks a (buffer.take free) (pieces (.received bytes socket :: rs)) =
        (scanner.scan a (buffer.take free ++ bytes)).1 ++
          scanner.looks (a + k) ((buffer.take free ++ bytes).drop k) (pieces rs) := by
      have hoffset : a + (buffer.take free ++ bytes).length -
          ((buffer.take free ++ bytes).drop k).length = a + k := by
        rw [List.length_drop, hlength]
        omega
      rw [show pieces (.received bytes socket :: rs) = bytes :: pieces rs from rfl, Scanner.looks,
        hleft, hoffset]
    rw [yields_received hne, hlooks]
    constructor
    · rw [foundAt, List.filter_append, List.map_append]
      rw [hheld] at hyields
      exact hyields _ hrest
    · intro l hl
      rcases List.mem_append.1 hl with hl | hl
      · obtain ⟨j, -, rfl⟩ := hscanned l hl
        rw [List.length_drop, hlength]
        omega
      · exact hlater l hl

end BattleShips
