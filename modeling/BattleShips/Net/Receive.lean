import BattleShips.Protocol.Message

/-!
# The receive coroutine

`SocketHandler::co_receive_from_socket` of `net/socket_routine.cpp`. The coroutine is a machine
that `resume` runs up to its next suspension: what it reads from the socket is the list of the
results that `recvmsg` is going to give, and what it leaves behind is its suspended frame.
-/

namespace BattleShips

/-- The size of `receive_buffer`. -/
abbrev bufferSize : ℕ := 1024

/-- What one call of `recvmsg` gives: some bytes and possibly a descriptor in the ancillary data
(no bytes at all once the peer has closed), `EAGAIN`, or another error. -/
inductive RecvResult
  | received (bytes : Bytes) (socket : Option ℤ)
  | wouldBlock
  | failed
  deriving DecidableEq

/-- The descriptor in the ancillary data. -/
def RecvResult.socket : RecvResult → Option ℤ
  | .received _ socket => socket
  | .wouldBlock => none
  | .failed => none

/-- A call of `recvmsg`: the length of the offered window and the result. -/
structure RecvCall where
  window : ℕ
  result : RecvResult

/-- The locals of the inner loop of `co_receive_from_socket`. -/
structure ParseLocals where
  receiveBuffer : Bytes
  dataBeggins : ℕ
  bytesReceived : ℤ
  header : MessageHeader
  receivedMessage : ReceivedMessage
  deriving DecidableEq

/-- The suspended coroutine: about to call `recvmsg`, or in the `co_yield` of the inner loop. -/
inductive ReceiveCo
  | reading (receiveBuffer : Bytes) (freeBeggins : ℕ)
  | parsing (locals : ParseLocals)
  deriving DecidableEq

/-- The coroutine before its first resumption. -/
def coReceiveFromSocket : ReceiveCo := .reading (List.replicate bufferSize 0) 0

/-- `recvmsg` and `memmove` write `bs` into the buffer at `offset`. -/
def writeBuffer (buffer : Bytes) (offset : ℕ) (bs : Bytes) : Bytes :=
  buffer.take offset ++ bs ++ buffer.drop (offset + bs.length)

/-! ### The inner loop -/

namespace ParseLocals

/-- The `n` bytes at `data_beggins`. -/
def peek (p : ParseLocals) (n : ℕ) : Bytes := (p.receiveBuffer.drop p.dataBeggins).take n

/-- `process_message_header`; `none` stands for `false`. -/
def processMessageHeader (p : ParseLocals) : Option ParseLocals :=
  if (headerSize : ℤ) ≤ p.bytesReceived then
    some { p with
      header := .ofBytes (p.peek headerSize)
      dataBeggins := p.dataBeggins + headerSize
      bytesReceived := p.bytesReceived - headerSize }
  else none

/-- `process_message_payload`; `none` stands for `false`. -/
def processMessagePayload (p : ParseLocals) : Option ParseLocals :=
  if (p.header.payloadSize : ℤ) ≤ p.bytesReceived then
    some { p with
      receivedMessage :=
        { p.receivedMessage with payload := p.peek p.header.payloadSize, status := .data }
      dataBeggins := p.dataBeggins + p.header.payloadSize
      bytesReceived := p.bytesReceived - p.header.payloadSize }
  else none

/-- The body of the inner loop up to the payload: a header is only read while none is held. -/
def ensureHeader (p : ParseLocals) : Option ParseLocals :=
  if p.header.type = .none then p.processMessageHeader else some p

/-- `co_yield std::move(received_message)` with the header marked as used. What is moved from
keeps its optional descriptor, and its payload is empty. -/
def yieldMessage (p : ParseLocals) : ReceivedMessage × ParseLocals :=
  ({ p.receivedMessage with type := p.header.type },
    { p with
      header := { p.header with type := .none }
      receivedMessage := { p.receivedMessage with type := p.header.type, payload := [] } })

/-- The inner loop from its head to the next `co_yield` or to its end. -/
def parseNext (p : ParseLocals) : Option ReceivedMessage × ParseLocals :=
  if 0 < p.bytesReceived then
    match p.ensureHeader with
    | none => (none, p)
    | some p =>
      match p.processMessagePayload with
      | none => (none, p)
      | some p => (some p.yieldMessage.1, p.yieldMessage.2)
  else (none, p)

/-- `move_leftover_to_beginning`: the buffer and `free_beggins`, a `uint16_t`. -/
def moveLeftoverToBeginning (p : ParseLocals) : Bytes × ℕ :=
  (writeBuffer p.receiveBuffer 0 (p.peek p.bytesReceived.toNat),
    (p.bytesReceived % 2 ^ 16).toNat)

/-- The locals at the start of the inner loop, after `recvmsg` has put `bytes` at
`free_beggins`. -/
def ofRead (receiveBuffer : Bytes) (freeBeggins : ℕ) (bytes : Bytes) (socket : Option ℤ) :
    ParseLocals where
  receiveBuffer := writeBuffer receiveBuffer freeBeggins bytes
  dataBeggins := 0
  bytesReceived := bytes.length + freeBeggins
  header := {}
  receivedMessage := { socket := socket }

end ParseLocals

/-! ### The outer loop -/

/-- What one resumption of the coroutine does: the message it yields or returns (`none` for an
error), the suspended coroutine (`none` when it has returned), the results of `recvmsg` that are
left, and the calls of `recvmsg` it has made. -/
structure Resumed where
  result : Option ReceivedMessage
  co : Option ReceiveCo
  pending : List RecvResult
  calls : List RecvCall

/-- The descriptors that it has got with what it has read. -/
def Resumed.sockets (r : Resumed) : List ℤ := r.calls.filterMap fun call => call.result.socket

def Resumed.withCall (call : RecvCall) (r : Resumed) : Resumed :=
  { r with calls := call :: r.calls }

/-- The outer loop from a call of `recvmsg` to the next suspension. Once the results run out,
there is nothing to read. -/
def receiveLoop (receiveBuffer : Bytes) (freeBeggins : ℕ) : List RecvResult → Resumed
  | [] =>
    { result := some { status := .wouldBlock }
      co := some (.reading receiveBuffer freeBeggins)
      pending := []
      calls := [⟨bufferSize - freeBeggins, .wouldBlock⟩] }
  | .received bytes socket :: rs =>
    let call : RecvCall := ⟨bufferSize - freeBeggins, .received bytes socket⟩
    if bytes = [] then
      { result := some { status := .disconnected }, co := none, pending := rs, calls := [call] }
    else
      match (ParseLocals.ofRead receiveBuffer freeBeggins bytes socket).parseNext with
      | (some message, p) =>
        { result := some message, co := some (.parsing p), pending := rs, calls := [call] }
      | (none, p) =>
        (receiveLoop p.moveLeftoverToBeginning.1 p.moveLeftoverToBeginning.2 rs).withCall call
  | .wouldBlock :: rs =>
    { result := some { status := .wouldBlock }
      co := some (.reading receiveBuffer freeBeggins)
      pending := rs
      calls := [⟨bufferSize - freeBeggins, .wouldBlock⟩] }
  | .failed :: rs =>
    { result := none, co := none, pending := rs, calls := [⟨bufferSize - freeBeggins, .failed⟩] }

/-- `receive_handle_->resume()`. -/
def ReceiveCo.resume : ReceiveCo → List RecvResult → Resumed
  | .reading receiveBuffer freeBeggins, rs => receiveLoop receiveBuffer freeBeggins rs
  | .parsing p, rs =>
    match p.parseNext with
    | (some message, p) =>
      { result := some message, co := some (.parsing p), pending := rs, calls := [] }
    | (none, p) => receiveLoop p.moveLeftoverToBeginning.1 p.moveLeftoverToBeginning.2 rs

/-- Resuming the coroutine `n` times, or until it has returned. -/
def ReceiveCo.resumes : ℕ → ReceiveCo → List RecvResult → List Resumed
  | 0, _, _ => []
  | n + 1, co, rs =>
    let r := co.resume rs
    match r.co with
    | none => [r]
    | some co' => r :: co'.resumes n r.pending

/-- The DATA messages among what the coroutine has yielded. -/
def dataMessages (rs : List Resumed) : List ReceivedMessage :=
  (rs.filterMap Resumed.result).filter fun m => m.status = .data

end BattleShips
