import BattleShips.Lib.Framing

/-!
# Messages

The messages of `protocol/message` and the bytes that `SocketHandler::send_message` hands to
`sendmsg`: a 16-byte `MessageHeader` (the type, seven bytes of padding that nobody sets, the
payload size in little-endian order) followed by the payload.
-/

namespace BattleShips

abbrev Bytes := List UInt8

/-- The bytes of a text of the source. -/
def ascii (s : String) : Bytes := s.toList.map fun c => UInt8.ofNat c.toNat

/-- `message_type_e`. A received byte that names no enumerator is still a value of the type. -/
inductive MessageType
  | none
  | default
  | printable
  | socket
  | connCode
  | lobbyId
  | error
  | unnamed (raw : {b : UInt8 // 7 ≤ b.toNat})
  deriving DecidableEq

def MessageType.toByte : MessageType → UInt8
  | .none => 0
  | .default => 1
  | .printable => 2
  | .socket => 3
  | .connCode => 4
  | .lobbyId => 5
  | .error => 6
  | .unnamed raw => raw

def MessageType.ofByte (b : UInt8) : MessageType :=
  if h : 7 ≤ b.toNat then .unnamed ⟨b, h⟩
  else match b.toNat with
    | 0 => .none
    | 1 => .default
    | 2 => .printable
    | 3 => .socket
    | 4 => .connCode
    | 5 => .lobbyId
    | _ => .error

@[simp] lemma MessageType.ofByte_toByte (t : MessageType) : ofByte t.toByte = t := by
  cases t with
  | unnamed raw => simp [toByte, ofByte, raw.property]
  | _ => rfl

/-- `message_status_e`. -/
inductive MessageStatus
  | empty
  | wouldBlock
  | disconnected
  | data
  deriving DecidableEq

/-- `MessageHeader`. -/
structure MessageHeader where
  type : MessageType := .none
  payloadSize : ℕ := 0
  deriving DecidableEq

/-- `OutgoingMessage`. -/
structure OutgoingMessage where
  payload : Bytes
  type : MessageType := .default
  socket : Option ℤ := none
  deriving DecidableEq

/-- `ReceivedMessage`. -/
structure ReceivedMessage where
  status : MessageStatus := .empty
  type : MessageType := .default
  payload : Bytes := []
  socket : Option ℤ := none
  deriving DecidableEq

/-! ### The wire format -/

/-- `sizeof(MessageHeader)`. -/
abbrev headerSize : ℕ := 16

/-- The object representation of a header whose padding holds `padding`. -/
def MessageHeader.toBytes (padding : Vector UInt8 7) (h : MessageHeader) : Bytes :=
  h.type.toByte :: (padding.toList ++ littleEndian 8 h.payloadSize)

/-- What `memcpy` into a header makes of the first bytes of `bs`. -/
def MessageHeader.ofBytes (bs : Bytes) : MessageHeader where
  type := .ofByte (bs.headD 0)
  payloadSize := ofLittleEndian ((bs.drop 8).take 8)

@[simp] lemma MessageHeader.length_toBytes (padding : Vector UInt8 7) (h : MessageHeader) :
    (h.toBytes padding).length = headerSize := by
  simp [toBytes]

lemma MessageHeader.ofBytes_toBytes (padding : Vector UInt8 7) {h : MessageHeader}
    (hsize : h.payloadSize < 256 ^ 8) (bs : Bytes) : ofBytes (h.toBytes padding ++ bs) = h := by
  have hdrop : ((h.toBytes padding ++ bs).drop 8).take 8 = littleEndian 8 h.payloadSize := by
    have : h.toBytes padding ++ bs
        = (h.type.toByte :: padding.toList) ++ (littleEndian 8 h.payloadSize ++ bs) := by
      simp [toBytes]
    rw [this, List.drop_left' (by simp), List.take_left' (by simp)]
  simp only [ofBytes, hdrop, ofLittleEndian_littleEndian hsize]
  simp [toBytes]

/-- A message as `send_message` puts it on the wire: with whatever the padding of the header
object happens to hold. -/
structure SentMessage extends OutgoingMessage where
  padding : Vector UInt8 7

/-- The bytes of the two `iovec`s of `send_message`. -/
def SentMessage.encode (m : SentMessage) : Bytes :=
  MessageHeader.toBytes m.padding { type := m.type, payloadSize := m.payload.length } ++ m.payload

lemma SentMessage.length_encode (m : SentMessage) :
    m.encode.length = headerSize + m.payload.length := by
  simp [encode]

/-- The frames of `send_message`. -/
@[simps] def framing : Framing SentMessage UInt8 where
  encode := SentMessage.encode
  header := headerSize
  header_le m := by rw [m.length_encode]; omega

end BattleShips
