import BcosGateway.P2PMessage.Basic

namespace BcosGateway

/-- A read of `width` bytes. The code does not check its reads one by one, so a read outside
    the buffer is a fault here and has to be excluded by proof. -/
def readBytes (buffer : Bytes) (offset width : Nat) : Except Fault Bytes :=
  if offset + width ≤ buffer.length then .ok (Slice.slice buffer offset width)
  else .error .outOfBounds

def readNumber (buffer : Bytes) (offset width : Nat) : Except Fault Nat := do
  return BigEndian.number (← readBytes buffer offset width)

def checkOffset (offset length : Nat) : Except Fault Unit :=
  if offset > length then .error .outOfRange else .ok ()

namespace P2PMessageOptions

/-- The body of the `try` block of `decode`. Its members are assigned as it goes, so they
    keep what was read before an exception. -/
abbrev Decoder := ExceptT Fault (StateM P2PMessageOptions)

def decodeDstNodeIDs (buffer : Bytes) (nodeIDLength : Nat) :
    Nat → Nat → Except Fault (List (Option Bytes) × Nat)
  | 0, offset => .ok ([], offset)
  | count + 1, offset => do
    let nodeID ← readBytes buffer offset nodeIDLength
    let (nodeIDs, offset) ←
      decodeDstNodeIDs buffer nodeIDLength count (addSize offset nodeIDLength)
    return (some nodeID :: nodeIDs, offset)

def decodeGroupID (buffer : Bytes) (groupIDLength offset : Nat) : Decoder Nat := do
  if groupIDLength > 0 then
    checkOffset (addSize offset groupIDLength) buffer.length
    let groupID ← readBytes buffer offset groupIDLength
    modify fun options => { options with groupID }
    return addSize offset groupIDLength
  else
    return offset

def insertSrcNodeID (nodeID : Bytes) : Decoder Unit := do
  match (← get).srcNodeID with
  | none => throw .nullPointer
  -- inserted before the bytes that are there
  | some present => modify fun options => { options with srcNodeID := some (nodeID ++ present) }

def decodeNodeIDs (buffer : Bytes) (offset : Nat) : Decoder Nat := do
  let length := buffer.length
  -- srcNodeID
  checkOffset (addSize offset 2) length
  let nodeIDLength ← readNumber buffer offset 2
  let offset := addSize offset 2
  checkOffset (addSize offset nodeIDLength) length
  let nodeID ← readBytes buffer offset nodeIDLength
  insertSrcNodeID nodeID
  let offset := addSize offset nodeIDLength
  -- dstNodeIDs
  checkOffset (addSize offset 1) length
  let dstNodeCount ← readNumber buffer offset 1
  let offset := addSize offset 1
  let dstSize ← mulInt dstNodeCount nodeIDLength
  checkOffset (addSize offset dstSize) length
  let (dstNodeIDs, offset) ← decodeDstNodeIDs buffer nodeIDLength dstNodeCount offset
  modify fun options => { options with dstNodeIDs }
  return offset

def decodeFields (buffer : Bytes) : Decoder Nat := do
  checkOffset (addSize 0 optionsMinLength) buffer.length
  let groupIDLength ← readNumber buffer 0 2
  let offset ← decodeGroupID buffer groupIDLength 2
  decodeNodeIDs buffer offset

/-- The exception is caught; any other fault is not. -/
def decode (options : P2PMessageOptions) (buffer : Bytes) :
    Except Fault (Int × P2PMessageOptions) :=
  match (decodeFields buffer).run.run options with
  | (.ok offset, options) => .ok (offset, options)
  | (.error .outOfRange, options) => .ok (MessageDecodeStatus.messageError, options)
  | (.error fault, _) => .error fault

end P2PMessageOptions

namespace P2PMessage

def decodeHeader (message : P2PMessage) (buffer : Bytes) : Except Fault (Nat × P2PMessage) := do
  let length ← readNumber buffer 0 4
  let version ← readNumber buffer 4 2
  let packetType ← readNumber buffer 6 2
  let seq ← readNumber buffer 8 4
  let ext ← readNumber buffer 12 2
  return (14, { message with
    length := UInt32.ofNat length
    version := UInt16.ofNat version
    packetType := UInt16.ofNat packetType
    seq := UInt32.ofNat seq
    ext := UInt16.ofNat ext })

variable (fw : Framework)

/-- `m_length - offset` is an unsigned 32-bit difference and may wrap. -/
def decodePayload (message : P2PMessage) (buffer : Bytes) (offset : Nat) : Int × P2PMessage :=
  let data := fw.getCroppedData buffer offset (message.length - UInt32.ofNat offset).toNat
  (message.length.toNat, { message with payload := data })

def decode (message : P2PMessage) (buffer : Bytes) : Except Fault (Int × P2PMessage) := do
  if buffer.length < messageHeaderLength then
    return (MessageDecodeStatus.messageIncomplete, message)
  let (offset, message) ← message.decodeHeader buffer
  if buffer.length < message.length.toNat then
    return (MessageDecodeStatus.messageIncomplete, message)
  if message.hasOptions fw then
    let (optionsOffset, options) ← message.options.decode (fw.getCroppedDataFrom buffer offset)
    let message := { message with options }
    if optionsOffset < 0 then
      return (MessageDecodeStatus.messageError, message)
    return message.decodePayload fw buffer (offset + optionsOffset.toNat)
  else
    return message.decodePayload fw buffer offset

end P2PMessage

end BcosGateway
