import BcosGateway.Framework
import BcosGateway.Lib.BigEndian

namespace BcosGateway

structure P2PMessageOptions where
  groupID : StdString := []
  /-- `none` is a null `shared_ptr`. -/
  srcNodeID : Option Bytes := some []
  dstNodeIDs : List (Option Bytes) := []
  deriving DecidableEq, Repr

namespace P2PMessageOptions

def optionsMinLength : Nat := 5
def maxGroupIDLength : Nat := 65535
def maxNodeIDLength : Nat := 65535
def maxDstNodeIDCount : Nat := 255

end P2PMessageOptions

/-- The members of `P2PMessage`; the defaults are those of a fresh message. `m_options` and
    `m_payload` are taken non-null, as the constructor makes them. -/
structure P2PMessage where
  length : UInt32 := 0
  version : UInt16 := 0
  packetType : UInt16 := 0
  seq : UInt32 := 0
  ext : UInt16 := 0
  options : P2PMessageOptions := {}
  payload : Bytes := []
  deriving DecidableEq, Repr

namespace P2PMessage

def messageHeaderLength : Nat := 14

def setRespPacket (message : P2PMessage) : P2PMessage :=
  { message with ext := message.ext ||| MessageExtFieldFlag.response }

def isRespPacket (message : P2PMessage) : Bool :=
  message.ext &&& MessageExtFieldFlag.response != 0

def hasOptions (fw : Framework) (message : P2PMessage) : Bool :=
  message.packetType == fw.messageType.peerToPeerMessage ||
    message.packetType == fw.messageType.broadcastMessage

end P2PMessage

def P2PMessageOptions.validNodeID : Option Bytes → Bool
  | none => false
  | some nodeID => !nodeID.isEmpty && nodeID.length ≤ maxNodeIDLength

/-- The result and the buffer after `P2PMessageOptions::encode`, which appends to it. -/
def P2PMessageOptions.encode (options : P2PMessageOptions) (buffer : Bytes) : Bool × Bytes :=
  if options.groupID.length > maxGroupIDLength then (false, buffer)
  else if !validNodeID options.srcNodeID then (false, buffer)
  else if options.dstNodeIDs.length > maxDstNodeIDCount then (false, buffer)
  else if !options.dstNodeIDs.all validNodeID then (false, buffer)
  else
    let srcNodeID := options.srcNodeID.getD []
    (true, buffer
      ++ BigEndian.encode 2 options.groupID.length ++ options.groupID
      ++ BigEndian.encode 2 srcNodeID.length ++ srcNodeID
      ++ [UInt8.ofNat options.dstNodeIDs.length]
      ++ (options.dstNodeIDs.map (·.getD [])).flatten)

def P2PMessage.encodeHeader (message : P2PMessage) (length : Nat) : Bytes :=
  BigEndian.encode 4 length ++ BigEndian.encode 2 message.version.toNat
    ++ BigEndian.encode 2 message.packetType.toNat ++ BigEndian.encode 4 message.seq.toNat
    ++ BigEndian.encode 2 message.ext.toNat

/-- The result and the buffer after `P2PMessage::encode`, which clears the buffer first. A refused
    message leaves the header with length zero in it. -/
def P2PMessage.encode (fw : Framework) (message : P2PMessage) : Bool × Bytes :=
  let buffer := message.encodeHeader 0
  let (encoded, buffer) :=
    if message.hasOptions fw then message.options.encode buffer else (true, buffer)
  if !encoded then (false, buffer)
  else
    let buffer := buffer ++ message.payload
    -- the cast to uint32_t, written over the first four bytes
    let length := BigEndian.encode 4 (UInt32.ofNat buffer.length).toNat
    (true, length ++ buffer.drop 4)

end BcosGateway
