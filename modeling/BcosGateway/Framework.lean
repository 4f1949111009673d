import BcosGateway.Common
import BcosGateway.Lib.Slice

namespace BcosGateway

/-- The enumerators of bcos-framework's `MessageType`. A `switch` over them compiles,
    so they are distinct. -/
structure MessageType where
  heartbeat : UInt16
  handshake : UInt16
  requestNodeIDs : UInt16
  responseNodeIDs : UInt16
  peerToPeerMessage : UInt16
  broadcastMessage : UInt16
  amopMessageType : UInt16
  distinct : [heartbeat, handshake, requestNodeIDs, responseNodeIDs, peerToPeerMessage,
    broadcastMessage, amopMessageType].Nodup

/-- The parts of bcos-framework that the message codec calls: `MessageType` and the two
    overloads of `vector_ref::getCroppedData`. -/
structure Framework where
  messageType : MessageType
  getCroppedData : Bytes → Nat → Nat → Bytes
  getCroppedDataFrom : Bytes → Nat → Bytes

/-- A framework whose `getCroppedData` returns the requested range when the buffer has it
    and an empty range when it has not. -/
structure CroppingFramework extends Framework where
  crop_fits : ∀ buffer begin_ count, begin_ + count ≤ buffer.length →
    getCroppedData buffer begin_ count = Slice.slice buffer begin_ count
  crop_misfits : ∀ buffer begin_ count, buffer.length < begin_ + count →
    getCroppedData buffer begin_ count = []
  crop_from_fits : ∀ buffer begin_, begin_ ≤ buffer.length →
    getCroppedDataFrom buffer begin_ = buffer.drop begin_
  crop_from_misfits : ∀ buffer begin_, buffer.length < begin_ →
    getCroppedDataFrom buffer begin_ = []

instance : Coe CroppingFramework Framework := ⟨CroppingFramework.toFramework⟩

def CroppingFramework.standard : CroppingFramework where
  messageType := ⟨1, 2, 3, 4, 5, 6, 7, by decide⟩
  getCroppedData buffer begin_ count :=
    if begin_ + count ≤ buffer.length then Slice.slice buffer begin_ count else []
  getCroppedDataFrom buffer begin_ :=
    if begin_ ≤ buffer.length then buffer.drop begin_ else []
  crop_fits buffer begin_ count fits := if_pos fits
  crop_misfits buffer begin_ count misfits := if_neg (by omega)
  crop_from_fits buffer begin_ fits := if_pos fits
  crop_from_misfits buffer begin_ misfits := if_neg (by omega)

/-- Node keys; `hex` is the name under which a node is registered. -/
structure KeyFactory (Key : Type) where
  createKey : Bytes → Key
  encode : Key → Bytes
  hex : Key → StdString

structure CommonError where
  success : Int
  notFoundFrontServiceSendMsg : Int
  gatewaySendMsgFailed : Int
  notFoundFrontServiceDispatchMsg : Int

end BcosGateway
