import BcosGateway.Common
import BcosGateway.Framework
import BcosGateway.Lib.BigEndian

/-! The messages that gateways exchange about topics. -/

namespace BcosGateway

structure AMOPMessage where
  type : UInt16 := 0
  status : UInt16 := 0
  data : Bytes := []
  deriving DecidableEq, Repr

namespace AMOPMessage

def headerLength : Nat := 4

namespace Kind

def topicSeq : UInt16 := 1
def requestTopic : UInt16 := 2
def responseTopic : UInt16 := 3
def amopRequest : UInt16 := 4
def amopResponse : UInt16 := 5
def amopBroadcast : UInt16 := 5

end Kind

def encode (message : AMOPMessage) : Bytes :=
  BigEndian.encode 2 message.type.toNat ++ BigEndian.encode 2 message.status.toNat ++ message.data

def decode (fw : Framework) (message : AMOPMessage) (buffer : Bytes) : Int × AMOPMessage :=
  if buffer.length < headerLength then (-1, message)
  else
    (buffer.length,
      { type := UInt16.ofNat (BigEndian.number (Slice.slice buffer 0 2))
        status := UInt16.ofNat (BigEndian.number (Slice.slice buffer 2 2))
        data := fw.getCroppedDataFrom buffer 4 })

def buildMessage (fw : Framework) (data : Bytes) : AMOPMessage := (decode fw {} data).2

theorem number_field {front : Bytes} {offset : Nat} (value : UInt16) (back : Bytes)
    (start : front.length = offset) :
    UInt16.ofNat (BigEndian.number
      (Slice.slice (front ++ (BigEndian.encode 2 value.toNat ++ back)) offset 2)) = value := by
  rw [Slice.slice_field start (BigEndian.encode_length 2 value.toNat),
    BigEndian.number_encode value.toNat_lt, UInt16.ofNat_toNat]

@[simp] theorem encode_length (message : AMOPMessage) :
    message.encode.length = 4 + message.data.length := by
  simp only [encode, List.length_append, BigEndian.encode_length]

theorem decode_encode (fw : CroppingFramework) (before message : AMOPMessage) :
    before.decode fw message.encode = ((message.encode.length : Int), message) := by
  have header : (BigEndian.encode 2 message.type.toNat ++
      BigEndian.encode 2 message.status.toNat).length = 4 := by simp
  have type : UInt16.ofNat (BigEndian.number (Slice.slice message.encode 0 2)) = message.type := by
    rw [encode, List.append_assoc]
    exact @number_field [] 0 message.type _ rfl
  have status : UInt16.ofNat (BigEndian.number (Slice.slice message.encode 2 2)) =
      message.status := by
    rw [encode, List.append_assoc]
    exact number_field message.status message.data (BigEndian.encode_length 2 message.type.toNat)
  have data : message.encode.drop 4 = message.data := List.drop_left' header
  unfold decode
  rw [if_neg (by rw [encode_length, headerLength]; omega),
    fw.crop_from_fits _ _ (by rw [encode_length]; omega), type, status, data]

theorem buildMessage_encode (fw : CroppingFramework) (message : AMOPMessage) :
    buildMessage fw message.encode = message := by
  rw [buildMessage, decode_encode]

end AMOPMessage

end BcosGateway
