import BcosGateway.P2PMessage.DecodeWire
import Mathlib.Algebra.BigOperators.Group.List.Basic

namespace BcosGateway

open Slice

namespace Wire

theorem field_skip {front back : Bytes} {offset width : Nat} (past : front.length ≤ offset) :
    field (front ++ back) offset width = field back (offset - front.length) width := by
  rw [field, field, slice_append_right past]

theorem field_after {size n : Nat} {back : Bytes} {offset width : Nat} (past : size ≤ offset) :
    field (BigEndian.encode size n ++ back) offset width = field back (offset - size) width := by
  rw [field_skip (by rw [BigEndian.encode_length]; exact past), BigEndian.encode_length]

theorem field_encode {width n : Nat} (back : Bytes) (bound : n < 256 ^ width) :
    field (BigEndian.encode width n ++ back) 0 width = n := by
  have whole : slice (BigEndian.encode width n ++ back) 0 width = BigEndian.encode width n :=
    slice_front (BigEndian.encode_length width n)
  rw [field, whole, BigEndian.number_encode bound]

end Wire

namespace P2PMessageOptions

structure Encodable (options : P2PMessageOptions) : Prop where
  groupID : options.groupID.length ≤ maxGroupIDLength
  srcNodeID : validNodeID options.srcNodeID
  dstCount : options.dstNodeIDs.length ≤ maxDstNodeIDCount
  dstNodeIDs : options.dstNodeIDs.all validNodeID

def UniformNodeIDs (options : P2PMessageOptions) : Prop :=
  ∀ nodeID ∈ options.dstNodeIDs, (nodeID.getD []).length = (options.srcNodeID.getD []).length

instance (options : P2PMessageOptions) : Decidable options.UniformNodeIDs :=
  inferInstanceAs (Decidable (∀ _ ∈ _, _))

def src (options : P2PMessageOptions) : Bytes := options.srcNodeID.getD []
def dsts (options : P2PMessageOptions) : List Bytes := options.dstNodeIDs.map (·.getD [])

def bytes (options : P2PMessageOptions) : Bytes :=
  BigEndian.encode 2 options.groupID.length ++ (options.groupID ++
    (BigEndian.encode 2 options.src.length ++ (options.src ++
      (BigEndian.encode 1 options.dstNodeIDs.length ++ options.dsts.flatten))))

theorem encode_eq (options : P2PMessageOptions) (buffer : Bytes) :
    (options.Encodable → options.encode buffer = (true, buffer ++ options.bytes)) ∧
      (¬ options.Encodable → options.encode buffer = (false, buffer)) := by
  unfold encode
  constructor
  · rintro ⟨group, source, count, dsts⟩
    rw [if_neg (by omega), if_neg (by simp [source]), if_neg (by omega), if_neg (by simp [dsts])]
    simp [bytes, src, P2PMessageOptions.dsts, BigEndian.encode]
  · intro refused
    split_ifs with group source count dsts
    · rfl
    · rfl
    · rfl
    · rfl
    · exact absurd ⟨by omega, by simpa using source, by omega, by simpa using dsts⟩ refused

theorem validNodeID_some {nodeID : Option Bytes} (valid : validNodeID nodeID) :
    nodeID = some (nodeID.getD []) ∧ 0 < (nodeID.getD []).length ∧
      (nodeID.getD []).length ≤ maxNodeIDLength := by
  cases nodeID with
  | none => cases valid
  | some bytes =>
    simp only [validNodeID, Bool.and_eq_true, Bool.not_eq_true', List.isEmpty_eq_false_iff,
      decide_eq_true_eq] at valid
    exact ⟨rfl, List.length_pos_of_ne_nil valid.1, valid.2⟩

theorem bytes_length {options : P2PMessageOptions} (uniform : options.UniformNodeIDs) :
    options.bytes.length = 5 + options.groupID.length + options.src.length
      + options.dstNodeIDs.length * options.src.length := by
  have sizes : options.dsts.flatten.length = options.dstNodeIDs.length * options.src.length := by
    rw [List.length_flatten, List.sum_eq_card_nsmul _ options.src.length]
    · simp [dsts]
    · simpa [dsts, UniformNodeIDs, src] using uniform
  simp only [bytes, List.length_append, BigEndian.encode_length, sizes]
  omega

namespace Encodable

variable {options : P2PMessageOptions} (valid : options.Encodable)

include valid

theorem srcNodeID_eq : options.srcNodeID = some options.src :=
  (validNodeID_some valid.srcNodeID).1

theorem dstNodeIDs_eq : options.dstNodeIDs.map (fun nodeID => some (nodeID.getD [])) =
    options.dstNodeIDs := by
  have same : ∀ nodeID ∈ options.dstNodeIDs, some (nodeID.getD []) = nodeID := fun nodeID member =>
    (validNodeID_some (List.all_eq_true.mp valid.dstNodeIDs nodeID member)).1.symm
  exact (List.map_congr_left same).trans (List.map_id _)

theorem src_length : 0 < options.src.length ∧ options.src.length < 256 ^ 2 := by
  obtain ⟨_, positive, bound⟩ := validNodeID_some valid.srcNodeID
  exact ⟨positive, Nat.lt_succ_of_le bound⟩

theorem groupIDLength_bytes (suffix : Bytes) :
    Wire.groupIDLength (options.bytes ++ suffix) = options.groupID.length := by
  rw [Wire.groupIDLength, bytes, List.append_assoc]
  exact Wire.field_encode _ (Nat.lt_succ_of_le valid.groupID)

theorem nodeIDLength_bytes (suffix : Bytes) :
    Wire.nodeIDLength (options.bytes ++ suffix) = options.src.length := by
  rw [Wire.nodeIDLength, valid.groupIDLength_bytes, bytes, List.append_assoc,
    Wire.field_skip (by simp), List.append_assoc, Wire.field_skip (by simp), List.append_assoc]
  simp only [BigEndian.encode_length, Nat.add_sub_cancel_left, Nat.sub_self]
  exact Wire.field_encode _ valid.src_length.2

theorem dstNodeCount_bytes (suffix : Bytes) :
    Wire.dstNodeCount (options.bytes ++ suffix) = options.dstNodeIDs.length := by
  rw [Wire.dstNodeCount, valid.groupIDLength_bytes, valid.nodeIDLength_bytes, bytes]
  simp only [List.append_assoc]
  rw [Wire.field_skip (by simp; omega), Wire.field_skip (by simp; omega),
    Wire.field_skip (by simp; omega), Wire.field_skip (by simp; omega)]
  have start : 4 + options.groupID.length + options.src.length - 2 - options.groupID.length - 2 -
      options.src.length = 0 := by omega
  simp only [BigEndian.encode_length, start]
  exact Wire.field_encode _ (Nat.lt_succ_of_le valid.dstCount)

theorem groupID_bytes (suffix : Bytes) :
    Wire.groupID (options.bytes ++ suffix) = options.groupID := by
  rw [Wire.groupID, valid.groupIDLength_bytes, bytes]
  simp only [List.append_assoc]
  exact slice_field (by simp) rfl

theorem srcNodeID_bytes (suffix : Bytes) :
    Wire.srcNodeID (options.bytes ++ suffix) = options.src := by
  rw [Wire.srcNodeID, valid.groupIDLength_bytes, valid.nodeIDLength_bytes, bytes]
  simp only [List.append_assoc]
  rw [slice_append_right (by simp; omega), slice_append_right (by simp; omega)]
  exact slice_field (by simp; omega) rfl

theorem optionsSize_bytes (uniform : options.UniformNodeIDs) (suffix : Bytes) :
    Wire.optionsSize (options.bytes ++ suffix) = options.bytes.length := by
  rw [Wire.optionsSize, valid.groupIDLength_bytes, valid.nodeIDLength_bytes,
    valid.dstNodeCount_bytes, bytes_length uniform]

theorem dstNodeIDs_bytes (uniform : options.UniformNodeIDs) (suffix : Bytes) :
    Wire.dstNodeIDs (options.bytes ++ suffix) = options.dsts := by
  have sizes : ∀ nodeID ∈ options.dsts, nodeID.length = options.src.length := by
    simpa [dsts, UniformNodeIDs, src] using uniform
  have blocks := slice_flatten suffix sizes
  rw [show options.dsts.length = options.dstNodeIDs.length from List.length_map _] at blocks
  rw [Wire.dstNodeIDs, valid.dstNodeCount_bytes]
  refine (List.map_congr_left fun i _ => ?_).trans blocks
  rw [Wire.dstNodeID, valid.groupIDLength_bytes, valid.nodeIDLength_bytes, bytes]
  simp only [List.append_assoc]
  rw [slice_append_right (by simp; omega), slice_append_right (by simp; omega),
    slice_append_right (by simp; omega), slice_append_right (by simp; omega),
    slice_append_right (by simp; omega)]
  congr 1
  simp only [BigEndian.encode_length]
  omega

end Encodable

theorem ofWire_bytes {options : P2PMessageOptions} (valid : options.Encodable)
    (uniform : options.UniformNodeIDs) (suffix : Bytes) :
    ({} : P2PMessageOptions).ofWire [] (options.bytes ++ suffix) = options := by
  -- decode does not assign an empty group ID
  have group : (if options.groupID.length = 0 then [] else options.groupID) = options.groupID := by
    split
    · exact (List.length_eq_zero_iff.mp ‹_›).symm
    · rfl
  rw [ofWire, valid.groupIDLength_bytes, valid.groupID_bytes, valid.srcNodeID_bytes,
    valid.dstNodeIDs_bytes uniform, group, List.append_nil, ← valid.srcNodeID_eq, dsts,
    List.map_map]
  have dst := valid.dstNodeIDs_eq
  simp only [Function.comp_def, dst]

end P2PMessageOptions

namespace P2PMessage

variable (fw : Framework) (message : P2PMessage)

def optionsBytes : Bytes := if message.hasOptions fw then message.options.bytes else []

def Encodable : Prop := message.hasOptions fw → message.options.Encodable

def frameLength : Nat := 14 + (message.optionsBytes fw).length + message.payload.length

def frame : Bytes :=
  message.encodeHeader (message.frameLength fw % 2 ^ 32) ++
    (message.optionsBytes fw ++ message.payload)

theorem encodeHeader_length (length : Nat) : (message.encodeHeader length).length = 14 := by
  simp [encodeHeader]

@[simp] theorem frame_length : (message.frame fw).length = message.frameLength fw := by
  simp only [frame, List.length_append, encodeHeader_length, frameLength]
  omega

theorem encodeHeader_patch (length : Nat) (rest : Bytes) :
    BigEndian.encode 4 length ++ (message.encodeHeader 0 ++ rest).drop 4 =
      message.encodeHeader length ++ rest := by
  simp only [encodeHeader, List.append_assoc]
  rw [List.drop_left' (BigEndian.encode_length 4 0)]

theorem encode_encodable (valid : message.Encodable fw) :
    message.encode fw = (true, message.frame fw) := by
  have total (rest : Bytes) (size : 14 + rest.length = message.frameLength fw) :
      (UInt32.ofNat (message.encodeHeader 0 ++ rest).length).toNat =
        message.frameLength fw % 2 ^ 32 := by
    rw [UInt32.toNat_ofNat', List.length_append, encodeHeader_length, size]
  by_cases carries : message.hasOptions fw
  · have block : message.optionsBytes fw = message.options.bytes := if_pos carries
    have size : 14 + (message.options.bytes ++ message.payload).length = message.frameLength fw := by
      rw [List.length_append, frameLength, block, Nat.add_assoc]
    simp only [encode, carries, if_true, (message.options.encode_eq _).1 (valid carries),
      Bool.not_true, Bool.false_eq_true, if_false, List.append_assoc, total _ size,
      encodeHeader_patch, frame, block]
  · have block : message.optionsBytes fw = [] := if_neg carries
    have size : 14 + message.payload.length = message.frameLength fw := by
      rw [frameLength, block, List.length_nil, Nat.add_zero]
    simp only [encode, carries, Bool.false_eq_true, if_false, Bool.not_true, total _ size,
      encodeHeader_patch, frame, block, List.nil_append]

theorem encode_refused (refused : ¬ message.Encodable fw) :
    message.encode fw = (false, message.encodeHeader 0) := by
  obtain ⟨carries, invalid⟩ : message.hasOptions fw = true ∧ ¬ message.options.Encodable := by
    simpa [Encodable] using refused
  simp only [encode, carries, if_true, (message.options.encode_eq _).2 invalid, Bool.not_false]

theorem encode_true_iff : (message.encode fw).1 = true ↔ message.Encodable fw := by
  by_cases valid : message.Encodable fw
  · simp [encode_encodable fw message valid, valid]
  · simp [encode_refused fw message valid, valid]

theorem header_encodeHeader {length : Nat} (sized : length < 2 ^ 32) (rest : Bytes) :
    Wire.header (message.encodeHeader length ++ rest) =
      { message with length := UInt32.ofNat length, options := {}, payload := [] } := by
  have declared : Wire.length (message.encodeHeader length ++ rest) = length := by
    rw [Wire.length]
    simp only [encodeHeader, List.append_assoc]
    exact Wire.field_encode _ sized
  have version : Wire.field (message.encodeHeader length ++ rest) 4 2 = message.version.toNat := by
    simp (disch := decide) only [encodeHeader, List.append_assoc, Wire.field_after, Nat.reduceSub]
    exact Wire.field_encode _ message.version.toNat_lt
  have packetType : Wire.field (message.encodeHeader length ++ rest) 6 2 =
      message.packetType.toNat := by
    simp (disch := decide) only [encodeHeader, List.append_assoc, Wire.field_after, Nat.reduceSub]
    exact Wire.field_encode _ message.packetType.toNat_lt
  have seq : Wire.field (message.encodeHeader length ++ rest) 8 4 = message.seq.toNat := by
    simp (disch := decide) only [encodeHeader, List.append_assoc, Wire.field_after, Nat.reduceSub]
    exact Wire.field_encode _ message.seq.toNat_lt
  have ext : Wire.field (message.encodeHeader length ++ rest) 12 2 = message.ext.toNat := by
    simp (disch := decide) only [encodeHeader, List.append_assoc, Wire.field_after, Nat.reduceSub]
    exact Wire.field_encode _ message.ext.toNat_lt
  simp only [Wire.header, Wire.packetType, declared, version, packetType, seq, ext,
    UInt16.ofNat_toNat, UInt32.ofNat_toNat]

theorem header_frame (sized : message.frameLength fw < 2 ^ 32) (suffix : Bytes) :
    Wire.header (message.frame fw ++ suffix) =
      { message with
        length := UInt32.ofNat (message.frameLength fw)
        options := {}
        payload := [] } := by
  rw [frame, Nat.mod_eq_of_lt sized, List.append_assoc]
  exact message.header_encodeHeader sized _

theorem encode_header : ∃ length rest, length < 2 ^ 32 ∧
    (message.encode fw).2 = message.encodeHeader length ++ rest := by
  by_cases valid : message.Encodable fw
  · rw [encode_encodable fw message valid]
    exact ⟨_, _, Nat.mod_lt _ (by decide), rfl⟩
  · rw [encode_refused fw message valid]
    exact ⟨0, [], by decide, (List.append_nil _).symm⟩

theorem headerLength_le_encode : 14 ≤ (message.encode fw).2.length := by
  obtain ⟨length, rest, _, encoded⟩ := encode_header fw message
  rw [encoded, List.length_append, encodeHeader_length]
  exact Nat.le_add_right 14 rest.length

theorem hasOptions_frame (sized : message.frameLength fw < 2 ^ 32) (suffix : Bytes) :
    Wire.hasOptions fw (message.frame fw ++ suffix) = message.hasOptions fw := by
  rw [Wire.hasOptions, header_frame fw message sized]
  rfl

theorem length_frame (sized : message.frameLength fw < 2 ^ 32) (suffix : Bytes) :
    Wire.length (message.frame fw ++ suffix) = message.frameLength fw := by
  rw [← Wire.header_length, header_frame fw message sized]
  exact UInt32.toNat_ofNat_of_lt' sized

theorem block_frame (suffix : Bytes) :
    Wire.block (message.frame fw ++ suffix) =
      message.optionsBytes fw ++ (message.payload ++ suffix) := by
  rw [Wire.block, frame, List.append_assoc, List.append_assoc,
    List.drop_left' (encodeHeader_length message _)]

def Uniform : Prop := message.hasOptions fw → message.options.UniformNodeIDs

instance : Decidable (message.Uniform fw) := inferInstanceAs (Decidable (_ → _))

/-- What the receiver of a frame holds: the length is set, and options that the packet type does
    not carry are lost. -/
def received : P2PMessage :=
  { message with
    length := UInt32.ofNat (message.frameLength fw)
    options := if message.hasOptions fw then message.options else {} }

section RoundTrip

variable {fw message} (valid : message.Encodable fw) (sized : message.frameLength fw < 2 ^ 32)
  (uniform : message.Uniform fw) (suffix : Bytes)

include valid sized uniform

theorem payloadOffset_frame :
    Wire.payloadOffset fw (message.frame fw ++ suffix) =
      14 + (message.optionsBytes fw).length := by
  rw [Wire.payloadOffset, hasOptions_frame fw message sized, block_frame]
  by_cases carries : message.hasOptions fw
  · have block : message.optionsBytes fw = message.options.bytes := if_pos carries
    rw [if_pos carries, block, (valid carries).optionsSize_bytes (uniform carries)]
  · have block : message.optionsBytes fw = [] := if_neg carries
    rw [if_neg carries, block, List.length_nil]

theorem optionsFit_frame : Wire.OptionsFit fw (message.frame fw ++ suffix) := by
  intro carries
  rw [hasOptions_frame fw message sized] at carries
  have block : message.optionsBytes fw = message.options.bytes := if_pos carries
  rw [block_frame, block, (valid carries).optionsSize_bytes (uniform carries)]
  simp

theorem ofWire_options_frame :
    (if Wire.hasOptions fw (message.frame fw ++ suffix) then
      ({} : P2PMessageOptions).ofWire [] (Wire.block (message.frame fw ++ suffix)) else {}) =
    if message.hasOptions fw then message.options else {} := by
  rw [hasOptions_frame fw message sized, block_frame]
  by_cases carries : message.hasOptions fw
  · have block : message.optionsBytes fw = message.options.bytes := if_pos carries
    rw [if_pos carries, if_pos carries, block,
      P2PMessageOptions.ofWire_bytes (valid carries) (uniform carries)]
  · rw [if_neg carries, if_neg carries]

theorem payload_frame :
    Wire.payloadSize fw (message.frame fw ++ suffix) = message.payload.length ∧
      slice (message.frame fw ++ suffix) (14 + (message.optionsBytes fw).length)
        message.payload.length = message.payload := by
  constructor
  · rw [Wire.payloadSize, payloadOffset_frame valid sized uniform, length_frame fw message sized,
      frameLength, if_pos (by omega)]
    omega
  · rw [frame, List.append_assoc, List.append_assoc, ← List.append_assoc (message.encodeHeader _)]
    exact slice_field (by simp [encodeHeader_length]) rfl

end RoundTrip

/-- A frame followed by anything decodes to its message. -/
theorem decode_frame (fw : CroppingFramework) {message : P2PMessage}
    (valid : message.Encodable fw) (sized : message.frameLength fw < 2 ^ 32)
    (uniform : message.Uniform fw) (suffix : Bytes) :
    decode fw {} (message.frame fw ++ suffix) =
      .ok (message.frameLength fw, message.received fw) := by
  have size : (message.frame fw ++ suffix).length = message.frameLength fw + suffix.length := by
    simp
  have length := length_frame fw message sized suffix
  have least : 14 ≤ message.frameLength fw := by
    unfold frameLength
    omega
  have rebuilt : ofWire fw (message.frame fw ++ suffix) = message.received fw := by
    have payload := ofWire_payload fw (message.frame fw ++ suffix) (by omega)
    rw [payloadOffset_frame valid sized uniform, (payload_frame valid sized uniform suffix).1,
      (payload_frame valid sized uniform suffix).2] at payload
    have fields : ofWire fw (message.frame fw ++ suffix) =
        { Wire.header (message.frame fw ++ suffix) with
          options := (if Wire.hasOptions fw (message.frame fw ++ suffix) then
            ({} : P2PMessageOptions).ofWire [] (Wire.block (message.frame fw ++ suffix)) else {})
          payload := (ofWire fw (message.frame fw ++ suffix)).payload } := rfl
    rw [fields, payload, ofWire_options_frame valid sized uniform, header_frame fw message sized]
    rfl
  rw [decode_whole fw _ (by omega) (by omega) (optionsFit_frame valid sized uniform suffix), length,
    rebuilt]

theorem decode_encode (fw : CroppingFramework) {message : P2PMessage}
    (valid : message.Encodable fw) (sized : message.frameLength fw < 2 ^ 32)
    (uniform : message.Uniform fw) (suffix : Bytes) :
    decode fw {} ((message.encode fw).2 ++ suffix) =
      .ok (((message.encode fw).2.length : Int), message.received fw) := by
  rw [message.encode_encodable fw valid, decode_frame fw valid sized uniform suffix, frame_length]

/-- A message that carries no options only has to fit the length of a frame. -/
theorem decode_encode_plain (fw : CroppingFramework) {message : P2PMessage}
    (plain : message.hasOptions fw = false) (sized : 14 + message.payload.length < 2 ^ 32)
    (suffix : Bytes) :
    decode fw {} ((message.encode fw).2 ++ suffix) =
      .ok (((message.encode fw).2.length : Int), message.received fw) := by
  have none : message.optionsBytes fw = [] := if_neg (by simp [plain])
  have bare : ¬ message.hasOptions fw := by simp [plain]
  apply decode_encode fw (fun carries => absurd carries bare)
  · rw [frameLength, none]
    exact sized
  · exact fun carries => absurd carries bare

/-- A frame that consists of a header only cannot hold the options that its type carries. -/
theorem decode_encodeHeader (fw : CroppingFramework) (message : P2PMessage)
    (carries : message.hasOptions fw) :
    ∃ malformed, decode fw {} (message.encodeHeader 0) =
      .ok (MessageDecodeStatus.messageError, malformed) := by
  have size := message.encodeHeader_length 0
  have header := message.header_encodeHeader (show 0 < 2 ^ 32 by decide) []
  rw [List.append_nil] at header
  have length : Wire.length (message.encodeHeader 0) = 0 := by
    rw [← Wire.header_length, header]
    rfl
  apply decode_malformed fw _ (by omega) (by omega)
  intro fits
  have block : Wire.block (message.encodeHeader 0) = [] :=
    List.drop_eq_nil_of_le (Nat.le_of_eq size)
  have room := fits (by rw [Wire.hasOptions, header]; exact carries)
  have least := Wire.five_le_optionsSize (Wire.block (message.encodeHeader 0))
  rw [block] at room least
  exact absurd (Nat.le_trans least room) (by decide)

/-- Whatever a receiver makes of an encoding, it reads the seq, the flags and the type of the
    message. -/
theorem decode_encode_header (fw : CroppingFramework) {message decoded : P2PMessage} {result : Int}
    (read : decode fw {} (message.encode fw).2 = .ok (result, decoded)) :
    decoded.seq = message.seq ∧ decoded.ext = message.ext ∧
      decoded.packetType = message.packetType := by
  obtain ⟨length, rest, sized, encoded⟩ := message.encode_header fw
  rw [encoded] at read
  have whole : 14 ≤ (message.encodeHeader length ++ rest).length := by
    rw [List.length_append, encodeHeader_length]
    omega
  have fields := decode_header fw _ whole read
  rw [message.header_encodeHeader sized rest] at fields
  exact fields

end P2PMessage

end BcosGateway
