import BcosGateway.P2PMessage.Codec

/-! Which of the frames that a receiver accepts are encodings of what it holds then. -/

namespace BcosGateway

open Slice

namespace Wire

theorem encode_field {bytes : Bytes} {offset width : Nat}
    (fits : offset + width ≤ bytes.length) :
    BigEndian.encode width (field bytes offset width) = slice bytes offset width := by
  have whole := BigEndian.encode_number (slice bytes offset width)
  rw [slice_length fits] at whole
  exact whole

theorem header_take {bytes : Bytes} (whole : 14 ≤ bytes.length) :
    (header bytes).encodeHeader (length bytes) = bytes.take 14 := by
  have version : (UInt16.ofNat (field bytes 4 2)).toNat = field bytes 4 2 :=
    UInt16.toNat_ofNat_of_lt' (field_lt bytes 4 2)
  have packetType : (UInt16.ofNat (field bytes 6 2)).toNat = field bytes 6 2 :=
    UInt16.toNat_ofNat_of_lt' (field_lt bytes 6 2)
  have seq : (UInt32.ofNat (field bytes 8 4)).toNat = field bytes 8 4 :=
    UInt32.toNat_ofNat_of_lt' (field_lt bytes 8 4)
  have ext : (UInt16.ofNat (field bytes 12 2)).toNat = field bytes 12 2 :=
    UInt16.toNat_ofNat_of_lt' (field_lt bytes 12 2)
  simp only [P2PMessage.encodeHeader, header, Wire.packetType, version, packetType, seq, ext,
    Wire.length]
  rw [encode_field (by omega), encode_field (by omega), encode_field (by omega),
    encode_field (by omega), encode_field (by omega), slice_append_slice rfl,
    slice_append_slice rfl, slice_append_slice rfl, slice_append_slice rfl, slice_start]

end Wire

namespace P2PMessageOptions

variable {block : Bytes}

theorem groupID_ofWire : (({} : P2PMessageOptions).ofWire [] block).groupID = Wire.groupID block := by
  unfold ofWire
  by_cases empty : Wire.groupIDLength block = 0
  · rw [if_pos empty, Wire.groupID, empty, slice_zero]
  · rw [if_neg empty]

theorem src_ofWire : (({} : P2PMessageOptions).ofWire [] block).src = Wire.srcNodeID block :=
  List.append_nil _

theorem dsts_ofWire : (({} : P2PMessageOptions).ofWire [] block).dsts = Wire.dstNodeIDs block := by
  rw [dsts, ofWire, List.map_map]
  exact List.map_id _

/-- The options of a block are written as the block that they were read from. -/
theorem bytes_ofWire (fits : Wire.optionsSize block ≤ block.length) :
    (({} : P2PMessageOptions).ofWire [] block).bytes = block.take (Wire.optionsSize block) := by
  have size := Wire.optionsSize.eq_1 block
  have group : (Wire.groupID block).length = Wire.groupIDLength block := slice_length (by omega)
  have src : (Wire.srcNodeID block).length = Wire.nodeIDLength block := slice_length (by omega)
  have count : (({} : P2PMessageOptions).ofWire [] block).dstNodeIDs.length =
      Wire.dstNodeCount block := by
    simp [ofWire, Wire.dstNodeIDs]
  have dsts : (Wire.dstNodeIDs block).flatten =
      slice block (5 + Wire.groupIDLength block + Wire.nodeIDLength block)
        (Wire.dstNodeCount block * Wire.nodeIDLength block) :=
    flatten_slices block _ _ _
  rw [bytes, groupID_ofWire, src_ofWire, dsts_ofWire, group, src, count, dsts]
  have first : BigEndian.encode 2 (Wire.groupIDLength block) = slice block 0 2 :=
    Wire.encode_field (by omega)
  have second : BigEndian.encode 2 (Wire.nodeIDLength block) =
      slice block (2 + Wire.groupIDLength block) 2 :=
    Wire.encode_field (by omega)
  have third : BigEndian.encode 1 (Wire.dstNodeCount block) =
      slice block (4 + Wire.groupIDLength block + Wire.nodeIDLength block) 1 :=
    Wire.encode_field (by omega)
  rw [first, second, third, Wire.groupID, Wire.srcNodeID]
  simp (disch := omega) only [slice_append_slice]
  rw [slice_start]
  congr 1
  omega

theorem encodable_ofWire (fits : Wire.optionsSize block ≤ block.length) :
    (({} : P2PMessageOptions).ofWire [] block).Encodable ↔ 0 < Wire.nodeIDLength block := by
  have size := Wire.optionsSize.eq_1 block
  have src : (Wire.srcNodeID block).length = Wire.nodeIDLength block := slice_length (by omega)
  constructor
  · intro valid
    have positive := valid.src_length.1
    rw [src_ofWire, src] at positive
    exact positive
  · intro positive
    have short := Wire.nodeIDLength_lt block
    have valid : ∀ nodeID : Bytes, nodeID.length = Wire.nodeIDLength block →
        validNodeID (some nodeID) = true := by
      intro nodeID same
      have filled : nodeID ≠ [] := List.ne_nil_of_length_pos (by omega)
      have most : nodeID.length ≤ maxNodeIDLength := by
        unfold maxNodeIDLength
        omega
      simp [validNodeID, filled, most]
    refine ⟨?_, ?_, ?_, ?_⟩
    · rw [groupID_ofWire, Wire.groupID, slice_length (by omega)]
      exact Nat.le_of_lt_succ (Wire.groupIDLength_lt block)
    · apply valid
      rw [List.append_nil, src]
    · have count := Wire.dstNodeCount_lt block
      simp only [ofWire, Wire.dstNodeIDs, List.length_map, List.length_range]
      exact Nat.le_of_lt_succ count
    · rw [List.all_eq_true]
      intro nodeID member
      obtain ⟨bytes, read, rfl⟩ := List.mem_map.mp member
      exact valid bytes (Wire.dstNodeID_length block fits bytes read)

end P2PMessageOptions

namespace P2PMessage

variable (fw : CroppingFramework) {bytes : Bytes}

theorem hasOptions_ofWire : (ofWire fw bytes).hasOptions fw = Wire.hasOptions fw bytes := rfl

theorem encodable_ofWire (fits : Wire.OptionsFit fw bytes) :
    (ofWire fw bytes).Encodable fw ↔
      (Wire.hasOptions fw bytes → 0 < Wire.nodeIDLength (Wire.block bytes)) := by
  unfold Encodable
  rw [hasOptions_ofWire]
  apply forall_congr'
  intro carries
  have options : (ofWire fw bytes).options =
      ({} : P2PMessageOptions).ofWire [] (Wire.block bytes) := if_pos carries
  rw [options]
  exact P2PMessageOptions.encodable_ofWire (fits carries)

theorem optionsBytes_ofWire (fits : Wire.OptionsFit fw bytes) :
    (ofWire fw bytes).optionsBytes fw =
      slice bytes 14 (Wire.payloadOffset fw bytes - 14) := by
  unfold optionsBytes Wire.payloadOffset
  rw [hasOptions_ofWire]
  cases carries : Wire.hasOptions fw bytes with
  | false => rfl
  | true =>
    have options : (ofWire fw bytes).options =
        ({} : P2PMessageOptions).ofWire [] (Wire.block bytes) := if_pos carries
    rw [if_pos rfl, if_pos rfl, options,
      P2PMessageOptions.bytes_ofWire (fits carries), Nat.add_sub_cancel_left]
    rfl

theorem payloadOffset_le (whole : 14 ≤ bytes.length) (fits : Wire.OptionsFit fw bytes) :
    Wire.payloadOffset fw bytes ≤ bytes.length := by
  unfold Wire.payloadOffset
  cases carries : Wire.hasOptions fw bytes with
  | false => exact whole
  | true =>
    have inside := fits carries
    rw [Wire.block, List.length_drop] at inside
    rw [if_pos rfl]
    change 14 + Wire.optionsSize (bytes.drop 14) ≤ bytes.length
    omega

theorem frameLength_ofWire (whole : 14 ≤ bytes.length)
    (received : Wire.length bytes ≤ bytes.length) (fits : Wire.OptionsFit fw bytes) :
    (ofWire fw bytes).frameLength fw =
      Wire.payloadOffset fw bytes + Wire.payloadSize fw bytes := by
  have start := Wire.header_le_payloadOffset fw bytes
  have stop := payloadOffset_le fw whole fits
  rw [frameLength, optionsBytes_ofWire fw fits, slice_length (by omega),
    ofWire_payload_length fw bytes received]
  omega

/-- What a receiver holds of a frame is written as the frame, unless the options pass the declared
    length or name their nodes by nothing. -/
theorem encode_decode {result : Int} {message : P2PMessage}
    (decoded : decode fw {} bytes = .ok (result, message)) (accepted : 0 < result) :
    message.encode fw = (true, bytes.take result.toNat) ↔
      Wire.payloadOffset fw bytes ≤ Wire.length bytes ∧
        (Wire.hasOptions fw bytes → 0 < Wire.nodeIDLength (Wire.block bytes)) := by
  obtain ⟨rfl, rfl, whole, received, fits⟩ := decode_positive fw bytes decoded accepted
  have size := frameLength_ofWire fw whole received fits
  have start := Wire.header_le_payloadOffset fw bytes
  rw [Int.toNat_natCast]
  constructor
  · intro same
    have encoded : ((ofWire fw bytes).encode fw).1 = true := by rw [same]
    have valid := (encode_true_iff fw _).mp encoded
    refine ⟨?_, (encodable_ofWire fw fits).mp valid⟩
    rw [encode_encodable fw _ valid] at same
    have frame := congrArg List.length (Prod.mk.inj same).2
    rw [frame_length, size, List.length_take] at frame
    omega
  · rintro ⟨inside, named⟩
    have valid := (encodable_ofWire fw fits).mpr named
    have payload : Wire.payloadSize fw bytes =
        Wire.length bytes - Wire.payloadOffset fw bytes := if_pos inside
    have sized := Wire.length_lt bytes
    have declared : (ofWire fw bytes).frameLength fw = Wire.length bytes := by omega
    have header : (ofWire fw bytes).encodeHeader (Wire.length bytes) = bytes.take 14 :=
      Wire.header_take whole
    rw [encode_encodable fw _ valid, frame, declared, Nat.mod_eq_of_lt sized, header,
      optionsBytes_ofWire fw fits, ofWire_payload fw bytes received, payload, ← slice_start]
    simp (disch := omega) only [slice_append_slice]
    rw [slice_start]
    congr 2
    omega

def evenFrame : Bytes :=
  [0, 0, 0, 27, 0, 0, 0, 5, 0, 0, 0, 1, 0, 0, 0, 1, 103, 0, 2, 1, 2, 1, 3, 4, 7, 8, 9]

/-- What follows the frame does not matter. -/
theorem evenFrame_encode_decode :
    ∃ message, decode CroppingFramework.standard {} (evenFrame ++ [0, 0]) = .ok (27, message) ∧
      message.encode CroppingFramework.standard = (true, evenFrame) := by
  refine ⟨ofWire CroppingFramework.standard (evenFrame ++ [0, 0]), ?_, ?_⟩
  · exact decode_whole CroppingFramework.standard _ (by decide) (by decide +kernel)
      (by decide +kernel)
  · exact (encode_decode CroppingFramework.standard (decode_whole CroppingFramework.standard _
      (by decide) (by decide +kernel) (by decide +kernel)) (by decide +kernel)).mpr
        (by decide +kernel)

end P2PMessage

end BcosGateway
