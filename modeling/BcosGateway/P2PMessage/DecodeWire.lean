import BcosGateway.P2PMessage.Wire

namespace BcosGateway

open Slice

theorem readBytes_fits {buffer : Bytes} {offset width : Nat}
    (fits : offset + width ≤ buffer.length) :
    readBytes buffer offset width = .ok (slice buffer offset width) := if_pos fits

theorem readNumber_fits {buffer : Bytes} {offset width : Nat}
    (fits : offset + width ≤ buffer.length) :
    readNumber buffer offset width = .ok (Wire.field buffer offset width) := by
  simp [readNumber, readBytes_fits fits, Wire.field]

theorem checkOffset_fits {offset length : Nat} (fits : offset ≤ length) :
    checkOffset offset length = .ok () := if_neg (by omega)

theorem checkOffset_misfits {offset length : Nat} (misfits : length < offset) :
    checkOffset offset length = .error .outOfRange := if_pos misfits

namespace P2PMessageOptions

theorem Decoder.lift {α : Type} (value : Except Fault α) (options : P2PMessageOptions) :
    (liftM value : Decoder α).run.run options = (value, options) := by
  cases value <;> rfl

theorem Decoder.bind_ok {α β : Type} {first : Decoder α} {next : α → Decoder β}
    {options middle : P2PMessageOptions} {value : α}
    (ran : first.run.run options = (.ok value, middle)) :
    (first >>= next).run.run options = (next value).run.run middle := by
  simp only [ExceptT.run_bind, StateT.run_bind, ran]
  rfl

theorem Decoder.bind_error {α β : Type} {first : Decoder α} {next : α → Decoder β}
    {options middle : P2PMessageOptions} {fault : Fault}
    (ran : first.run.run options = (.error fault, middle)) :
    (first >>= next).run.run options = (.error fault, middle) := by
  simp only [ExceptT.run_bind, StateT.run_bind, ran]
  rfl

theorem Decoder.bind_lift {α β : Type} {value : Except Fault α} {result : α}
    {next : α → Decoder β} {options : P2PMessageOptions} (ran : value = .ok result) :
    ((liftM value : Decoder α) >>= next).run.run options = (next result).run.run options :=
  Decoder.bind_ok (by rw [Decoder.lift, ran])

theorem Decoder.bind_throw {α β : Type} {value : Except Fault α} {fault : Fault}
    {next : α → Decoder β} {options : P2PMessageOptions} (ran : value = .error fault) :
    ((liftM value : Decoder α) >>= next).run.run options = (.error fault, options) :=
  Decoder.bind_error (by rw [Decoder.lift, ran])

theorem decodeDstNodeIDs_fits (buffer : Bytes) (nodeIDLength count offset : Nat)
    (fits : offset + count * nodeIDLength ≤ buffer.length)
    (small : offset + count * nodeIDLength < 2 ^ 64) :
    decodeDstNodeIDs buffer nodeIDLength count offset =
      .ok ((List.range count).map fun i =>
        some (slice buffer (offset + i * nodeIDLength) nodeIDLength),
        offset + count * nodeIDLength) := by
  induction count generalizing offset with
  | zero => simp [decodeDstNodeIDs]
  | succ count ih =>
    have total : offset + (count + 1) * nodeIDLength =
        offset + nodeIDLength + count * nodeIDLength := by ring
    rw [total] at fits small
    have next : addSize offset nodeIDLength = offset + nodeIDLength := addSize_eq (by omega)
    have rest := ih (offset + nodeIDLength) fits small
    rw [decodeDstNodeIDs, readBytes_fits (by omega), next, rest, total]
    simp only [Bind.bind, Except.bind, Pure.pure, Except.pure, List.range_succ_eq_map,
      List.map_cons, List.map_map, Nat.zero_mul, Nat.add_zero]
    congr 4
    funext i
    simp only [Function.comp, Nat.succ_mul]
    congr 2
    omega

theorem decodeGroupID_fits (buffer : Bytes) (groupIDLength offset : Nat)
    (options : P2PMessageOptions) (fits : offset + groupIDLength ≤ buffer.length)
    (small : offset + groupIDLength < 2 ^ 64) :
    (decodeGroupID buffer groupIDLength offset).run.run options =
      (.ok (offset + groupIDLength),
        if groupIDLength = 0 then options
        else { options with groupID := slice buffer offset groupIDLength }) := by
  by_cases empty : groupIDLength = 0
  · subst empty
    rfl
  · have positive : groupIDLength > 0 := by omega
    rw [decodeGroupID, if_pos positive, if_neg empty, addSize_eq small,
      Decoder.bind_lift (checkOffset_fits fits), Decoder.bind_lift (readBytes_fits fits)]
    rfl

theorem decodeGroupID_misfits (buffer : Bytes) (groupIDLength offset : Nat)
    (options : P2PMessageOptions) (positive : 0 < groupIDLength)
    (misfits : buffer.length < offset + groupIDLength)
    (small : offset + groupIDLength < 2 ^ 64) :
    (decodeGroupID buffer groupIDLength offset).run.run options = (.error .outOfRange, options) := by
  rw [decodeGroupID, if_pos positive, addSize_eq small,
    Decoder.bind_throw (checkOffset_misfits misfits)]

theorem insertSrcNodeID_run (nodeID present : Bytes) (options : P2PMessageOptions)
    (nonnull : options.srcNodeID = some present) :
    (insertSrcNodeID nodeID).run.run options =
      (.ok (), { options with srcNodeID := some (nodeID ++ present) }) := by
  have get : (get : Decoder P2PMessageOptions).run.run options = (.ok options, options) := rfl
  rw [insertSrcNodeID, Decoder.bind_ok get, nonnull]
  rfl

def ofWire (options : P2PMessageOptions) (present : Bytes) (block : Bytes) : P2PMessageOptions where
  groupID := if Wire.groupIDLength block = 0 then options.groupID else Wire.groupID block
  srcNodeID := some (Wire.srcNodeID block ++ present)
  dstNodeIDs := (Wire.dstNodeIDs block).map some

theorem offsets_exact (block : Bytes) :
    addSize (2 + Wire.groupIDLength block) 2 = 4 + Wire.groupIDLength block ∧
    addSize (4 + Wire.groupIDLength block) (Wire.nodeIDLength block) =
      4 + Wire.groupIDLength block + Wire.nodeIDLength block ∧
    addSize (4 + Wire.groupIDLength block + Wire.nodeIDLength block) 1 =
      5 + Wire.groupIDLength block + Wire.nodeIDLength block ∧
    mulInt (Wire.dstNodeCount block) (Wire.nodeIDLength block) =
      .ok (Wire.dstNodeCount block * Wire.nodeIDLength block) ∧
    addSize (5 + Wire.groupIDLength block + Wire.nodeIDLength block)
      (Wire.dstNodeCount block * Wire.nodeIDLength block) = Wire.optionsSize block := by
  have group := Wire.groupIDLength_lt block
  have node := Wire.nodeIDLength_lt block
  have dst := Wire.dstNodeIDs_size_lt block
  -- no sum wraps: the sizes are two 16-bit lengths and an 8-bit count
  refine ⟨?_, addSize_eq (by omega), ?_, mulInt_eq (by omega), ?_⟩
  · rw [addSize_eq] <;> omega
  · rw [addSize_eq] <;> omega
  · rw [addSize_eq, Wire.optionsSize]
    omega

section Block

variable (block : Bytes) {options : P2PMessageOptions} {present : Bytes}
  (nonnull : options.srcNodeID = some present)

include nonnull

theorem decodeNodeIDs_fits (fits : Wire.optionsSize block ≤ block.length) :
    (decodeNodeIDs block (2 + Wire.groupIDLength block)).run.run options =
      (.ok (Wire.optionsSize block),
        { options with
          srcNodeID := some (Wire.srcNodeID block ++ present)
          dstNodeIDs := (Wire.dstNodeIDs block).map some }) := by
  have small := Wire.optionsSize_lt block
  have size : Wire.optionsSize block = 5 + Wire.groupIDLength block + Wire.nodeIDLength block
    + Wire.dstNodeCount block * Wire.nodeIDLength block := rfl
  obtain ⟨offset1, offset2, offset3, product, offset4⟩ := offsets_exact block
  have length : readNumber block (2 + Wire.groupIDLength block) 2 =
      .ok (Wire.nodeIDLength block) := readNumber_fits (by omega)
  have count : readNumber block (4 + Wire.groupIDLength block + Wire.nodeIDLength block) 1 =
      .ok (Wire.dstNodeCount block) := readNumber_fits (by omega)
  have src : readBytes block (4 + Wire.groupIDLength block) (Wire.nodeIDLength block) =
      .ok (Wire.srcNodeID block) := readBytes_fits (by omega)
  have dst := decodeDstNodeIDs_fits block (Wire.nodeIDLength block) (Wire.dstNodeCount block)
    (5 + Wire.groupIDLength block + Wire.nodeIDLength block) (by omega) (by omega)
  simp only [decodeNodeIDs, offset1]
  rw [Decoder.bind_lift (checkOffset_fits (by omega)), Decoder.bind_lift length]
  simp only [offset2, offset3]
  rw [Decoder.bind_lift (checkOffset_fits (by omega)), Decoder.bind_lift src,
    Decoder.bind_ok (insertSrcNodeID_run _ present options nonnull),
    Decoder.bind_lift (checkOffset_fits (by omega)), Decoder.bind_lift count,
    Decoder.bind_lift product, offset4, Decoder.bind_lift (checkOffset_fits fits),
    Decoder.bind_lift dst]
  simp only [Wire.dstNodeIDs, List.map_map]
  rfl

theorem decodeNodeIDs_misfits (misfits : block.length < Wire.optionsSize block) :
    ∃ result, (decodeNodeIDs block (2 + Wire.groupIDLength block)).run.run options =
      (.error .outOfRange, result) := by
  obtain ⟨offset1, offset2, offset3, product, offset4⟩ := offsets_exact block
  simp only [decodeNodeIDs, offset1]
  -- the first check that has no room throws
  by_cases room1 : block.length < 4 + Wire.groupIDLength block
  · exact ⟨_, Decoder.bind_throw (checkOffset_misfits room1)⟩
  have length : readNumber block (2 + Wire.groupIDLength block) 2 =
      .ok (Wire.nodeIDLength block) := readNumber_fits (by omega)
  rw [Decoder.bind_lift (checkOffset_fits (by omega)), Decoder.bind_lift length]
  simp only [offset2, offset3]
  by_cases room2 : block.length < 4 + Wire.groupIDLength block + Wire.nodeIDLength block
  · exact ⟨_, Decoder.bind_throw (checkOffset_misfits room2)⟩
  have src : readBytes block (4 + Wire.groupIDLength block) (Wire.nodeIDLength block) =
      .ok (Wire.srcNodeID block) := readBytes_fits (by omega)
  rw [Decoder.bind_lift (checkOffset_fits (by omega)), Decoder.bind_lift src,
    Decoder.bind_ok (insertSrcNodeID_run _ present options nonnull)]
  by_cases room3 : block.length < 5 + Wire.groupIDLength block + Wire.nodeIDLength block
  · exact ⟨_, Decoder.bind_throw (checkOffset_misfits room3)⟩
  have count : readNumber block (4 + Wire.groupIDLength block + Wire.nodeIDLength block) 1 =
      .ok (Wire.dstNodeCount block) := readNumber_fits (by omega)
  rw [Decoder.bind_lift (checkOffset_fits (by omega)), Decoder.bind_lift count,
    Decoder.bind_lift product, offset4]
  exact ⟨_, Decoder.bind_throw (checkOffset_misfits misfits)⟩

theorem decode_fits (fits : Wire.optionsSize block ≤ block.length) :
    options.decode block = .ok (Wire.optionsSize block, options.ofWire present block) := by
  have least := Wire.five_le_optionsSize block
  have bound := Wire.groupIDLength_lt block
  have group : 2 + Wire.groupIDLength block ≤ block.length := by
    unfold Wire.optionsSize at fits
    omega
  have start : addSize 0 optionsMinLength = 5 := rfl
  have length : readNumber block 0 2 = .ok (Wire.groupIDLength block) :=
    readNumber_fits (by omega)
  have run : (decodeFields block).run.run options =
      (.ok (Wire.optionsSize block), options.ofWire present block) := by
    rw [decodeFields, start, Decoder.bind_lift (checkOffset_fits (le_trans least fits)),
      Decoder.bind_lift length,
      Decoder.bind_ok (decodeGroupID_fits block _ 2 options group (by omega))]
    by_cases empty : Wire.groupIDLength block = 0
    · rw [if_pos empty, decodeNodeIDs_fits block nonnull fits, ofWire, if_pos empty]
    · rw [if_neg empty, decodeNodeIDs_fits block (by exact nonnull) fits, ofWire, if_neg empty]
      rfl
  rw [decode, run]

theorem decode_misfits (misfits : block.length < Wire.optionsSize block) :
    ∃ result, options.decode block = .ok (MessageDecodeStatus.messageError, result) := by
  have bound := Wire.groupIDLength_lt block
  have run : ∃ result, (decodeFields block).run.run options = (.error .outOfRange, result) := by
    have start : addSize 0 optionsMinLength = 5 := rfl
    rw [decodeFields, start]
    by_cases room : block.length < 5
    · exact ⟨_, Decoder.bind_throw (checkOffset_misfits room)⟩
    have length : readNumber block 0 2 = .ok (Wire.groupIDLength block) :=
      readNumber_fits (by omega)
    rw [Decoder.bind_lift (checkOffset_fits (Nat.not_lt.mp room)), Decoder.bind_lift length]
    by_cases group : 2 + Wire.groupIDLength block ≤ block.length
    · rw [Decoder.bind_ok (decodeGroupID_fits block _ 2 options group (by omega))]
      split
      · exact decodeNodeIDs_misfits block nonnull misfits
      · exact decodeNodeIDs_misfits block (by exact nonnull) misfits
    · have refused := decodeGroupID_misfits block _ 2 options (by omega) (Nat.not_le.mp group)
        (by omega)
      exact ⟨_, Decoder.bind_error refused⟩
  obtain ⟨result, run⟩ := run
  exact ⟨result, by rw [decode, run]⟩

end Block

end P2PMessageOptions

namespace P2PMessage

theorem decodeHeader_fits (bytes : Bytes) (fits : 14 ≤ bytes.length) :
    decodeHeader {} bytes = .ok (14, Wire.header bytes) := by
  rw [decodeHeader, readNumber_fits (by omega), readNumber_fits (by omega),
    readNumber_fits (by omega), readNumber_fits (by omega), readNumber_fits (by omega)]
  rfl

variable (fw : CroppingFramework) (bytes : Bytes)

theorem decode_short (short : bytes.length < 14) :
    decode fw {} bytes = .ok (MessageDecodeStatus.messageIncomplete, {}) := by
  have test : bytes.length < messageHeaderLength := short
  rw [decode, if_pos test]
  rfl

theorem decode_incomplete (whole : 14 ≤ bytes.length) (short : bytes.length < Wire.length bytes) :
    decode fw {} bytes = .ok (MessageDecodeStatus.messageIncomplete, Wire.header bytes) := by
  have test : ¬ bytes.length < messageHeaderLength := Nat.not_lt.mpr whole
  rw [decode, if_neg test, decodeHeader_fits bytes whole]
  simp only [Bind.bind, Except.bind, Wire.header_length, short, if_true]
  rfl

/-- The options block is cut from all that was received, not only from this frame. -/
theorem decode_received (whole : 14 ≤ bytes.length) (received : Wire.length bytes ≤ bytes.length) :
    decode fw {} bytes =
      if Wire.hasOptions fw bytes then do
        let (size, options) ← ({} : P2PMessageOptions).decode (Wire.block bytes)
        let message := { Wire.header bytes with options }
        if size < 0 then return (MessageDecodeStatus.messageError, message)
        return message.decodePayload fw bytes (14 + size.toNat)
      else .ok ((Wire.header bytes).decodePayload fw bytes 14) := by
  have test : ¬ bytes.length < messageHeaderLength := Nat.not_lt.mpr whole
  have test2 : ¬ bytes.length < Wire.length bytes := Nat.not_lt.mpr received
  have crop : fw.getCroppedDataFrom bytes 14 = Wire.block bytes := fw.crop_from_fits bytes 14 whole
  rw [decode, if_neg test, decodeHeader_fits bytes whole]
  simp only [Bind.bind, Except.bind, Wire.header_length, test2, if_false, crop]
  rfl

theorem decode_malformed (whole : 14 ≤ bytes.length) (received : Wire.length bytes ≤ bytes.length)
    (misfits : ¬ Wire.OptionsFit fw bytes) :
    ∃ message, decode fw {} bytes = .ok (MessageDecodeStatus.messageError, message) := by
  obtain ⟨carries, misfits⟩ : Wire.hasOptions fw bytes = true ∧
      (Wire.block bytes).length < Wire.optionsSize (Wire.block bytes) := by
    simpa [Wire.OptionsFit] using misfits
  obtain ⟨options, refused⟩ : ∃ options, ({} : P2PMessageOptions).decode (Wire.block bytes) =
      .ok (MessageDecodeStatus.messageError, options) :=
    P2PMessageOptions.decode_misfits (Wire.block bytes) rfl misfits
  rw [decode_received fw bytes whole received, if_pos carries, refused]
  exact ⟨_, rfl⟩

def ofWire : P2PMessage :=
  { Wire.header bytes with
    options :=
      if Wire.hasOptions fw bytes then ({} : P2PMessageOptions).ofWire [] (Wire.block bytes) else {}
    payload := fw.getCroppedData bytes (Wire.payloadOffset fw bytes)
      ((Wire.header bytes).length - UInt32.ofNat (Wire.payloadOffset fw bytes)).toNat }

theorem decode_whole (whole : 14 ≤ bytes.length) (received : Wire.length bytes ≤ bytes.length)
    (fits : Wire.OptionsFit fw bytes) :
    decode fw {} bytes = .ok (Wire.length bytes, ofWire fw bytes) := by
  rw [decode_received fw bytes whole received]
  by_cases carries : Wire.hasOptions fw bytes
  · rw [if_pos carries, P2PMessageOptions.decode_fits (Wire.block bytes) rfl (fits carries)]
    have size : ¬ (Wire.optionsSize (Wire.block bytes) : Int) < 0 := by omega
    simp only [Bind.bind, Except.bind, size, if_false, Int.toNat_natCast, decodePayload, ofWire,
      Wire.payloadOffset, carries, if_true, Wire.header_length]
    rfl
  · rw [if_neg carries]
    simp only [decodePayload, ofWire, Wire.payloadOffset, carries, Wire.header_length]
    rfl

theorem payload_difference :
    ((Wire.header bytes).length - UInt32.ofNat (Wire.payloadOffset fw bytes)).toNat =
      if Wire.payloadOffset fw bytes ≤ Wire.length bytes then
        Wire.length bytes - Wire.payloadOffset fw bytes
      else 2 ^ 32 + Wire.length bytes - Wire.payloadOffset fw bytes := by
  have small := Wire.payloadOffset_lt fw bytes
  have bound := Wire.length_lt bytes
  have offset : (UInt32.ofNat (Wire.payloadOffset fw bytes)).toNat = Wire.payloadOffset fw bytes :=
    UInt32.toNat_ofNat_of_lt' (Nat.lt_of_lt_of_le small (by decide))
  rw [UInt32.toNat_sub, offset, Wire.header_length]
  split <;> omega

theorem ofWire_payload (received : Wire.length bytes ≤ bytes.length) :
    (ofWire fw bytes).payload =
      Slice.slice bytes (Wire.payloadOffset fw bytes) (Wire.payloadSize fw bytes) := by
  have small := Wire.payloadOffset_lt fw bytes
  have cropped : (ofWire fw bytes).payload = fw.getCroppedData bytes (Wire.payloadOffset fw bytes)
    ((Wire.header bytes).length - UInt32.ofNat (Wire.payloadOffset fw bytes)).toNat := rfl
  rw [cropped, payload_difference, Wire.payloadSize]
  by_cases inside : Wire.payloadOffset fw bytes ≤ Wire.length bytes
  · rw [if_pos inside, if_pos inside]
    exact fw.crop_fits _ _ _ (by omega)
  rw [if_neg inside, if_neg inside]
  by_cases huge : 2 ^ 32 + Wire.length bytes ≤ bytes.length
  · rw [if_pos huge]
    exact fw.crop_fits _ _ _ (by omega)
  · rw [if_neg huge, Slice.slice_zero]
    exact fw.crop_misfits _ _ _ (by omega)

theorem ofWire_payload_length (received : Wire.length bytes ≤ bytes.length) :
    (ofWire fw bytes).payload.length = Wire.payloadSize fw bytes := by
  have small := Wire.payloadOffset_lt fw bytes
  rw [ofWire_payload fw bytes received]
  by_cases empty : Wire.payloadSize fw bytes = 0
  · simp [empty]
  · apply Slice.slice_length
    unfold Wire.payloadSize at empty ⊢
    split_ifs at empty ⊢ <;> omega

theorem decode_cases :
    (∃ message, decode fw {} bytes = .ok (MessageDecodeStatus.messageIncomplete, message) ∧
      (bytes.length < 14 ∨ bytes.length < Wire.length bytes)) ∨
    (∃ message, decode fw {} bytes = .ok (MessageDecodeStatus.messageError, message) ∧
      14 ≤ bytes.length ∧ Wire.length bytes ≤ bytes.length ∧ ¬ Wire.OptionsFit fw bytes) ∨
    (decode fw {} bytes = .ok (Wire.length bytes, ofWire fw bytes) ∧
      14 ≤ bytes.length ∧ Wire.length bytes ≤ bytes.length ∧ Wire.OptionsFit fw bytes) := by
  by_cases whole : bytes.length < 14
  · exact .inl ⟨_, decode_short fw bytes whole, .inl whole⟩
  rw [Nat.not_lt] at whole
  by_cases received : bytes.length < Wire.length bytes
  · exact .inl ⟨_, decode_incomplete fw bytes whole received, .inr received⟩
  rw [Nat.not_lt] at received
  by_cases fits : Wire.OptionsFit fw bytes
  · exact .inr (.inr ⟨decode_whole fw bytes whole received fits, whole, received, fits⟩)
  · obtain ⟨message, refused⟩ := decode_malformed fw bytes whole received fits
    exact .inr (.inl ⟨message, refused, whole, received, fits⟩)

theorem decode_header (whole : 14 ≤ bytes.length) {result : Int} {message : P2PMessage}
    (decoded : decode fw {} bytes = .ok (result, message)) :
    message.seq = (Wire.header bytes).seq ∧ message.ext = (Wire.header bytes).ext ∧
      message.packetType = (Wire.header bytes).packetType := by
  by_cases received : bytes.length < Wire.length bytes
  · rw [decode_incomplete fw bytes whole received] at decoded
    cases decoded
    exact ⟨rfl, rfl, rfl⟩
  rw [decode_received fw bytes whole (Nat.not_lt.mp received)] at decoded
  split at decoded
  · obtain ⟨⟨size, options⟩, _, rest⟩ := bind_eq_ok.mp decoded
    simp only at rest
    split at rest
    · cases rest
      exact ⟨rfl, rfl, rfl⟩
    · cases rest
      exact ⟨rfl, rfl, rfl⟩
  · cases decoded
    exact ⟨rfl, rfl, rfl⟩

/-- A positive result is the declared length of a frame that was received. -/
theorem decode_positive {result : Int} {message : P2PMessage}
    (decoded : decode fw {} bytes = .ok (result, message)) (positive : 0 < result) :
    result = Wire.length bytes ∧ message = ofWire fw bytes ∧ 14 ≤ bytes.length ∧
      Wire.length bytes ≤ bytes.length ∧ Wire.OptionsFit fw bytes := by
  rcases decode_cases fw bytes with ⟨_, run, _⟩ | ⟨_, run, _⟩ | ⟨run, rest⟩
  all_goals
    rw [decoded] at run
    obtain ⟨rfl, rfl⟩ := Prod.mk.inj (Except.ok.inj run)
  · exact absurd positive (by decide)
  · exact absurd positive (by decide)
  · exact ⟨rfl, rfl, rest⟩

end P2PMessage

end BcosGateway
