import BcosGateway.P2PMessage.DecodeWire

namespace BcosGateway

/-- `getCroppedData` returns a range of its buffer, possibly the empty one. Which range it
    is does not matter for what the decoder reads. -/
structure Framework.CropsInside (fw : Framework) : Prop where
  crop : ∀ buffer begin_ count, fw.getCroppedData buffer begin_ count <:+: buffer
  crop_from : ∀ buffer begin_, fw.getCroppedDataFrom buffer begin_ <:+: buffer

theorem CroppingFramework.cropsInside (fw : CroppingFramework) :
    fw.toFramework.CropsInside := by
  constructor
  · intro buffer begin_ count
    rcases Nat.lt_or_ge buffer.length (begin_ + count) with misfits | fits
    · rw [fw.crop_misfits buffer begin_ count misfits]
      exact List.nil_infix
    · rw [fw.crop_fits buffer begin_ count fits]
      exact (List.take_prefix _ _).isInfix.trans (List.drop_suffix _ _).isInfix
  · intro buffer begin_
    rcases Nat.lt_or_ge buffer.length begin_ with misfits | fits
    · rw [fw.crop_from_misfits buffer begin_ misfits]
      exact List.nil_infix
    · rw [fw.crop_from_fits buffer begin_ fits]
      exact (List.drop_suffix _ _).isInfix

def ReadsInside {α : Type} (run : Except Fault α) : Prop :=
  run ≠ .error .outOfBounds ∧ run ≠ .error .signedOverflow

theorem readsInside_ok {α : Type} (value : α) : ReadsInside (.ok value : Except Fault α) :=
  ⟨nofun, nofun⟩

theorem readsInside_nullPointer {α : Type} :
    ReadsInside (.error .nullPointer : Except Fault α) :=
  ⟨nofun, nofun⟩

theorem ReadsInside.bind {α β : Type} {first : Except Fault α} {next : α → Except Fault β}
    (inside : ReadsInside first) (rest : ∀ value, first = .ok value → ReadsInside (next value)) :
    ReadsInside (first >>= next) := by
  cases first with
  | ok value => exact rest value rfl
  | error fault =>
    have bounds : fault ≠ .outOfBounds := fun eq => inside.1 (congrArg Except.error eq)
    have products : fault ≠ .signedOverflow := fun eq => inside.2 (congrArg Except.error eq)
    exact ⟨fun eq => bounds (Except.error.inj eq), fun eq => products (Except.error.inj eq)⟩

namespace P2PMessageOptions

/-- What `decode` may return for a block: `MESSAGE_ERROR`, or the size of the fields. The
    caller adds it to the fourteen bytes of the header in an `int32_t`. -/
def DecodeResult (block : Bytes) (result : Int) : Prop :=
  result = MessageDecodeStatus.messageError ∨
    ∃ offset : Nat, result = offset ∧
      offset = 2 + Wire.groupIDLength block + 2 + Wire.nodeIDLength block + 1 +
        Wire.dstNodeCount block * Wire.nodeIDLength block ∧
      5 ≤ offset ∧ offset ≤ block.length ∧ 14 + offset < 2 ^ 31

theorem decodeResult_size {block : Bytes} (fits : Wire.optionsSize block ≤ block.length) :
    DecodeResult block (Wire.optionsSize block) := by
  have small := Wire.optionsSize_lt block
  refine .inr ⟨Wire.optionsSize block, rfl, ?_, Wire.five_le_optionsSize block, fits, by omega⟩
  unfold Wire.optionsSize
  omega

theorem decode_nonnull {options : P2PMessageOptions} {present : Bytes} (block : Bytes)
    (nonnull : options.srcNodeID = some present) :
    ∃ result decoded, options.decode block = .ok (result, decoded) ∧ DecodeResult block result := by
  rcases Nat.lt_or_ge block.length (Wire.optionsSize block) with misfits | fits
  · obtain ⟨decoded, run⟩ := decode_misfits block nonnull misfits
    exact ⟨_, decoded, run, .inl rfl⟩
  · exact ⟨_, _, decode_fits block nonnull fits, decodeResult_size fits⟩

section Null

variable (block : Bytes) {options : P2PMessageOptions} (null : options.srcNodeID = none)

include null

theorem insertSrcNodeID_null (nodeID : Bytes) :
    (insertSrcNodeID nodeID).run.run options = (.error .nullPointer, options) := by
  have get : (get : Decoder P2PMessageOptions).run.run options = (.ok options, options) := rfl
  rw [insertSrcNodeID, Decoder.bind_ok get, null]
  rfl

/-- The null pointer is met only past the checks that stand before it. -/
theorem decodeNodeIDs_null :
    ∃ fault, (decodeNodeIDs block (2 + Wire.groupIDLength block)).run.run options =
      (.error fault, options) ∧ (fault = .outOfRange ∨ fault = .nullPointer) := by
  obtain ⟨offset1, offset2, _, _, _⟩ := offsets_exact block
  simp only [decodeNodeIDs, offset1]
  by_cases room1 : block.length < 4 + Wire.groupIDLength block
  · exact ⟨_, Decoder.bind_throw (checkOffset_misfits room1), .inl rfl⟩
  have length : readNumber block (2 + Wire.groupIDLength block) 2 =
      .ok (Wire.nodeIDLength block) := readNumber_fits (by omega)
  rw [Decoder.bind_lift (checkOffset_fits (by omega)), Decoder.bind_lift length]
  simp only [offset2]
  by_cases room2 : block.length < 4 + Wire.groupIDLength block + Wire.nodeIDLength block
  · exact ⟨_, Decoder.bind_throw (checkOffset_misfits room2), .inl rfl⟩
  have src : readBytes block (4 + Wire.groupIDLength block) (Wire.nodeIDLength block) =
      .ok (Wire.srcNodeID block) := readBytes_fits (by omega)
  rw [Decoder.bind_lift (checkOffset_fits (by omega)), Decoder.bind_lift src,
    Decoder.bind_error (insertSrcNodeID_null null _)]
  exact ⟨_, rfl, .inr rfl⟩

theorem decodeFields_null :
    ∃ fault result, (decodeFields block).run.run options = (.error fault, result) ∧
      (fault = .outOfRange ∨ fault = .nullPointer) := by
  have bound := Wire.groupIDLength_lt block
  have start : addSize 0 optionsMinLength = 5 := rfl
  rw [decodeFields, start]
  by_cases room : block.length < 5
  · exact ⟨_, _, Decoder.bind_throw (checkOffset_misfits room), .inl rfl⟩
  have length : readNumber block 0 2 = .ok (Wire.groupIDLength block) :=
    readNumber_fits (by omega)
  rw [Decoder.bind_lift (checkOffset_fits (Nat.not_lt.mp room)), Decoder.bind_lift length]
  by_cases group : 2 + Wire.groupIDLength block ≤ block.length
  · rw [Decoder.bind_ok (decodeGroupID_fits block _ 2 options group (by omega))]
    split
    · obtain ⟨fault, run, kind⟩ := decodeNodeIDs_null block null
      exact ⟨fault, _, run, kind⟩
    · have held : { options with
          groupID := Slice.slice block 2 (Wire.groupIDLength block) }.srcNodeID = none := null
      obtain ⟨fault, run, kind⟩ := decodeNodeIDs_null block held
      exact ⟨fault, _, run, kind⟩
  · have refused := decodeGroupID_misfits block _ 2 options (by omega) (Nat.not_le.mp group)
      (by omega)
    exact ⟨_, _, Decoder.bind_error refused, .inl rfl⟩

theorem decode_null :
    options.decode block = .error .nullPointer ∨
      ∃ decoded, options.decode block = .ok (MessageDecodeStatus.messageError, decoded) := by
  obtain ⟨fault, result, run, rfl | rfl⟩ := decodeFields_null block null
  · exact .inr ⟨result, by rw [decode, run]⟩
  · exact .inl (by rw [decode, run])

end Null

theorem decode_readsInside (options : P2PMessageOptions) (block : Bytes) :
    ReadsInside (options.decode block) := by
  cases nonnull : options.srcNodeID with
  | some present =>
    obtain ⟨result, decoded, run, _⟩ := decode_nonnull block nonnull
    rw [run]
    exact readsInside_ok _
  | none =>
    rcases decode_null block nonnull with run | ⟨decoded, run⟩
    · rw [run]
      exact readsInside_nullPointer
    · rw [run]
      exact readsInside_ok _

theorem decode_result {options decoded : P2PMessageOptions} {block : Bytes} {result : Int}
    (run : options.decode block = .ok (result, decoded)) : DecodeResult block result := by
  cases nonnull : options.srcNodeID with
  | some present =>
    obtain ⟨result', decoded', run', kind⟩ := decode_nonnull block nonnull
    rw [run] at run'
    cases run'
    exact kind
  | none =>
    rcases decode_null block nonnull with run' | ⟨decoded', run'⟩
    · rw [run] at run'
      cases run'
    · rw [run] at run'
      cases run'
      exact .inl rfl

end P2PMessageOptions

namespace P2PMessage

theorem decodeHeader_exact (message : P2PMessage) {buffer : Bytes} (whole : 14 ≤ buffer.length) :
    ∃ decoded, message.decodeHeader buffer = .ok (14, decoded) ∧
      decoded.options = message.options ∧ decoded.payload = message.payload := by
  rw [decodeHeader, readNumber_fits (by omega), readNumber_fits (by omega),
    readNumber_fits (by omega), readNumber_fits (by omega), readNumber_fits (by omega)]
  exact ⟨_, rfl, rfl, rfl⟩

variable {fw : Framework}

structure FromBuffer (message : P2PMessage) (buffer : Bytes) (decoded : P2PMessage) : Prop where
  payload : decoded.payload = message.payload ∨ decoded.payload <:+: buffer
  options : decoded.options = message.options ∨
    ∃ block offset, block <:+: buffer ∧
      message.options.decode block = .ok (offset, decoded.options)

theorem decode_header_then (message header : P2PMessage) {buffer : Bytes}
    (whole : 14 ≤ buffer.length) (read : message.decodeHeader buffer = .ok (14, header)) :
    message.decode fw buffer =
      if buffer.length < header.length.toNat then
        .ok (MessageDecodeStatus.messageIncomplete, header)
      else if header.hasOptions fw then do
        let (offset, options) ← header.options.decode (fw.getCroppedDataFrom buffer 14)
        if offset < 0 then return (MessageDecodeStatus.messageError, { header with options })
        return { header with options }.decodePayload fw buffer (14 + offset.toNat)
      else .ok (header.decodePayload fw buffer 14) := by
  have test : ¬ buffer.length < messageHeaderLength := Nat.not_lt.mpr whole
  rw [decode, if_neg test, read]
  simp only [Bind.bind, Except.bind]
  split <;> rfl

theorem decode_runs (fw : Framework) (message : P2PMessage) (buffer : Bytes) :
    ReadsInside (message.decode fw buffer) ∧
      (message.options.srcNodeID ≠ none →
        ∃ result decoded, message.decode fw buffer = .ok (result, decoded)) := by
  rcases Nat.lt_or_ge buffer.length 14 with short | whole
  · have test : buffer.length < messageHeaderLength := short
    rw [decode, if_pos test]
    exact ⟨readsInside_ok _, fun _ => ⟨_, _, rfl⟩⟩
  obtain ⟨header, read, same, _⟩ := decodeHeader_exact message whole
  rw [decode_header_then message header whole read]
  split
  · exact ⟨readsInside_ok _, fun _ => ⟨_, _, rfl⟩⟩
  split
  · constructor
    · apply ReadsInside.bind (P2PMessageOptions.decode_readsInside _ _)
      rintro ⟨offset, options⟩ _
      simp only
      split
      · exact readsInside_ok _
      · exact readsInside_ok _
    · intro nonnull
      obtain ⟨present, held⟩ := Option.ne_none_iff_exists'.mp nonnull
      obtain ⟨offset, options, run, _⟩ := P2PMessageOptions.decode_nonnull
        (fw.getCroppedDataFrom buffer 14) (same ▸ held : header.options.srcNodeID = some present)
      rw [run]
      simp only [Bind.bind, Except.bind]
      split
      · exact ⟨_, _, rfl⟩
      · exact ⟨_, _, rfl⟩
  · exact ⟨readsInside_ok _, fun _ => ⟨_, _, rfl⟩⟩

theorem decode_fromBuffer (crops : fw.CropsInside) {message decoded : P2PMessage} {buffer : Bytes}
    {result : Int} (run : message.decode fw buffer = .ok (result, decoded)) :
    FromBuffer message buffer decoded := by
  rcases Nat.lt_or_ge buffer.length 14 with short | whole
  · have test : buffer.length < messageHeaderLength := short
    rw [decode, if_pos test] at run
    cases run
    exact ⟨.inl rfl, .inl rfl⟩
  obtain ⟨header, read, same, kept⟩ := decodeHeader_exact message whole
  rw [decode_header_then message header whole read] at run
  split at run
  · cases run
    exact ⟨.inl kept, .inl same⟩
  split at run
  · obtain ⟨⟨offset, options⟩, parsed, rest⟩ := bind_eq_ok.mp run
    rw [same] at parsed
    have block := crops.crop_from buffer 14
    simp only at rest
    split at rest
    · cases rest
      exact ⟨.inl kept, .inr ⟨_, offset, block, parsed⟩⟩
    · cases rest
      exact ⟨.inr (crops.crop _ _ _), .inr ⟨_, offset, block, parsed⟩⟩
  · cases run
    exact ⟨.inr (crops.crop _ _ _), .inl same⟩

/-- Every read of the decoder lies inside its buffer, whatever the peer sent. A null source
    pointer, which the constructor never leaves, is all that can stop it. -/
theorem reads_inside_buffer (fw : Framework) (crops : fw.CropsInside) :
    (∀ (message : P2PMessage) (buffer : Bytes), 14 ≤ buffer.length →
      ∃ decoded, message.decodeHeader buffer = .ok (14, decoded)) ∧
    (∀ (options : P2PMessageOptions) (block : Bytes),
      ReadsInside (options.decode block) ∧
      (options.srcNodeID ≠ none → ∃ result decoded, options.decode block = .ok (result, decoded)) ∧
      ∀ result decoded, options.decode block = .ok (result, decoded) →
        P2PMessageOptions.DecodeResult block result) ∧
    (∀ (message : P2PMessage) (buffer : Bytes),
      ReadsInside (message.decode fw buffer) ∧
      (message.options.srcNodeID ≠ none →
        ∃ result decoded, message.decode fw buffer = .ok (result, decoded)) ∧
      ∀ result decoded, message.decode fw buffer = .ok (result, decoded) →
        FromBuffer message buffer decoded) := by
  refine ⟨?header, ?options, ?message⟩
  case header =>
    intro message buffer whole
    obtain ⟨decoded, read, _⟩ := decodeHeader_exact message whole
    exact ⟨decoded, read⟩
  case options =>
    intro options block
    refine ⟨options.decode_readsInside block, ?_, fun _ _ run => P2PMessageOptions.decode_result run⟩
    intro nonnull
    obtain ⟨present, held⟩ := Option.ne_none_iff_exists'.mp nonnull
    obtain ⟨result, decoded, run, _⟩ := P2PMessageOptions.decode_nonnull block held
    exact ⟨result, decoded, run⟩
  case message =>
    intro message buffer
    obtain ⟨inside, returns⟩ := decode_runs fw message buffer
    exact ⟨inside, returns, fun _ _ run => decode_fromBuffer crops run⟩

/-- A unicast frame of the group `g` with two destinations and a payload of two bytes, and the first
    byte of the next frame. -/
def twoDestinations : Bytes :=
  [0, 0, 0, 28, 0, 0, 0, 5, 0, 0, 0, 1, 0, 0, 0, 1, 103, 0, 2, 1, 2, 2, 1, 3, 1, 4, 7, 8, 0]

/-- The frame ends where the payload does, and a buffer that was cut in its options is not left. -/
theorem twoDestinations_reads_inside :
    ReadsInside (decode CroppingFramework.standard {} twoDestinations) ∧
      ReadsInside (decode CroppingFramework.standard {} (twoDestinations.take 20)) ∧
      ∃ decoded, decode CroppingFramework.standard {} twoDestinations = .ok (28, decoded) ∧
        decoded.options.dstNodeIDs = [some [1, 3], some [1, 4]] ∧
        FromBuffer {} twoDestinations decoded := by
  obtain ⟨_, _, reads⟩ := reads_inside_buffer CroppingFramework.standard.toFramework
    CroppingFramework.standard.cropsInside
  obtain ⟨whole, returns, came⟩ := reads {} twoDestinations
  obtain ⟨result, decoded, run⟩ := returns nofun
  have evaluated : (decode CroppingFramework.standard {} twoDestinations).toOption.map
      (fun read => (read.1, read.2.options.dstNodeIDs)) = some (28, [some [1, 3], some [1, 4]]) := by
    decide +kernel
  rw [run] at evaluated
  obtain ⟨rfl, destinations⟩ := Prod.mk.inj (Option.some.inj evaluated)
  exact ⟨whole, (reads {} (twoDestinations.take 20)).1, decoded, run, destinations,
    came _ _ run⟩

/-- `decodeHeader` checks nothing itself; `decode` does, before its only call. -/
theorem decodeHeader_unchecked : ¬ ReadsInside (decodeHeader {} [0, 0, 0]) :=
  fun inside => inside.1 (by decide)

end P2PMessage

end BcosGateway
