import BcosGateway.P2PMessage.Codec

namespace BcosGateway.P2PMessage

section Fields

variable (fw : Framework)

structure SameFields (message decoded : P2PMessage) : Prop where
  version : decoded.version = message.version
  packetType : decoded.packetType = message.packetType
  seq : decoded.seq = message.seq
  ext : decoded.ext = message.ext
  payload : decoded.payload = message.payload
  options : message.hasOptions fw →
    decoded.options.groupID = message.options.groupID ∧
      decoded.options.srcNodeID = message.options.srcNodeID ∧
      decoded.options.dstNodeIDs = message.options.dstNodeIDs

theorem received_sameFields (message : P2PMessage) :
    message.SameFields fw (message.received fw) := by
  refine ⟨rfl, rfl, rfl, rfl, rfl, fun carries => ?_⟩
  rw [received, if_pos carries]
  exact ⟨rfl, rfl, rfl⟩

def DecodesBack (message : P2PMessage) : Prop :=
  ∀ suffix, ∃ decoded,
    decode fw {} ((message.encode fw).2 ++ suffix) = .ok ((message.encode fw).2.length, decoded) ∧
      message.SameFields fw decoded

end Fields

variable (fw : CroppingFramework) (message : P2PMessage)

theorem decoded_dstNodeIDs_length (valid : message.Encodable fw)
    (sized : message.frameLength fw < 2 ^ 32) (carries : message.hasOptions fw)
    {result : Int} {decoded : P2PMessage}
    (run : decode fw {} (message.frame fw) = .ok (result, decoded)) (positive : 0 < result) :
    ∀ nodeID ∈ decoded.options.dstNodeIDs,
      (nodeID.getD []).length = message.options.src.length := by
  obtain ⟨_, rfl, _, _, fits⟩ := decode_positive fw _ run positive
  have carried : Wire.hasOptions fw (message.frame fw) := by
    have same := hasOptions_frame fw message sized []
    rw [List.append_nil] at same
    exact same.trans carries
  have block := block_frame fw message []
  rw [List.append_nil, List.append_nil] at block
  have opts : message.optionsBytes fw = message.options.bytes := if_pos carries
  have length := (valid carries).nodeIDLength_bytes message.payload
  rw [← opts, ← block] at length
  have options : (ofWire fw (message.frame fw)).options.dstNodeIDs =
      (Wire.dstNodeIDs (Wire.block (message.frame fw))).map some := by
    simp only [ofWire, carried, if_true, P2PMessageOptions.ofWire]
  intro nodeID member
  rw [options] at member
  obtain ⟨bytes, present, rfl⟩ := List.mem_map.mp member
  rw [← length]
  exact Wire.dstNodeID_length _ (fits carried) bytes present

theorem decodesBack_iff_uniform (encoded : (message.encode fw).1 = true)
    (sized : (message.encode fw).2.length < 2 ^ 32) :
    message.DecodesBack fw ↔ message.Uniform fw := by
  have valid := (encode_true_iff fw message).mp encoded
  have frame : (message.encode fw).2 = message.frame fw := by rw [encode_encodable fw message valid]
  rw [frame, frame_length] at sized
  constructor
  · intro back carries nodeID member
    obtain ⟨decoded, run, same⟩ := back []
    rw [frame, List.append_nil, frame_length] at run
    have positive : (0 : Int) < message.frameLength fw := by
      unfold frameLength
      omega
    rw [← (same.options carries).2.2] at member
    exact decoded_dstNodeIDs_length fw message valid sized carries run positive nodeID member
  · intro uniform suffix
    refine ⟨message.received fw, ?_, received_sameFields fw message⟩
    rw [frame, frame_length]
    exact decode_frame fw valid sized uniform suffix

def unevenRequest : P2PMessage where
  packetType := 5
  seq := 1
  options := { groupID := [103], srcNodeID := some [1, 2], dstNodeIDs := [some [3]] }
  payload := [7, 8, 9]

/-- It is encoded, and its second destination byte is then taken from the payload. -/
theorem unevenRequest_not_decodesBack :
    (unevenRequest.encode CroppingFramework.standard).1 = true ∧
      (unevenRequest.encode CroppingFramework.standard).2.length < 2 ^ 32 ∧
      ¬ unevenRequest.DecodesBack CroppingFramework.standard := by
  refine ⟨by decide, by decide, fun back => ?_⟩
  obtain ⟨decoded, run, same⟩ := back []
  have lost : decode CroppingFramework.standard {}
      ((unevenRequest.encode CroppingFramework.standard).2 ++ []) =
      .ok (26, { unevenRequest with
        length := 26
        options := { groupID := [103], srcNodeID := some [1, 2], dstNodeIDs := [some [3, 7]] }
        payload := [8, 9] }) := by rfl
  rw [lost] at run
  obtain ⟨-, rfl⟩ := Prod.mk.inj (Except.ok.inj run)
  exact absurd same.payload (by decide)

def evenRequest : P2PMessage :=
  { unevenRequest with options := { unevenRequest.options with dstNodeIDs := [some [3, 4]] } }

theorem evenRequest_decodesBack : evenRequest.DecodesBack CroppingFramework.standard :=
  (decodesBack_iff_uniform CroppingFramework.standard evenRequest (by decide) (by decide)).mpr
    (by decide)

end BcosGateway.P2PMessage
