import BcosGateway.P2PMessage.DecodeWire
import Mathlib.Data.List.Infix

namespace BcosGateway.P2PMessage

open Slice

section Property

variable (fw : Framework) (bytes : Bytes)

structure WholeFrame (result : Int) (message : P2PMessage) : Prop where
  header : 14 ≤ result
  received : result ≤ bytes.length
  length : (message.length.toNat : Int) = result ∧ (Wire.length bytes : Int) = result
  body : ∃ size : Nat,
    (if message.hasOptions fw then
      ({} : P2PMessageOptions).decode (bytes.drop 14) = .ok (size, message.options)
    else size = 0) ∧
    14 + size ≤ result ∧ message.payload = slice bytes (14 + size) (result.toNat - (14 + size))
  prefix_only : ∀ other, other.take result.toNat = bytes.take result.toNat →
    decode fw {} other = .ok (result, message)

def CanComplete : Prop :=
  ∃ extension result message,
    decode fw {} (bytes ++ extension) = .ok (result, message) ∧
      result ≠ MessageDecodeStatus.messageIncomplete

def LooksNoFurther : Prop :=
  (∀ result message, decode fw {} bytes = .ok (result, message) → 0 < result →
    WholeFrame fw bytes result message) ∧
  (∀ message, decode fw {} bytes = .ok (MessageDecodeStatus.messageIncomplete, message) →
    CanComplete fw bytes)

/-- A frame was received whose header and options pass its declared length. -/
def Overrun : Prop :=
  14 ≤ bytes.length ∧ Wire.length bytes ≤ bytes.length ∧ Wire.OptionsFit fw bytes ∧
    Wire.length bytes < Wire.payloadOffset fw bytes

/-- An incomplete header declares length zero and cannot get a packet type with options. -/
def Stuck : Prop :=
  4 ≤ bytes.length ∧ bytes.length < 14 ∧ Wire.length bytes = 0 ∧
    ¬ (slice bytes 6 2 <+: BigEndian.encode 2 fw.messageType.peerToPeerMessage.toNat ∨
      slice bytes 6 2 <+: BigEndian.encode 2 fw.messageType.broadcastMessage.toNat)

end Property

variable (fw : CroppingFramework) (bytes : Bytes)

theorem length_append (extension : Bytes) (received : 4 ≤ bytes.length) :
    Wire.length (bytes ++ extension) = Wire.length bytes := by
  rw [Wire.length, Wire.field, slice_append_left (by omega)]
  rfl

theorem canComplete_of_length (received : 4 ≤ bytes.length) (declared : 0 < Wire.length bytes) :
    CanComplete fw bytes := by
  let extension : Bytes := List.replicate (14 + Wire.length bytes) 0
  have length : Wire.length (bytes ++ extension) = Wire.length bytes :=
    length_append bytes extension received
  have size : (bytes ++ extension).length = bytes.length + (14 + Wire.length bytes) := by
    simp [extension]
  rcases decode_cases fw (bytes ++ extension) with ⟨_, _, short⟩ | ⟨message, run, _⟩ | ⟨run, _⟩
  · omega
  · exact ⟨extension, _, message, run, by decide⟩
  · rw [length] at run
    refine ⟨extension, _, _, run, ?_⟩
    simp only [MessageDecodeStatus.messageIncomplete]
    omega

theorem canComplete_of_options {extension : Bytes} (size : (bytes ++ extension).length = 14)
    (length : Wire.length (bytes ++ extension) = 0)
    (carries : Wire.hasOptions fw (bytes ++ extension)) : CanComplete fw bytes := by
  have misfits : ¬ Wire.OptionsFit fw (bytes ++ extension) := by
    intro fits
    have least := Wire.five_le_optionsSize (Wire.block (bytes ++ extension))
    have empty : (Wire.block (bytes ++ extension)).length = 0 := by
      rw [Wire.block, List.length_drop, size]
    have room := fits carries
    omega
  obtain ⟨message, run⟩ := decode_malformed fw (bytes ++ extension) (by omega) (by omega) misfits
  exact ⟨extension, _, message, run, by decide⟩

theorem hasOptions_of_slice {type : UInt16}
    (carries : type = fw.messageType.peerToPeerMessage ∨ type = fw.messageType.broadcastMessage)
    (present : slice bytes 6 2 = BigEndian.encode 2 type.toNat) : Wire.hasOptions fw bytes := by
  have read : Wire.packetType bytes = type := by
    rw [Wire.packetType, Wire.field, present, BigEndian.number_encode type.toNat_lt,
      UInt16.ofNat_toNat]
  simpa [Wire.hasOptions, hasOptions, Wire.header, read] using carries

theorem CanComplete.of_append {extension : Bytes} (later : CanComplete fw (bytes ++ extension)) :
    CanComplete fw bytes := by
  obtain ⟨rest, result, message, run, ended⟩ := later
  rw [List.append_assoc] at run
  exact ⟨extension ++ rest, result, message, run, ended⟩

theorem slice_completed {rest : Bytes} (unfinished : bytes.length ≤ 8)
    (missing : (slice bytes 6 2).length + rest.length = 2) (back : Bytes) :
    slice (bytes ++ (List.replicate (6 - bytes.length) 0 ++ (rest ++ back))) 6 2 =
      slice bytes 6 2 ++ rest := by
  have tail : (bytes ++ List.replicate (6 - bytes.length) 0).drop 6 = slice bytes 6 2 := by
    have filled : (List.replicate (6 - bytes.length) (0 : UInt8)).drop (6 - bytes.length) = [] :=
      List.drop_eq_nil_of_le (by simp)
    have last : (bytes.drop 6).length ≤ 2 := by
      rw [List.length_drop]
      omega
    rw [List.drop_append, filled, List.append_nil, slice, List.take_of_length_le last]
  have split := List.take_append_drop 6 (bytes ++ List.replicate (6 - bytes.length) 0)
  rw [tail] at split
  rw [← List.append_assoc, ← split, List.append_assoc, ← List.append_assoc (slice bytes 6 2)]
  refine slice_field ?_ (by rw [List.length_append, missing])
  rw [List.length_take, List.length_append, List.length_replicate]
  omega

theorem canComplete_of_type {type : UInt16}
    (carries : type = fw.messageType.peerToPeerMessage ∨ type = fw.messageType.broadcastMessage)
    (received : 4 ≤ bytes.length) (short : bytes.length < 14) (zero : Wire.length bytes = 0)
    (may : slice bytes 6 2 <+: BigEndian.encode 2 type.toNat) : CanComplete fw bytes := by
  have present : (slice bytes 6 2).length = min 2 (bytes.length - 6) := by simp [slice]
  obtain ⟨rest, whole⟩ := may
  have missing : (slice bytes 6 2).length + rest.length = 2 := by
    rw [← List.length_append, whole, BigEndian.encode_length]
  -- the type becomes one with options; a header that ends the buffer has no room for its block
  by_cases unfinished : bytes.length ≤ 8
  · have type := slice_completed bytes unfinished missing (List.replicate 6 0)
    rw [whole] at type
    refine canComplete_of_options fw bytes ?_ ?_ (hasOptions_of_slice fw _ carries type)
    · simp only [List.length_append, List.length_replicate]
      omega
    · rw [length_append _ _ received, zero]
  · have done : rest = [] := List.length_eq_zero_iff.mp (by omega)
    rw [done, List.append_nil] at whole
    have type : slice (bytes ++ List.replicate (14 - bytes.length) 0) 6 2 =
        BigEndian.encode 2 type.toNat := by
      rw [slice_append_left (by omega), whole]
    refine canComplete_of_options fw bytes ?_ ?_ (hasOptions_of_slice fw _ carries type)
    · simp only [List.length_append, List.length_replicate]
      omega
    · rw [length_append _ _ received, zero]

theorem canComplete_of_short (short : bytes.length < 14) (alive : ¬ Stuck fw bytes) :
    CanComplete fw bytes := by
  by_cases received : 4 ≤ bytes.length
  · by_cases zero : Wire.length bytes = 0
    · by_cases direct : slice bytes 6 2 <+:
          BigEndian.encode 2 fw.messageType.peerToPeerMessage.toNat
      · exact canComplete_of_type fw bytes (.inl rfl) received short zero direct
      · by_cases broadcast : slice bytes 6 2 <+:
            BigEndian.encode 2 fw.messageType.broadcastMessage.toNat
        · exact canComplete_of_type fw bytes (.inr rfl) received short zero broadcast
        · exact absurd ⟨received, short, zero, not_or.mpr ⟨direct, broadcast⟩⟩ alive
    · exact canComplete_of_length fw bytes received (Nat.pos_of_ne_zero zero)
  · -- the last byte of the length field is still to come
    let front : Bytes := bytes ++ List.replicate (3 - bytes.length) 0
    have size : front.length = 3 := by
      simp only [front, List.length_append, List.length_replicate]
      omega
    have declared : 0 < Wire.length (front ++ [1]) := by
      have last : slice (front ++ [1]) 0 4 = front ++ [1] :=
        List.take_of_length_le (by simp [size])
      rw [Wire.length, Wire.field, last, BigEndian.number_concat]
      exact Nat.succ_pos _
    have later := canComplete_of_length fw (front ++ [1]) (by simp [size]) declared
    rw [List.append_assoc] at later
    exact CanComplete.of_append fw bytes later

section Prefix

variable {bytes} {other : Bytes} (received : Wire.length bytes ≤ bytes.length)
  (inside : Wire.payloadOffset fw bytes ≤ Wire.length bytes)
  (same : other.take (Wire.length bytes) = bytes.take (Wire.length bytes))

include same received in
theorem length_le_of_common : Wire.length bytes ≤ other.length := by
  have size := congrArg List.length same
  simp only [List.length_take] at size
  omega

include same inside in
theorem header_of_common : Wire.header other = Wire.header bytes :=
  Wire.header_congr same.symm (le_trans (Wire.header_le_payloadOffset fw bytes) inside)

include same inside in
theorem options_of_common (carries : Wire.hasOptions fw bytes) :
    (Wire.block bytes).take (Wire.optionsSize (Wire.block bytes)) =
      (Wire.block other).take (Wire.optionsSize (Wire.block bytes)) := by
  have offset : Wire.payloadOffset fw bytes = 14 + Wire.optionsSize (Wire.block bytes) :=
    if_pos carries
  have common := Wire.block_congr same.symm
  have cut (block : Bytes) : block.take (Wire.optionsSize (Wire.block bytes)) =
      (block.take (Wire.length bytes - 14)).take (Wire.optionsSize (Wire.block bytes)) := by
    rw [List.take_take, Nat.min_eq_left (by omega)]
  rw [cut (Wire.block bytes), cut (Wire.block other), common]

include received inside same in
theorem decode_of_common :
    decode fw {} other = .ok (Wire.length bytes, ofWire fw bytes) := by
  have least := Wire.header_le_payloadOffset fw bytes
  have room := length_le_of_common received same
  have header := header_of_common fw inside same
  have length : Wire.length other = Wire.length bytes := by
    rw [← Wire.header_length, header, Wire.header_length]
  have carried : Wire.hasOptions fw other = Wire.hasOptions fw bytes := by
    rw [Wire.hasOptions, header, Wire.hasOptions]
  have size (carries : Wire.hasOptions fw bytes) :
      Wire.optionsSize (Wire.block other) = Wire.optionsSize (Wire.block bytes) :=
    Wire.optionsSize_congr (options_of_common fw inside same carries)
  have offset : Wire.payloadOffset fw other = Wire.payloadOffset fw bytes := by
    unfold Wire.payloadOffset
    rw [carried]
    split
    · rw [size ‹_›]
    · rfl
  have fitsOther : Wire.OptionsFit fw other := by
    intro carries
    rw [carried] at carries
    have start : Wire.payloadOffset fw bytes = 14 + Wire.optionsSize (Wire.block bytes) :=
      if_pos carries
    have rest : (Wire.block other).length = other.length - 14 := List.length_drop
    rw [size carries, rest]
    omega
  have payload : (ofWire fw other).payload = (ofWire fw bytes).payload := by
    rw [ofWire_payload fw other (by omega), ofWire_payload fw bytes received, Wire.payloadSize,
      Wire.payloadSize, offset, length, if_pos inside, if_pos inside]
    exact slice_congr same (by omega)
  have options : (ofWire fw other).options = (ofWire fw bytes).options := by
    simp only [ofWire, carried]
    split
    · obtain ⟨group, _, _, groupID, src, dsts⟩ :=
        Wire.options_congr (options_of_common fw inside same ‹_›)
      simp only [P2PMessageOptions.ofWire, group, groupID, src, dsts]
    · rfl
  have rebuilt : ofWire fw other = ofWire fw bytes := by
    have fields (buffer : Bytes) : ofWire fw buffer =
        { Wire.header buffer with
          options := (ofWire fw buffer).options
          payload := (ofWire fw buffer).payload } := rfl
    rw [fields other, fields bytes, header, options, payload]
  rw [decode_whole fw other (by omega) (by omega) fitsOther, length, rebuilt]

include received inside in
theorem wholeFrame_ofWire (fits : Wire.OptionsFit fw bytes) :
    WholeFrame fw bytes (Wire.length bytes) (ofWire fw bytes) := by
  have least := Wire.header_le_payloadOffset fw bytes
  refine ⟨by omega, by omega, ⟨?_, rfl⟩, ?_, ?_⟩
  · exact congrArg Nat.cast (Wire.header_length bytes)
  · have payload := ofWire_payload fw bytes received
    rw [Wire.payloadSize, if_pos inside] at payload
    have sameType : (ofWire fw bytes).hasOptions fw = Wire.hasOptions fw bytes := rfl
    rw [sameType]
    by_cases carries : Wire.hasOptions fw bytes
    · have start : Wire.payloadOffset fw bytes = 14 + Wire.optionsSize (Wire.block bytes) :=
        if_pos carries
      rw [start] at payload inside
      refine ⟨Wire.optionsSize (Wire.block bytes), ?_, by omega, payload⟩
      rw [if_pos carries, ofWire, if_pos carries]
      exact P2PMessageOptions.decode_fits (Wire.block bytes) rfl (fits carries)
    · have start : Wire.payloadOffset fw bytes = 14 := if_neg carries
      rw [start] at payload
      exact ⟨0, by rw [if_neg carries], by omega, payload⟩
  · intro other same
    exact decode_of_common fw received inside same

end Prefix

theorem looksNoFurther_of_iff (clean : ¬ Overrun fw bytes) (alive : ¬ Stuck fw bytes) :
    LooksNoFurther fw bytes := by
  constructor
  · intro result message run positive
    obtain ⟨rfl, rfl, whole, received, fits⟩ := decode_positive fw bytes run positive
    have inside : Wire.payloadOffset fw bytes ≤ Wire.length bytes := by
      by_contra short
      exact clean ⟨whole, received, fits, by omega⟩
    exact wholeFrame_ofWire fw received inside fits
  · intro message run
    by_cases short : bytes.length < 14
    · exact canComplete_of_short fw bytes short alive
    rcases decode_cases fw bytes with ⟨_, _, few⟩ | ⟨_, refused, _⟩ | ⟨decoded, whole, received, fits⟩
    · exact canComplete_of_length fw bytes (by omega) (by omega)
    · rw [run] at refused
      have result : MessageDecodeStatus.messageIncomplete = MessageDecodeStatus.messageError :=
        congrArg Prod.fst (Except.ok.inj refused)
      exact absurd result (by decide)
    · rw [run] at decoded
      have result := congrArg Prod.fst (Except.ok.inj decoded)
      have least := Wire.header_le_payloadOffset fw bytes
      simp only [MessageDecodeStatus.messageIncomplete] at result
      exact absurd ⟨whole, received, fits, by omega⟩ clean

theorem not_canComplete_of_optionsFit (received : 4 ≤ bytes.length) (zero : Wire.length bytes = 0)
    (fits : ∀ extension, 14 ≤ (bytes ++ extension).length →
      Wire.OptionsFit fw (bytes ++ extension)) : ¬ CanComplete fw bytes := by
  rintro ⟨extension, result, message, run, ended⟩
  have length := length_append bytes extension received
  apply ended
  rcases decode_cases fw (bytes ++ extension) with ⟨_, other, _⟩ | ⟨_, _, whole, _, misfits⟩ |
    ⟨other, _⟩
  · rw [run] at other
    exact congrArg Prod.fst (Except.ok.inj other)
  · exact absurd (fits extension whole) misfits
  · rw [run, length, zero] at other
    exact congrArg Prod.fst (Except.ok.inj other)

theorem optionsFit_append (whole : 14 ≤ bytes.length) (fits : Wire.OptionsFit fw bytes)
    (extension : Bytes) : Wire.OptionsFit fw (bytes ++ extension) := by
  intro carries
  have header : Wire.header (bytes ++ extension) = Wire.header bytes :=
    Wire.header_congr (List.take_append_of_le_length whole).symm (le_refl _)
  have block : Wire.block (bytes ++ extension) = Wire.block bytes ++ extension :=
    List.drop_append_of_le_length whole
  rw [Wire.hasOptions, header] at carries
  have room := fits carries
  have same : Wire.optionsSize (Wire.block bytes ++ extension) = Wire.optionsSize (Wire.block bytes) :=
    Wire.optionsSize_congr (List.take_append_of_le_length room).symm
  rw [block, same, List.length_append]
  omega

theorem slice_of_hasOptions (whole : 14 ≤ bytes.length) (carries : Wire.hasOptions fw bytes) :
    slice bytes 6 2 = BigEndian.encode 2 fw.messageType.peerToPeerMessage.toNat ∨
      slice bytes 6 2 = BigEndian.encode 2 fw.messageType.broadcastMessage.toNat := by
  have size : (slice bytes 6 2).length = 2 := slice_length (by omega)
  have read : BigEndian.encode 2 (Wire.packetType bytes).toNat = slice bytes 6 2 := by
    have bound := Wire.field_lt bytes 6 2
    have back := BigEndian.encode_number (slice bytes 6 2)
    rw [size] at back
    rw [Wire.packetType, UInt16.toNat_ofNat_of_lt' bound]
    exact back
  rw [← read]
  rcases Bool.or_eq_true _ _ ▸ carries with direct | broadcast
  · exact .inl (by rw [← eq_of_beq direct]; rfl)
  · exact .inr (by rw [← eq_of_beq broadcast]; rfl)

theorem not_looksNoFurther_of_overrun (overrun : Overrun fw bytes) : ¬ LooksNoFurther fw bytes := by
  obtain ⟨whole, received, fits, beyond⟩ := overrun
  rintro ⟨accepts, waits⟩
  have run := decode_whole fw bytes whole received fits
  by_cases zero : Wire.length bytes = 0
  · rw [zero] at run
    exact not_canComplete_of_optionsFit fw bytes (by omega) zero
      (fun extension _ => optionsFit_append fw bytes whole fits extension) (waits _ run)
  · have frame := accepts _ _ run (by omega)
    have header := frame.header
    obtain ⟨size, options, inside, _⟩ := frame.body
    have sameType : (ofWire fw bytes).hasOptions fw = Wire.hasOptions fw bytes := rfl
    rw [sameType] at options
    by_cases carries : Wire.hasOptions fw bytes
    · have start : Wire.payloadOffset fw bytes = 14 + Wire.optionsSize (Wire.block bytes) :=
        if_pos carries
      rw [if_pos carries, ← Wire.block,
        P2PMessageOptions.decode_fits (Wire.block bytes) rfl (fits carries)] at options
      have same := congrArg Prod.fst (Except.ok.inj options)
      simp only at same
      omega
    · have start : Wire.payloadOffset fw bytes = 14 := if_neg carries
      omega

theorem not_looksNoFurther_of_stuck (stuck : Stuck fw bytes) : ¬ LooksNoFurther fw bytes := by
  obtain ⟨received, short, zero, types⟩ := stuck
  rintro ⟨_, waits⟩
  refine not_canComplete_of_optionsFit fw bytes received zero ?_ (waits _ (decode_short fw bytes short))
  intro extension whole carries
  have start : slice bytes 6 2 <+: slice (bytes ++ extension) 6 2 := by
    rw [slice, slice, List.drop_append]
    exact List.IsPrefix.take (List.prefix_append _ _) 2
  rcases slice_of_hasOptions fw (bytes ++ extension) whole carries with direct | broadcast
  · exact absurd (.inl (direct ▸ start)) types
  · exact absurd (.inr (broadcast ▸ start)) types

/-- `decode` takes whole frames and looks no further on exactly the buffers that no frame in
    them overruns and that do not wait for a header of length zero. -/
theorem looksNoFurther_iff : LooksNoFurther fw bytes ↔ ¬ Overrun fw bytes ∧ ¬ Stuck fw bytes := by
  constructor
  · intro holds
    exact ⟨fun overrun => not_looksNoFurther_of_overrun fw bytes overrun holds,
      fun stuck => not_looksNoFurther_of_stuck fw bytes stuck holds⟩
  · rintro ⟨clean, alive⟩
    exact looksNoFurther_of_iff fw bytes clean alive

def tinyFrame : Bytes := [0, 0, 0, 1, 0, 0, 0, 0, 0, 0, 0, 0, 0, 0]

theorem tinyFrame_not_looksNoFurther :
    ¬ LooksNoFurther CroppingFramework.standard tinyFrame := by
  rintro ⟨accepts, _⟩
  have run : decode CroppingFramework.standard {} tinyFrame = .ok (1, { length := 1 }) := by rfl
  exact absurd (accepts _ _ run (by decide)).header (by decide)

end BcosGateway.P2PMessage
