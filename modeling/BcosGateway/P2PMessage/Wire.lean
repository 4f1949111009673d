import BcosGateway.P2PMessage.Decode

/-! The frame format, read off the bytes of a buffer. -/

namespace BcosGateway.Wire

open Slice

def field (bytes : Bytes) (offset width : Nat) : Nat :=
  BigEndian.number (slice bytes offset width)

theorem field_lt (bytes : Bytes) (offset width : Nat) : field bytes offset width < 256 ^ width := by
  have bound := BigEndian.number_lt (slice bytes offset width)
  have short : (slice bytes offset width).length ≤ width := by simp [slice]
  exact bound.trans_le (Nat.pow_le_pow_right (by decide) short)

theorem field_congr {left right : Bytes} {offset width common : Nat}
    (same : left.take common = right.take common) (fits : offset + width ≤ common) :
    field left offset width = field right offset width := by
  rw [field, field, slice_congr same fits]

/-! The options block, as the bytes that follow the header. -/

section Options

variable (block : Bytes)

def groupIDLength : Nat := field block 0 2
def nodeIDLength : Nat := field block (2 + groupIDLength block) 2
def dstNodeCount : Nat := field block (4 + groupIDLength block + nodeIDLength block) 1

def optionsSize : Nat :=
  5 + groupIDLength block + nodeIDLength block + dstNodeCount block * nodeIDLength block

def groupID : StdString := slice block 2 (groupIDLength block)
def srcNodeID : Bytes := slice block (4 + groupIDLength block) (nodeIDLength block)

def dstNodeID (i : Nat) : Bytes :=
  slice block (5 + groupIDLength block + nodeIDLength block + i * nodeIDLength block)
    (nodeIDLength block)

def dstNodeIDs : List Bytes := (List.range (dstNodeCount block)).map (dstNodeID block)

theorem groupIDLength_lt : groupIDLength block < 65536 := field_lt block 0 2
theorem nodeIDLength_lt : nodeIDLength block < 65536 := field_lt block _ 2
theorem dstNodeCount_lt : dstNodeCount block < 256 := field_lt block _ 1

theorem dstNodeIDs_size_lt : dstNodeCount block * nodeIDLength block ≤ 255 * 65535 :=
  Nat.mul_le_mul (Nat.le_of_lt_succ (dstNodeCount_lt block))
    (Nat.le_of_lt_succ (nodeIDLength_lt block))

theorem optionsSize_lt : optionsSize block < 2 ^ 25 := by
  have group := groupIDLength_lt block
  have node := nodeIDLength_lt block
  have dst := dstNodeIDs_size_lt block
  unfold optionsSize
  omega

theorem five_le_optionsSize : 5 ≤ optionsSize block := by
  unfold optionsSize
  omega

theorem dstNodeID_length (fits : optionsSize block ≤ block.length) :
    ∀ nodeID ∈ dstNodeIDs block, nodeID.length = nodeIDLength block := by
  intro nodeID member
  obtain ⟨i, index, rfl⟩ := List.mem_map.mp member
  have last := Nat.mul_le_mul_right (nodeIDLength block) (List.mem_range.mp index)
  rw [Nat.succ_mul] at last
  unfold optionsSize at fits
  exact slice_length (by omega)

end Options

theorem options_congr {left right : Bytes}
    (same : left.take (optionsSize left) = right.take (optionsSize left)) :
    groupIDLength right = groupIDLength left ∧ nodeIDLength right = nodeIDLength left ∧
      dstNodeCount right = dstNodeCount left ∧ groupID right = groupID left ∧
      srcNodeID right = srcNodeID left ∧ dstNodeIDs right = dstNodeIDs left := by
  have size : optionsSize left = 5 + groupIDLength left + nodeIDLength left
    + dstNodeCount left * nodeIDLength left := rfl
  have group : groupIDLength right = groupIDLength left :=
    (field_congr same (by omega)).symm
  have node : nodeIDLength right = nodeIDLength left := by
    rw [nodeIDLength, group]
    exact (field_congr same (by omega)).symm
  have count : dstNodeCount right = dstNodeCount left := by
    rw [dstNodeCount, group, node]
    exact (field_congr same (by omega)).symm
  refine ⟨group, node, count, ?_, ?_, ?_⟩
  · rw [groupID, groupID, group]
    exact (slice_congr same (by omega)).symm
  · rw [srcNodeID, srcNodeID, group, node]
    exact (slice_congr same (by omega)).symm
  · rw [dstNodeIDs, dstNodeIDs, count]
    apply List.map_congr_left
    intro i member
    have index : i + 1 ≤ dstNodeCount left := List.mem_range.mp member
    have last := Nat.mul_le_mul_right (nodeIDLength left) index
    rw [Nat.succ_mul] at last
    rw [dstNodeID, dstNodeID, group, node]
    exact (slice_congr same (by omega)).symm

theorem optionsSize_congr {left right : Bytes}
    (same : left.take (optionsSize left) = right.take (optionsSize left)) :
    optionsSize right = optionsSize left := by
  obtain ⟨group, node, count, _⟩ := options_congr same
  rw [optionsSize, optionsSize, group, node, count]

/-! The frame: the header, the block if the packet type has one, the payload. -/

section Frame

variable (fw : Framework) (bytes : Bytes)

def length : Nat := field bytes 0 4
def packetType : UInt16 := UInt16.ofNat (field bytes 6 2)
def block : Bytes := bytes.drop 14

def header : P2PMessage where
  length := UInt32.ofNat (length bytes)
  version := UInt16.ofNat (field bytes 4 2)
  packetType := packetType bytes
  seq := UInt32.ofNat (field bytes 8 4)
  ext := UInt16.ofNat (field bytes 12 2)

def hasOptions : Bool := (header bytes).hasOptions fw

def payloadOffset : Nat := if hasOptions fw bytes then 14 + optionsSize (block bytes) else 14

/-- How many bytes the payload gets. The subtraction of an offset beyond the length wraps, and
    then only a buffer of more than four gigabytes has the range that is asked for. -/
def payloadSize : Nat :=
  if payloadOffset fw bytes ≤ length bytes then length bytes - payloadOffset fw bytes
  else if 2 ^ 32 + length bytes ≤ bytes.length then 2 ^ 32 + length bytes - payloadOffset fw bytes
  else 0

def OptionsFit : Prop := hasOptions fw bytes → optionsSize (block bytes) ≤ (block bytes).length

instance : Decidable (OptionsFit fw bytes) := inferInstanceAs (Decidable (_ → _))

theorem length_lt : length bytes < 2 ^ 32 := field_lt bytes 0 4

@[simp] theorem header_length : (header bytes).length.toNat = length bytes :=
  UInt32.toNat_ofNat_of_lt' (length_lt bytes)

theorem payloadOffset_lt : payloadOffset fw bytes < 2 ^ 25 + 14 := by
  have small := optionsSize_lt (block bytes)
  unfold payloadOffset
  split <;> omega

theorem header_le_payloadOffset : 14 ≤ payloadOffset fw bytes := by
  unfold payloadOffset
  split <;> omega

end Frame

theorem header_congr {left right : Bytes} {common : Nat}
    (same : left.take common = right.take common) (fits : 14 ≤ common) :
    header right = header left := by
  have read (offset width : Nat) (inside : offset + width ≤ 14) :
      field right offset width = field left offset width :=
    (field_congr same (by omega)).symm
  simp only [header, length, packetType, read _ _ (show 0 + 4 ≤ 14 by decide),
    read _ _ (show 4 + 2 ≤ 14 by decide), read _ _ (show 6 + 2 ≤ 14 by decide),
    read _ _ (show 8 + 4 ≤ 14 by decide), read _ _ (show 12 + 2 ≤ 14 by decide)]

theorem block_congr {left right : Bytes} {common : Nat}
    (same : left.take common = right.take common) :
    (block left).take (common - 14) = (block right).take (common - 14) := by
  simp only [block, ← List.drop_take, same]

end BcosGateway.Wire
