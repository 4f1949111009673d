import Mathlib.Data.List.Induction
import Mathlib.Tactic.Ring

namespace BigEndian

def number (bytes : List UInt8) : Nat :=
  bytes.foldl (fun high byte => 256 * high + byte.toNat) 0

def encode : Nat → Nat → List UInt8
  | 0, _ => []
  | width + 1, n => encode width (n / 256) ++ [UInt8.ofNat n]

@[simp] theorem number_nil : number [] = 0 := rfl

theorem number_concat (bytes : List UInt8) (byte : UInt8) :
    number (bytes ++ [byte]) = 256 * number bytes + byte.toNat := by
  simp [number]

@[simp] theorem encode_length (width n : Nat) : (encode width n).length = width := by
  induction width generalizing n with
  | zero => rfl
  | succ width ih => simp [encode, ih]

theorem number_encode_mod (width n : Nat) : number (encode width n) = n % 256 ^ width := by
  induction width generalizing n with
  | zero => simp [encode, Nat.mod_one]
  | succ width ih =>
    rw [encode, number_concat, ih]
    have low : (UInt8.ofNat n).toNat = n % 256 := by simp
    rw [low, pow_succ, mul_comm (256 ^ width) 256, Nat.mod_mul]
    omega

theorem number_encode {width n : Nat} (bound : n < 256 ^ width) :
    number (encode width n) = n := by
  rw [number_encode_mod, Nat.mod_eq_of_lt bound]

theorem number_lt (bytes : List UInt8) : number bytes < 256 ^ bytes.length := by
  induction bytes using List.reverseRecOn with
  | nil => decide
  | append_singleton bytes byte ih =>
    have bound := byte.toNat_lt
    rw [number_concat, List.length_append, List.length_singleton, pow_succ]
    omega

theorem encode_number (bytes : List UInt8) : encode bytes.length (number bytes) = bytes := by
  induction bytes using List.reverseRecOn with
  | nil => rfl
  | append_singleton bytes byte ih =>
    have bound := byte.toNat_lt
    have quotient : number (bytes ++ [byte]) / 256 = number bytes := by
      rw [number_concat]
      omega
    have low : UInt8.ofNat (number (bytes ++ [byte])) = byte := by
      apply UInt8.toNat_inj.mp
      rw [number_concat]
      simp only [UInt8.toNat_ofNat']
      omega
    rw [List.length_append, List.length_singleton, encode, quotient, ih, low]

end BigEndian
