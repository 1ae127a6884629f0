import Debuggee.Arch
import Mathlib.Algebra.Group.Nat.Defs

namespace Debuggee

theorem toNat_byteMask (bytes : Nat) : (byteMask bytes).toNat = 2 ^ (8 * min bytes 8) - 1 := by
  unfold byteMask
  split
  · next hle =>
    rw [Nat.min_eq_right hle]
    rfl
  · next hlt =>
    have hpow : 2 ^ (8 * bytes) ≤ 2 ^ 64 := Nat.pow_le_pow_right (by decide) (by omega)
    have hpos : 0 < 2 ^ (8 * bytes) := Nat.two_pow_pos (8 * bytes)
    rw [Nat.min_eq_left (by omega), Nat.one_shiftLeft]
    refine UInt64.toNat_ofNat_of_lt (show _ < 2 ^ 64 from ?_)
    omega

theorem toNat_land_byteMask (word : UInt64) (bytes : Nat) :
    (word &&& byteMask bytes).toNat = word.toNat % 2 ^ (8 * bytes) := by
  rw [UInt64.toNat_and, toNat_byteMask, Nat.and_two_pow_sub_one_eq_mod]
  by_cases hle : bytes ≤ 8
  · rw [Nat.min_eq_left hle]
  · have hword : word.toNat < 2 ^ 64 := word.toNat_lt
    have hpow : 2 ^ 64 ≤ 2 ^ (8 * bytes) := Nat.pow_le_pow_right (by decide) (by omega)
    rw [Nat.min_eq_right (by omega), Nat.mod_eq_of_lt hword, Nat.mod_eq_of_lt (by omega)]

theorem land_byteMask_of_le (value : UInt64) {size size' : Nat} (h : min size 8 ≤ size') :
    value &&& byteMask size &&& byteMask size' = value &&& byteMask size := by
  refine UInt64.toNat_inj.1 ?_
  rw [toNat_land_byteMask _ size']
  refine Nat.mod_eq_of_lt ?_
  have hpow : 2 ^ (8 * min size 8) ≤ 2 ^ (8 * size') := Nat.pow_le_pow_right (by decide) (by omega)
  have hpos : 0 < 2 ^ (8 * min size 8) := Nat.two_pow_pos _
  have hle : (value &&& byteMask size).toNat ≤ 2 ^ (8 * min size 8) - 1 := by
    rw [UInt64.toNat_and, ← toNat_byteMask]
    exact Nat.and_le_right
  omega

theorem Bytes.value_ofValue (size n : Nat) : (ofValue size n).value = n % 256 ^ size := by
  induction size generalizing n with
  | zero => rw [ofValue, value, Nat.pow_zero, Nat.mod_one]
  | succ size ih =>
    rw [ofValue, value, ih, UInt8.toNat_ofNat', Nat.mod_mod, Nat.pow_succ', Nat.mod_mul]

namespace Arch

theorem toNat_land_mask (arch : Arch) (w : UInt64) :
    (w &&& arch.mask).toNat = w.toNat % 2 ^ (8 * arch.pointerSize) :=
  toNat_land_byteMask w arch.pointerSize

theorem land_mask_of_lt {arch : Arch} {w : UInt64} (h : w.toNat < 2 ^ (8 * arch.pointerSize)) :
    w &&& arch.mask = w :=
  UInt64.toNat_inj.1 (by rw [toNat_land_mask, Nat.mod_eq_of_lt h])

end Arch

end Debuggee
