import Mathlib

/-! # Words and the little-endian byte codec

`binary.LittleEndian` as `exec` uses it: a `w`-byte write spells the low `8w`
bits of a value, least significant byte first, and a read recovers them. -/

namespace Wagon

abbrev Byte := BitVec 8
abbrev Word := BitVec 64

/-- The `w` little-endian bytes of `v`, as `PutUint16/32/64` write them. -/
def leBytes : Nat → Nat → List Byte
  | 0, _ => []
  | w + 1, v => BitVec.ofNat 8 v :: leBytes w (v / 256)

/-- The number spelled little-endian by `b`, as `Uint16/32/64` read it. -/
def leValue : List Byte → Nat
  | [] => 0
  | b :: bs => b.toNat + 256 * leValue bs

@[simp] theorem length_leBytes (w v : Nat) : (leBytes w v).length = w := by
  induction w generalizing v <;> simp [leBytes, *]

theorem leValue_lt (b : List Byte) : leValue b < 256 ^ b.length := by
  induction b with
  | nil => simp [leValue]
  | cons x b ih =>
    have := x.isLt
    simp only [leValue, List.length_cons, Nat.pow_succ]
    omega

theorem leValue_leBytes (w v : Nat) : leValue (leBytes w v) = v % 256 ^ w := by
  induction w generalizing v with
  | zero => simp [leBytes, leValue, Nat.mod_one]
  | succ w ih =>
    rw [leBytes, leValue, ih, BitVec.toNat_ofNat, show 256 ^ (w + 1) = 256 * 256 ^ w from
      Nat.pow_succ', Nat.mod_mul]

theorem take_leBytes {k w : Nat} (h : k ≤ w) (v : Nat) :
    (leBytes w v).take k = leBytes k v := by
  induction k generalizing w v with
  | zero => simp [leBytes]
  | succ k ih =>
    obtain ⟨w, rfl⟩ : ∃ w', w = w' + 1 := ⟨w - 1, by omega⟩
    simp [leBytes, ih (Nat.le_of_succ_le_succ h)]

theorem drop_leBytes {k w : Nat} (h : k ≤ w) (v : Nat) :
    (leBytes w v).drop k = leBytes (w - k) (v / 256 ^ k) := by
  induction k generalizing w v with
  | zero => simp
  | succ k ih =>
    obtain ⟨w, rfl⟩ : ∃ w', w = w' + 1 := ⟨w - 1, by omega⟩
    simp [leBytes, ih (Nat.le_of_succ_le_succ h), Nat.div_div_eq_div_mul, Nat.pow_succ']

theorem leBytes_mod_pow {w k : Nat} (h : w ≤ k) (v : Nat) :
    leBytes w (v % 256 ^ k) = leBytes w v := by
  induction w generalizing k v with
  | zero => rfl
  | succ w ih =>
    obtain ⟨k, rfl⟩ : ∃ k', k = k' + 1 := ⟨k - 1, by omega⟩
    have hk : 256 ^ (k + 1) = 256 * 256 ^ k := Nat.pow_succ'
    simp only [leBytes, hk, Nat.mod_mul_right_div_self, ih (Nat.le_of_succ_le_succ h)]
    congr 1
    apply BitVec.eq_of_toNat_eq
    simp only [BitVec.toNat_ofNat]
    exact Nat.mod_mul_right_mod v 256 (256 ^ k)

theorem leValue_singleton (b : Byte) : leValue [b] = b.toNat := by
  simp [leValue]

theorem singleton_eq_leBytes (b : Byte) : [b] = leBytes 1 b.toNat := by
  simp [leBytes]

theorem leBytes_mod_two_pow {w m : Nat} (h : 8 * w ≤ m) (v : Nat) :
    leBytes w (v % 2 ^ m) = leBytes w v := by
  have hd : 256 ^ w ∣ 2 ^ m := by
    rw [show 256 = 2 ^ 8 from rfl, ← Nat.pow_mul]
    exact Nat.pow_dvd_pow 2 h
  rw [← leBytes_mod_pow (le_refl w), Nat.mod_mod_of_dvd _ hd, leBytes_mod_pow (le_refl w)]

theorem leBytes_toNat_setWidth {w n m : Nat} (h : 8 * w ≤ m) (v : BitVec n) :
    leBytes w (v.setWidth m).toNat = leBytes w v.toNat := by
  rw [BitVec.toNat_setWidth, leBytes_mod_two_pow h]

theorem signExtend_signExtend {w v u : Nat} (x : BitVec w) (hw : w ≤ v) :
    (x.signExtend v).signExtend u = x.signExtend u := by
  apply BitVec.eq_of_getLsbD_eq
  intro i
  simp only [BitVec.getLsbD_signExtend, BitVec.msb_eq_getLsbD_last]
  by_cases hv : v = 0
  · subst hv
    obtain rfl : w = 0 := by omega
    simp
  by_cases hiw : (i : Nat) < w
  · simp [hiw, show (i : Nat) < v by omega]
  · by_cases hiv : (i : Nat) < v <;> simp [hiv, hiw]
    by_cases h : v - 1 < w
    · simp [h, show v - 1 = w - 1 by omega, show w - 1 < v by omega, show 0 < v by omega]
    · simp [h, show v - 1 < v by omega, show 0 < v by omega]

theorem setWidth_ofNat_of_lt {w v x : Nat} (hx : x < 2 ^ w) (hwv : w ≤ v) :
    (BitVec.ofNat w x).setWidth v = BitVec.ofNat v x := by
  apply BitVec.eq_of_toNat_eq
  simp [Nat.mod_eq_of_lt hx,
    Nat.mod_eq_of_lt (Nat.lt_of_lt_of_le hx (Nat.pow_le_pow_right (by omega) hwv))]

@[simp] theorem setWidth_signExtend_of_le {w v : Nat} (x : BitVec w) (h : w ≤ v) :
    (x.signExtend v).setWidth w = x := by
  apply BitVec.eq_of_getLsbD_eq
  intro i
  simp [BitVec.getLsbD_signExtend, show (i : Nat) < v by omega]

end Wagon
