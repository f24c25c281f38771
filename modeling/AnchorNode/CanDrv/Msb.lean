import AnchorNode.CanDrv.Types
import AnchorNode.Lib.Fields

/-! The search for the highest bit that is set. -/

namespace AnchorNode.CanDrv

open AnchorNode.Lib

section Search

def leadZeroLoop : Nat → Nat → Word → Nat × Word
  | 0, num, value =>
    let temp := value >>> 1
    if temp ≠ 0#32 then (num - 1, temp) else (num, value)
  | k + 1, num, value =>
    let temp := value >>> 2 ^ (k + 1)
    if temp ≠ 0#32 then leadZeroLoop k (num - 2 ^ (k + 1)) temp else leadZeroLoop k num value

def getCntLeadZero (value : Word) : Int :=
  let (num, value) := leadZeroLoop 4 32 value
  num - value.toNat

def getmsb (val : BitVec 64) : Int :=
  let bitpos := 31 - getCntLeadZero ((val >>> 32).setWidth 32)
  if bitpos < 0 then 31 - getCntLeadZero (val.setWidth 32) else bitpos + 32

end Search

def Highest (i v : Nat) : Prop := 2 ^ i ≤ v ∧ v < 2 ^ (i + 1)

theorem Highest.div {i v k : Nat} (highest : Highest i (v / 2 ^ k)) : Highest (i + k) v := by
  obtain ⟨least, most⟩ := highest
  constructor
  · rw [pow_add]
    exact (Nat.le_div_iff_mul_le (Nat.two_pow_pos k)).mp least
  · rw [show i + k + 1 = i + 1 + k by omega, pow_add]
    exact (Nat.div_lt_iff_lt_mul (Nat.two_pow_pos k)).mp most

theorem shifted_toNat (value : Word) (k : Nat) : (value >>> k).toNat = value.toNat / 2 ^ k := by
  rw [BitVec.toNat_ushiftRight, Nat.shiftRight_eq_div_pow]

theorem toNat_pos {m : Nat} {value : BitVec m} (some : value ≠ 0#m) : 0 < value.toNat := by
  refine Nat.pos_of_ne_zero fun none => some (BitVec.eq_of_toNat_eq ?_)
  rw [none, BitVec.toNat_ofNat, Nat.zero_mod]

theorem leadZeroLoop_zero (k num : Nat) : leadZeroLoop k num 0#32 = (num, 0#32) := by
  induction k generalizing num with
  | zero => rfl
  | succ k ih => simp [leadZeroLoop, ih]

theorem leadZeroLoop_highest (k num : Nat) {value : Word} (some : value ≠ 0#32)
    (small : value.toNat < 2 ^ 2 ^ (k + 1)) :
    ∃ i, i < 2 ^ (k + 1) ∧ Highest i value.toNat ∧
      leadZeroLoop k num value = (num - i, 1#32) := by
  induction k generalizing num value with
  | zero =>
      have least := toNat_pos some
      have most : value.toNat < 4 := small
      by_cases high : value >>> 1 = 0#32
      · have below : value.toNat / 2 = 0 := by rw [← pow_one 2, ← shifted_toNat, high]; rfl
        have one : value = 1#32 := BitVec.eq_of_toNat_eq (by rw [BitVec.toNat_ofNat]; omega)
        exact ⟨0, by decide, ⟨by rw [pow_zero]; exact least, by omega⟩, by simp [leadZeroLoop, one]⟩
      · have above := toNat_pos high
        rw [shifted_toNat, pow_one] at above
        have one : value >>> 1 = 1#32 :=
          BitVec.eq_of_toNat_eq (by rw [shifted_toNat, BitVec.toNat_ofNat]; omega)
        exact ⟨1, by decide, ⟨by omega, by omega⟩, by simp [leadZeroLoop, one]⟩
  | succ k ih =>
      have half : 2 ^ (k + 1 + 1) = 2 ^ (k + 1) + 2 ^ (k + 1) := by omega
      by_cases high : value >>> 2 ^ (k + 1) = 0#32
      · have below : value.toNat / 2 ^ 2 ^ (k + 1) = 0 := by rw [← shifted_toNat, high]; rfl
        obtain ⟨i, bound, highest, found⟩ := ih num some
          (Nat.lt_of_div_eq_zero (Nat.two_pow_pos _) below)
        exact ⟨i, by omega, highest, by rw [leadZeroLoop, if_neg (not_not.mpr high), found]⟩
      · have fits : (value >>> 2 ^ (k + 1)).toNat < 2 ^ 2 ^ (k + 1) := by
          rw [shifted_toNat, Nat.div_lt_iff_lt_mul (Nat.two_pow_pos _), ← pow_add, ← half]
          exact small
        obtain ⟨i, bound, highest, found⟩ := ih (num - 2 ^ (k + 1)) high fits
        rw [shifted_toNat] at highest
        exact ⟨i + 2 ^ (k + 1), by omega, highest.div,
          by rw [leadZeroLoop, if_pos high, found, Nat.sub_sub, Nat.add_comm i]⟩

theorem getCntLeadZero_highest {value : Word} (some : value ≠ 0#32) :
    ∃ i, i < 32 ∧ Highest i value.toNat ∧ getCntLeadZero value = 31 - i := by
  obtain ⟨i, bound, highest, found⟩ := leadZeroLoop_highest 4 32 some value.isLt
  refine ⟨i, bound, highest, ?_⟩
  simp only [getCntLeadZero, found, BitVec.toNat_ofNat]
  omega

theorem getCntLeadZero_zero : getCntLeadZero 0#32 = 32 := by
  simp only [getCntLeadZero, leadZeroLoop_zero]
  rfl

theorem getmsb_highest {val : BitVec 64} (some : val ≠ 0#64) :
    ∃ i, i < 64 ∧ Highest i val.toNat ∧ getmsb val = i := by
  have upper : ((val >>> 32).setWidth 32).toNat = val.toNat / 2 ^ 32 := by
    rw [BitVec.toNat_setWidth, BitVec.toNat_ushiftRight, Nat.shiftRight_eq_div_pow]
    exact Nat.mod_eq_of_lt (Nat.div_lt_of_lt_mul val.isLt)
  by_cases high : (val >>> 32).setWidth 32 = 0#32
  · have small : val.toNat < 2 ^ 32 := by
      refine Nat.lt_of_div_eq_zero (Nat.two_pow_pos 32) ?_
      rw [← upper, high]
      rfl
    have lower : (val.setWidth 32).toNat = val.toNat := by
      rw [BitVec.toNat_setWidth, Nat.mod_eq_of_lt small]
    have there : val.setWidth 32 ≠ 0#32 := fun none => some
      (BitVec.eq_of_toNat_eq (by rw [← lower, none]; rfl))
    obtain ⟨i, bound, highest, found⟩ := getCntLeadZero_highest there
    refine ⟨i, by omega, lower ▸ highest, ?_⟩
    simp only [getmsb, high, getCntLeadZero_zero, found]
    omega
  · obtain ⟨i, bound, highest, found⟩ := getCntLeadZero_highest high
    refine ⟨i + 32, by omega, (upper ▸ highest).div, ?_⟩
    simp only [getmsb, found]
    omega

theorem Highest.bit {m i : Nat} {val : BitVec m} (highest : Highest i val.toNat) :
    val.getLsbD i = true := by
  have one : val.toNat / 2 ^ i = 1 := by
    obtain ⟨least, most⟩ := highest
    rw [pow_succ] at most
    exact Nat.div_eq_of_lt_le (by omega) (by omega)
  rw [BitVec.getLsbD, Nat.testBit_eq_decide_div_mod_eq, one]
  rfl

theorem clear_getmsb_lt {val : BitVec 64} (some : val ≠ 0#64) :
    (val &&& ~~~(1#64 <<< (getmsb val).toNat)).toNat < val.toNat := by
  obtain ⟨i, -, highest, found⟩ := getmsb_highest some
  rw [found]
  exact clear_bit_lt highest.bit

end AnchorNode.CanDrv
