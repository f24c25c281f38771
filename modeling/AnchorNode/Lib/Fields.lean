import Mathlib.Tactic

/-! Fields of machine words: bits that a word holds from some offset on, as code packs them with
shifts and takes them out with masks. -/

namespace AnchorNode.Lib

variable {n : Nat} {v w x : BitVec n} {off len k : Nat}

/-- `len` bits of a word from bit `off` on. -/
def field (w : BitVec n) (off len : Nat) : BitVec n :=
  (w >>> off) &&& BitVec.ofNat n (2 ^ len - 1)

theorem getLsbD_field (w : BitVec n) (off len i : Nat) :
    (field w off len).getLsbD i = (decide (i < len) && w.getLsbD (off + i)) := by
  rw [field, BitVec.getLsbD_and, BitVec.getLsbD_ushiftRight, BitVec.getLsbD_ofNat,
    Nat.testBit_two_pow_sub_one]
  by_cases inside : i < n
  · simp [inside, Bool.and_comm]
  · simp [inside, BitVec.getLsbD_of_ge w (off + i) (by omega)]

/-- What a mask of the field leaves, shifted down, is the field. -/
theorem masked_field (w : BitVec n) (off len : Nat) :
    (w &&& (BitVec.ofNat n (2 ^ len - 1) <<< off)) >>> off = field w off len := by
  refine BitVec.eq_of_getLsbD_eq fun i inside => ?_
  rw [getLsbD_field, BitVec.getLsbD_ushiftRight, BitVec.getLsbD_and, BitVec.getLsbD_shiftLeft,
    BitVec.getLsbD_ofNat, Nat.add_sub_cancel_left, Nat.testBit_two_pow_sub_one]
  by_cases high : off + i < n
  · simp [high, inside, Bool.and_comm]
  · simp [BitVec.getLsbD_of_ge w (off + i) (by omega)]

theorem masked_low (w : BitVec n) (len : Nat) :
    w &&& BitVec.ofNat n (2 ^ len - 1) = field w 0 len := by
  rw [field, BitVec.ushiftRight_zero]

theorem field_or (v w : BitVec n) (off len : Nat) :
    field (v ||| w) off len = field v off len ||| field w off len := by
  refine BitVec.eq_of_getLsbD_eq fun i inside => ?_
  simp only [getLsbD_field, BitVec.getLsbD_or, Bool.and_or_distrib_left]

theorem getLsbD_small (small : x.toNat < 2 ^ k) {i : Nat} (high : k ≤ i) : x.getLsbD i = false :=
  Nat.testBit_lt_two_pow (Nat.lt_of_lt_of_le small (Nat.pow_le_pow_right (by decide) high))

/-- A value shifted into its place is read back from there. -/
theorem field_shiftLeft_self (small : x.toNat < 2 ^ len) (fits : off + len ≤ n) :
    field (x <<< off) off len = x := by
  refine BitVec.eq_of_getLsbD_eq fun i inside => ?_
  rw [getLsbD_field, BitVec.getLsbD_shiftLeft, Nat.add_sub_cancel_left]
  by_cases low : i < len
  · simp [low, show off + i < n by omega]
  · simp [low, getLsbD_small small (Nat.not_lt.mp low)]

theorem field_shiftLeft_above (above : off + len ≤ k) : field (x <<< k) off len = 0#n := by
  refine BitVec.eq_of_getLsbD_eq fun i inside => ?_
  rw [getLsbD_field, BitVec.getLsbD_shiftLeft, BitVec.getLsbD_zero]
  by_cases low : i < len
  · simp [show off + i < k by omega]
  · simp [low]

theorem field_shiftLeft_below (small : x.toNat < 2 ^ len) {place : Nat}
    (below : place + len ≤ off) : field (x <<< place) off k = 0#n := by
  refine BitVec.eq_of_getLsbD_eq fun i inside => ?_
  rw [getLsbD_field, BitVec.getLsbD_shiftLeft, BitVec.getLsbD_zero,
    getLsbD_small small (i := off + i - place) (by omega), Bool.and_false, Bool.and_false]

theorem field_small (small : x.toNat < 2 ^ len) (below : len ≤ off) : field x off k = 0#n := by
  refine BitVec.eq_of_getLsbD_eq fun i inside => ?_
  rw [getLsbD_field, BitVec.getLsbD_zero, getLsbD_small small (by omega), Bool.and_false]

theorem field_self (small : x.toNat < 2 ^ len) : field x 0 len = x := by
  refine BitVec.eq_of_getLsbD_eq fun i inside => ?_
  rw [getLsbD_field, Nat.zero_add]
  by_cases low : i < len
  · simp [low]
  · simp [low, getLsbD_small small (Nat.not_lt.mp low)]

section Flags
variable {b : Nat}

theorem getLsbD_bit (inside : b < n) (i : Nat) : (1#n <<< b).getLsbD i = decide (i = b) := by
  rw [BitVec.getLsbD_shiftLeft, BitVec.getLsbD_one]
  by_cases same : i = b
  · simp [same, inside, Nat.zero_lt_of_lt inside]
  · by_cases before : i < b
    · simp [before, same]
    · simp [before, same, show ¬ i - b = 0 by omega]

theorem getLsbD_clear_bit (w : BitVec n) (inside : b < n) (i : Nat) :
    (w &&& ~~~(1#n <<< b)).getLsbD i = (w.getLsbD i && decide (i ≠ b)) := by
  rw [BitVec.getLsbD_and, BitVec.getLsbD_not, getLsbD_bit inside]
  by_cases here : i < n
  · simp [here]
  · simp [BitVec.getLsbD_of_ge w i (by omega)]

theorem and_bit_eq_zero (w : BitVec n) (inside : b < n) :
    w &&& (1#n <<< b) = 0#n ↔ w.getLsbD b = false := by
  constructor
  · intro none
    have at_b := congrArg (BitVec.getLsbD · b) none
    simpa [getLsbD_bit inside] using at_b
  · intro clear
    refine BitVec.eq_of_getLsbD_eq fun i _ => ?_
    rw [BitVec.getLsbD_and, getLsbD_bit inside, BitVec.getLsbD_zero]
    by_cases same : i = b
    · rw [same, clear, Bool.false_and]
    · simp [same]

theorem cleared_and {f : BitVec n} (apart : w &&& f = 0#n) (v : BitVec n) :
    (v &&& ~~~w) &&& f = v &&& f := by
  refine BitVec.eq_of_getLsbD_eq fun i inside => ?_
  have bit := congrArg (BitVec.getLsbD · i) apart
  simp only [BitVec.getLsbD_and, BitVec.getLsbD_zero] at bit
  simp only [BitVec.getLsbD_and, BitVec.getLsbD_not, inside, decide_true, Bool.true_and]
  cases flag : f.getLsbD i
  · simp
  · rw [flag, Bool.and_true] at bit
    simp [bit]

theorem raised_and {f : BitVec n} (up : v &&& f ≠ 0#n) (w : BitVec n) :
    (v ||| w) &&& f ≠ 0#n := by
  intro none
  refine up (BitVec.eq_of_getLsbD_eq fun i _ => ?_)
  have bit := congrArg (BitVec.getLsbD · i) none
  simp only [BitVec.getLsbD_and, BitVec.getLsbD_or, BitVec.getLsbD_zero] at bit ⊢
  cases flag : f.getLsbD i
  · simp
  · rw [flag, Bool.and_true, Bool.or_eq_false_iff] at bit
    rw [bit.1, Bool.false_and]

theorem raised_self {f : BitVec n} (some : f ≠ 0#n) (v : BitVec n) : (v ||| f) &&& f ≠ 0#n := by
  rw [BitVec.or_comm]
  exact raised_and (by rwa [BitVec.and_self]) v

theorem clear_bit_lt (set : w.getLsbD b = true) : (w &&& ~~~(1#n <<< b)).toNat < w.toNat := by
  have inside : b < n := BitVec.lt_of_getLsbD set
  refine Nat.lt_of_le_of_ne (by rw [BitVec.toNat_and]; exact Nat.and_le_left) fun same => ?_
  have at_b := congrArg (BitVec.getLsbD · b) (BitVec.eq_of_toNat_eq same)
  rw [getLsbD_clear_bit w inside, set] at at_b
  simp at at_b

end Flags

end AnchorNode.Lib
