import Mathlib.Tactic

/-! Cutting a list into a first piece and further pieces of one size, the last of which may be
shorter. -/

namespace AnchorNode.Lib

/-- A total, the size of its first piece and that of the others. -/
structure Cut where
  total : Nat
  head : Nat
  room : Nat
  head_pos : 0 < head
  head_le : head ≤ total
  room_pos : 0 < room

namespace Cut

variable {α : Type} (k : Cut)

/-- Where piece `i` starts. -/
def start : Nat → Nat
  | 0 => 0
  | i + 1 => min k.total (k.head + i * k.room)

def pieces : Nat := (k.total - k.head + k.room - 1) / k.room + 1

/-- Piece `i` of a list. -/
def piece (xs : List α) (i : Nat) : List α :=
  (xs.drop (k.start i)).take (k.start (i + 1) - k.start i)

@[simp] theorem start_zero : k.start 0 = 0 := rfl

theorem start_one : k.start 1 = k.head := by
  have within := k.head_le
  simp [start, within]

theorem start_le_total (i : Nat) : k.start i ≤ k.total := by
  cases i with
  | zero => exact Nat.zero_le _
  | succ i => exact Nat.min_le_left _ _

theorem start_le_succ (i : Nat) : k.start i ≤ k.start (i + 1) := by
  cases i with
  | zero => exact Nat.zero_le _
  | succ i =>
      have further : k.head + i * k.room ≤ k.head + (i + 1) * k.room := by
        rw [Nat.add_mul]
        omega
      exact min_le_min_left _ further

theorem pieces_pos : 0 < k.pieces := Nat.succ_pos _

theorem pieces_le_total : k.pieces ≤ k.total := by
  have positive := k.head_pos
  have within := k.head_le
  have room := k.room_pos
  have further : (k.total - k.head + k.room - 1) / k.room ≤ k.total - k.head := by
    rw [Nat.div_le_iff_le_mul_add_pred room]
    have wide : k.total - k.head ≤ k.room * (k.total - k.head) := Nat.le_mul_of_pos_left _ room
    omega
  rw [pieces]
  omega

theorem start_lt_iff (i : Nat) : k.start i < k.total ↔ i < k.pieces := by
  have positive := k.head_pos
  have within := k.head_le
  have room := k.room_pos
  cases i with
  | zero =>
      refine iff_of_true ?_ k.pieces_pos
      rw [start_zero]
      omega
  | succ i =>
      have count : i + 1 < k.pieces ↔ (i + 1) * k.room ≤ k.total - k.head + k.room - 1 := by
        rw [pieces, Nat.succ_lt_succ_iff, ← Nat.succ_le_iff, Nat.le_div_iff_mul_le room]
      rw [count, Nat.add_mul, start]
      omega

theorem start_eq_total {i : Nat} (through : k.pieces ≤ i) : k.start i = k.total := by
  have upper := k.start_le_total i
  have done := mt (k.start_lt_iff i).mp (by omega)
  omega

theorem start_succ {i : Nat} (later : 0 < i) :
    k.start (i + 1) = k.start i + min k.room (k.total - k.start i) := by
  obtain ⟨m, rfl⟩ := Nat.exists_eq_succ_of_ne_zero (by omega : i ≠ 0)
  have product : (m + 1) * k.room = m * k.room + k.room := by rw [Nat.add_mul, Nat.one_mul]
  simp only [start, product]
  omega

theorem rest_pieces {i : Nat} (later : 0 < i) (inside : i ≤ k.pieces) :
    (k.total - k.start i + k.room - 1) / k.room = k.pieces - i := by
  have room := k.room_pos
  obtain ⟨m, rfl⟩ := Nat.exists_eq_succ_of_ne_zero (by omega : i ≠ 0)
  by_cases more : m + 1 < k.pieces
  · have left := (k.start_lt_iff (m + 1)).mpr more
    have here : k.start (m + 1) = k.head + m * k.room := by
      simp only [start] at left ⊢
      omega
    have shorter : k.total - k.start (m + 1) + k.room - 1 =
        k.total - k.head + k.room - 1 - k.room * m := by
      rw [here, Nat.mul_comm k.room m]
      rw [here] at left
      omega
    rw [Nat.succ_eq_add_one, shorter, Nat.sub_mul_div, pieces]
    omega
  · have end' : k.pieces ≤ m + 1 := by omega
    rw [Nat.succ_eq_add_one, k.start_eq_total end', Nat.sub_self, Nat.zero_add,
      Nat.div_eq_of_lt (by omega)]
    omega

theorem piece_length {xs : List α} (whole : xs.length = k.total) (i : Nat) :
    (k.piece xs i).length = k.start (i + 1) - k.start i := by
  have upper := k.start_le_total (i + 1)
  rw [piece, List.length_take, List.length_drop]
  omega

/-- What has been cut off, with the next piece. -/
theorem take_succ (xs : List α) (i : Nat) :
    xs.take (k.start i) ++ k.piece xs i = xs.take (k.start (i + 1)) := by
  have further := k.start_le_succ i
  rw [piece, ← List.take_add, Nat.add_sub_cancel' further]

theorem take_all {xs : List α} (whole : xs.length = k.total) {i : Nat} (through : k.pieces ≤ i) :
    xs.take (k.start i) = xs := by
  rw [k.start_eq_total through, ← whole, List.take_length]

end Cut

end AnchorNode.Lib
