import Mathlib.Tactic

/-! Ring buffers of `n` slots, of which one always stays free, and the list they hold. -/

namespace AnchorNode.Lib

structure Ring (n : Nat) (α : Type) where
  slots : Nat → α
  head : Nat
  tail : Nat
  head_lt : head < n
  tail_lt : tail < n

namespace Ring

variable {n : Nat} {α : Type}

/-- An empty ring. -/
def vacant (positive : 0 < n) (a : α) : Ring n α := ⟨fun _ => a, 0, 0, positive, positive⟩

def length (r : Ring n α) : Nat := (r.tail + n - r.head) % n

/-- The entries between head and tail, oldest first. -/
def toList (r : Ring n α) : List α :=
  (List.range r.length).map fun k => r.slots ((r.head + k) % n)

def isEmpty (r : Ring n α) : Bool := r.tail == r.head

def isFull (r : Ring n α) : Bool := (r.tail + 1) % n == r.head

def front (r : Ring n α) : α := r.slots r.head

/-- The next free slot is filled. -/
def push (r : Ring n α) (a : α) : Ring n α where
  slots := Function.update r.slots r.tail a
  head := r.head
  tail := (r.tail + 1) % n
  head_lt := r.head_lt
  tail_lt := Nat.mod_lt _ (Nat.zero_lt_of_lt r.tail_lt)

def pop (r : Ring n α) : Ring n α where
  slots := r.slots
  head := (r.head + 1) % n
  tail := r.tail
  head_lt := Nat.mod_lt _ (Nat.zero_lt_of_lt r.tail_lt)
  tail_lt := r.tail_lt

/-- One slot is written, whether or not it is in use. -/
def set (r : Ring n α) (i : Nat) (a : α) : Ring n α :=
  { r with slots := Function.update r.slots i a }

/-- Head and tail are reset; the slots keep their contents. -/
def clear (r : Ring n α) : Ring n α where
  slots := r.slots
  head := 0
  tail := 0
  head_lt := Nat.zero_lt_of_lt r.tail_lt
  tail_lt := Nat.zero_lt_of_lt r.tail_lt

@[simp] theorem set_head (r : Ring n α) (i : Nat) (a : α) : (r.set i a).head = r.head := rfl
@[simp] theorem set_tail (r : Ring n α) (i : Nat) (a : α) : (r.set i a).tail = r.tail := rfl
@[simp] theorem set_isEmpty (r : Ring n α) (i : Nat) (a : α) : (r.set i a).isEmpty = r.isEmpty :=
    rfl
@[simp] theorem set_isFull (r : Ring n α) (i : Nat) (a : α) : (r.set i a).isFull = r.isFull := rfl
@[simp] theorem set_slot (r : Ring n α) (i : Nat) (a : α) : (r.set i a).slots i = a := by simp [set]
@[simp] theorem set_set (r : Ring n α) (i : Nat) (a b : α) :
    (r.set i a).set i b = r.set i b := by simp [set]
@[simp] theorem clear_toList (r : Ring n α) : r.clear.toList = [] := by
  simp [toList, length, clear]

@[simp] theorem toList_length (r : Ring n α) : r.toList.length = r.length := by simp [toList]

theorem length_lt (r : Ring n α) : r.length < n := Nat.mod_lt _ (Nat.zero_lt_of_lt r.tail_lt)

theorem length_eq (r : Ring n α) :
    r.length = if r.head ≤ r.tail then r.tail - r.head else r.tail + n - r.head := by
  have head := r.head_lt
  have tail := r.tail_lt
  unfold length
  split
  · rw [show r.tail + n - r.head = r.tail - r.head + n by omega, Nat.add_mod_right]
    exact Nat.mod_eq_of_lt (by omega)
  · exact Nat.mod_eq_of_lt (by omega)

theorem succ_mod {i n : Nat} (bound : i < n) : (i + 1) % n = if i + 1 = n then 0 else i + 1 := by
  split
  · rename_i last
    rw [last, Nat.mod_self]
  · exact Nat.mod_eq_of_lt (by omega)

theorem isEmpty_iff (r : Ring n α) : r.isEmpty = true ↔ r.toList = [] := by
  have head := r.head_lt
  have tail := r.tail_lt
  rw [← List.length_eq_zero_iff, toList_length, length_eq, isEmpty, beq_iff_eq]
  split <;> omega

theorem isFull_iff (r : Ring n α) : r.isFull = true ↔ r.toList.length + 1 = n := by
  have head := r.head_lt
  have tail := r.tail_lt
  rw [toList_length, length_eq, isFull, beq_iff_eq, succ_mod tail]
  split <;> split <;> omega

theorem push_length (r : Ring n α) (a : α) (room : r.isFull = false) :
    (r.push a).length = r.length + 1 := by
  have head := r.head_lt
  have tail := r.tail_lt
  have free : (r.tail + 1) % n ≠ r.head := by simpa [isFull] using room
  rw [succ_mod tail] at free
  rw [length_eq, length_eq]
  simp only [push, succ_mod tail]
  split at free
  · split <;> split <;> split <;> omega
  · split <;> split <;> split <;> omega

theorem pop_length (r : Ring n α) (filled : r.isEmpty = false) :
    r.length = r.pop.length + 1 := by
  have head := r.head_lt
  have tail := r.tail_lt
  have other : r.tail ≠ r.head := by simpa [isEmpty] using filled
  rw [length_eq, length_eq]
  simp only [pop, succ_mod head]
  split <;> split <;> split <;> omega

/-- A pushed entry comes last. -/
theorem push_toList (r : Ring n α) (a : α) (room : r.isFull = false) :
    (r.push a).toList = r.toList ++ [a] := by
  have head := r.head_lt
  have tail := r.tail_lt
  have bound := r.length_lt
  have last : (r.head + r.length) % n = r.tail := by
    rw [length_eq]
    split
    · rw [show r.head + (r.tail - r.head) = r.tail by omega]
      exact Nat.mod_eq_of_lt tail
    · rw [show r.head + (r.tail + n - r.head) = r.tail + n by omega, Nat.add_mod_right]
      exact Nat.mod_eq_of_lt tail
  rw [toList, push_length r a room, List.range_succ, List.map_append]
  congr 1
  · apply List.map_congr_left
    intro k member
    have early := List.mem_range.mp member
    -- the slots before the tail are not the one that is written
    have other : (r.head + k) % n ≠ r.tail := by
      intro same
      have distance : (r.head + k) % n = (r.head + r.length) % n := same.trans last.symm
      have equal : k % n = r.length % n := Nat.ModEq.add_left_cancel' r.head distance
      rw [Nat.mod_eq_of_lt (by omega), Nat.mod_eq_of_lt bound] at equal
      omega
    simp [push, other]
  · simp [push, last]

theorem toList_cons (r : Ring n α) (filled : r.isEmpty = false) :
    r.toList = r.front :: r.pop.toList := by
  have head := r.head_lt
  rw [toList, pop_length r filled, List.range_succ_eq_map, List.map_cons, List.map_map]
  congr 1
  · simp [front, Nat.mod_eq_of_lt head]
  · apply List.map_congr_left
    intro k _
    simp only [pop, Function.comp_apply, Nat.mod_add_mod]
    congr 2
    omega

theorem push_filled (r : Ring n α) (a : α) (room : r.isFull = false) :
    (r.push a).isEmpty = false := by
  cases empty : (r.push a).isEmpty with
  | false => rfl
  | true =>
      have nothing := (isEmpty_iff _).mp empty
      rw [push_toList r a room] at nothing
      simp at nothing

theorem push_front (r : Ring n α) (a : α) (room : r.isFull = false)
    (filled : r.isEmpty = false) : (r.push a).front = r.front := by
  have pushed := push_toList r a room
  rw [toList_cons _ (push_filled r a room), toList_cons _ filled] at pushed
  exact (List.cons.inj pushed).1

theorem push_empty_front (r : Ring n α) (a : α) (room : r.isFull = false)
    (empty : r.isEmpty = true) : (r.push a).front = a := by
  have pushed := push_toList r a room
  rw [toList_cons _ (push_filled r a room), (isEmpty_iff r).mp empty] at pushed
  exact (List.cons.inj pushed).1

theorem isFull_of_empty (r : Ring n α) (size : 1 < n) (empty : r.isEmpty = true) :
    r.isFull = false := by
  rw [← Bool.not_eq_true, isFull_iff, (isEmpty_iff r).mp empty, List.length_nil]
  omega

theorem set_front_toList (r : Ring n α) (a : α) (filled : r.isEmpty = false) :
    (r.set r.head a).toList = a :: r.pop.toList := by
  have head := r.head_lt
  have bound := r.length_lt
  have size := pop_length r filled
  rw [toList_cons (r.set r.head a) filled]
  congr 1
  · simp [front, set]
  · apply List.map_congr_left
    intro k member
    have early := List.mem_range.mp member
    have other : (r.head + 1 + k) % n ≠ r.head := by
      intro same
      have start : r.head % n = r.head := Nat.mod_eq_of_lt head
      have distance : (r.head + (1 + k)) % n = (r.head + 0) % n := by
        rw [Nat.add_zero, start, ← Nat.add_assoc]
        exact same
      have equal : (1 + k) % n = 0 % n := Nat.ModEq.add_left_cancel' r.head distance
      have short : k < r.pop.length := early
      rw [Nat.mod_eq_of_lt (by omega), Nat.zero_mod] at equal
      omega
    simp [pop, set, other]

end Ring

end AnchorNode.Lib
