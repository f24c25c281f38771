import Mathlib.Data.List.Basic
import Mathlib.Tactic

/-! Byte memory addressed by natural numbers, with block reads and writes. -/

namespace AnchorNode.Lib

/-- The bytes behind a pointer. Nothing bounds the address: whether an access
stays inside a buffer is a property to be proved, not a restriction of the type. -/
abbrev Mem := Nat → UInt8

def Mem.read (m : Mem) (offset length : Nat) : List UInt8 :=
  (List.range length).map fun i => m (offset + i)

def Mem.write (m : Mem) (offset : Nat) (bytes : List UInt8) : Mem := fun i =>
  if offset ≤ i then bytes[i - offset]?.getD (m i) else m i

@[simp] theorem read_length (m : Mem) (offset length : Nat) :
    (m.read offset length).length = length := by
  simp [Mem.read]

@[simp] theorem read_zero (m : Mem) (offset : Nat) : m.read offset 0 = [] := rfl

theorem read_add (m : Mem) (offset first second : Nat) :
    m.read offset (first + second) = m.read offset first ++ m.read (offset + first) second := by
  simp [Mem.read, List.range_add, Function.comp_def, Nat.add_assoc]

theorem read_congr (m m' : Mem) (offset length : Nat)
    (agree : ∀ i, offset ≤ i → i < offset + length → m i = m' i) :
    m.read offset length = m'.read offset length := by
  simp only [Mem.read]
  apply List.map_congr_left
  intro i member
  have bound := List.mem_range.mp member
  exact agree (offset + i) (by omega) (by omega)

theorem write_inside (m : Mem) (offset : Nat) (bytes : List UInt8) (i : Nat)
    (inside : i < bytes.length) : m.write offset bytes (offset + i) = bytes[i] := by
  simp [Mem.write, List.getElem?_eq_getElem inside]

theorem write_outside (m : Mem) (offset : Nat) (bytes : List UInt8) (i : Nat)
    (outside : i < offset ∨ offset + bytes.length ≤ i) : m.write offset bytes i = m i := by
  unfold Mem.write
  split
  · rename_i after
    rw [List.getElem?_eq_none (by omega)]
    rfl
  · rfl

theorem read_write_same (m : Mem) (offset : Nat) (bytes : List UInt8) :
    (m.write offset bytes).read offset bytes.length = bytes := by
  apply List.ext_getElem
  · simp
  · intro i _ inside
    simp only [Mem.read, List.getElem_map, List.getElem_range]
    exact write_inside m offset bytes i inside

theorem read_write_before (m : Mem) (offset length at' : Nat) (bytes : List UInt8)
    (before : offset + length ≤ at') :
    (m.write at' bytes).read offset length = m.read offset length := by
  apply read_congr
  intro i _ bound
  exact write_outside m at' bytes i (Or.inl (by omega))

theorem read_write_after (m : Mem) (offset length at' : Nat) (bytes : List UInt8)
    (after : at' + bytes.length ≤ offset) :
    (m.write at' bytes).read offset length = m.read offset length := by
  apply read_congr
  intro i start _
  exact write_outside m at' bytes i (Or.inr (by omega))

theorem write_append (m : Mem) (offset : Nat) (first second : List UInt8) :
    (m.write offset first).write (offset + first.length) second =
      m.write offset (first ++ second) := by
  funext i
  simp only [Mem.write]
  by_cases before : i < offset + first.length
  · rw [if_neg (by omega)]
    split
    · rw [List.getElem?_append_left (by omega)]
    · rfl
  · rw [if_pos (by omega), if_pos (by omega), if_pos (by omega),
      List.getElem?_append_right (by omega), List.getElem?_eq_none (by omega : first.length ≤ _),
      Option.getD_none, Nat.sub_add_eq]

theorem write_eq_self_iff (m : Mem) (offset : Nat) (bytes : List UInt8) :
    m.write offset bytes = m ↔ m.read offset bytes.length = bytes := by
  constructor
  · intro same
    rw [← same]
    exact read_write_same m offset bytes
  · intro stored
    funext i
    by_cases inside : offset ≤ i ∧ i - offset < bytes.length
    · have byte := write_inside m offset bytes (i - offset) inside.2
      have place : offset + (i - offset) = i := by omega
      rw [place] at byte
      have read : bytes[i - offset]? = some (m i) := by
        rw [← stored]
        simp [Mem.read, inside.2, place]
      rw [byte]
      exact (List.getElem_eq_iff _).mpr read
    · exact write_outside m offset bytes i (by omega)

theorem read_framed (m : Mem) (address header : List UInt8) (length : Nat) :
    ((m.write 0 address).write address.length header).read 0
        (address.length + header.length + length) =
      address ++ header ++ m.read (address.length + header.length) length := by
  rw [read_add, read_add, Nat.zero_add, Nat.zero_add, read_write_same,
    read_write_before _ 0 _ _ _ (by omega), read_write_same,
    read_write_after _ _ _ _ _ (Nat.le_refl _), read_write_after _ _ _ _ _ (by omega)]

theorem read_padded (m : Mem) (offset : Nat) (payload padding : List UInt8) :
    ((m.write offset payload).write (offset + payload.length) padding).read offset
      (payload.length + padding.length) = payload ++ padding := by
  rw [read_add, read_write_before _ _ _ _ _ (Nat.le_refl _), read_write_same, read_write_same]

theorem read_slice {m : Mem} {offset : Nat} {bytes : List UInt8}
    (holds : m.read offset bytes.length = bytes) (start length : Nat)
    (inside : start + length ≤ bytes.length) :
    m.read (offset + start) length = (bytes.drop start).take length := by
  apply List.ext_getElem
  · rw [read_length, List.length_take, List.length_drop]
    omega
  · intro i first _
    rw [read_length] at first
    have byte : bytes[start + i]? = some (m (offset + start + i)) := by
      rw [← holds]
      have bound : start + i < bytes.length := by omega
      simp [Mem.read, bound, Nat.add_assoc]
    simp only [Mem.read, List.getElem_map, List.getElem_range, List.getElem_take, List.getElem_drop]
    exact (List.getElem_eq_iff _).mpr byte |>.symm

theorem getD_read (m : Mem) (length i : Nat) (inside : i < length) :
    (m.read 0 length).getD i 0 = m i := by
  simp [Mem.read, List.getD, inside]

theorem read_getD {m : Mem} {bytes : List UInt8} (holds : m.read 0 bytes.length = bytes) {i : Nat}
    (inside : i < bytes.length) : m i = bytes.getD i 0 := by
  have byte : bytes[i]? = some (m i) := by
    rw [← holds]
    simp [Mem.read, inside]
  rw [List.getD_eq_getElem?_getD, byte]
  rfl

end AnchorNode.Lib
