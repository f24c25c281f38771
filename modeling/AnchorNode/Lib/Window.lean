import Mathlib.Tactic

/-! The places of a circular buffer that are in use, by get index and fill level. -/

namespace AnchorNode.Lib

structure Window (n : Nat) where
  get : Nat
  fill : Nat
  get_le : get ≤ n - 1
  fill_le : fill ≤ n

namespace Window

variable {n : Nat}

/-- The places in use, oldest first. -/
def places (w : Window n) : List Nat := (List.range w.fill).map fun k => (w.get + k) % n

/-- The place that is used next. -/
def put (w : Window n) : Nat := (w.get + w.fill) % n

theorem push_le {w : Window n} (room : w.fill < n) : w.fill + 1 ≤ n := room

/-- One more place is used, if there is one. -/
def push (w : Window n) : Window n :=
  if room : w.fill < n then ⟨w.get, w.fill + 1, w.get_le, push_le room⟩ else w

theorem pass_get_le (i : Nat) (some : 0 < n) : (i + 1) % n ≤ n - 1 :=
  Nat.le_sub_one_of_lt (Nat.mod_lt _ some)

theorem pass_fill_le (w : Window n) (i : Nat) : w.fill - ((i + n - w.get) % n + 1) ≤ n :=
  (Nat.sub_le _ _).trans w.fill_le

/-- The places up to `i` are given back. -/
def pass (w : Window n) (i : Nat) : Window n :=
  if some : 0 < n then
    ⟨(i + 1) % n, w.fill - ((i + n - w.get) % n + 1), pass_get_le i some, pass_fill_le w i⟩
  else w

theorem none_get_le : 0 ≤ n - 1 := Nat.zero_le _

/-- No place is in use. -/
def vacant (n : Nat) : Window n := ⟨0, 0, none_get_le, Nat.zero_le n⟩

@[simp] theorem vacant_places : (vacant n).places = [] := rfl

@[simp] theorem places_length (w : Window n) : w.places.length = w.fill := by simp [places]

theorem get_lt (w : Window n) (some : 0 < n) : w.get < n := by
  have := w.get_le
  omega

theorem places_lt {w : Window n} {p : Nat} (member : p ∈ w.places) : p < n := by
  obtain ⟨k, inside, rfl⟩ := List.mem_map.mp member
  have := w.fill_le
  have := List.mem_range.mp inside
  exact Nat.mod_lt _ (by omega)

theorem put_lt {w : Window n} (room : w.fill < n) : w.put < n := Nat.mod_lt _ (by omega)

theorem turn_ne {get j k : Nat} (less : j < k) (short : k < n) : (get + j) % n ≠ (get + k) % n := by
  intro same
  have whole : n ∣ (get + k) - (get + j) := (Nat.modEq_iff_dvd' (by omega)).mp same
  have := Nat.le_of_dvd (by omega) whole
  omega

theorem put_not_mem {w : Window n} (room : w.fill < n) : w.put ∉ w.places := by
  intro member
  obtain ⟨k, inside, same⟩ := List.mem_map.mp member
  exact turn_ne (List.mem_range.mp inside) room same

theorem push_places {w : Window n} (room : w.fill < n) : w.push.places = w.places ++ [w.put] := by
  rw [push, dif_pos room]
  simp [places, put, List.range_succ]

theorem push_get (w : Window n) : w.push.get = w.get := by
  unfold push
  split <;> rfl

theorem places_cons (w : Window n) {p : Nat} {rest : List Nat} (list : w.places = p :: rest) :
    p = w.get ∧ 0 < n ∧ 0 < w.fill := by
  have some : 0 < w.fill := by
    rw [← places_length, list]
    exact Nat.succ_pos _
  have wide : 0 < n := Nat.lt_of_lt_of_le some w.fill_le
  refine ⟨?_, wide, some⟩
  have head := congrArg (·[0]?) list
  simp only [places, List.getElem?_map, List.getElem?_range some, List.getElem?_cons_zero,
    Option.map_some, Nat.add_zero, Nat.mod_eq_of_lt (w.get_lt wide), Option.some.injEq] at head
  exact head.symm

theorem pass_places {w : Window n} (some : w.places ≠ []) :
    (w.pass w.get).places = w.places.tail := by
  obtain ⟨p, rest, list⟩ := List.exists_cons_of_ne_nil some
  obtain ⟨-, wide, used⟩ := w.places_cons list
  obtain ⟨fill, count⟩ := Nat.exists_eq_succ_of_ne_zero (Nat.ne_of_gt used)
  have one : w.fill - ((w.get + n - w.get) % n + 1) = fill := by
    rw [Nat.add_sub_cancel_left, Nat.mod_self, count]
    rfl
  rw [pass, dif_pos wide, places, places]
  dsimp only
  rw [one, count, Nat.succ_eq_add_one, List.range_succ_eq_map, List.map_cons, List.map_map,
    List.tail_cons]
  refine List.map_congr_left fun k _ => ?_
  simp only [Function.comp_apply, Nat.succ_eq_add_one, Nat.mod_add_mod]
  congr 1
  omega

end Window

end AnchorNode.Lib
