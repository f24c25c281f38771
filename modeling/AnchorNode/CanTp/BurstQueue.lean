import AnchorNode.Lib.Fifo
import AnchorNode.CanTp.Locality
import AnchorNode.CanTp.Ownership

/-! The burst queue beside a bounded queue: its two counters are bytes that are never reset,
and its slots are theirs modulo the size. -/

namespace AnchorNode.CanTp

open AnchorNode.Lib AnchorNode.Lib.Fifo

/-- `CanTp_Prv_QInit`. -/
def qInit (q : BurstQ) : BurstQ := { q with tail := 0, head := 0 }

theorem resetModule_burstQ (b : Build) (cfg : Config b) (s : State) :
    (resetModule b cfg s).burstQ = qInit s.burstQ := rfl

section Queue
variable (b : Build)

/-- A call of `CanTp_Prv_PutInQ` or `CanTp_Prv_GetFromQ`. -/
def burstCall (q : BurstQ) : Call Nat → BurstQ × Answer Nat
  | .put c =>
    match putInQ b q c with
    | some q' => (q', .done)
    | none => (q, .refused)
  | .get =>
    match getFromQ b q with
    | some (c, q') => (q', .got c)
    | none => (q, .refused)

def BurstQ.count (q : BurstQ) : Nat := (q.tail + 256 - q.head) % 256

def BurstQ.slot (q : BurstQ) (k : Nat) : Nat := u8 (q.head + 1 + k) % b.burstQueueSize

def BurstQ.contents (q : BurstQ) : List Nat :=
  (List.range q.count).map fun k => q.queue (q.slot b k)

/-- A channel is put although the queue is full, as the tail has started again at zero and the
head has not; or its slot, the slots having started again too, is that of a waiting entry for
another channel. -/
def Slips (q : BurstQ) : Call Nat → Prop
  | .put c =>
    (q.tail < q.head ∧ q.count = b.burstQueueSize) ∨
    (q.count < b.burstQueueSize ∧ u8 (q.tail + 1) < 256 % b.burstQueueSize ∧
      256 % b.burstQueueSize ≤ q.count ∧ q.queue (u8 (q.tail + 1) % b.burstQueueSize) ≠ c)
  | .get => False

instance (q : BurstQ) (c : Call Nat) : Decidable (Slips b q c) := by
  cases c <;> unfold Slips <;> infer_instance

/-- The counters are bytes, and no more entries are queued than there are slots. -/
structure Sane (q : BurstQ) : Prop where
  head : q.head < 256
  tail : q.tail < 256
  count : q.count ≤ b.burstQueueSize

def stored (q : BurstQ) (c : Nat) : BurstQ :=
  { q with
    tail := u8 (q.tail + 1)
    queue := Function.update q.queue (u8 (q.tail + 1) % b.burstQueueSize) c }

def shortened (q : BurstQ) : BurstQ := { q with head := u8 (q.head + 1) }

theorem burstCall_put (q : BurstQ) (c : Nat) : burstCall b q (.put c) =
    if (q.tail : Int) - q.head ≠ b.burstQueueSize then (stored b q c, .done)
    else (q, .refused) := by
  simp only [burstCall, putInQ]
  split
  · rename_i taken
    split at taken
    · rename_i room
      cases taken
      rw [if_pos room, stored]
    · cases taken
  · rename_i taken
    split at taken
    · cases taken
    · rename_i full
      rw [if_neg full]

theorem burstCall_get (q : BurstQ) : burstCall b q .get =
    if (q.tail : Int) - q.head ≠ 0 then (shortened q, .got (q.queue (q.slot b 0)))
    else (q, .refused) := by
  simp only [burstCall, getFromQ]
  split
  · rename_i taken
    split at taken
    · rename_i filled
      cases taken
      rw [if_pos filled, shortened, BurstQ.slot, Nat.add_zero]
    · cases taken
  · rename_i taken
    split at taken
    · cases taken
    · rename_i empty
      rw [if_neg empty]

end Queue

variable {b : Build} {q : BurstQ}

@[simp] theorem contents_length (b : Build) (q : BurstQ) : (q.contents b).length = q.count := by
  simp [BurstQ.contents]

theorem qInit_sane (q : BurstQ) : Sane b (qInit q) := ⟨by simp [qInit], by simp [qInit],
  by simp [qInit, BurstQ.count]⟩

theorem qInit_contents (q : BurstQ) : (qInit q).contents b = [] := by
  simp [BurstQ.contents, BurstQ.count, qInit]

section Slots

/-- Two places less than the size apart have the same slot only across the end of the counters,
as far apart as 256 modulo the size. -/
theorem slot_eq_iff (upper : b.burstQueueSize ≤ 255) {k n : Nat} (before : k < n)
    (near : n < b.burstQueueSize) :
    q.slot b k = q.slot b n ↔
      u8 (q.head + 1 + n) < n - k ∧ n - k = 256 % b.burstQueueSize := by
  have same (y : Nat) : (y + (256 - (n - k))) % b.burstQueueSize = y % b.burstQueueSize ↔
      n - k = 256 % b.burstQueueSize := by
    constructor
    · intro equal
      have zero : 256 - (n - k) ≡ 0 [MOD b.burstQueueSize] :=
        Nat.ModEq.add_left_cancel' y equal
      calc n - k = (0 + (n - k)) % b.burstQueueSize := by
            rw [Nat.zero_add, Nat.mod_eq_of_lt (by omega)]
        _ = (256 - (n - k) + (n - k)) % b.burstQueueSize := (zero.add_right (n - k)).symm
        _ = 256 % b.burstQueueSize := by rw [Nat.sub_add_cancel (by omega)]
    · intro apart
      have zero : (256 - (n - k)) % b.burstQueueSize = 0 := by
        apply Nat.sub_mod_eq_zero_of_mod_eq
        rw [Nat.mod_eq_of_lt (by omega : n - k < b.burstQueueSize)]
        exact apart.symm
      rw [Nat.add_mod, zero, Nat.add_zero, Nat.mod_mod]
  unfold BurstQ.slot u8
  by_cases wrapped : (q.head + 1 + n) % 256 < n - k
  · have start : (q.head + 1 + k) % 256 = (q.head + 1 + n) % 256 + (256 - (n - k)) := by omega
    rw [start, same]
    simp [wrapped]
  · -- without a new start between them the two numbers are that far apart themselves
    have near' : (q.head + 1 + n) % 256 = (q.head + 1 + k) % 256 + (n - k) := by omega
    rw [near']
    refine iff_of_false ?_ fun both => wrapped (near' ▸ both.1)
    intro equal
    have zero : 0 ≡ n - k [MOD b.burstQueueSize] :=
      Nat.ModEq.add_left_cancel' ((q.head + 1 + k) % 256) equal
    have small : (n - k) % b.burstQueueSize = n - k := Nat.mod_eq_of_lt (by omega)
    have nothing : 0 % b.burstQueueSize = (n - k) % b.burstQueueSize := zero
    rw [Nat.zero_mod, small] at nothing
    omega

theorem next_tail (sane : Sane b q) : u8 (q.tail + 1) = u8 (q.head + 1 + q.count) := by
  have head := sane.head
  have tail := sane.tail
  unfold u8 BurstQ.count
  omega

theorem slot_tail (sane : Sane b q) : u8 (q.tail + 1) % b.burstQueueSize = q.slot b q.count := by
  rw [next_tail sane, BurstQ.slot]

end Slots

section Calls
variable (sane : Sane b q) (upper : b.burstQueueSize ≤ 255)

include sane

theorem stored_count (c : Nat) (room : q.count < 255) : (stored b q c).count = q.count + 1 := by
  have head := sane.head
  have tail := sane.tail
  unfold BurstQ.count at room ⊢
  simp only [stored, u8]
  omega

theorem stored_contents (c : Nat) (room : q.count < 255) :
    (stored b q c).contents b = ((List.range q.count).map fun k =>
      if q.slot b k = q.slot b q.count then c else q.queue (q.slot b k)) ++ [c] := by
  have slots (k : Nat) : (stored b q c).slot b k = q.slot b k := rfl
  rw [BurstQ.contents, stored_count sane c room, List.range_succ, List.map_append]
  simp only [slots]
  simp only [stored, slot_tail sane, Function.update_apply, List.map_cons, List.map_nil, if_true]

theorem stored_follows_iff (c : Nat) (room : q.count < 255) :
    (stored b q c).contents b = q.contents b ++ [c] ↔
      ∀ k < q.count, q.slot b k = q.slot b q.count → q.queue (q.slot b q.count) = c := by
  rw [stored_contents sane c room, List.append_cancel_right_eq, BurstQ.contents,
    List.map_inj_left]
  simp only [List.mem_range]
  refine forall₂_congr fun k _ => ?_
  constructor
  · intro kept same
    rw [if_pos same] at kept
    rw [← same, kept]
  · intro kept
    split
    · rename_i same
      rw [same, kept same]
    · rfl

theorem put_matches_iff (upper : b.burstQueueSize ≤ 255) (c : Nat) :
    Matches b.burstQueueSize (burstCall b) (BurstQ.contents b) q (.put c) ↔
      ¬ Slips b q (.put c) := by
  have head := sane.head
  have tail := sane.tail
  have bound := sane.count
  by_cases full : q.count = b.burstQueueSize
  · have refused := call_full b.burstQueueSize ((contents_length b q).trans full) c
    by_cases wrapped : q.tail < q.head
    · have room : (q.tail : Int) - q.head ≠ b.burstQueueSize := by omega
      refine iff_of_false ?_ fun kept => kept (Or.inl ⟨wrapped, full⟩)
      intro here
      have answer := here.answer
      rw [burstCall_put, if_pos room, refused] at answer
      cases answer
    · have same : ¬ (q.tail : Int) - q.head ≠ b.burstQueueSize := by
        unfold BurstQ.count at full
        omega
      refine iff_of_true ?_ ?_
      · rw [Matches, burstCall_put, if_neg same, refused]
      · rintro (⟨wrapped', -⟩ | ⟨more, -⟩)
        · exact wrapped wrapped'
        · omega
  · have more : q.count < b.burstQueueSize := by omega
    have room : (q.tail : Int) - q.head ≠ b.burstQueueSize := by
      unfold BurstQ.count at more
      omega
    have put := call_put b.burstQueueSize (show (q.contents b).length < _ by simpa using more) c
    rw [Matches, burstCall_put, if_pos room, put, Prod.mk.injEq, and_iff_left rfl,
      stored_follows_iff sane c (by omega)]
    simp only [Slips, full, and_false, false_or, more, true_and, not_and, not_not, next_tail sane]
    constructor
    · intro kept start queued
      have before : q.count - 256 % b.burstQueueSize < q.count := by omega
      have apart : q.count - (q.count - 256 % b.burstQueueSize) = 256 % b.burstQueueSize := by
        omega
      apply kept _ before
      apply (slot_eq_iff upper before more).mpr
      exact ⟨apart.symm ▸ start, apart⟩
    · intro kept k before same
      obtain ⟨start, apart⟩ := (slot_eq_iff upper before more).mp same
      exact kept (apart ▸ start) (by omega)

theorem get_matches : Matches b.burstQueueSize (burstCall b) (BurstQ.contents b) q .get := by
  have head := sane.head
  have tail := sane.tail
  by_cases empty : q.count = 0
  · have same : ¬ (q.tail : Int) - q.head ≠ 0 := by
      unfold BurstQ.count at empty
      omega
    have nothing : q.contents b = [] := by simp [BurstQ.contents, empty]
    rw [Matches, burstCall_get, if_neg same, nothing, call]
  · obtain ⟨n, count⟩ := Nat.exists_eq_succ_of_ne_zero empty
    have other : (q.tail : Int) - q.head ≠ 0 := by
      unfold BurstQ.count at empty
      omega
    have left : (shortened q).count = n := by
      unfold BurstQ.count at count ⊢
      simp only [shortened, u8]
      omega
    have places (k : Nat) : (shortened q).slot b k = q.slot b (k + 1) := by
      have same : u8 (u8 (q.head + 1) + 1 + k) = u8 (q.head + 1 + (k + 1)) := by
        unfold u8
        omega
      rw [BurstQ.slot, BurstQ.slot, shortened, same]
    have first : q.contents b = q.queue (q.slot b 0) :: (shortened q).contents b := by
      rw [BurstQ.contents, BurstQ.contents, left, count, List.range_succ_eq_map, List.map_cons,
        List.map_map]
      simp only [places, Function.comp_def, Nat.succ_eq_add_one]
      rfl
    rw [Matches, burstCall_get, if_pos other, first, call]

theorem Sane.step {c : Call Nat} (here : Matches b.burstQueueSize (burstCall b)
    (BurstQ.contents b) q c) : Sane b (burstCall b q c).1 := by
  have count : (burstCall b q c).1.count ≤ b.burstQueueSize := by
    rw [← contents_length b, here.left]
    apply call_length_le
    rw [contents_length]
    exact sane.count
  refine ⟨?_, ?_, count⟩
  · cases c with
    | put c =>
        rw [burstCall_put]
        split
        · exact sane.head
        · exact sane.head
    | get =>
        rw [burstCall_get]
        split
        · exact Nat.mod_lt _ (by decide)
        · exact sane.head
  · cases c with
    | put c =>
        rw [burstCall_put]
        split
        · exact Nat.mod_lt _ (by decide)
        · exact sane.tail
    | get =>
        rw [burstCall_get]
        split
        · exact sane.tail
        · exact sane.tail

end Calls

theorem guarded_matches_iff (upper : b.burstQueueSize ≤ 255) (q : BurstQ)
    (calls : List (Call Nat)) :
    Guarded (fun q c => (burstCall b q c).1)
        (Matches b.burstQueueSize (burstCall b) (BurstQ.contents b)) (qInit q) calls ↔
      Guarded (fun q c => (burstCall b q c).1) (fun q c => ¬ Slips b q c) (qInit q) calls := by
  refine guarded_congr (fun c _ q sane here => sane.step here) (fun c _ q sane => ?_) (qInit_sane q)
  cases c with
  | put c => exact put_matches_iff sane upper c
  | get => exact iff_of_true (get_matches sane) id

/-- For every size of the queue and every sequence of calls after the initialisation: the burst
queue answers as a bounded queue does and holds what that one holds, after each of the calls,
exactly when no call slips. -/
theorem burstQ_follows_iff (b : Build) (upper : b.burstQueueSize ≤ 255) (q : BurstQ)
    (calls : List (Call Nat)) :
    Follows b.burstQueueSize (burstCall b) (BurstQ.contents b) (qInit q) calls ↔
      Guarded (fun q c => (burstCall b q c).1) (fun q c => ¬ Slips b q c) (qInit q) calls := by
  rw [follows_iff_guarded]
  exact guarded_matches_iff upper q calls

theorem burstQ_follows_fill :
    Follows 4 (burstCall nodeBuild) (BurstQ.contents nodeBuild) (qInit ⟨0, 0, fun _ => 0⟩)
      [.put 0, .put 1, .put 2, .put 3, .put 0, .get, .get] :=
  (burstQ_follows_iff nodeBuild (by decide) ⟨0, 0, fun _ => 0⟩ _).mpr (by decide)

section Wrapping

def roundTrips (n : Nat) : List (Call Nat) := (List.replicate n [.put 0, .get]).flatten

theorem roundTrips_counters (lower : 0 < b.burstQueueSize) (n : Nat) {q : BurstQ}
    (same : q.head = q.tail) (byte : q.tail < 256) :
    (run (fun q c => (burstCall b q c).1) q (roundTrips n)).head = u8 (q.tail + n) ∧
      (run (fun q c => (burstCall b q c).1) q (roundTrips n)).tail = u8 (q.tail + n) := by
  induction n generalizing q with
  | zero =>
      have whole : u8 (q.tail + 0) = q.tail := Nat.mod_eq_of_lt byte
      rw [whole]
      exact ⟨same, rfl⟩
  | succ n ih =>
      have room : (q.tail : Int) - q.head ≠ b.burstQueueSize := by omega
      have filled : ((stored b q 0).tail : Int) - (stored b q 0).head ≠ 0 := by
        simp only [stored, u8]
        omega
      have put : (burstCall b q (.put 0)).1 = stored b q 0 := by rw [burstCall_put, if_pos room]
      have got : (burstCall b (stored b q 0) .get).1 = shortened (stored b q 0) := by
        rw [burstCall_get, if_pos filled]
      have later := @ih (shortened (stored b q 0)) (by simp only [shortened, stored, same])
        (Nat.mod_lt _ (by decide))
      have sum : u8 ((shortened (stored b q 0)).tail + n) = u8 (q.tail + (n + 1)) := by
        simp only [shortened, stored, u8]
        omega
      rw [sum] at later
      simp only [roundTrips, List.replicate_succ, List.flatten_cons, List.cons_append,
        List.nil_append, run_cons, put, got]
      exact later

theorem puts_counters (lower : 0 < b.burstQueueSize) (n : Nat) {q : BurstQ} (head : q.head = 255)
    (tail : q.tail = 255) (few : n ≤ 255) :
    (run (fun q c => (burstCall b q c).1) q (List.replicate n (.put 0))).head = 255 ∧
      (run (fun q c => (burstCall b q c).1) q (List.replicate n (.put 0))).tail =
        u8 (255 + n) := by
  induction n with
  | zero => exact ⟨head, tail⟩
  | succ n ih =>
      obtain ⟨head', tail'⟩ := ih (by omega)
      rw [List.replicate_succ', run_append]
      generalize run (fun q c => (burstCall b q c).1) q (List.replicate n (.put 0)) = q' at *
      have room : (q'.tail : Int) - q'.head ≠ b.burstQueueSize := by
        rw [head', tail']
        unfold u8
        omega
      have put : (burstCall b q' (.put 0)).1 = stored b q' 0 := by rw [burstCall_put, if_pos room]
      simp only [run_cons, run_nil, put, stored, head', tail']
      refine ⟨trivial, ?_⟩
      unfold u8
      omega

theorem every_size_slips (lower : 0 < b.burstQueueSize) (upper : b.burstQueueSize ≤ 255)
    (q : BurstQ) :
    ∃ calls, ¬ Follows b.burstQueueSize (burstCall b) (BurstQ.contents b) (qInit q) calls := by
  refine ⟨roundTrips 255 ++ (List.replicate b.burstQueueSize (.put 0) ++ [.put 0]), ?_⟩
  rw [follows_iff_guarded, guarded_matches_iff upper, guarded_append, guarded_append]
  rintro ⟨-, -, kept, -⟩
  obtain ⟨head, tail⟩ := roundTrips_counters lower 255 (q := qInit q) rfl (by simp [qInit])
  obtain ⟨head', tail'⟩ := puts_counters lower b.burstQueueSize head tail upper
  refine kept (Or.inl ⟨?_, ?_⟩)
  · rw [head', tail']
    unfold u8
    omega
  · rw [BurstQ.count, head', tail']
    unfold u8
    omega

/-- Once the tail has started again at zero, a fifth channel is put into the four slots and takes
that of the first one. -/
theorem fifth_put_overwrites :
    let q := run (fun q c => (burstCall nodeBuild q c).1) (qInit ⟨0, 0, fun _ => 0⟩)
      (roundTrips 255)
    answers (burstCall nodeBuild) q [.put 0, .put 1, .put 2, .put 3, .put 2, .get] =
        [.done, .done, .done, .done, .done, .got 2] ∧
      ¬ Follows 4 (burstCall nodeBuild) (BurstQ.contents nodeBuild)
        (qInit ⟨0, 0, fun _ => 0⟩)
        (roundTrips 255 ++ [.put 0, .put 1, .put 2, .put 3, .put 2, .get]) := by
  refine ⟨by decide +kernel, fun follows => ?_⟩
  obtain ⟨answered, -⟩ := follows _ List.prefix_rfl
  rw [qInit_contents] at answered
  have differ : answers (burstCall nodeBuild) (qInit ⟨0, 0, fun _ => 0⟩)
      (roundTrips 255 ++ [.put 0, .put 1, .put 2, .put 3, .put 2, .get]) ≠
        answers (call 4) [] (roundTrips 255 ++ [.put 0, .put 1, .put 2, .put 3, .put 2, .get]) := by
    decide +kernel
  exact differ answered

end Wrapping

theorem direct_never_slips (b : Build) (cfg : Config b) (env : Env) (ram : State) (ops : List Op)
    (direct : b.schMSupport = false) (c : Call Nat) :
    ¬ Slips b (run (step b cfg env) (start b cfg ram) ops).burstQ c := by
  have drained := @run_drained b cfg env ram ops
  generalize (run (step b cfg env) (start b cfg ram) ops).burstQ = q at drained
  have byte := drained.tail
  have same := drained.empty direct
  have none : q.count = 0 := by
    unfold BurstQ.count
    omega
  cases c with
  | put c =>
      rintro (⟨wrapped, -⟩ | ⟨-, start, queued, -⟩)
      · omega
      · omega
  | get => exact id

end AnchorNode.CanTp
