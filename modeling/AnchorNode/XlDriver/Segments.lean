import AnchorNode.XlDriver.Messages

/-! The bridge and the pieces in which the stream arrives. A read of a single byte cannot be cut,
but a payload can, and then the frame is given up in the middle. -/

namespace AnchorNode.XlDriver

open AnchorNode.Lib

def handed (d : Delivery) (stream : List UInt8) : List (List UInt8) :=
  (listenUart d stream).calls.map CustomCANMessage.data

theorem handed_heard (d : Delivery) (stream : List UInt8) : handed d stream =
    ((heard d ⟨0, stream⟩).flatMap messagesOf).map CustomCANMessage.data := by
  rw [handed, listenUart, (listen_stream d le_rfl).2]

/-- The payload a round asks for comes in one piece. -/
def Uncut (d : Delivery) (i : Incoming) : Prop :=
  ∀ length tail, i.pending = 0x01 :: length :: tail →
    min length.toNat tail.length ≤ d.count (i.position + 2) length.toNat

variable {d e : Delivery} {i : Incoming}

theorem round_congr (same : ∀ length tail, i.pending = 0x01 :: length :: tail →
    d.piece length.toNat (i.skip 2) = e.piece length.toNat (i.skip 2)) :
    round d i = round e i := by
  match pending : i.pending with
  | [] => simp only [round, pending]
  | [byte] => simp only [round, pending]
  | byte :: length :: tail =>
      by_cases marker : byte = 0x01
      · subst marker
        simp only [round, pending, same length tail pending]
      · simp only [round, pending, ne_eq, marker, not_false_eq_true, if_true]

theorem round_uncut (uncut : Uncut d i) : round d i = round .whole i := by
  apply round_congr
  intro length tail pending
  have enough := uncut length tail pending
  have bounded := d.bounded (i.position + 2) length.toNat
  simp only [Delivery.piece, Delivery.whole, Incoming.skip, pending, List.drop_succ_cons,
    List.drop_zero]
  rw [List.take_eq_take_iff]
  omega

theorem heardIn_uncut (rounds : Nat) (uncut : ∀ k, Uncut d ((advance .whole)^[k] i)) :
    heardIn d rounds i = heardIn .whole rounds i := by
  induction rounds generalizing i with
  | zero => rfl
  | succ rounds ih =>
      have first : round d i = round .whole i := round_uncut (uncut 0)
      have moved : advance d i = advance .whole i := by rw [advance, first, advance]
      rw [heardIn, heardIn, first, moved, ih fun k => uncut (k + 1)]

theorem heard_congr (same : ∀ position n, 2 ≤ position → n ≤ 255 →
    d.count position n = e.count position n) (rounds : Nat) (i : Incoming) :
    heardIn d rounds i = heardIn e rounds i := by
  induction rounds generalizing i with
  | zero => rfl
  | succ rounds ih =>
      have first : round d i = round e i := by
        apply round_congr
        intro length tail _
        have bound := length.toNat_lt
        simp only [Delivery.piece, Incoming.skip]
        rw [same (i.position + 2) length.toNat (by omega) (by omega)]
      rw [heardIn, heardIn, advance, advance, first, ih]

def probe : List UInt8 := [0x01, 0x01, 0xFF, 0xFE, 0x0A]

theorem heard_probe (d : Delivery) (position : Nat) : heard d ⟨position, probe⟩ = [[0xFF]] := by
  have piece : d.piece 1 (Incoming.skip ⟨position, probe⟩ 2) = [0xFF] := piece_one d _
  have right : (0xFE : UInt8) = 0x01 ^^^ 0xFF := by decide
  have read : round d ⟨position, probe⟩ = ⟨5, some [0xFF]⟩ := by
    simp only [probe] at piece ⊢
    simp [round, piece, finish, checksum, ← right]
  rw [heard_step d (by simp [probe]), advance, read]
  rfl

theorem heard_others (d : Delivery) (position : Nat) {bytes : List UInt8}
    (others : ∀ b ∈ bytes, b ≠ 0x01) : heard d ⟨position, bytes⟩ = [] := by
  have skipped := heard_skips d others position []
  rwa [List.append_nil] at skipped

theorem heard_rest (d : Delivery) (position : Nat) {n : Nat} (behind : 0 < n) :
    heard d ⟨position, probe.drop n⟩ = [] := by
  obtain ⟨n, rfl⟩ := Nat.exists_eq_succ_of_ne_zero (Nat.pos_iff_ne_zero.mp behind)
  have others : ∀ k, ∀ b ∈ probe.drop (k + 2), b ≠ (0x01 : UInt8) := by
    intro k b member
    have tail : b ∈ ([0xFF, 0xFE, 0x0A] : List UInt8) := by
      rw [Nat.add_comm, ← List.drop_drop] at member
      exact List.mem_of_mem_drop member
    have free : ∀ b ∈ ([0xFF, 0xFE, 0x0A] : List UInt8), b ≠ 0x01 := by simp
    exact free b tail
  cases n with
  | zero =>
      -- the payload byte is taken for a length, of which only two bytes are left
      have short : (d.piece 255 (Incoming.skip ⟨position, probe.drop 1⟩ 2)).length ≤ 2 := by
        rw [piece_length]
        simp [Incoming.skip, probe]
      have round_short : round d ⟨position, probe.drop 1⟩ =
          ⟨2 + (d.piece 255 (Incoming.skip ⟨position, probe.drop 1⟩ 2)).length, none⟩ := by
        simp only [probe, List.drop_succ_cons, List.drop_zero] at short ⊢
        simp [round]
        omega
      rw [heard_step d (by simp [probe]), advance, round_short]
      simp only [Option.toList_none, List.nil_append, Incoming.skip, List.drop_drop]
      apply heard_others
      rw [show ∀ k, 1 + (2 + k) = k + 1 + 2 by omega]
      exact others _
  | succ k => exact heard_others d position (others k)

def cutStream (position n k : Nat) : List UInt8 :=
  List.replicate (position - 2) 0x00 ++ 0x01 :: UInt8.ofNat n :: (List.replicate k 0x00 ++ probe)

theorem heard_cutStream (d : Delivery) (position n k : Nat) :
    heard d ⟨0, cutStream position n k⟩ =
      heard d ⟨position - 2, 0x01 :: UInt8.ofNat n :: (List.replicate k 0x00 ++ probe)⟩ := by
  have zeros : ∀ b ∈ List.replicate (position - 2) (0x00 : UInt8), b ≠ 0x01 := by
    intro b member
    rw [List.eq_of_mem_replicate member]
    decide
  rw [cutStream, heard_skips d zeros, Nat.zero_add, List.length_replicate]

theorem piece_cutStream (d : Delivery) {position n : Nat} (behind : 2 ≤ position)
    (bytes : List UInt8) :
    d.piece n (Incoming.skip ⟨position - 2, 0x01 :: UInt8.ofNat n :: bytes⟩ 2) =
      bytes.take (d.count position n) := by
  have back : position - 2 + 2 = position := by omega
  simp [Delivery.piece, Incoming.skip, back]

theorem skip_two (position n : Nat) (first second : UInt8) (bytes : List UInt8) :
    Incoming.skip ⟨position, first :: second :: bytes⟩ (2 + n) =
      ⟨position + (2 + n), bytes.drop n⟩ := by
  simp [Incoming.skip, ← List.drop_drop]

theorem heard_cut {position n : Nat} (behind : 2 ≤ position) (short : n ≤ 255)
    (cut : d.count position n < n) :
    heard d ⟨0, cutStream position n (d.count position n)⟩ = [[0xFF]] := by
  have length : (UInt8.ofNat n).toNat = n :=
    UInt8.toNat_ofNat_of_lt' (Nat.lt_succ_of_le short)
  have read : round d ⟨position - 2, 0x01 :: UInt8.ofNat n ::
      (List.replicate (d.count position n) 0x00 ++ probe)⟩ = ⟨2 + d.count position n, none⟩ := by
    simp only [round, ne_eq, not_true_eq_false, if_false, length, piece_cutStream d behind,
      List.take_left' (List.length_replicate), List.length_replicate]
    rw [if_pos (by omega)]
  have left : (List.replicate (d.count position n) (0x00 : UInt8) ++ probe).drop
      (d.count position n) = probe := List.drop_left' List.length_replicate
  rw [heard_cutStream, heard_step d (by simp), advance, read, skip_two, left, heard_probe]
  rfl

theorem finish_accepted (length : UInt8) (payload bytes : List UInt8) :
    (finish length payload bytes).accepted = none ∨
      (finish length payload bytes).accepted = some payload := by
  unfold finish
  split
  · exact Or.inl rfl
  · split
    · exact Or.inl rfl
    · split
      · exact Or.inl rfl
      · exact Or.inr rfl

theorem heard_uncut {position n k : Nat} (behind : 2 ≤ position) (short : n ≤ 255)
    (more : k < d.count position n) :
    heard d ⟨0, cutStream position n k⟩ = [] ∨
      ∃ payload, payload.length = n ∧ heard d ⟨0, cutStream position n k⟩ = [payload] := by
  have length : (UInt8.ofNat n).toNat = n :=
    UInt8.toNat_ofNat_of_lt' (Nat.lt_succ_of_le short)
  have rest : ∀ taken, k < taken → ∀ at', heard d (Incoming.skip ⟨at', 0x01 :: UInt8.ofNat n ::
      (List.replicate k 0x00 ++ probe)⟩ (2 + taken)) = [] := by
    intro taken far at'
    have left : (List.replicate k (0x00 : UInt8) ++ probe).drop taken =
        probe.drop (taken - k) := by
      rw [List.drop_append, List.length_replicate, List.drop_eq_nil_iff.mpr (by simp; omega),
        List.nil_append]
    rw [skip_two, left, heard_rest d _ (by omega)]
  have bytes := piece_cutStream d (n := n) behind (List.replicate k 0x00 ++ probe)
  rw [heard_cutStream, heard_step d (by simp), advance]
  simp only [round, ne_eq, not_true_eq_false, if_false, length, bytes]
  by_cases complete : ((List.replicate k 0x00 ++ probe).take (d.count position n)).length = n
  · have bounded := d.bounded position n
    simp only [complete, not_true_eq_false, if_false]
    generalize (List.replicate k 0x00 ++ probe).take (d.count position n) = payload at complete
    rw [Nat.add_assoc, rest _ (by omega), List.append_nil]
    rcases finish_accepted (UInt8.ofNat n) payload ((List.replicate k 0x00 ++ probe).drop n) with
      refused | accepted
    · rw [refused]
      exact Or.inl rfl
    · rw [accepted]
      exact Or.inr ⟨payload, complete, rfl⟩
  · have taken : k < ((List.replicate k 0x00 ++ probe).take (d.count position n)).length := by
      simp only [List.length_take, List.length_append, List.length_replicate, probe,
        List.length_cons, List.length_nil]
      omega
    simp only [complete, not_false_eq_true, if_true]
    rw [rest _ taken]
    exact Or.inl rfl

theorem handed_longer {payload : List UInt8} (longer : 2 ≤ payload.length) :
    (messagesOf payload).map CustomCANMessage.data ≠ [[0xFF]] := by
  intro same
  by_cases long : 8 ≤ payload.length
  · rw [messagesOf, cut_long long, List.map_cons] at same
    have size := congrArg List.length (List.cons.inj same).1
    simp at size
    omega
  · rw [messagesOf, cut_short (by omega) (by omega)] at same
    have size := congrArg List.length (List.cons.inj same).1
    simp at size
    omega

/-- Two deliveries that answer a request for a payload with different numbers of bytes can be
told apart. -/
theorem deliveries_differ {position n : Nat} (behind : 2 ≤ position) (short : n ≤ 255)
    (less : d.count position n < e.count position n) :
    handed d (cutStream position n (d.count position n)) ≠
      handed e (cutStream position n (d.count position n)) := by
  have bounded := e.bounded position n
  have positive := d.positive position n (by omega)
  rw [handed_heard, handed_heard, heard_cut behind short (by omega)]
  have probed : ([[0xFF]].flatMap messagesOf).map CustomCANMessage.data = [[0xFF]] := by
    simp [messagesOf, cut_short]
  rw [probed]
  rcases heard_uncut (d := e) behind short less with nothing | ⟨payload, size, one⟩
  · rw [nothing]
    simp
  · rw [one, List.flatMap_singleton]
    exact (handed_longer (by omega)).symm

/-- The bridge hands the same payloads on for two deliveries of any stream, and loses no frame,
exactly if neither of them ever cuts a payload. For one stream it is enough that no payload of
that stream is cut. -/
theorem segmentation_independent (d e : Delivery) :
    ((∀ stream, handed d stream = handed e stream ∧ handed d stream = handed .whole stream) ↔
      ∀ position n, 2 ≤ position → n ≤ 255 → d.count position n = n ∧ e.count position n = n) ∧
    ∀ stream, (∀ k, Uncut d ((advance .whole)^[k] ⟨0, stream⟩)) →
      handed d stream = handed .whole stream := by
  have told : ∀ d e : Delivery, (∀ stream, handed d stream = handed e stream) →
      ∀ position n, 2 ≤ position → n ≤ 255 → d.count position n = e.count position n := by
    intro d e same position n behind short
    rcases Nat.lt_trichotomy (d.count position n) (e.count position n) with less | equal | more
    · exact absurd (same _) (deliveries_differ behind short less)
    · exact equal
    · exact absurd (same _).symm (deliveries_differ behind short more)
  have alike : ∀ d e : Delivery, (∀ position n, 2 ≤ position → n ≤ 255 →
      d.count position n = e.count position n) → ∀ stream, handed d stream = handed e stream := by
    intro d e same stream
    rw [handed_heard, handed_heard, heard, heard, heard_congr same]
  refine ⟨⟨?_, ?_⟩, ?_⟩
  · intro same position n behind short
    have first := told d .whole (fun stream => (same stream).2) position n behind short
    have second := told d e (fun stream => (same stream).1) position n behind short
    exact ⟨first, second.symm.trans first⟩
  · intro uncut stream
    refine ⟨alike d e ?_ stream, alike d .whole ?_ stream⟩
    · intro position n behind short
      rw [(uncut position n behind short).1, (uncut position n behind short).2]
    · exact fun position n behind short => (uncut position n behind short).1
  · intro stream uncut
    rw [handed_heard, handed_heard, heard, heard, heardIn_uncut _ uncut]

def byByte : Delivery where
  count _ n := min n 1
  positive _ n positive := by omega
  bounded _ n := by omega

theorem frame_inside_payload :
    handed .whole [0x01, 0x05, 0x00, 0x01, 0x01, 0xFF, 0xFE, 0x04, 0x0A] =
        [[0x00, 0x01, 0x01, 0xFF, 0xFE]] ∧
      handed byByte [0x01, 0x05, 0x00, 0x01, 0x01, 0xFF, 0xFE, 0x04, 0x0A] = [[0xFF]] := by
  have whole : heard .whole ⟨0, [0x01, 0x05, 0x00, 0x01, 0x01, 0xFF, 0xFE, 0x04, 0x0A]⟩ =
      [[0x00, 0x01, 0x01, 0xFF, 0xFE]] := by decide
  have pieces : heard byByte ⟨0, [0x01, 0x05, 0x00, 0x01, 0x01, 0xFF, 0xFE, 0x04, 0x0A]⟩ =
      [[0xFF]] := by decide
  rw [handed_heard, handed_heard, whole, pieces]
  simp [messagesOf, cut_short]

end AnchorNode.XlDriver
