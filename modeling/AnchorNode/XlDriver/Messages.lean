import AnchorNode.XlDriver.ListenUart

/-! How a payload is cut into CAN messages. The place a message is taken from is computed from
its own size, so the last message is taken from the wrong place if it is shorter than the
others. -/

namespace AnchorNode.XlDriver

open AnchorNode.Lib

/-- The messages of a payload but for the bytes in them. -/
structure Split (payload : List UInt8) (calls : List CustomCANMessage) : Prop where
  count : calls.length = (payload.length + 7) / 8
  ids : ∀ i message, calls[i]? = some message → message.id = 0x111 + payload.length + i
  sizes : ∀ message ∈ calls, 1 ≤ message.data.length ∧ message.data.length ≤ 8
  taken : ∀ message ∈ calls, demoTransmitWithPayload message.id message.data = some message

def lastMessage (payload : List UInt8) : List UInt8 :=
  (payload.drop (payload.length % 8 * (payload.length / 8))).take (payload.length % 8)

variable {payload : List UInt8}

theorem cut_long {remainingLength : Nat} (long : 8 ≤ remainingLength) (count : Nat) :
    cut payload remainingLength count =
      ⟨0x111 + payload.length + count, (payload.drop (8 * count)).take 8⟩ ::
        cut payload (remainingLength - 8) (count + 1) := by
  rw [cut, if_neg (by omega)]
  simp only [if_pos long]

theorem cut_short {remainingLength : Nat} (some_left : remainingLength ≠ 0)
    (short : remainingLength < 8) (count : Nat) :
    cut payload remainingLength count =
      [⟨0x111 + payload.length + count,
        (payload.drop (remainingLength * count)).take remainingLength⟩] := by
  rw [cut, if_neg some_left]
  simp only [if_neg (show ¬ remainingLength ≥ 8 by omega), Nat.sub_self, cut_zero]

theorem cut_length (remainingLength count : Nat) :
    (cut payload remainingLength count).length = (remainingLength + 7) / 8 := by
  induction remainingLength using Nat.strong_induction_on generalizing count with
  | _ remainingLength ih =>
      by_cases none : remainingLength = 0
      · simp [none]
      · by_cases long : 8 ≤ remainingLength
        · rw [cut_long long, List.length_cons, ih _ (by omega)]
          omega
        · rw [cut_short none (by omega), List.length_singleton]
          omega

theorem cut_ids (remainingLength count i : Nat) {message : CustomCANMessage}
    (call : (cut payload remainingLength count)[i]? = some message) :
    message.id = 0x111 + payload.length + (count + i) := by
  induction remainingLength using Nat.strong_induction_on generalizing count i with
  | _ remainingLength ih =>
      by_cases none : remainingLength = 0
      · simp [none] at call
      · by_cases long : 8 ≤ remainingLength
        · rw [cut_long long] at call
          cases i with
          | zero =>
              cases call
              rfl
          | succ i =>
              rw [ih _ (by omega) _ i call]
              omega
        · rw [cut_short none (by omega)] at call
          cases i with
          | zero =>
              cases call
              rfl
          | succ i => simp at call

theorem cut_sizes {remainingLength count : Nat}
    (position : 8 * count + remainingLength = payload.length) {message : CustomCANMessage}
    (call : message ∈ cut payload remainingLength count) :
    1 ≤ message.data.length ∧ message.data.length ≤ 8 := by
  induction remainingLength using Nat.strong_induction_on generalizing count with
  | _ remainingLength ih =>
      by_cases none : remainingLength = 0
      · simp [none] at call
      · by_cases long : 8 ≤ remainingLength
        · rw [cut_long long] at call
          rcases List.mem_cons.mp call with rfl | later
          · simp
            omega
          · exact ih _ (by omega) (by omega) later
        · have before : remainingLength * count ≤ 8 * count := Nat.mul_le_mul_right _ (by omega)
          rw [cut_short none (by omega)] at call
          rw [List.mem_singleton.mp call]
          simp
          omega

theorem cut_bytes (remainingLength count : Nat) :
    (cut payload remainingLength count).flatMap CustomCANMessage.data =
      (payload.drop (8 * count)).take (8 * (remainingLength / 8)) ++
        (payload.drop (remainingLength % 8 * (count + remainingLength / 8))).take
          (remainingLength % 8) := by
  induction remainingLength using Nat.strong_induction_on generalizing count with
  | _ remainingLength ih =>
      by_cases none : remainingLength = 0
      · simp [none]
      · by_cases long : 8 ≤ remainingLength
        · have left : remainingLength % 8 = (remainingLength - 8) % 8 := by omega
          have one : remainingLength / 8 = (remainingLength - 8) / 8 + 1 := by omega
          rw [cut_long long, List.flatMap_cons, ih _ (by omega), left, one, ← List.append_assoc]
          congr 1
          · rw [Nat.mul_add 8 ((remainingLength - 8) / 8) 1, Nat.add_comm _ (8 * 1), List.take_add,
              List.drop_drop, Nat.mul_add, Nat.mul_one]
          · rw [Nat.add_right_comm, Nat.add_assoc]
        · have all : remainingLength % 8 = remainingLength := by omega
          have none_whole : remainingLength / 8 = 0 := by omega
          rw [cut_short none (by omega), all, none_whole]
          simp

theorem messagesOf_split (payload : List UInt8) : Split payload (messagesOf payload) := by
  have sizes : ∀ message ∈ messagesOf payload,
      1 ≤ message.data.length ∧ message.data.length ≤ 8 :=
    fun message call => cut_sizes (by omega) call
  refine ⟨cut_length _ _, ?_, sizes, ?_⟩
  · intro i message call
    rw [cut_ids payload.length 0 i call, Nat.zero_add]
  · intro message call
    have bounded := (sizes message call).2
    simp [demoTransmitWithPayload]
    omega

theorem messagesOf_bytes (payload : List UInt8) :
    (messagesOf payload).flatMap CustomCANMessage.data = payload ↔
      lastMessage payload = payload.drop (8 * (payload.length / 8)) := by
  rw [messagesOf, cut_bytes, Nat.mul_zero, List.drop_zero, Nat.zero_add]
  conv => lhs; rhs; rw [← List.take_append_drop (8 * (payload.length / 8)) payload]
  rw [List.append_cancel_left_eq, lastMessage]

/-- For every payload the loop hands on: as many messages as it takes, with the right numbers
and sizes; their bytes are the payload exactly if the bytes the last message is taken from are
those it should have. -/
theorem accepted_payload_split (d : Delivery) (b : Bridge)
    (accepted : (listenOnce d b).accepted = b.accepted ++ [payload]) :
    ∃ calls, (listenOnce d b).calls = b.calls ++ calls ∧ Split payload calls ∧
      (calls.flatMap CustomCANMessage.data = payload ↔
        lastMessage payload = payload.drop (8 * (payload.length / 8))) := by
  have leaves := listenOnce_leaves d b
  have same : (round d b.incoming).accepted.toList = [payload] :=
    List.append_cancel_left (leaves.accepted.symm.trans accepted)
  refine ⟨messagesOf payload, ?_, messagesOf_split payload, messagesOf_bytes payload⟩
  rw [leaves.calls, same, List.flatMap_singleton]

def sixteenBytes : List UInt8 :=
  [0x21, 0x22, 0x23, 0x24, 0x25, 0x26, 0x27, 0x28, 0x29, 0x2A, 0x2B, 0x2C, 0x2D, 0x2E, 0x2F, 0x30]

theorem sixteen_bytes_split :
    ∃ calls, (listenOnce .whole (start ([0x01, 0x10] ++ sixteenBytes ++ [0x00, 0x0A]))).calls =
        calls ∧
      calls.length = 2 ∧ Split sixteenBytes calls ∧
      calls.flatMap CustomCANMessage.data = sixteenBytes := by
  have accepted : (listenOnce .whole
      (start ([0x01, 0x10] ++ sixteenBytes ++ [0x00, 0x0A]))).accepted =
      (start ([0x01, 0x10] ++ sixteenBytes ++ [0x00, 0x0A])).accepted ++ [sixteenBytes] := by
    decide
  obtain ⟨calls, made, split, bytes⟩ := accepted_payload_split .whole
    (start ([0x01, 0x10] ++ sixteenBytes ++ [0x00, 0x0A])) accepted
  exact ⟨calls, made, split.count, split, bytes.mpr (by decide)⟩

theorem ninth_byte_lost :
    let b := listenOnce .whole (start [0x01, 0x09, 1, 2, 3, 4, 5, 6, 7, 8, 9, 0x08, 0x0A])
    b.accepted = [[1, 2, 3, 4, 5, 6, 7, 8, 9]] ∧
      b.calls.flatMap CustomCANMessage.data = [1, 2, 3, 4, 5, 6, 7, 8, 2] := by
  have leaves := listenOnce_leaves .whole
    (start [0x01, 0x09, 1, 2, 3, 4, 5, 6, 7, 8, 9, 0x08, 0x0A])
  have read : (round .whole
      (start [0x01, 0x09, 1, 2, 3, 4, 5, 6, 7, 8, 9, 0x08, 0x0A]).incoming).accepted =
        some [1, 2, 3, 4, 5, 6, 7, 8, 9] := by decide
  refine ⟨?_, ?_⟩
  · rw [leaves.accepted, read]
    rfl
  · rw [leaves.calls, read]
    simp [start, messagesOf, cut_long, cut_short]

end AnchorNode.XlDriver
