import AnchorNode.Lib.Bytes
import AnchorNode.Lib.Segments

/-! The bridge from the byte stream of the emulated peripheral to the CAN driver: it looks for a
start marker, reads a frame behind it and hands the payload on in CAN messages. -/

namespace AnchorNode.XlDriver

open AnchorNode.Lib

/-- A call of `demoTransmitWithPayload`; the bytes are those `dlc` counts. -/
structure CustomCANMessage where
  id : Nat
  data : List UInt8
  deriving DecidableEq, Repr

/-- What `demoTransmitWithPayload` gives to the driver; it refuses more than eight bytes. -/
def demoTransmitWithPayload (txID : Nat) (payload : List UInt8) : Option CustomCANMessage :=
  if 8 < payload.length then none else some ⟨txID, payload⟩

/-- The socket, the buffer of `listen_uart` and what it did: the payloads in the buffer each
time the CAN transmission block was reached, and the messages handed on there. -/
structure Bridge where
  incoming : Incoming
  buffer : Mem
  accepted : List (List UInt8)
  calls : List CustomCANMessage

/-- `recv` to an offset of the buffer; the result is the number of bytes received. -/
def recv (d : Delivery) (offset n : Nat) (b : Bridge) : Nat × Bridge :=
  let piece := d.piece n b.incoming
  (piece.length, { b with
    incoming := b.incoming.skip piece.length
    buffer := b.buffer.write offset piece })

/-- `calculate_checksum`; the start byte is left out. -/
def calculateChecksum (data : Mem) (length : Nat) : UInt8 :=
  (data.read 1 (length - 1)).foldl (fun checksum byte => checksum ^^^ byte) 0

def messages (buffer : Mem) (remainingLength count : Nat) : List CustomCANMessage :=
  if remainingLength = 0 then []
  else
    let dlc := if remainingLength ≥ 8 then 8 else remainingLength
    { id := 0x111 + (buffer 1).toNat + count
      data := (List.range dlc).map fun i => buffer (2 + i + dlc * count) } ::
      messages buffer (remainingLength - dlc) (count + 1)
termination_by remainingLength
decreasing_by split <;> omega

def transmit (b : Bridge) : Bridge :=
  { b with
    accepted := b.accepted ++ [b.buffer.read 2 (b.buffer 1).toNat]
    calls := b.calls ++ messages b.buffer (b.buffer 1).toNat 0 }

/-- One round of the loop of `listen_uart`. -/
def listenOnce (d : Delivery) (b : Bridge) : Bridge :=
  let (received, b) := recv d 0 1 b
  if received ≠ 1 ∨ b.buffer 0 ≠ 0x01 then b
  else
    let (received, b) := recv d 1 1 b
    if received ≠ 1 then b
    else
      let length := (b.buffer 1).toNat
      let (received, b) := recv d 2 length b
      if received ≠ length then b
      else
        let (received, b) := recv d (2 + length) 1 b
        if received ≠ 1 then b
        else if b.buffer (length + 2) ≠ calculateChecksum b.buffer (length + 2) then b
        else
          let (received, b) := recv d (2 + length + 1) 1 b
          if received ≠ 1 then b else transmit b

def listen (d : Delivery) : Nat → Bridge → Bridge
  | 0, b => b
  | rounds + 1, b => listen d rounds (listenOnce d b)

def start (stream : List UInt8) : Bridge := ⟨⟨0, stream⟩, fun _ => 0, [], []⟩

def listenUart (d : Delivery) (stream : List UInt8) : Bridge :=
  listen d stream.length (start stream)

def checksum (length : UInt8) (payload : List UInt8) : UInt8 :=
  (length :: payload).foldl (fun checksum byte => checksum ^^^ byte) 0

/-- How many bytes of the stream a round takes, and the payload it hands on. -/
structure Round where
  taken : Nat
  accepted : Option (List UInt8)
  deriving DecidableEq, Repr

def finish (length : UInt8) (payload : List UInt8) : List UInt8 → Round
  | [] => ⟨0, none⟩
  | received :: rest =>
    if received ≠ checksum length payload then ⟨1, none⟩
    else if rest = [] then ⟨1, none⟩
    else ⟨2, some payload⟩

def round (d : Delivery) (i : Incoming) : Round :=
  match i.pending with
  | [] => ⟨0, none⟩
  | byte :: rest =>
    if byte ≠ 0x01 then ⟨1, none⟩
    else
      match rest with
      | [] => ⟨1, none⟩
      | length :: tail =>
        let payload := d.piece length.toNat (i.skip 2)
        if payload.length ≠ length.toNat then ⟨2 + payload.length, none⟩
        else
          let last := finish length payload (tail.drop length.toNat)
          ⟨2 + length.toNat + last.taken, last.accepted⟩

/-- The messages of a payload, as the loop cuts it. -/
def cut (payload : List UInt8) (remainingLength count : Nat) : List CustomCANMessage :=
  if remainingLength = 0 then []
  else
    let dlc := if remainingLength ≥ 8 then 8 else remainingLength
    { id := 0x111 + payload.length + count
      data := (payload.drop (dlc * count)).take dlc } ::
      cut payload (remainingLength - dlc) (count + 1)
termination_by remainingLength
decreasing_by split <;> omega

def messagesOf (payload : List UInt8) : List CustomCANMessage := cut payload payload.length 0

variable {d : Delivery} {b : Bridge}

@[simp] theorem messages_zero (buffer : Mem) (count : Nat) : messages buffer 0 count = [] := by
  rw [messages, if_pos rfl]

@[simp] theorem cut_zero (payload : List UInt8) (count : Nat) : cut payload 0 count = [] := by
  rw [cut, if_pos rfl]

theorem messages_cut {buffer : Mem} {payload : List UInt8}
    (length : (buffer 1).toNat = payload.length)
    (holds : buffer.read 2 payload.length = payload) (remainingLength count : Nat)
    (position : 8 * count + remainingLength ≤ payload.length) :
    messages buffer remainingLength count = cut payload remainingLength count := by
  induction remainingLength using Nat.strong_induction_on generalizing count with
  | _ remainingLength ih =>
      rw [messages, cut]
      by_cases done : remainingLength = 0
      · rw [if_pos done, if_pos done]
      · rw [if_neg done, if_neg done]
        by_cases long : remainingLength ≥ 8
        · simp only [if_pos long, length]
          rw [ih (remainingLength - 8) (by omega) (count + 1) (by omega),
            ← read_slice holds (8 * count) 8 (by omega)]
          simp [Mem.read, Nat.add_assoc, Nat.add_comm]
        · have short : remainingLength * count ≤ 8 * count := Nat.mul_le_mul_right _ (by omega)
          simp only [if_neg long, length, Nat.sub_self, messages_zero, cut_zero]
          rw [← read_slice holds (remainingLength * count) remainingLength (by omega)]
          simp [Mem.read, Nat.add_comm, Nat.add_left_comm]

theorem transmit_payload {payload : List UInt8} (length : (b.buffer 1).toNat = payload.length)
    (holds : b.buffer.read 2 payload.length = payload) :
    transmit b = { b with
      accepted := b.accepted ++ [payload]
      calls := b.calls ++ messagesOf payload } := by
  simp only [transmit, length, holds, messagesOf,
    messages_cut length holds payload.length 0 (by omega)]

theorem recv_piece (d : Delivery) (offset n : Nat) (b : Bridge) : recv d offset n b =
    ((d.piece n b.incoming).length, { b with
      incoming := b.incoming.skip (d.piece n b.incoming).length
      buffer := b.buffer.write offset (d.piece n b.incoming) }) := rfl

theorem recv_byte {byte : UInt8} {rest : List UInt8} (d : Delivery) (offset : Nat)
    (pending : b.incoming.pending = byte :: rest) : recv d offset 1 b =
      (1, { b with
        incoming := b.incoming.skip 1, buffer := b.buffer.write offset [byte] }) := by
  simp [recv, piece_one, pending]

theorem recv_end (d : Delivery) (offset n : Nat) (pending : b.incoming.pending = []) :
    recv d offset n b = (0, b) := by
  have unwritten : b.buffer.write offset [] = b.buffer := by
    funext i
    simp [Mem.write]
  simp [recv, Delivery.piece, pending, unwritten]

theorem calculateChecksum_frame {buffer : Mem} {length : UInt8} {payload : List UInt8}
    (announced : buffer 1 = length) (holds : buffer.read 2 payload.length = payload) :
    calculateChecksum buffer (payload.length + 2) = checksum length payload := by
  have frame : buffer.read 1 (payload.length + 1) = length :: payload := by
    rw [Nat.add_comm, read_add, holds]
    simp [Mem.read, announced]
  rw [calculateChecksum, checksum, ← frame]
  rfl

theorem frame_kept {buffer : Mem} {length : UInt8} {payload : List UInt8} {offset : Nat}
    (announced : buffer 1 = length) (holds : buffer.read 2 payload.length = payload)
    (behind : 2 + payload.length ≤ offset) (bytes : List UInt8) :
    buffer.write offset bytes 1 = length ∧
      (buffer.write offset bytes).read 2 payload.length = payload := by
  refine ⟨?_, ?_⟩
  · rw [write_outside _ _ _ _ (Or.inl (by omega)), announced]
  · rw [read_write_before _ _ _ _ _ behind, holds]

structure Leaves (b : Bridge) (r : Round) (b' : Bridge) : Prop where
  incoming : b'.incoming = b.incoming.skip r.taken
  accepted : b'.accepted = b.accepted ++ r.accepted.toList
  calls : b'.calls = b.calls ++ r.accepted.toList.flatMap messagesOf

theorem finish_leaves {length : UInt8} {payload : List UInt8} (size : length.toNat = payload.length)
    (announced : b.buffer 1 = length) (holds : b.buffer.read 2 payload.length = payload) :
    Leaves b (finish length payload b.incoming.pending)
      (let (received, b) := recv d (2 + payload.length) 1 b
        if received ≠ 1 then b
        else if b.buffer (payload.length + 2) ≠ calculateChecksum b.buffer (payload.length + 2) then
          b
        else
          let (received, b) := recv d (2 + payload.length + 1) 1 b
          if received ≠ 1 then b else transmit b) := by
  cases pending : b.incoming.pending with
  | nil =>
      rw [recv_end d _ _ pending]
      constructor <;> simp [finish]
  | cons received rest =>
      rw [recv_byte d _ pending]
      obtain ⟨announced, holds⟩ := frame_kept announced holds le_rfl [received]
      have last : b.buffer.write (2 + payload.length) [received] (payload.length + 2) =
          received := by
        rw [Nat.add_comm payload.length]
        exact write_inside _ _ [received] 0 Nat.one_pos
      simp only [ne_eq, not_true_eq_false, if_false, finish,
        calculateChecksum_frame announced holds, last]
      by_cases wrong : received = checksum length payload
      · cases rest with
        | nil =>
            rw [recv_end d _ _ (by simp [Incoming.skip, pending])]
            constructor <;> simp [wrong]
        | cons ending rest =>
            have next : (b.incoming.skip 1).pending = ending :: rest := by
              simp [Incoming.skip, pending]
            have behind : 2 + payload.length ≤ 2 + payload.length + 1 := Nat.le_succ _
            rw [recv_byte d _ next]
            obtain ⟨announced, holds⟩ := frame_kept announced holds behind [ending]
            simp only [wrong, not_true_eq_false, if_false, reduceCtorEq]
            subst wrong
            rw [transmit_payload (by simp [announced, size]) holds]
            constructor <;> simp [skip_skip]
      · constructor <;> simp [wrong]

theorem Leaves.behind {n : Nat} {buffer : Mem} {r : Round} {b' : Bridge}
    (leaves : Leaves { b with incoming := b.incoming.skip n, buffer := buffer } r b') :
    Leaves b ⟨n + r.taken, r.accepted⟩ b' := by
  refine ⟨?_, leaves.accepted, leaves.calls⟩
  rw [leaves.incoming, skip_skip]

theorem listenOnce_leaves (d : Delivery) (b : Bridge) :
    Leaves b (round d b.incoming) (listenOnce d b) := by
  cases pending : b.incoming.pending with
  | nil =>
      simp only [listenOnce, recv_end d _ _ pending, round, pending]
      constructor <;> simp
  | cons byte rest =>
      have first : b.buffer.write 0 [byte] 0 = byte :=
        write_inside _ 0 [byte] 0 Nat.one_pos
      simp only [listenOnce, recv_byte d _ pending, round, pending, first]
      by_cases marker : byte = 0x01
      · simp only [marker, ne_eq, not_true_eq_false, or_self, if_false]
        cases rest with
        | nil =>
            rw [recv_end d _ _ (by simp [Incoming.skip, pending])]
            constructor <;> simp
        | cons length tail =>
            have next : (b.incoming.skip 1).pending = length :: tail := by
              simp [Incoming.skip, pending]
            rw [recv_byte d _ next]
            have announced : (b.buffer.write 0 [0x01]).write 1 [length] 1 = length :=
              write_inside _ 1 [length] 0 Nat.one_pos
            rw [recv_piece d 2]
            simp only [not_true_eq_false, if_false, skip_skip, announced]
            generalize piece : d.piece length.toNat (b.incoming.skip (1 + 1)) = payload
            by_cases complete : payload.length = length.toNat
            · simp only [complete, not_true_eq_false, if_false]
              have stored : ((b.buffer.write 0 [0x01]).write 1 [length]).write 2 payload 1 =
                  length := by rw [write_outside _ _ _ _ (Or.inl (by omega)), announced]
              have last := finish_leaves (d := d)
                (b := { b with
                  incoming := b.incoming.skip (1 + 1 + payload.length)
                  buffer := ((b.buffer.write 0 [0x01]).write 1 [length]).write 2 payload })
                complete.symm stored (read_write_same _ 2 payload)
              rw [complete] at last
              have left : (b.incoming.skip (1 + 1 + length.toNat)).pending =
                  tail.drop length.toNat := by
                simp only [Incoming.skip, pending, ← List.drop_drop]
                rfl
              rw [left] at last
              exact last.behind
            · simp only [complete, not_false_eq_true, if_true]
              constructor <;> simp
      · constructor <;> simp [marker]

def advance (d : Delivery) (i : Incoming) : Incoming := i.skip (round d i).taken

def heardIn (d : Delivery) : Nat → Incoming → List (List UInt8)
  | 0, _ => []
  | rounds + 1, i => (round d i).accepted.toList ++ heardIn d rounds (advance d i)

def heard (d : Delivery) (i : Incoming) : List (List UInt8) := heardIn d i.pending.length i

theorem listen_heard (d : Delivery) (rounds : Nat) (b : Bridge) :
    (listen d rounds b).accepted = b.accepted ++ heardIn d rounds b.incoming ∧
      (listen d rounds b).calls = b.calls ++ (heardIn d rounds b.incoming).flatMap messagesOf := by
  induction rounds generalizing b with
  | zero => simp [listen, heardIn]
  | succ rounds ih =>
      have first := listenOnce_leaves d b
      obtain ⟨accepted, calls⟩ := ih (listenOnce d b)
      simp only [listen, accepted, calls, first.incoming, first.accepted, first.calls, heardIn,
        advance, List.append_assoc, List.flatMap_append, and_self]

theorem round_takes (d : Delivery) {i : Incoming} (pending : i.pending ≠ []) :
    0 < (round d i).taken := by
  match bytes : i.pending with
  | [] => exact absurd bytes pending
  | [byte] =>
      simp only [round, bytes]
      split <;> exact Nat.one_pos
  | byte :: length :: tail =>
      simp only [round, bytes]
      split
      · exact Nat.one_pos
      · split <;> simp only <;> omega

theorem advance_length (d : Delivery) {i : Incoming} (pending : i.pending ≠ []) :
    (advance d i).pending.length < i.pending.length := by
  have taken := round_takes d pending
  have some_left := List.length_pos_iff.mpr pending
  simp only [advance, Incoming.skip, List.length_drop]
  omega

theorem heardIn_end (d : Delivery) (rounds : Nat) {i : Incoming} (empty : i.pending = []) :
    heardIn d rounds i = [] := by
  induction rounds generalizing i with
  | zero => rfl
  | succ rounds ih =>
      have nothing : round d i = ⟨0, none⟩ := by simp [round, empty]
      have same : advance d i = i := by simp [advance, nothing]
      rw [heardIn, nothing, same, ih empty]
      rfl

theorem heardIn_settled (d : Delivery) {rounds : Nat} {i : Incoming}
    (enough : i.pending.length ≤ rounds) : heardIn d rounds i = heard d i := by
  induction rounds using Nat.strong_induction_on generalizing i with
  | _ rounds ih =>
      by_cases empty : i.pending = []
      · rw [heard, heardIn_end d _ empty, heardIn_end d _ empty]
      · have shorter := advance_length d empty
        obtain ⟨rest, size⟩ := Nat.exists_eq_succ_of_ne_zero
          (Nat.pos_iff_ne_zero.mp (List.length_pos_iff.mpr empty))
        obtain ⟨more, rfl⟩ := Nat.exists_eq_succ_of_ne_zero
          (Nat.pos_iff_ne_zero.mp (show 0 < rounds by omega))
        rw [heard, size, heardIn, heardIn, ih more (by omega) (by omega)]
        rcases Nat.lt_or_ge rest (more + 1) with less | same
        · rw [ih rest (by omega) (by omega)]
        · omega

theorem heard_step (d : Delivery) {i : Incoming} (pending : i.pending ≠ []) :
    heard d i = (round d i).accepted.toList ++ heard d (advance d i) := by
  have shorter := advance_length d pending
  rw [← heardIn_settled d (show i.pending.length ≤ i.pending.length + 1 by omega), heardIn,
    heardIn_settled d (by omega)]

@[simp] theorem heard_end (d : Delivery) (position : Nat) : heard d ⟨position, []⟩ = [] := rfl

theorem listen_stream (d : Delivery) {rounds : Nat} {stream : List UInt8}
    (enough : stream.length ≤ rounds) :
    (listen d rounds (start stream)).accepted = heard d ⟨0, stream⟩ ∧
      (listen d rounds (start stream)).calls = (heard d ⟨0, stream⟩).flatMap messagesOf := by
  obtain ⟨accepted, calls⟩ := listen_heard d rounds (start stream)
  have settled := heardIn_settled d (i := ⟨0, stream⟩) enough
  simp only [start, List.nil_append] at accepted calls ⊢
  rw [accepted, calls, settled]
  exact ⟨rfl, rfl⟩

theorem heard_skips (d : Delivery) {bytes : List UInt8} (others : ∀ b ∈ bytes, b ≠ 0x01)
    (position : Nat) (rest : List UInt8) :
    heard d ⟨position, bytes ++ rest⟩ = heard d ⟨position + bytes.length, rest⟩ := by
  induction bytes generalizing position with
  | nil => rfl
  | cons byte bytes ih =>
      have skipped : round d ⟨position, byte :: bytes ++ rest⟩ = ⟨1, none⟩ := by
        simp [round, others byte (by simp)]
      rw [heard_step d (by simp), skipped, advance, skipped]
      simp only [Option.toList_none, List.nil_append, Incoming.skip, List.cons_append,
        List.drop_succ_cons, List.drop_zero, List.length_cons]
      rw [ih (fun b member => others b (by simp [member])), Nat.add_assoc, Nat.add_comm 1]

end AnchorNode.XlDriver
