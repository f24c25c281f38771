import AnchorNode.Lib.Bytes
import AnchorNode.Lib.Run

/-! The emulated SPI peripheral: every byte written to its data register goes through a frame
parser, and complete frames are handed to the character backend. -/

namespace AnchorNode.Qemu

open AnchorNode.Lib

/-- `FrameState`; no transition leads to `receivingData`. -/
inductive FrameState where
  | idle
  | gotStart
  | gotLength
  | receivingData
  | waitForChecksum
  | waitForEnd
  deriving DecidableEq, Repr

/-- The registers of the peripheral by their offsets. -/
inductive Register where
  | cr1
  | cr2
  | sr
  | dr
  | other
  deriving DecidableEq, Repr

/-- `STM32F2XXSPIState`, with the frames given to `qemu_chr_fe_write_all` so far. -/
structure SpiState where
  cr1 : UInt32
  cr2 : UInt32
  sr : UInt32
  dr : UInt32
  frameState : FrameState
  frameBuffer : Mem
  frameIndex : Nat
  expectedLen : Nat
  sent : List (List UInt8)

/-- `stm32f2xx_spi_reset`. -/
def reset : SpiState where
  cr1 := 0
  cr2 := 0
  sr := 0x0A
  dr := 0x0C
  frameState := .idle
  frameBuffer := fun _ => 0
  frameIndex := 0
  expectedLen := 0
  sent := []

/-- The size of `frame_buffer`. -/
def frameBufferSize : Nat := 256

def store (byte : UInt8) (s : SpiState) : Option SpiState :=
  if s.frameIndex < frameBufferSize then
    some { s with
      frameBuffer := s.frameBuffer.write s.frameIndex [byte]
      frameIndex := s.frameIndex + 1 }
  else none

def endOfFrame (connected : Bool) (s : SpiState) : SpiState :=
  let totalSize := 2 + s.expectedLen + 1 + 1
  if s.frameIndex = totalSize then
    { s with
      sent := if connected then s.sent ++ [s.frameBuffer.read 0 totalSize] else s.sent
      frameBuffer := fun _ => 0
      frameIndex := 0
      expectedLen := 0 }
  else s

def parse (connected : Bool) (byte : UInt8) (s : SpiState) : Option SpiState :=
  match s.frameState with
  | .idle =>
    if byte = 0x01 then
      some { s with
        frameBuffer := s.frameBuffer.write 0 [byte], frameIndex := 1, frameState := .gotStart }
    else some s
  | .gotStart =>
    (store byte s).map fun s => { s with expectedLen := byte.toNat, frameState := .gotLength }
  | .gotLength =>
    (store byte s).map fun s =>
      if s.frameIndex ≥ 2 + s.expectedLen then { s with frameState := .waitForChecksum } else s
  | .waitForChecksum => (store byte s).map fun s => { s with frameState := .waitForEnd }
  | .waitForEnd =>
    (store byte s).map fun s =>
      { (if byte = 0x0A then endOfFrame connected s else s) with
        frameIndex := 0, frameState := .idle }
  | .receivingData => some { s with frameIndex := 0, expectedLen := 0, frameState := .idle }

/-- `stm32f2xx_spi_transfer`; `ssi` is what the bus answers. -/
def transfer (ssi : UInt32 → UInt32) (s : SpiState) : SpiState :=
  { s with dr := ssi s.dr, sr := s.sr ||| 1 }

/-- `stm32f2xx_spi_write`. -/
def write (ssi : UInt32 → UInt32) (connected : Bool) (s : SpiState) (reg : Register)
    (val64 : UInt64) : Option SpiState :=
  match reg with
  | .cr1 => some { s with cr1 := val64.toUInt32 }
  | .cr2 => some { s with cr2 := val64.toUInt32 }
  | .dr => (parse connected val64.toUInt8 s).map (transfer ssi)
  | .sr | .other => some s

def writeBytes (ssi : UInt32 → UInt32) (connected : Bool) (s : SpiState) :
    List UInt8 → Option SpiState
  | [] => some s
  | byte :: rest =>
    (write ssi connected s .dr byte.toUInt64).bind fun s => writeBytes ssi connected s rest

/-- The bytes behind a start marker and a length byte, cut into payload, checksum and end
marker. -/
structure Body where
  length : UInt8
  content : List UInt8
  endMarker : UInt8
  rest : List UInt8

def body : List UInt8 → Option Body
  | [] => none
  | length :: rest =>
    match rest.drop (length.toNat + 1) with
    | [] => none
    | endMarker :: left => some ⟨length, rest.take (length.toNat + 1), endMarker, left⟩

theorem body_shorter {bytes : List UInt8} {b : Body} (complete : body bytes = some b) :
    b.rest.length < bytes.length := by
  cases bytes with
  | nil => cases complete
  | cons length rest =>
      simp only [body] at complete
      split at complete
      · cases complete
      · rename_i endMarker left tail
        cases complete
        have size := congrArg List.length tail
        simp only [List.length_drop, List.length_cons] at size ⊢
        omega

def Body.frame (b : Body) : List UInt8 := 0x01 :: b.length :: b.content ++ [b.endMarker]

/-- The reference scan of a stream: the frames it forwards. -/
def scan : List UInt8 → List (List UInt8)
  | [] => []
  | byte :: rest =>
    if byte = 0x01 then
      match _complete : body rest with
      | none => []
      | some b => (if b.endMarker = 0x0A then [b.frame] else []) ++ scan b.rest
    else scan rest
termination_by bytes => bytes.length
decreasing_by
  · have := body_shorter _complete
    simp
    omega
  · simp

def lengths : List UInt8 → List UInt8
  | [] => []
  | byte :: rest =>
    if byte = 0x01 then
      match _complete : body rest with
      | none => rest.take 1
      | some b => b.length :: lengths b.rest
    else lengths rest
termination_by bytes => bytes.length
decreasing_by
  · have := body_shorter _complete
    simp
    omega
  · simp

variable {ssi : UInt32 → UInt32} {s t : SpiState}

@[simp] theorem writeBytes_nil (connected : Bool) : writeBytes ssi connected s [] = some s := rfl

theorem writeBytes_cons (ssi : UInt32 → UInt32) {connected : Bool} {byte : UInt8}
    (next : parse connected byte s = some t)
    (rest : List UInt8) : writeBytes ssi connected s (byte :: rest) =
      writeBytes ssi connected (transfer ssi t) rest := by
  simp [writeBytes, write, next]

def phase (length n : Nat) : FrameState :=
  if n < 2 + length then .gotLength
  else if n = 2 + length then .waitForChecksum
  else .waitForEnd

/-- The parser has read the bytes `written` of a frame with `length` payload bytes. -/
structure Reading (s : SpiState) (length : Nat) (written : List UInt8)
    (frames : List (List UInt8)) : Prop where
  state : s.frameState = phase length written.length
  index : s.frameIndex = written.length
  buffer : s.frameBuffer.read 0 written.length = written
  announced : s.expectedLen = length
  sent : s.sent = frames

theorem read_write_next {m : Mem} {written : List UInt8} (byte : UInt8)
    (holds : m.read 0 written.length = written) :
    (m.write written.length [byte]).read 0 (written ++ [byte]).length = written ++ [byte] := by
  rw [List.length_append, read_add, read_write_before _ _ _ _ _ (by omega), holds, Nat.zero_add]
  exact congrArg _ (read_write_same m written.length [byte])

theorem start_reading (ssi : UInt32 → UInt32) {length : UInt8} (idle : s.frameState = .idle)
    (some_payload : length ≠ 0)
    (rest : List UInt8) : ∃ t, Reading t length.toNat [0x01, length] s.sent ∧
      writeBytes ssi true s (0x01 :: length :: rest) = writeBytes ssi true t rest := by
  have positive : 0 < length.toNat := by
    rw [Nat.pos_iff_ne_zero]
    intro zero
    exact some_payload (UInt8.toNat_inj.mp zero)
  have opened : parse true 0x01 s = some { s with
      frameBuffer := s.frameBuffer.write 0 [0x01], frameIndex := 1, frameState := .gotStart } := by
    simp [parse, idle]
  have announced := writeBytes_cons ssi opened (length :: rest)
  refine ⟨transfer ssi _, ?_, announced.trans (writeBytes_cons _ (by
    simp only [parse, transfer, store, frameBufferSize]; rfl) rest)⟩
  refine ⟨?_, rfl, ?_, rfl, rfl⟩
  · simp [phase, transfer, positive]
  · have start : (s.frameBuffer.write 0 [0x01]).read 0 [(0x01 : UInt8)].length = [0x01] :=
      read_write_same _ _ _
    exact read_write_next _ start

theorem Reading.byte (ssi : UInt32 → UInt32) {length : Nat} {written : List UInt8}
    {frames : List (List UInt8)}
    (reading : Reading s length written frames) (bounded : length ≤ 252)
    (inside : written.length < 3 + length) (byte : UInt8)
    (rest : List UInt8) : ∃ t, Reading t length (written ++ [byte]) frames ∧
      writeBytes ssi true s (byte :: rest) = writeBytes ssi true t rest := by
  have room : written.length < frameBufferSize := by
    simp only [frameBufferSize]
    omega
  have buffer := read_write_next byte reading.buffer
  have size : (written ++ [byte]).length = written.length + 1 := by simp
  by_cases payload : written.length < 2 + length
  · have state : s.frameState = .gotLength := by rw [reading.state, phase, if_pos payload]
    refine ⟨transfer ssi _, ?_, writeBytes_cons _ (by
      simp only [parse, state, store, reading.index, if_pos room, Option.map_some]; rfl) rest⟩
    simp only [reading.announced]
    split
    · refine ⟨?_, by simp [transfer], by simpa [transfer] using buffer, ?_, ?_⟩
      · have last : written.length + 1 = 2 + length := by omega
        simp [transfer, phase, last]
      · rfl
      · exact reading.sent
    · refine ⟨?_, by simp [transfer], by simpa [transfer] using buffer, ?_, ?_⟩
      · have more : written.length + 1 < 2 + length := by omega
        simp [transfer, phase, more]
      · rfl
      · simp [transfer, reading.sent]
  · have last : written.length = 2 + length := by omega
    have state : s.frameState = .waitForChecksum := by
      rw [reading.state, phase, if_neg payload, if_pos last]
    refine ⟨transfer ssi _, ?_, writeBytes_cons _ (by
      simp only [parse, state, store, reading.index, if_pos room, Option.map_some]; rfl) rest⟩
    refine ⟨?_, by simp [transfer], by simpa [transfer] using buffer, ?_, ?_⟩
    · simp [transfer, phase, last]
    · simp [transfer, reading.announced]
    · simp [transfer, reading.sent]

theorem Reading.bytes (ssi : UInt32 → UInt32) {length : Nat} {written : List UInt8}
    {frames : List (List UInt8)}
    (reading : Reading s length written frames) (bounded : length ≤ 252) (content rest : List UInt8)
    (inside : written.length + content.length ≤ 3 + length) :
    ∃ t, Reading t length (written ++ content) frames ∧
      writeBytes ssi true s (content ++ rest) = writeBytes ssi true t rest := by
  induction content generalizing s written with
  | nil => exact ⟨s, by simpa using reading, rfl⟩
  | cons byte content ih =>
      rw [List.length_cons] at inside
      obtain ⟨u, next, first⟩ :=
        reading.byte ssi bounded (by omega) byte (content ++ rest)
      obtain ⟨t, done, later⟩ := ih next (by simp; omega)
      refine ⟨t, by simpa using done, ?_⟩
      rw [List.cons_append, first, later]

theorem Reading.close (ssi : UInt32 → UInt32) {length : Nat} {written : List UInt8}
    {frames : List (List UInt8)}
    (reading : Reading s length written frames) (bounded : length ≤ 252)
    (full : written.length = 3 + length) (endMarker : UInt8) (rest : List UInt8) :
    ∃ t, t.frameState = .idle ∧
      t.sent = frames ++ (if endMarker = 0x0A then [written ++ [endMarker]] else []) ∧
      writeBytes ssi true s (endMarker :: rest) = writeBytes ssi true t rest := by
  have room : written.length < frameBufferSize := by
    simp only [frameBufferSize]
    omega
  have state : s.frameState = .waitForEnd := by
    rw [reading.state, phase, if_neg (by omega), if_neg (by omega)]
  have buffer := read_write_next endMarker reading.buffer
  have total : (written ++ [endMarker]).length = 2 + length + 1 + 1 := by
    simp [full]
    omega
  refine ⟨transfer ssi _, ?_, ?_, writeBytes_cons _ (by
    simp only [parse, state, store, reading.index, if_pos room, Option.map_some]; rfl) rest⟩
  · rfl
  · by_cases marker : endMarker = 0x0A
    · have whole : written.length + 1 = 2 + length + 1 + 1 := by omega
      rw [total] at buffer
      simp [transfer, endOfFrame, marker, reading.announced, whole, reading.sent] at buffer ⊢
      exact buffer
    · simp [transfer, marker, reading.sent]

theorem scan_start {rest : List UInt8} : scan (0x01 :: rest) =
    match body rest with
    | none => []
    | some b => (if b.endMarker = 0x0A then [b.frame] else []) ++ scan b.rest := by
  rw [scan]
  simp only [if_pos]
  split <;> simp_all

theorem lengths_start {rest : List UInt8} : lengths (0x01 :: rest) =
    match body rest with
    | none => rest.take 1
    | some b => b.length :: lengths b.rest := by
  rw [lengths]
  simp only [if_pos]
  split <;> simp_all

@[simp] theorem scan_nil : scan [] = [] := by rw [scan]

@[simp] theorem lengths_nil : lengths [] = [] := by rw [lengths]

theorem scan_skip {byte : UInt8} {rest : List UInt8} (other : byte ≠ 0x01) :
    scan (byte :: rest) = scan rest := by
  rw [scan, if_neg other]

theorem lengths_skip {byte : UInt8} {rest : List UInt8} (other : byte ≠ 0x01) :
    lengths (byte :: rest) = lengths rest := by
  rw [lengths, if_neg other]

theorem body_some {rest : List UInt8} {b : Body} (complete : body rest = some b) :
    rest = b.length :: b.content ++ b.endMarker :: b.rest ∧
      b.content.length = b.length.toNat + 1 := by
  cases rest with
  | nil => cases complete
  | cons length rest =>
      simp only [body] at complete
      split at complete
      · cases complete
      · rename_i endMarker left tail
        cases complete
        have size := congrArg List.length tail
        simp only [List.length_drop, List.length_cons] at size
        refine ⟨?_, by simp; omega⟩
        rw [List.cons_append, ← tail, List.take_append_drop]

theorem body_none {length : UInt8} {rest : List UInt8} (incomplete : body (length :: rest) = none) :
    rest.length ≤ length.toNat + 1 := by
  simp only [body] at incomplete
  split at incomplete
  · rename_i tail
    exact List.drop_eq_nil_iff.mp tail
  · cases incomplete

theorem writeBytes_scan (ssi : UInt32 → UInt32) (bytes : List UInt8) (idle : s.frameState = .idle)
    (bounded : ∀ n ∈ lengths bytes, n.toNat ≤ 252) (payloads : ∀ n ∈ lengths bytes, n ≠ 0) :
    ∃ t, writeBytes ssi true s bytes = some t ∧ t.sent = s.sent ++ scan bytes := by
  induction bytes using scan.induct generalizing s with
  | case1 => exact ⟨s, rfl, by simp⟩
  | case2 rest incomplete =>
      -- the stream ends inside a frame
      rw [lengths_start, incomplete] at bounded payloads
      rw [scan_start, incomplete]
      cases rest with
      | nil =>
          refine ⟨_, writeBytes_cons _ (by simp [parse, idle]; rfl) [], ?_⟩
          simp [transfer]
      | cons length rest =>
          have short := bounded length (by simp)
          obtain ⟨u, reading, first⟩ :=
            start_reading ssi idle (payloads length (by simp)) rest
          have inside := body_none incomplete
          obtain ⟨t, later, second⟩ := reading.bytes ssi short rest [] (by simp; omega)
          rw [List.append_nil] at second
          refine ⟨t, ?_, ?_⟩
          · rw [first, second, writeBytes_nil]
          · simp [later.sent]
  | case3 rest b complete ih =>
      obtain ⟨cut, size⟩ := body_some complete
      rw [lengths_start, complete] at bounded payloads
      rw [scan_start, complete]
      have short := bounded b.length (by simp)
      obtain ⟨u, reading, first⟩ := start_reading ssi idle (payloads b.length (by simp))
        (b.content ++ b.endMarker :: b.rest)
      obtain ⟨v, filled, second⟩ := reading.bytes ssi short b.content
        (b.endMarker :: b.rest) (by simp; omega)
      obtain ⟨w, idle', sent, third⟩ := filled.close ssi short (by simp; omega) b.endMarker
        b.rest
      obtain ⟨t, done, frames⟩ := ih idle' (fun n member => bounded n (by simp [member]))
        (fun n member => payloads n (by simp [member]))
      refine ⟨t, ?_, ?_⟩
      · rw [cut, List.cons_append, first, second, third, done]
      · rw [frames, sent, List.append_assoc]
        rfl
  | case4 byte rest other ih =>
      rw [lengths_skip other] at bounded payloads
      rw [scan_skip other]
      have next : parse true byte s = some s := by simp [parse, idle, other]
      obtain ⟨t, done, frames⟩ := ih (s := transfer ssi s) idle bounded payloads
      exact ⟨t, by rw [writeBytes_cons _ next, done], frames⟩

/-- The length byte of a frame is not zero. -/
def HasPayload (frame : List UInt8) : Prop := frame[1]? ≠ some 0

/-- What is known of a frame under way, whatever its length byte says: its payload takes at
least one byte. -/
structure Filling (s : SpiState) : Prop where
  gotStart : s.frameState = .gotStart → s.frameIndex = 1
  gotLength : s.frameState = .gotLength → 2 ≤ s.frameIndex
  checksum : s.frameState = .waitForChecksum → 3 ≤ s.frameIndex
  ending : s.frameState = .waitForEnd → 4 ≤ s.frameIndex
  announced : s.frameState = .gotLength ∨ s.frameState = .waitForChecksum ∨
    s.frameState = .waitForEnd → (s.frameBuffer 1).toNat = s.expectedLen
  sent : ∀ f ∈ s.sent, HasPayload f

theorem reset_filling : Filling reset := by
  constructor <;> simp [reset]

theorem store_some {byte : UInt8} (stored : store byte s = some t) :
    t = { s with
      frameBuffer := s.frameBuffer.write s.frameIndex [byte]
      frameIndex := s.frameIndex + 1 } := by
  unfold store at stored
  split at stored
  · exact (Option.some.inj stored).symm
  · cases stored

theorem write_second {m : Mem} {i : Nat} (later : 2 ≤ i) (byte : UInt8) :
    m.write i [byte] 1 = m 1 :=
  write_outside m i [byte] 1 (Or.inl later)

theorem endOfFrame_sent {connected : Bool} (index : 5 ≤ s.frameIndex)
    (announced : (s.frameBuffer 1).toNat = s.expectedLen) (sent : ∀ f ∈ s.sent, HasPayload f) :
    ∀ f ∈ (endOfFrame connected s).sent, HasPayload f := by
  simp only [endOfFrame]
  split
  · rename_i total
    intro f member
    cases connected with
    | false => exact sent f member
    | true =>
        rcases List.mem_append.mp member with old | new
        · exact sent f old
        · have second : f[1]? = some (s.frameBuffer 1) := by
            rw [List.mem_singleton.mp new]
            simp [Mem.read]
          intro empty
          rw [second] at empty
          have zero : s.frameBuffer 1 = 0 := Option.some.inj empty
          rw [zero] at announced
          have none : s.expectedLen = 0 := announced.symm
          omega
  · exact sent

theorem parse_filling {connected : Bool} {byte : UInt8} (filling : Filling s)
    (next : parse connected byte s = some t) : Filling t := by
  have sent := filling.sent
  cases state : s.frameState with
  | idle =>
      simp only [parse, state] at next
      split at next
      · cases next
        refine ⟨?_, ?_, ?_, ?_, ?_, sent⟩ <;> simp
      · cases next
        exact filling
  | gotStart =>
      simp only [parse, state, Option.map_eq_some_iff] at next
      obtain ⟨u, stored, rfl⟩ := next
      have index := filling.gotStart state
      rw [store_some stored]
      refine ⟨?_, ?_, ?_, ?_, ?_, sent⟩ <;> simp [index, Mem.write]
  | gotLength =>
      simp only [parse, state, Option.map_eq_some_iff] at next
      obtain ⟨u, stored, rfl⟩ := next
      have index := filling.gotLength state
      have announced := filling.announced (Or.inl state)
      rw [store_some stored]
      split
      · refine ⟨?_, ?_, ?_, ?_, ?_, sent⟩ <;> simp [write_second index, announced]
        omega
      · refine ⟨?_, ?_, ?_, ?_, ?_, sent⟩ <;> simp [write_second index, announced, state]
        omega
  | waitForChecksum =>
      simp only [parse, state, Option.map_eq_some_iff] at next
      obtain ⟨u, stored, rfl⟩ := next
      have index := filling.checksum state
      have announced := filling.announced (Or.inr (Or.inl state))
      rw [store_some stored]
      refine ⟨?_, ?_, ?_, ?_, ?_, sent⟩ <;> simp [write_second (Nat.le_of_succ_le index), announced]
      omega
  | waitForEnd =>
      simp only [parse, state, Option.map_eq_some_iff] at next
      obtain ⟨u, stored, rfl⟩ := next
      have index := filling.ending state
      have announced := filling.announced (Or.inr (Or.inr state))
      rw [store_some stored]
      constructor <;> simp
      split
      · apply endOfFrame_sent
        · exact Nat.succ_le_succ index
        · simpa [write_second (by omega : 2 ≤ s.frameIndex)] using announced
        · exact sent
      · exact sent
  | receivingData =>
      simp only [parse, state] at next
      cases next
      refine ⟨?_, ?_, ?_, ?_, ?_, sent⟩ <;> simp

theorem writeBytes_filling {connected : Bool} {bytes : List UInt8} (filling : Filling s)
    (done : writeBytes ssi connected s bytes = some t) : Filling t := by
  induction bytes generalizing s with
  | nil =>
      cases done
      exact filling
  | cons byte rest ih =>
      simp only [writeBytes, write, Option.bind_eq_some_iff, Option.map_eq_some_iff] at done
      obtain ⟨_, ⟨u, next, rfl⟩, later⟩ := done
      rw [UInt8.toUInt8_toUInt64] at next
      have after := parse_filling filling next
      have moved : Filling (transfer ssi u) :=
        ⟨after.gotStart, after.gotLength, after.checksum, after.ending, after.announced, after.sent⟩
      exact ih moved later

/-- From reset the parser forwards exactly the frames of the scan if no announced payload is
empty; and it never forwards what the scan does once the scan has forwarded an empty one. -/
theorem frames_forwarded_nonempty (ssi : UInt32 → UInt32) (bytes : List UInt8)
    (bounded : ∀ n ∈ lengths bytes, n.toNat ≤ 252) :
    ((∀ n ∈ lengths bytes, n ≠ 0) →
      ∃ t, writeBytes ssi true reset bytes = some t ∧ t.sent = scan bytes) ∧
    ((∃ t, writeBytes ssi true reset bytes = some t ∧ t.sent = scan bytes) →
      ∀ f ∈ scan bytes, HasPayload f) := by
  refine ⟨fun payloads => ?_, ?_⟩
  · obtain ⟨t, done, frames⟩ := writeBytes_scan ssi (s := reset) bytes rfl bounded payloads
    exact ⟨t, done, frames⟩
  · rintro ⟨t, done, frames⟩
    rw [← frames]
    exact (writeBytes_filling reset_filling done).sent

theorem frames_forwarded_markers :
    ∃ t, writeBytes id true reset [0x05, 0x01, 0x02, 0x01, 0x0A, 0x77, 0x0A] = some t ∧
      t.sent = scan [0x05, 0x01, 0x02, 0x01, 0x0A, 0x77, 0x0A] :=
  (frames_forwarded_nonempty id [0x05, 0x01, 0x02, 0x01, 0x0A, 0x77, 0x0A]
    (by simp [lengths_start, lengths_skip, body])).1 (by simp [lengths_start, lengths_skip, body])

/-- The frame without payload: the parser takes its checksum for payload, its end marker for
the checksum, and waits for one more byte. -/
theorem empty_frame_swallowed :
    (∀ n ∈ lengths [0x01, 0x00, 0x00, 0x0A], n.toNat ≤ 252) ∧
      scan [0x01, 0x00, 0x00, 0x0A] = [[0x01, 0x00, 0x00, 0x0A]] ∧
      ¬ ∃ t, writeBytes id true reset [0x01, 0x00, 0x00, 0x0A] = some t ∧
        t.sent = scan [0x01, 0x00, 0x00, 0x0A] := by
  have forwarded : scan [0x01, 0x00, 0x00, 0x0A] = [[0x01, 0x00, 0x00, 0x0A]] := by
    simp [scan_start, body, Body.frame]
  refine ⟨by simp [lengths_start, body], forwarded, ?_⟩
  rintro ⟨t, done, frames⟩
  have late : (writeBytes id true reset [0x01, 0x00, 0x00, 0x0A]).map SpiState.sent = some [] := rfl
  rw [done, Option.map_some, frames, forwarded] at late
  cases late

end AnchorNode.Qemu
