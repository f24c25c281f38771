import AnchorNode.Qemu.Spi

/-! The frame parser in terms of the bytes of the frame under way: which bytes it holds, when it
lets a frame go, and when it stores outside its buffer. -/

namespace AnchorNode.Qemu

open AnchorNode.Lib

/-- The bytes of the frame under way and the frames that have gone out. -/
structure Assembly where
  held : List UInt8
  forwarded : List (List UInt8)

def Assembly.fresh : Assembly := ⟨[], []⟩

def frameSize (length : UInt8) : Nat := 4 + max length.toNat 1

/-- What one byte does to the frame under way. -/
def Assembly.feed (connected : Bool) (a : Assembly) (byte : UInt8) : Assembly :=
  match a.held with
  | [] => if byte = 0x01 then { a with held := [byte] } else a
  | [start] => { a with held := [start, byte] }
  | start :: length :: tail =>
    if tail.length + 3 < frameSize length then
      { a with held := start :: length :: tail ++ [byte] }
    else
      { held := []
        forwarded := a.forwarded ++
          if connected ∧ byte = 0x0A ∧ length ≠ 0 then [start :: length :: tail ++ [byte]]
          else [] }

def stage : List UInt8 → FrameState
  | [] => .idle
  | [_] => .gotStart
  | _ :: length :: tail => phase (max length.toNat 1) (tail.length + 2)

structure Holds (s : SpiState) (a : Assembly) : Prop where
  state : s.frameState = stage a.held
  index : a.held ≠ [] → s.frameIndex = a.held.length
  buffer : s.frameBuffer.read 0 a.held.length = a.held
  announced : ∀ start length tail, a.held = start :: length :: tail →
    s.expectedLen = length.toNat
  room : ∀ start length tail, a.held = start :: length :: tail →
    tail.length + 2 < frameSize length
  sent : s.sent = a.forwarded

variable {ssi : UInt32 → UInt32} {connected : Bool} {s t : SpiState} {a : Assembly}

theorem reset_holds : Holds reset .fresh := by
  constructor <;> simp [reset, Assembly.fresh, stage]

theorem Holds.transfer (holds : Holds s a) (ssi : UInt32 → UInt32) : Holds (transfer ssi s) a :=
  ⟨holds.state, holds.index, holds.buffer, holds.announced, holds.room, holds.sent⟩

theorem Holds.feed_idle (holds : Holds s a) (idle : a.held = []) (byte : UInt8) :
    ∃ t, parse connected byte s = some t ∧ Holds t (a.feed connected byte) := by
  have state : s.frameState = .idle := by rw [holds.state, idle]; rfl
  by_cases start : byte = 0x01
  · refine ⟨_, by simp only [parse, state, if_pos start]; rfl, ?_⟩
    have buffer : (s.frameBuffer.write 0 [byte]).read 0 [byte].length = [byte] :=
      read_write_same _ _ _
    simp only [Assembly.feed, idle, if_pos start]
    constructor <;> simp [stage, holds.sent]
    exact buffer
  · refine ⟨s, by simp only [parse, state, if_neg start], ?_⟩
    simpa only [Assembly.feed, idle, if_neg start] using holds

theorem Holds.store (holds : Holds s a) (inside : a.held ≠ []) (byte : UInt8) :
    store byte s =
      if a.held.length < frameBufferSize then
        some { s with
          frameBuffer := s.frameBuffer.write a.held.length [byte]
          frameIndex := a.held.length + 1 }
      else none := by
  simp only [Qemu.store, holds.index inside]

theorem Holds.overrun (holds : Holds s a) (inside : a.held ≠ [])
    (full : frameBufferSize ≤ a.held.length) (byte : UInt8) :
    parse connected byte s = none := by
  have stored := holds.store inside byte
  rw [if_neg (by omega)] at stored
  have busy : s.frameState ≠ .idle ∧ s.frameState ≠ .receivingData := by
    rw [holds.state]
    match held : a.held with
    | [] => exact absurd held inside
    | [_] => simp [stage]
    | _ :: _ :: _ =>
        simp only [stage, phase]
        split
        · simp
        · split <;> simp
  simp only [parse, stored]
  split <;> simp_all

theorem Holds.feed_length (holds : Holds s a) {start : UInt8} (held : a.held = [start])
    (byte : UInt8) : ∃ t, parse connected byte s = some t ∧ Holds t (a.feed connected byte) := by
  have state : s.frameState = .gotStart := by rw [holds.state, held]; rfl
  have stored := holds.store (by simp [held]) byte
  rw [if_pos (by simp [held, frameBufferSize])] at stored
  have buffer := holds.buffer
  rw [held] at buffer
  have next := read_write_next byte buffer
  refine ⟨_, by simp only [parse, state, stored, Option.map_some]; rfl, ?_⟩
  simp only [Assembly.feed, held]
  refine ⟨?_, by simp, by simpa using next, ?_, ?_, holds.sent⟩
  · have positive : 2 < 2 + max byte.toNat 1 := by omega
    simp only [stage, phase, List.length_nil, Nat.zero_add, if_pos positive]
  · intro _ _ _ shape
    cases shape
    rfl
  · intro _ _ _ shape
    cases shape
    simp [frameSize]
    omega

theorem Holds.feed_inside (holds : Holds s a) {start length : UInt8} {tail : List UInt8}
    (held : a.held = start :: length :: tail) (fits : a.held.length < frameBufferSize)
    (inside : tail.length + 3 < frameSize length) (byte : UInt8) :
    ∃ t, parse connected byte s = some t ∧ Holds t (a.feed connected byte) := by
  have stored := holds.store (by simp [held]) byte
  rw [if_pos fits] at stored
  have announced := holds.announced _ _ _ held
  have buffer := read_write_next byte holds.buffer
  rw [held] at buffer
  have grown : a.feed connected byte = { a with held := start :: length :: tail ++ [byte] } := by
    simp only [Assembly.feed, held, if_pos inside]
  have kept : ∀ u : SpiState, u.frameState = stage (start :: length :: tail ++ [byte]) →
      u.frameIndex = a.held.length + 1 →
      u.frameBuffer = s.frameBuffer.write a.held.length [byte] →
      u.expectedLen = length.toNat → u.sent = s.sent → Holds u (a.feed connected byte) := by
    intro u state index memory len sent
    rw [grown]
    refine ⟨state, by simp [index, held], ?_, ?_, ?_, sent.trans holds.sent⟩
    · rw [memory, held]
      exact buffer
    · intro _ _ _ shape
      cases shape
      exact len
    · intro _ _ _ shape
      cases shape
      simpa using inside
  have now := holds.state
  simp only [held, stage, phase] at now
  simp only [frameSize] at inside
  by_cases payload : tail.length + 2 < 2 + max length.toNat 1
  · rw [if_pos payload] at now
    simp only [parse, now, stored, Option.map_some, held, List.length_cons, announced]
    split
    · rename_i last
      refine ⟨_, rfl, kept _ ?_ (by simp [held]) (by simp [held]) rfl rfl⟩
      have whole : tail.length + 1 + 2 = 2 + max length.toNat 1 := by omega
      simp [stage, phase, whole]
    · rename_i more
      refine ⟨_, rfl, kept _ ?_ (by simp [held]) (by simp [held]) rfl rfl⟩
      have before : tail.length + 1 + 2 < 2 + max length.toNat 1 := by omega
      simp [stage, phase, before]
  · have last : tail.length + 2 = 2 + max length.toNat 1 := by omega
    rw [if_neg payload, if_pos last] at now
    simp only [parse, now, stored, Option.map_some, held, List.length_cons]
    refine ⟨_, rfl, kept _ ?_ (by simp [held]) (by simp [held]) announced rfl⟩
    have past : ¬ tail.length + 1 + 2 < 2 + max length.toNat 1 := by omega
    have beyond : tail.length + 1 + 2 ≠ 2 + max length.toNat 1 := by omega
    simp [stage, phase, past, beyond]

theorem endOfFrame_forwards (connected : Bool) (s : SpiState) : (endOfFrame connected s).sent =
    s.sent ++ if connected ∧ s.frameIndex = 2 + s.expectedLen + 1 + 1 then
      [s.frameBuffer.read 0 s.frameIndex] else [] := by
  simp only [endOfFrame]
  split
  · rename_i whole
    cases connected <;> simp [whole]
  · rename_i other
    simp [other]

theorem Holds.feed_last (holds : Holds s a) {start length : UInt8} {tail : List UInt8}
    (held : a.held = start :: length :: tail) (fits : a.held.length < frameBufferSize)
    (last : ¬ tail.length + 3 < frameSize length) (byte : UInt8) :
    ∃ t, parse connected byte s = some t ∧ Holds t (a.feed connected byte) := by
  have stored := holds.store (by simp [held]) byte
  rw [if_pos fits] at stored
  have announced := holds.announced _ _ _ held
  have buffer := read_write_next byte holds.buffer
  have room := holds.room _ _ _ held
  have now := holds.state
  have done : a.feed connected byte =
      { held := []
        forwarded := a.forwarded ++
          if connected ∧ byte = 0x0A ∧ length ≠ 0 then [a.held ++ [byte]] else [] } := by
    simp only [Assembly.feed, held, if_neg last]
  simp only [frameSize] at last room
  simp only [held, stage, phase] at now
  rw [if_neg (by omega), if_neg (by omega)] at now
  refine ⟨_, by simp only [parse, now, stored, Option.map_some]; rfl, ?_⟩
  rw [done]
  refine ⟨rfl, by simp, by simp, by simp, by simp, ?_⟩
  -- an empty payload leaves the frame one byte longer than it is expected to be
  have whole : a.held.length + 1 = 2 + length.toNat + 1 + 1 ↔ length ≠ 0 := by
    have zero : length = 0 ↔ length.toNat = 0 := UInt8.toNat_inj.symm
    rw [held, ne_eq, zero]
    simp only [List.length_cons]
    omega
  by_cases marker : byte = 0x0A
  · rw [List.length_append] at buffer
    subst marker
    simp only [if_true, endOfFrame_forwards, announced, whole, holds.sent, true_and]
    exact congrArg (fun frame => a.forwarded ++ if connected ∧ length ≠ 0 then [frame] else [])
      buffer
  · simp [marker, holds.sent]

theorem Holds.feed (holds : Holds s a) (fits : a.held.length < frameBufferSize) (byte : UInt8) :
    ∃ t, parse connected byte s = some t ∧ Holds t (a.feed connected byte) := by
  match held : a.held with
  | [] => exact holds.feed_idle held byte
  | [start] => exact holds.feed_length held byte
  | start :: length :: tail =>
      by_cases inside : tail.length + 3 < frameSize length
      · exact holds.feed_inside held fits inside byte
      · exact holds.feed_last held fits inside byte

/-- Every byte finds room in the buffer. -/
def Fits (connected : Bool) : Assembly → List UInt8 → Prop :=
  Guarded (Assembly.feed connected) fun a _ => a.held.length < frameBufferSize

theorem Holds.writeBytes (holds : Holds s a) (ssi : UInt32 → UInt32) (bytes : List UInt8)
    (fits : Fits connected a bytes) : ∃ t, writeBytes ssi connected s bytes = some t ∧
      Holds t (run (Assembly.feed connected) a bytes) := by
  induction bytes generalizing s a with
  | nil => exact ⟨s, rfl, holds⟩
  | cons byte rest ih =>
      obtain ⟨u, next, after⟩ := holds.feed fits.1 byte
      obtain ⟨t, done, last⟩ := ih (after.transfer ssi) fits.2
      exact ⟨t, by rw [writeBytes_cons ssi next, done], last⟩

theorem Holds.writeBytes_overrun (holds : Holds s a) (bytes : List UInt8)
    (full : ¬ Fits connected a bytes) : Qemu.writeBytes ssi connected s bytes = none := by
  induction bytes generalizing s a with
  | nil => exact absurd trivial full
  | cons byte rest ih =>
      by_cases fits : a.held.length < frameBufferSize
      · obtain ⟨u, next, after⟩ := holds.feed fits byte
        rw [writeBytes_cons ssi next]
        exact ih (after.transfer ssi) fun later => full ⟨fits, later⟩
      · have inside : a.held ≠ [] := by
          intro empty
          simp [empty, frameBufferSize] at fits
        simp [Qemu.writeBytes, write, holds.overrun inside (by omega) byte]

theorem feed_inside (connected : Bool) {start length : UInt8} {tail : List UInt8}
    (held : a.held = start :: length :: tail) (content : List UInt8)
    (inside : tail.length + 2 + content.length < frameSize length) :
    run (Assembly.feed connected) a content =
        { a with held := start :: length :: tail ++ content } ∧
      (Fits connected a content ↔
        content = [] ∨ tail.length + 2 + content.length ≤ frameBufferSize) := by
  induction content generalizing a tail with
  | nil =>
      refine ⟨?_, by simp [Fits, Guarded]⟩
      rw [run_nil, List.append_nil, ← held]
  | cons byte rest ih =>
      simp only [List.length_cons] at inside
      have stored : a.feed connected byte =
          { a with held := start :: length :: (tail ++ [byte]) } := by
        simp only [Assembly.feed, held, if_pos (show tail.length + 3 < frameSize length by omega),
          List.cons_append]
      have shape : (a.feed connected byte).held = start :: length :: (tail ++ [byte]) := by
        rw [stored]
      obtain ⟨later, fits⟩ := ih shape (by simp; omega)
      constructor
      · rw [run_cons, later, stored]
        simp
      · simp only [Fits, Guarded] at fits ⊢
        rw [fits, held]
        simp only [List.length_append, List.length_cons, List.length_nil, reduceCtorEq, false_or]
        cases rest with
        | nil => simp
        | cons _ _ =>
            simp
            omega

theorem feed_frame (connected : Bool) {start length : UInt8} (last : UInt8) {content : List UInt8}
    (held : a.held = [start, length]) (whole : content.length + 3 = frameSize length) :
    (run (Assembly.feed connected) a (content ++ [last])).held = [] ∧
      (Fits connected a (content ++ [last]) ↔ frameSize length ≤ frameBufferSize) := by
  obtain ⟨stored, fits⟩ := feed_inside connected held content
    (by simp only [List.length_nil]; omega)
  have full : ¬ content.length + 3 < frameSize length := by omega
  constructor
  · simp [run_append, stored, Assembly.feed, full]
  · simp only [Fits, guarded_append] at fits ⊢
    rw [fits, stored]
    simp only [Guarded, List.cons_append, List.nil_append, List.length_cons, List.length_nil]
    constructor
    · intro found
      omega
    · intro small
      exact ⟨Or.inr (by omega), by omega, trivial⟩

/-- A frame of the wire format. -/
structure Frame where
  payload : List UInt8
  checksum : UInt8
  nonempty : payload ≠ []
  bounded : payload.length ≤ 252

def Frame.length (f : Frame) : UInt8 := UInt8.ofNat f.payload.length

def Frame.wire (f : Frame) : List UInt8 :=
  0x01 :: f.length :: f.payload ++ [f.checksum, 0x0A]

theorem Frame.length_toNat (f : Frame) : f.length.toNat = f.payload.length :=
  UInt8.toNat_ofNat_of_lt' (by
    have := f.bounded
    simp only [UInt8.size]
    omega)

theorem Frame.wire_length (f : Frame) : f.wire.length = f.payload.length + 4 := by
  simp [Frame.wire]

structure Formed (a : Assembly) : Prop where
  start : ∀ byte tail, a.held = byte :: tail → byte = 0x01
  room : ∀ start length tail, a.held = start :: length :: tail →
    tail.length + 2 < frameSize length
  forwarded : ∀ bytes ∈ a.forwarded, ∃ f : Frame, bytes = f.wire

theorem fresh_formed : Formed .fresh := by
  constructor <;> simp [Assembly.fresh]

theorem wire_of_bytes {length : UInt8} {tail : List UInt8} (payload : length ≠ 0)
    (short : length.toNat ≤ 252) (whole : tail.length + 3 = frameSize length) :
    ∃ f : Frame, 0x01 :: length :: tail ++ [0x0A] = f.wire := by
  have positive : 0 < length.toNat := by
    rw [Nat.pos_iff_ne_zero]
    exact fun zero => payload (UInt8.toNat_inj.mp zero)
  have size : tail.length = length.toNat + 1 := by
    simp only [frameSize] at whole
    omega
  obtain ⟨checksum, last⟩ : ∃ checksum, tail.drop length.toNat = [checksum] :=
    List.length_eq_one_iff.mp (by simp; omega)
  have taken : (tail.take length.toNat).length = length.toNat := by simp; omega
  refine ⟨⟨tail.take length.toNat, checksum, ?_, by omega⟩, ?_⟩
  · intro empty
    rw [empty] at taken
    exact absurd taken (Nat.ne_of_lt positive)
  · have cut : tail = tail.take length.toNat ++ [checksum] := by
      rw [← last, List.take_append_drop]
    have bytes : tail ++ [0x0A] = tail.take length.toNat ++ [checksum, 0x0A] :=
      calc tail ++ [0x0A] = (tail.take length.toNat ++ [checksum]) ++ [0x0A] := by rw [← cut]
        _ = tail.take length.toNat ++ [checksum, 0x0A] := by simp
    simp only [Frame.wire, Frame.length, taken, UInt8.ofNat_toNat, List.cons_append, bytes]

theorem Formed.feed (formed : Formed a) (fits : a.held.length < frameBufferSize) (byte : UInt8) :
    Formed (a.feed connected byte) := by
  match held : a.held with
  | [] =>
      simp only [Assembly.feed, held]
      split
      · rename_i start
        refine ⟨?_, by simp, formed.forwarded⟩
        intro _ _ shape
        cases shape
        exact start
      · exact formed
  | [start] =>
      simp only [Assembly.feed, held]
      refine ⟨?_, ?_, formed.forwarded⟩
      · intro _ _ shape
        cases shape
        exact formed.start start [] held
      · intro _ _ _ shape
        cases shape
        simp [frameSize]
        omega
  | start :: length :: tail =>
      simp only [Assembly.feed, held]
      have marker := formed.start _ _ held
      split
      · rename_i inside
        refine ⟨?_, ?_, formed.forwarded⟩
        · intro _ _ shape
          cases shape
          exact marker
        · intro _ _ _ shape
          cases shape
          simpa using inside
      · rename_i last
        refine ⟨by simp, by simp, ?_⟩
        intro bytes member
        rcases List.mem_append.mp member with old | new
        · exact formed.forwarded bytes old
        · split at new
          · rename_i sent
            obtain ⟨-, rfl, payload⟩ := sent
            rw [List.mem_singleton.mp new, marker]
            have room := formed.room _ _ _ held
            simp only [held, List.length_cons, frameBufferSize, frameSize] at fits last room
            exact wire_of_bytes payload (by omega) (by simp only [frameSize]; omega)
          · cases new

theorem Formed.run (formed : Formed a) {bytes : List UInt8} (fits : Fits connected a bytes) :
    Formed (run (Assembly.feed connected) a bytes) :=
  guarded_invariant (fun _ byte formed fits => formed.feed fits byte) formed fits

/-- Whatever is written to the data register, the frames that go out are frames of the
format. -/
theorem writeBytes_frames {bytes : List UInt8}
    (done : writeBytes ssi connected reset bytes = some s) :
    ∃ frames : List Frame, s.sent = frames.map Frame.wire := by
  have fits : Fits connected .fresh bytes := by
    by_contra full
    rw [reset_holds.writeBytes_overrun bytes full] at done
    cases done
  obtain ⟨t, same, holds⟩ := reset_holds.writeBytes ssi bytes fits
  rw [done] at same
  cases same
  have wires : s.sent ∈ Set.range (List.map Frame.wire) := by
    rw [Set.range_list_map, holds.sent]
    intro bytes member
    obtain ⟨f, rfl⟩ := (fresh_formed.run fits).forwarded bytes member
    exact ⟨f, rfl⟩
  obtain ⟨frames, same⟩ := wires
  exact ⟨frames, same.symm⟩

theorem feed_wire (idle : a.held = []) (f : Frame) : Fits true a f.wire ∧
    run (Assembly.feed true) a f.wire =
      { held := [], forwarded := a.forwarded ++ [f.wire] } := by
  have bounded := f.bounded
  have payload : f.length ≠ 0 := by
    intro empty
    have size := f.length_toNat
    rw [empty] at size
    exact f.nonempty (List.length_eq_zero_iff.mp size.symm)
  have positive : 0 < f.payload.length := List.length_pos_iff.mpr f.nonempty
  have size : frameSize f.length = f.payload.length + 4 := by
    simp only [frameSize, f.length_toNat]
    omega
  have opened : run (Assembly.feed true) a [0x01, f.length] =
      { a with held := [0x01, f.length] } := by simp [Assembly.feed, idle]
  have cut : f.wire = [0x01, f.length] ++ (f.payload ++ [f.checksum] ++ [0x0A]) := by
    simp [Frame.wire]
  have whole : (f.payload ++ [f.checksum]).length + 3 = frameSize f.length := by simp [size]
  obtain ⟨-, fits⟩ := feed_frame true 0x0A (a := { a with held := [0x01, f.length] }) rfl whole
  obtain ⟨stored, -⟩ := feed_inside true (a := { a with held := [0x01, f.length] }) rfl
    (f.payload ++ [f.checksum]) (by simp [size]; omega)
  have full : ¬ f.payload.length + 1 + 3 < frameSize f.length := by omega
  constructor
  · rw [cut, Fits, guarded_append, opened]
    refine ⟨by simp [Guarded, Assembly.feed, idle, frameBufferSize], fits.mpr ?_⟩
    simp only [size, frameBufferSize]
    omega
  · rw [cut, run_append, opened, run_append, stored]
    simp [Assembly.feed, full, payload]

end AnchorNode.Qemu
