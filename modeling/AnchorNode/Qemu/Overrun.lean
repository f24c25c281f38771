import AnchorNode.Qemu.Assembly

/-! When the parser of the peripheral stores outside its frame buffer. -/

namespace AnchorNode.Qemu

open AnchorNode.Lib

def announcements : List UInt8 → List (UInt8 × Nat)
  | [] => []
  | byte :: rest =>
    if byte = 0x01 then
      match rest with
      | [] => []
      | length :: tail => (length, tail.length) :: announcements (tail.drop (frameSize length - 2))
    else announcements rest
termination_by bytes => bytes.length
decreasing_by
  · simp
    omega
  · simp

@[simp] theorem announcements_nil : announcements [] = [] := by rw [announcements]

@[simp] theorem announcements_start : announcements [0x01] = [] := by simp [announcements]

theorem announcements_frame (length : UInt8) (tail : List UInt8) :
    announcements (0x01 :: length :: tail) =
      (length, tail.length) :: announcements (tail.drop (frameSize length - 2)) := by
  rw [announcements.eq_def]
  simp only [if_pos]

theorem announcements_skip {byte : UInt8} {rest : List UInt8} (other : byte ≠ 0x01) :
    announcements (byte :: rest) = announcements rest := by
  rw [announcements.eq_def]
  simp only [if_neg other]

variable {a : Assembly}

theorem fits_iff (connected : Bool) (bytes : List UInt8) (idle : a.held = []) :
    Fits connected a bytes ↔ ∀ n ∈ announcements bytes, n.1.toNat ≤ 252 ∨ n.2 < 255 := by
  induction bytes using announcements.induct generalizing a with
  | case1 => simp [Fits, Guarded]
  | case2 =>
      have room : a.held.length < frameBufferSize := by simp [idle, frameBufferSize]
      simp [Fits, Guarded, room]
  | case3 length tail ih =>
      rw [announcements_frame]
      simp only [List.mem_cons, forall_eq_or_imp]
      have opened : run (Assembly.feed connected) a [0x01, length] =
          { a with held := [0x01, length] } := by simp [Assembly.feed, idle]
      have start : Fits connected a (0x01 :: length :: tail) ↔
          Fits connected { a with held := [0x01, length] } tail := by
        have front : Fits connected a [0x01, length] := by
          simp [Fits, Guarded, Assembly.feed, idle, frameBufferSize]
        rw [← opened]
        exact (guarded_append _ _ a [0x01, length] tail).trans (and_iff_right front)
      rw [start]
      have size : frameSize length = 4 + max length.toNat 1 := rfl
      by_cases complete : frameSize length ≤ tail.length + 2
      · have nonempty : tail.take (frameSize length - 2) ≠ [] := by
          intro empty
          have size := congrArg List.length empty
          simp only [List.length_take, List.length_nil] at size
          omega
        obtain ⟨content, last, cut⟩ : ∃ content last,
            tail.take (frameSize length - 2) = content ++ [last] :=
          ⟨_, _, (List.dropLast_append_getLast nonempty).symm⟩
        have whole : content.length + 3 = frameSize length := by
          have size := congrArg List.length cut
          simp only [List.length_take, List.length_append, List.length_singleton] at size
          omega
        obtain ⟨ended, fits⟩ := feed_frame connected last
          (a := { a with held := [0x01, length] }) rfl whole
        have parts : Fits connected { a with held := [0x01, length] } tail ↔
            frameSize length ≤ frameBufferSize ∧
              Fits connected (run (Assembly.feed connected) { a with held := [0x01, length] }
                (content ++ [last])) (tail.drop (frameSize length - 2)) := by
          conv => lhs; rw [← List.take_append_drop (frameSize length - 2) tail, cut]
          rw [← fits]
          exact guarded_append _ _ _ _ _
        rw [parts, ih ended]
        have short : frameSize length ≤ frameBufferSize ↔
            length.toNat ≤ 252 ∨ tail.length < 255 := by
          simp only [size, frameBufferSize] at complete ⊢
          omega
        rw [short]
      · have behind : tail.drop (frameSize length - 2) = [] := List.drop_eq_nil_iff.mpr (by omega)
        obtain ⟨-, fits⟩ := feed_inside connected (a := { a with held := [0x01, length] }) rfl tail
          (by simp only [List.length_nil]; omega)
        have short : (tail = [] ∨ 2 + tail.length ≤ frameBufferSize) ↔
            length.toNat ≤ 252 ∨ tail.length < 255 := by
          have empty : tail = [] ↔ tail.length = 0 := List.length_eq_zero_iff.symm
          rw [empty]
          simp only [size, frameBufferSize] at complete ⊢
          omega
        simpa [behind] using fits.trans short
  | case4 byte rest other ih =>
      rw [announcements_skip other, ← ih idle]
      have skipped : a.feed connected byte = a := by simp [Assembly.feed, idle, other]
      have room : a.held.length < frameBufferSize := by simp [idle, frameBufferSize]
      simp only [Fits, Guarded, skipped, room, true_and]

/-- From reset every byte is stored inside the frame buffer, and no frame is longer than it,
exactly if at most 254 bytes follow each length byte above 252. -/
theorem frame_buffer_bounds (ssi : UInt32 → UInt32) (connected : Bool) (bytes : List UInt8) :
    (∃ t, writeBytes ssi connected reset bytes = some t ∧
      ∀ frame ∈ t.sent, frame.length ≤ frameBufferSize) ↔
    ∀ n ∈ announcements bytes, n.1.toNat ≤ 252 ∨ n.2 < 255 := by
  rw [← fits_iff (a := .fresh) connected bytes rfl]
  constructor
  · rintro ⟨t, done, -⟩
    by_contra full
    rw [reset_holds.writeBytes_overrun bytes full] at done
    cases done
  · intro fits
    obtain ⟨t, done, -⟩ := reset_holds.writeBytes ssi bytes fits
    refine ⟨t, done, ?_⟩
    obtain ⟨frames, wires⟩ := writeBytes_frames done
    rw [wires]
    intro frame member
    obtain ⟨f, -, rfl⟩ := List.mem_map.mp member
    have bounded := f.bounded
    simp only [f.wire_length, frameBufferSize]
    omega

theorem longest_frame_overruns :
    writeBytes id true reset (0x01 :: 0xFF :: List.replicate 255 0x00) = none := by
  apply reset_holds.writeBytes_overrun
  rw [fits_iff true _ rfl, announcements_frame, List.length_replicate]
  intro fits
  rcases fits (0xFF, 255) (List.mem_cons_self) with short | few
  · exact absurd short (by decide)
  · exact absurd few (by decide)

end AnchorNode.Qemu
