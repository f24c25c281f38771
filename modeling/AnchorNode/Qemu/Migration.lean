import AnchorNode.Qemu.Overrun

/-! Saving the peripheral and loading it into a fresh one. The description of its state names
the registers only, so that nothing of a frame under way is carried over. -/

namespace AnchorNode.Qemu

open AnchorNode.Lib

/-- What `vmstate_stm32f2xx_spi` saves of the modelled registers. -/
structure VmState where
  cr1 : UInt32
  cr2 : UInt32
  sr : UInt32
  dr : UInt32

def save (s : SpiState) : VmState := ⟨s.cr1, s.cr2, s.sr, s.dr⟩

def load (v : VmState) (s : SpiState) : SpiState :=
  { s with cr1 := v.cr1, cr2 := v.cr2, sr := v.sr, dr := v.dr }

variable {ssi : UInt32 → UInt32} {connected : Bool} {s t : SpiState} {a : Assembly}

theorem restored_holds (s : SpiState) : Holds (load (save s) reset) .fresh :=
  ⟨rfl, by simp [Assembly.fresh], rfl, by simp [Assembly.fresh], by simp [Assembly.fresh], rfl⟩

theorem feed_earlier (earlier : List (List UInt8)) (a : Assembly) (byte : UInt8) :
    Assembly.feed connected { a with forwarded := earlier ++ a.forwarded } byte =
      { a.feed connected byte with
        forwarded := earlier ++ (a.feed connected byte).forwarded } := by
  match held : a.held with
  | [] =>
      simp only [Assembly.feed, held]
      split
      · rfl
      · rw [held]
  | [_] => simp only [Assembly.feed, held]
  | _ :: _ :: _ =>
      simp only [Assembly.feed, held]
      split
      · rfl
      · simp only [List.append_assoc]

theorem run_earlier (earlier : List (List UInt8)) (a : Assembly) (bytes : List UInt8) :
    run (Assembly.feed connected) { a with forwarded := earlier ++ a.forwarded } bytes =
      { run (Assembly.feed connected) a bytes with
        forwarded := earlier ++ (run (Assembly.feed connected) a bytes).forwarded } := by
  induction bytes generalizing a with
  | nil => rfl
  | cons byte rest ih => rw [run_cons, feed_earlier, ih, run_cons]

theorem fits_earlier (earlier : List (List UInt8)) (a : Assembly) (bytes : List UInt8) :
    Fits connected { a with forwarded := earlier ++ a.forwarded } bytes ↔
      Fits connected a bytes := by
  induction bytes generalizing a with
  | nil => exact Iff.rfl
  | cons byte rest ih =>
      simp only [Fits, Guarded, feed_earlier] at ih ⊢
      rw [ih]

theorem Holds.frames (holds : Holds s a) (ssi : UInt32 → UInt32) (bytes : List UInt8)
    (frames : List (List UInt8)) :
    (Qemu.writeBytes ssi connected s bytes).map SpiState.sent = some frames ↔
      Fits connected a bytes ∧ (run (Assembly.feed connected) a bytes).forwarded = frames := by
  by_cases fits : Fits connected a bytes
  · obtain ⟨t, done, after⟩ := holds.writeBytes ssi bytes fits
    simp [done, after.sent, fits]
  · simp [holds.writeBytes_overrun bytes fits, fits]

theorem run_skips (connected : Bool) (idle : a.held = []) {bytes : List UInt8}
    (others : ∀ b ∈ bytes, b ≠ 0x01) :
    Fits connected a bytes ∧ run (Assembly.feed connected) a bytes = a := by
  induction bytes with
  | nil => exact ⟨trivial, rfl⟩
  | cons byte rest ih =>
      have skipped : a.feed connected byte = a := by
        simp [Assembly.feed, idle, others byte (by simp)]
      obtain ⟨fits, unchanged⟩ := ih fun b member => others b (by simp [member])
      refine ⟨⟨by simp [idle, frameBufferSize], ?_⟩, ?_⟩
      · rw [skipped]
        exact fits
      · rw [run_cons, skipped, unchanged]

theorem long_frame_swallows {start length : UInt8} {tail : List UInt8} (long : 252 < length.toNat)
    (held : a.held = start :: length :: tail) {bytes : List UInt8}
    (fits : Fits connected a bytes) :
    (run (Assembly.feed connected) a bytes).forwarded = a.forwarded := by
  induction bytes generalizing a tail with
  | nil => rfl
  | cons byte rest ih =>
      have room : tail.length + 3 < frameSize length := by
        have first := fits.1
        simp only [held, List.length_cons, frameBufferSize] at first
        simp only [frameSize]
        omega
      have stored : a.feed connected byte =
          { a with held := start :: length :: (tail ++ [byte]) } := by
        simp only [Assembly.feed, held, if_pos room, List.cons_append]
      have later := ih (a := a.feed connected byte) (by rw [stored]) fits.2
      rw [run_cons, later, stored]

def shortFrame : List UInt8 := [0x01, 0x01, 0x00, 0x01, 0x0A]

theorem empty_frame_swallows {start : UInt8} {tail : List UInt8} (short : tail.length ≤ 2)
    (held : a.held = start :: 0x00 :: tail) :
    (run (Assembly.feed connected) a shortFrame).forwarded = a.forwarded := by
  match tail with
  | [] => simp [shortFrame, Assembly.feed, frameSize, held]
  | [_] => simp [shortFrame, Assembly.feed, frameSize, held]
  | [_, _] => simp [shortFrame, Assembly.feed, frameSize, held]

theorem frame_completes {start length : UInt8} {tail : List UInt8} (payload : length ≠ 0)
    (held : a.held = start :: length :: tail) (room : tail.length + 2 < frameSize length) :
    ∃ frame, (run (Assembly.feed true) a
      (List.replicate (frameSize length - 3 - tail.length) 0x00 ++ [0x0A])).forwarded =
        a.forwarded ++ [frame] := by
  obtain ⟨stored, -⟩ := feed_inside true held
    (List.replicate (frameSize length - 3 - tail.length) 0x00) (by simp; omega)
  have full : ¬ tail.length + (frameSize length - 3 - tail.length) + 3 < frameSize length := by
    omega
  rw [run_append, stored]
  simp only [run_cons, run_nil, Assembly.feed, List.cons_append, List.length_append,
    List.length_replicate, if_neg full]
  simp [payload]

theorem frame_under_way (formed : Formed a) (inside : a.held ≠ []) :
    ∃ rest, Fits true .fresh rest ∧ ¬ (Fits true a rest ∧
      (run (Assembly.feed true) a rest).forwarded =
        a.forwarded ++ (run (Assembly.feed true) .fresh rest).forwarded) := by
  match held : a.held with
  | [] => exact absurd held inside
  | [start] =>
      have marker := formed.start _ _ held
      refine ⟨[0x02, 0x00, 0x00, 0x02, 0x0A], ?_, ?_⟩
      · simp [fits_iff true _ (a := .fresh) rfl, announcements_skip]
      · rintro ⟨-, same⟩
        simp [Assembly.feed, Assembly.fresh, held, frameSize] at same
  | start :: length :: tail =>
      have room := formed.room _ _ _ held
      by_cases goes : length ≠ 0 ∧ length.toNat ≤ 252
      · have others : ∀ b ∈ List.replicate (frameSize length - 3 - tail.length) 0x00 ++ [0x0A],
            b ≠ (0x01 : UInt8) := by
          intro b member
          rcases List.mem_append.mp member with zero | marker
          · rw [List.eq_of_mem_replicate zero]
            decide
          · rw [List.mem_singleton.mp marker]
            decide
        obtain ⟨fits, unchanged⟩ := run_skips true (a := .fresh) rfl others
        refine ⟨_, fits, ?_⟩
        rintro ⟨-, same⟩
        obtain ⟨frame, out⟩ := frame_completes goes.1 held room
        rw [out, unchanged] at same
        simp [Assembly.fresh] at same
      · have restored : (run (Assembly.feed true) .fresh shortFrame).forwarded = [shortFrame] := by
          decide
        refine ⟨shortFrame, ?_, ?_⟩
        · simp [fits_iff true _ (a := .fresh) rfl, shortFrame, announcements_frame, frameSize]
        · rintro ⟨fits, same⟩
          have swallowed : (run (Assembly.feed true) a shortFrame).forwarded = a.forwarded := by
            by_cases empty : length = 0
            · subst empty
              have few : tail.length ≤ 2 := by
                simp [frameSize] at room
                omega
              exact empty_frame_swallows few held
            · have long : 252 < length.toNat := by
                by_contra small
                exact goes ⟨empty, by omega⟩
              exact long_frame_swallows long held fits
          rw [swallowed, restored] at same
          simp at same

/-- A device that is saved and loaded forwards what it would have forwarded, whatever is written
next, exactly if it was saved outside a frame. -/
theorem restore_transparent (ssi : UInt32 → UInt32) (bytes : List UInt8)
    (done : writeBytes ssi true reset bytes = some s) :
    (∀ rest, (writeBytes ssi true s rest).map SpiState.sent =
      (writeBytes ssi true (load (save s) reset) rest).map fun t => s.sent ++ t.sent) ↔
    s.frameState = .idle := by
  have fits : Fits true .fresh bytes := by
    by_contra full
    rw [reset_holds.writeBytes_overrun bytes full] at done
    cases done
  obtain ⟨t, same, holds⟩ := reset_holds.writeBytes ssi bytes fits
  rw [done] at same
  cases same
  have formed := fresh_formed.run fits
  generalize run (Assembly.feed true) .fresh bytes = a at holds formed
  constructor
  · intro transparent
    by_contra busy
    have inside : a.held ≠ [] := by
      intro empty
      rw [holds.state, empty] at busy
      exact busy rfl
    obtain ⟨rest, restored, differs⟩ := frame_under_way formed inside
    obtain ⟨u, later, after⟩ := (restored_holds s).writeBytes ssi rest restored
    have frames := transparent rest
    rw [later, Option.map_some, holds.frames, after.sent, holds.sent] at frames
    exact differs frames
  · intro idle rest
    have outside : a.held = [] := by
      match held : a.held with
      | [] => rfl
      | [_] => simp [holds.state, held, stage] at idle
      | _ :: _ :: _ =>
          simp only [holds.state, held, stage, phase] at idle
          split at idle
          · cases idle
          · split at idle <;> cases idle
    have resumed : a = { Assembly.fresh with forwarded := s.sent ++ Assembly.fresh.forwarded } := by
      rw [holds.sent, Assembly.fresh, List.append_nil, ← outside]
    by_cases fits : Fits true .fresh rest
    · obtain ⟨u, later, after⟩ := (restored_holds s).writeBytes ssi rest fits
      rw [later, Option.map_some, holds.frames, resumed, fits_earlier, run_earlier, after.sent]
      exact ⟨fits, rfl⟩
    · rw [(restored_holds s).writeBytes_overrun rest fits, holds.writeBytes_overrun rest]
      · rfl
      · rw [resumed, fits_earlier]
        exact fits

theorem restore_between_frames : ∃ s, writeBytes id true reset shortFrame = some s ∧
    ∀ rest, (writeBytes id true s rest).map SpiState.sent =
      (writeBytes id true (load (save s) reset) rest).map fun t => s.sent ++ t.sent :=
  ⟨_, rfl, (restore_transparent id shortFrame rfl).mpr rfl⟩

theorem frame_lost_by_restore : ∃ s, writeBytes id true reset [0x01] = some s ∧
    (writeBytes id true s [0x02, 0x00, 0x00, 0x02, 0x0A]).map SpiState.sent =
      some [[0x01, 0x02, 0x00, 0x00, 0x02, 0x0A]] ∧
    (writeBytes id true (load (save s) reset) [0x02, 0x00, 0x00, 0x02, 0x0A]).map SpiState.sent =
      some [] :=
  ⟨_, rfl, rfl, rfl⟩

end AnchorNode.Qemu
