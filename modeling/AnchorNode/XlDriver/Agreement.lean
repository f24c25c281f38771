import AnchorNode.Qemu.Assembly
import AnchorNode.XlDriver.ListenUart

/-! The peripheral and the bridge on the two ends of the connection. -/

namespace AnchorNode.XlDriver

open AnchorNode.Lib
open AnchorNode.Qemu

/-- The checksum of a frame is that of its length byte and its payload. -/
def Intact (f : Frame) : Prop := f.checksum = checksum f.length f.payload

instance : DecidablePred Intact := fun f =>
  inferInstanceAs (Decidable (f.checksum = checksum f.length f.payload))

/-- What the bridge should hand on of a sequence of frames. -/
def intactPayloads (frames : List Frame) : List (List UInt8) :=
  (frames.filter fun f => decide (Intact f)).map Frame.payload

theorem round_frame (f : Frame) (position : Nat) (rest : List UInt8) :
    round .whole ⟨position, f.wire ++ rest⟩ =
      if Intact f then ⟨f.payload.length + 4, some f.payload⟩
      else ⟨f.payload.length + 3, none⟩ := by
  have bytes : f.wire ++ rest =
      0x01 :: f.length :: (f.payload ++ f.checksum :: 0x0A :: rest) := by simp [Frame.wire]
  have payload : Delivery.whole.piece f.payload.length
      ((Incoming.mk position (f.wire ++ rest)).skip 2) = f.payload := by
    simp [Delivery.piece, Delivery.whole, Incoming.skip, bytes]
  rw [bytes] at payload ⊢
  simp only [round, ne_eq, not_true_eq_false, if_false, f.length_toNat, payload,
    List.drop_left, finish, reduceCtorEq, Intact]
  by_cases intact : f.checksum = checksum f.length f.payload
  · simp only [intact, not_true_eq_false, if_false, if_true, Round.mk.injEq, and_true]
    omega
  · simp only [intact, not_false_eq_true, if_true, if_false, Round.mk.injEq, and_true]
    omega

theorem heard_frame (f : Frame) (position : Nat) (rest : List UInt8) :
    heard .whole ⟨position, f.wire ++ rest⟩ =
      (if Intact f then [f.payload] else []) ++
        heard .whole ⟨position + f.wire.length, rest⟩ := by
  have pending : f.wire ++ rest ≠ [] := by simp [Frame.wire]
  rw [heard_step .whole pending, advance, round_frame]
  by_cases intact : Intact f
  · simp only [if_pos intact, Option.toList_some, Incoming.skip, f.wire_length]
    rw [List.drop_left' f.wire_length]
  · have left : (f.wire ++ rest).drop (f.payload.length + 3) = [0x0A] ++ rest := by
      have front : f.wire = (0x01 :: f.length :: f.payload ++ [f.checksum]) ++ [0x0A] := by
        simp [Frame.wire]
      rw [front, List.append_assoc, List.drop_left' (by simp)]
    simp only [if_neg intact, Option.toList_none, Incoming.skip, left, f.wire_length]
    rw [heard_skips .whole (by simp)]
    rfl

theorem heard_frames (frames : List Frame) (position : Nat) :
    heard .whole ⟨position, (frames.map Frame.wire).flatten⟩ = intactPayloads frames := by
  induction frames generalizing position with
  | nil => rfl
  | cons f frames ih =>
      rw [List.map_cons, List.flatten_cons, heard_frame, ih, intactPayloads, intactPayloads,
        List.filter_cons]
      by_cases intact : Intact f <;> simp [intact]

theorem feed_wires (frames : List Frame) {a : Assembly} (idle : a.held = []) :
    Fits true a (frames.map Frame.wire).flatten ∧
      (run (Assembly.feed true) a (frames.map Frame.wire).flatten).forwarded =
        a.forwarded ++ frames.map Frame.wire := by
  induction frames generalizing a with
  | nil => exact ⟨trivial, (List.append_nil _).symm⟩
  | cons f frames ih =>
      obtain ⟨first, sent⟩ := feed_wire idle f
      obtain ⟨later, rest⟩ := ih (a := ⟨[], a.forwarded ++ [f.wire]⟩) rfl
      rw [List.map_cons, List.flatten_cons, Fits, guarded_append, run_append, sent, rest]
      exact ⟨⟨first, later⟩, by simp⟩

theorem forwards_frames (ssi : UInt32 → UInt32) (frames : List Frame) :
    ∃ s, writeBytes ssi true reset (frames.map Frame.wire).flatten = some s ∧
      s.sent = frames.map Frame.wire := by
  obtain ⟨fits, sent⟩ := feed_wires frames (a := .fresh) rfl
  obtain ⟨t, done, holds⟩ := reset_holds.writeBytes ssi _ fits
  exact ⟨t, done, holds.sent.trans sent⟩

/-- Whatever is written to the data register, the bridge reaches its transmission block once for
each forwarded frame with the right checksum, in order and with its payload. -/
theorem device_bridge_agree (ssi : UInt32 → UInt32) :
    (∀ bytes s, writeBytes ssi true reset bytes = some s →
      ∃ frames : List Frame, s.sent = frames.map Frame.wire ∧
        (listenUart .whole s.sent.flatten).accepted = intactPayloads frames) ∧
    ∀ frames : List Frame, ∃ bytes s, writeBytes ssi true reset bytes = some s ∧
      s.sent = frames.map Frame.wire := by
  refine ⟨?_, fun frames => ⟨_, forwards_frames ssi frames⟩⟩
  intro bytes s done
  obtain ⟨frames, sent⟩ := writeBytes_frames done
  refine ⟨frames, sent, ?_⟩
  rw [listenUart, (listen_stream .whole le_rfl).1, sent, heard_frames]

end AnchorNode.XlDriver
