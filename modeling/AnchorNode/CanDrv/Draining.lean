import AnchorNode.CanDrv.Writing

/-! The loop over a FIFO of the controller: it reports what it has counted, in order, and what comes
in meanwhile is left with its interrupt flag up. -/

namespace AnchorNode.CanDrv

open AnchorNode.Lib

variable {D : Type} {cfg : Config} {chip : Chip D} {view : D → View} {i : Context} {s : State D}
  {ε : Type} {port : FifoPort ε} {lane : Lane} {reads : ε → lane.Shown → Prop}

structure Drains (cfg : Config) (chip : Chip D) (view : D → View) (i : Context) (lane : Lane)
    (port : FifoPort ε) (reads : ε → lane.Shown → Prop) : Prop where
  status_regular : port.status ≠ .intr ∧ port.status ≠ .ndat1
  level : ∀ s, Sane cfg view s → (chip.register s.dev port.status &&& port.levelMask).toNat =
    ((inbox cfg view lane).queue s).length
  index : ∀ s, Sane cfg view s →
    ((chip.register s.dev port.status &&& port.indexMask) >>> 8).toNat =
      (inbox cfg view lane).index s
  fetch : ∀ n c, Does cfg chip view i (fun _ => False)
    (fun s => (inbox cfg view lane).index s = n ∧ (inbox cfg view lane).Head c s)
    (port.fetch n) (fun e _ => reads e c)
  acknowledge_regular : port.acknowledge ≠ .intr
  acknowledge : ∀ (s : State D) (w : Word) c, Sane cfg view s → (inbox cfg view lane).Settled s →
    (inbox cfg view lane).Head c s → w.toNat = (inbox cfg view lane).index s →
    Guarantee cfg view i (fun other => other = lane) s
        (s.written chip (.reg port.acknowledge) [w]) ∧
      (∃ a, (inbox cfg view lane).shown a = c ∧
        (inbox cfg view lane).InHand a (s.written chip (.reg port.acknowledge) [w])) ∧
      ∀ n, (inbox cfg view lane).Counted (n + 1) s →
        (inbox cfg view lane).Counted n (s.written chip (.reg port.acknowledge) [w])
  notify : ∀ e a n, reads e ((inbox cfg view lane).shown a) →
    Does cfg chip view i (fun other => other = lane)
      (fun s => (inbox cfg view lane).InHand a s ∧ (inbox cfg view lane).Counted n s)
      (port.notify e)
      (fun _ s => (inbox cfg view lane).Settled s ∧ (inbox cfg view lane).Counted n s)

section Steps
variable {s' : State D}

theorem taken {c : lane.Shown} (sane : Sane cfg view s) (settled : (inbox cfg view lane).Settled s)
    (head : (inbox cfg view lane).Head c s) (tx : txPart view s' = txPart view s)
    (mutex : s'.hthMutex = s.hthMutex)
    (stored : Stored cfg (view s'.dev).received)
    (others : ∀ other, other ≠ lane → (inbox cfg view other).Grows s s')
    (arrived : (inbox cfg view lane).arrived s' = (inbox cfg view lane).arrived s)
    (reported : (inbox cfg view lane).reported s' = (inbox cfg view lane).reported s)
    (queue : (inbox cfg view lane).queue s' = ((inbox cfg view lane).queue s).tail)
    (flag : (inbox cfg view lane).flag s → (inbox cfg view lane).flag s') :
    Guarantee cfg view i (fun other => other = lane) s s' ∧
      (∃ a, (inbox cfg view lane).shown a = c ∧ (inbox cfg view lane).InHand a s') ∧
      ∀ n, (inbox cfg view lane).Counted (n + 1) s → (inbox cfg view lane).Counted n s' := by
  obtain ⟨rest, list⟩ := head
  rw [list] at queue
  obtain ⟨a, shown, hand, sound⟩ := settled.take (sane.lanes lane) list arrived reported queue
  refine ⟨Guarantee.off_tx tx mutex (fun _ other here => ?_) (fun _ => stored) others,
    ⟨a, shown, hand⟩, fun n counted => counted.take list queue flag⟩
  obtain rfl := here
  exact sound

theorem does_answer (configured : WellConfigured cfg) (contract : Contract cfg chip view)
    (mine : Mine cfg i lane) (n : Nat) {calls : List WriteCall}
    (checked : ∀ call ∈ calls, Checked cfg call) :
    Does cfg chip view i (fun other => other = lane)
      (fun s => (inbox cfg view lane).Settled s ∧ (inbox cfg view lane).Counted n s)
      (writeAll cfg i calls)
      (fun _ s => (inbox cfg view lane).Settled s ∧ (inbox cfg view lane).Counted n s) := by
  have lasting : Lasting cfg view (Mine cfg i) fun s =>
      (inbox cfg view lane).Settled s ∧ (inbox cfg view lane).Counted n s :=
    (lasting_settled mine).and (lasting_counted mine n)
  have written := does_frame (does_writeAll (i := i) configured contract checked)
    (lasting.mono fun _ here => ⟨here, id⟩)
  exact does_mono (does_may written fun _ => False.elim) (fun _ _ holds => ⟨trivial, holds⟩)
    fun _ _ _ holds => holds.2

end Steps

section One
variable (mine : Mine cfg i lane) (n : Nat) {fetch : Driver ε} {notify : ε → Driver Unit}
  {address : Address} {words : List Word}
include mine

theorem does_element (c : lane.Shown)
    (fetched : Does cfg chip view i (fun _ => False)
      (fun s => (inbox cfg view lane).index s = n ∧ (inbox cfg view lane).Head c s)
      fetch (fun e _ => reads e c))
    (regular : address ≠ .reg .intr)
    (acknowledged : ∀ s, Sane cfg view s → (inbox cfg view lane).Settled s →
      (inbox cfg view lane).Head c s → (inbox cfg view lane).index s = n →
      Guarantee cfg view i (fun other => other = lane) s (s.written chip address words) ∧
        (∃ a, (inbox cfg view lane).shown a = c ∧
          (inbox cfg view lane).InHand a (s.written chip address words)) ∧
        ∀ n, (inbox cfg view lane).Counted (n + 1) s →
          (inbox cfg view lane).Counted n (s.written chip address words))
    (level : Nat)
    (notified : ∀ e a, reads e ((inbox cfg view lane).shown a) →
      Does cfg chip view i (fun other => other = lane)
        (fun s => (inbox cfg view lane).InHand a s ∧ (inbox cfg view lane).Counted level s)
        (notify e)
        (fun _ s => (inbox cfg view lane).Settled s ∧ (inbox cfg view lane).Counted level s)) :
    Does cfg chip view i (fun other => other = lane)
      (fun s => ((inbox cfg view lane).index s = n ∧ (inbox cfg view lane).Head c s) ∧
        (inbox cfg view lane).Settled s ∧ (inbox cfg view lane).Counted (level + 1) s)
      (do
        let element ← fetch
        let _ ← spiWrite address words
        notify element)
      (fun _ s => (inbox cfg view lane).Settled s ∧ (inbox cfg view lane).Counted level s) := by
  have still : Lasting cfg view (Mine cfg i) fun s =>
      ((inbox cfg view lane).index s = n ∧ (inbox cfg view lane).Head c s) ∧
        (inbox cfg view lane).Settled s ∧ (inbox cfg view lane).Counted (level + 1) s :=
    ((lasting_index mine n).and (lasting_head mine c)).and
      ((lasting_settled mine).and (lasting_counted mine _))
  have first : Does cfg chip view i (fun other => other = lane) _ fetch _ :=
    does_may (does_frame fetched (still.mono fun _ here => ⟨here, id⟩)) fun _ => False.elim
  refine does_bind (does_mono first (fun s _ holds => ⟨holds.1, holds⟩) fun _ _ _ => id)
    fun e => does_fact fun read => ?_
  refine does_bind (does_spiWrite (R := fun s => ∃ a, (inbox cfg view lane).shown a = c ∧
    (inbox cfg view lane).InHand a s ∧ (inbox cfg view lane).Counted level s) still.kept ?_
    regular ?_) fun _ => ?_
  · rintro s s' sane rely ⟨a, shown, holds⟩
    exact ⟨a, shown, ((lasting_inHand mine a).and (lasting_counted mine level)).kept s s' sane rely
      holds⟩
  · rintro s sane ⟨⟨index, head⟩, settled, counted⟩
    obtain ⟨guarantee, ⟨a, shown, hand⟩, less⟩ := acknowledged s sane settled head index
    exact ⟨guarantee, a, shown, hand, less level counted⟩
  · exact does_exists fun a => does_fact fun shown => notified e a (shown ▸ read)

end One

section Loop
variable (drains : Drains cfg chip view i lane port reads) (mine : Mine cfg i lane)
include drains mine

omit drains mine in
theorem processFifo_succ (level : Nat) (status : Word) :
    processFifo cfg port (level + 1) status = (do
      let element ← port.fetch ((status &&& port.indexMask) >>> 8).toNat
      let _ ← spiWrite (.reg port.acknowledge) [(status &&& port.indexMask) >>> 8]
      port.notify element) >>= (fun _ => if level = 0 then pure () else do
        let (_, status) ← readVerified cfg port.status
        processFifo cfg port level status) := by
  simp only [processFifo, bind_assoc]

theorem does_processFifo (level : Nat) (status : Word) :
    Does cfg chip view i (fun other => other = lane)
      (fun s => (inbox cfg view lane).Settled s ∧ (inbox cfg view lane).Counted level s ∧
        (inbox cfg view lane).index s = ((status &&& port.indexMask) >>> 8).toNat)
      (processFifo cfg port level status) (fun _ => (inbox cfg view lane).Calm) := by
  -- on the fill level; the queue may have grown since it was read, but holds at least so many
  induction level generalizing status with
  | zero =>
      refine does_pure ?_ fun s _ holds => holds.2.1.calm holds.1
      exact ((lasting_settled mine).and ((lasting_counted mine 0).and (lasting_index mine _))).kept
  | succ level ih =>
      have some : Does cfg chip view i (fun other => other = lane) (fun s => ∃ c,
          ((inbox cfg view lane).index s = ((status &&& port.indexMask) >>> 8).toNat ∧
            (inbox cfg view lane).Head c s) ∧ (inbox cfg view lane).Settled s ∧
            (inbox cfg view lane).Counted (level + 1) s)
          (processFifo cfg port (level + 1) status) (fun _ => (inbox cfg view lane).Calm) := by
        refine does_exists fun c => ?_
        have element := does_element mine _ c (drains.fetch _ c)
          (fun same => drains.acknowledge_regular (Address.reg.inj same))
          (fun s sane settled head index =>
            drains.acknowledge s ((status &&& port.indexMask) >>> 8) c sane settled head index.symm)
          level (fun e a => drains.notify e a level)
        have both : Lasting cfg view (Mine cfg i) fun s =>
            (inbox cfg view lane).Settled s ∧ (inbox cfg view lane).Counted level s :=
          (lasting_settled mine).and (lasting_counted mine level)
        rw [processFifo_succ]
        refine does_bind element fun _ => ?_
        split_ifs with last
        · subst last
          exact does_pure both.kept fun s _ holds => holds.2.calm holds.1
        · refine does_bind (does_readVerified (R := fun w s => (inbox cfg view lane).Settled s ∧
            (inbox cfg view lane).Counted level s ∧
              (inbox cfg view lane).index s = ((w &&& port.indexMask) >>> 8).toNat) both.kept ?_
            drains.status_regular fun s sane holds =>
              ⟨holds.1, holds.2, (drains.index s sane).symm⟩) ?_
          · intro w
            exact ((lasting_settled mine).and
              ((lasting_counted mine level).and (lasting_index mine _))).kept
          · rintro ⟨_, status⟩
            exact ih status
      refine does_mono some (fun s _ holds => ?_) fun _ _ _ => id
      obtain ⟨settled, counted, index⟩ := holds
      obtain ⟨c, head⟩ := counted.head
      exact ⟨c, ⟨index, head⟩, settled, counted⟩

theorem does_processPort : Does cfg chip view i (fun other => other = lane)
    (inbox cfg view lane).Settled (processPort cfg port)
    (fun _ => (inbox cfg view lane).Calm) := by
  refine does_bind (does_readVerified (R := fun w s => (inbox cfg view lane).Settled s ∧
    (inbox cfg view lane).Counted (w &&& port.levelMask).toNat s ∧
      (inbox cfg view lane).index s = ((w &&& port.indexMask) >>> 8).toNat)
    (lasting_settled mine).kept ?_ drains.status_regular fun s sane settled => ?_) ?_
  · intro w
    exact ((lasting_settled mine).and ((lasting_counted mine _).and (lasting_index mine _))).kept
  · refine ⟨settled, ?_, (drains.index s sane).symm⟩
    rw [drains.level s sane]
    exact Inbox.Counted.all s
  · rintro ⟨_, status⟩
    exact does_processFifo drains mine _ status

end Loop

end AnchorNode.CanDrv
