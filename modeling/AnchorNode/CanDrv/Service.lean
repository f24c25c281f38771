import AnchorNode.CanDrv.Buffers

/-! The interrupt handler and the main functions: whoever is to empty a lane leaves nothing in it
that is not flagged. -/

namespace AnchorNode.CanDrv

open AnchorNode.Lib

variable {D : Type} {cfg : Config} {chip : Chip D} {view : D → View} {i : Context}

section Reception

def Received (lane : Lane) : Prop := ∃ store, lane = .rx store

def Seen (cfg : Config) (view : D → View) (intr : Word) (store : RxStore) (s : State D) : Prop :=
  (inbox cfg view (.rx store)).Settled s ∧
    (intr &&& newFlag store = 0#32 → (inbox cfg view (.rx store)).Calm s)

def BuffersCalm (cfg : Config) (view : D → View) (s : State D) : Prop :=
  ∀ index, (inbox cfg view (.rx (.buffer index))).Calm s

section Lasting
variable {among : Lane → Prop}

theorem lasting_seen (store : RxStore) (here : among (.rx store)) (intr : Word) :
    Lasting cfg view among (Seen cfg view intr store) :=
  fun s s' sane grows seen => ⟨lasting_settled here s s' sane grows seen.1,
    fun none => lasting_calm here s s' sane grows (seen.2 none)⟩

theorem lasting_buffersCalm (here : ∀ index, among (.rx (.buffer index))) :
    Lasting cfg view among (BuffersCalm (D := D) cfg view) :=
  fun s s' sane grows calm index => lasting_calm (here index) s s' sane grows (calm index)

end Lasting

variable (configured : WellConfigured cfg) (contract : Contract cfg chip view)
  (mine : ∀ store, Mine cfg i (.rx store))

theorem does_reportLost {P : State D → Prop} {status : Register} {lost : Bool}
    (lasting : Lasting cfg view (Mine cfg i) P)
    (plain : ∀ s reports, P s → P { s with reports := reports }) {may : Lane → Prop} :
    Does cfg chip view i may P (reportLost cfg status lost) (fun _ => P) := by
  unfold reportLost
  split
  · refine does_bind (does_readVerified_any lasting.kept) ?_
    rintro ⟨_, word⟩
    dsimp only
    split
    · exact does_detReportError lasting plain
    · exact does_pure lasting.kept fun _ _ => id
  · exact does_pure lasting.kept fun _ _ => id

include configured contract mine

theorem does_serveRxFifo {store : RxStore} {port : FifoPort MsgInfo}
    (serves : Serves cfg i store port) (status : Register) (lost : Bool) :
    Does cfg chip view i (fun lane => lane = .rx store) (inbox cfg view (.rx store)).Settled
      (serveRxFifo cfg status lost port) (fun _ => (inbox cfg view (.rx store)).Calm) :=
  does_bind (does_reportLost (lasting_settled (mine store)) fun _ _ => id) fun _ =>
    does_processPort (serves.drains configured contract (mine store)) (mine store)

omit configured in
theorem does_see (word : Word) : Does cfg chip view i Received
    (fun s => ∀ store, (inbox cfg view (.rx store)).Calm s)
    (spiWrite (.reg .intr) [word &&& rxFlags])
    (fun _ s => ∀ store, Seen cfg view (word &&& rxFlags) store s) := by
  have settled : Kept cfg view i fun s => ∀ store, (inbox cfg view (.rx store)).Settled s :=
    fun s s' sane rely holds store =>
      (lasting_settled (mine store)).kept s s' sane rely (holds store)
  have cleared : Does cfg chip view i (fun lane => word &&& rxFlags &&& lane.flag ≠ 0#32) _
      (spiWrite (.reg .intr) [word &&& rxFlags]) _ :=
    does_clear contract settled (fun lane none => not_not.mp none) fun s s' unmoved holds store =>
      unmoved.settled (.rx store) (holds store)
  have calm : Lasting cfg view
      (fun lane => Mine cfg i lane ∧ ¬ word &&& rxFlags &&& lane.flag ≠ 0#32)
      fun s => ∀ store, word &&& rxFlags &&& newFlag store = 0#32 →
        (inbox cfg view (.rx store)).Calm s := fun s s' sane grows holds store none =>
    @lasting_calm _ _ _ (.rx store) _ ⟨mine store, not_not.mpr none⟩ s s' sane grows
      (holds store none)
  refine does_mono (does_may (does_frame cleared calm) fun lane some => ?_)
    (fun s _ holds => ⟨fun store => (holds store).1, fun store _ => holds store⟩)
    fun _ s _ holds store => ⟨holds.1 store, holds.2 store⟩
  cases lane with
  | tx => exact absurd (masked_apart (by decide) word) some
  | rx store => exact ⟨store, rfl⟩

theorem does_processCanRx : Does cfg chip view i Received
    (fun s => ∀ store, (inbox cfg view (.rx store)).Calm s) (processCanRx cfg i)
    (fun _ s => ∀ store, (inbox cfg view (.rx store)).Calm s) := by
  have calm : Kept cfg view i fun s => ∀ store, (inbox cfg view (.rx store)).Calm s :=
    fun s s' sane rely holds store => (lasting_calm (mine store)).kept s s' sane rely (holds store)
  refine does_bind (does_readVerified_any calm) ?_
  rintro ⟨status, word⟩
  cases status with
  | false => exact does_pure calm fun _ _ => id
  | true =>
      have see := does_see contract mine word
      dsimp only
      rw [if_pos rfl]
      generalize word &&& rxFlags = intr at see ⊢
      have buffers : Does cfg chip view i Received _ (processRxBuffer cfg i) _ :=
        does_may (does_frame (does_processRxBuffer configured contract fun _ => mine _)
          ((lasting_seen .fifo0 ⟨mine _, by simp [Dedicated]⟩ intr).and
            (lasting_seen .fifo1 ⟨mine _, by simp [Dedicated]⟩ intr)))
          fun lane ⟨index, here⟩ => ⟨_, here⟩
      have first : Does cfg chip view i Received _ (serveRxFifo cfg .rxf0s _ _) _ :=
        does_may (does_frame (does_serveRxFifo configured contract mine rxFifo0_serves
            .rxf0s (intr &&& irRf0l ≠ 0#32))
          ((lasting_buffersCalm fun index => ⟨mine _, by simp⟩).and
            (lasting_seen .fifo1 ⟨mine _, by simp⟩ intr))) fun lane here => ⟨_, here⟩
      have second : Does cfg chip view i Received _ (serveRxFifo cfg .rxf1s _ _) _ :=
        does_may (does_frame (does_serveRxFifo configured contract mine rxFifo1_serves
            .rxf1s (intr &&& irRf1l ≠ 0#32))
          ((lasting_buffersCalm fun index => ⟨mine _, by simp⟩).and
            (@lasting_calm _ _ _ (.rx .fifo0) _ ⟨mine _, by simp⟩))) fun lane here => ⟨_, here⟩
      refine does_when (c := intr ≠ 0#32) (M := fun s => ∀ store, Seen cfg view intr store s)
        (fun _ => see)
        (fun none s _ holds store => ⟨(holds store).1, fun _ => holds store⟩) ?_
      refine does_when (c := intr &&& irDrx ≠ 0#32)
        (M := fun s => BuffersCalm cfg view s ∧ Seen cfg view intr .fifo0 s ∧
          Seen cfg view intr .fifo1 s)
        (fun _ => does_mono buffers
          (fun s _ seen => ⟨fun index => (seen _).1, seen .fifo0, seen .fifo1⟩) fun _ _ _ => id)
        (fun none s _ seen => ⟨fun index => (seen _).2 (not_not.mp none), seen .fifo0, seen .fifo1⟩)
        ?_
      refine does_when (c := intr &&& irRf0n ≠ 0#32) (M := fun s => BuffersCalm cfg view s ∧
          (inbox cfg view (.rx .fifo0)).Calm s ∧ Seen cfg view intr .fifo1 s)
        (fun _ => does_mono first (fun s _ seen => ⟨seen.2.1.1, seen.1, seen.2.2⟩)
          fun _ s _ holds => ⟨holds.2.1, holds.1, holds.2.2⟩)
        (fun none s _ seen => ⟨seen.1, seen.2.1.2 (not_not.mp none), seen.2.2⟩) ?_
      split
      · refine does_mono second (fun s _ seen => ⟨seen.2.2.1, seen.1, seen.2.1⟩) ?_
        rintro _ s _ ⟨one, buffers, zero⟩ (_ | _ | index)
        · exact zero
        · exact one
        · exact buffers index
      · next none =>
          refine does_mono (does_pure calm fun _ _ => id) ?_ fun _ _ _ => id
          rintro s _ ⟨buffers, zero, one⟩ (_ | _ | index)
          · exact zero
          · exact one.2 (not_not.mp none)
          · exact buffers index

end Reception

section Entries
variable (configured : WellConfigured cfg) (contract : Contract cfg chip view)

theorem does_idle {α : Type} {p : Driver α} (may : Lane → Prop)
    (own : ∀ lane, may lane → Mine cfg i lane)
    (does : Does cfg chip view i may
      (fun s => ∀ lane, may lane → (inbox cfg view lane).Calm s) p
      (fun _ s => ∀ lane, may lane → (inbox cfg view lane).Calm s)) :
    Does cfg chip view i (Mine cfg i) (Idle cfg view i) p (fun _ => Idle cfg view i) := by
  have others : Lasting cfg view (fun lane => Mine cfg i lane ∧ ¬ may lane) fun s =>
      ∀ lane, Mine cfg i lane ∧ ¬ may lane → (inbox cfg view lane).Calm s :=
    fun s s' sane grows calm lane here => lasting_calm here s s' sane grows (calm lane here)
  refine does_mono (does_may (does_frame does others) own)
    (fun s _ idle =>
      ⟨fun lane here => idle lane (own lane here), fun lane here => idle lane here.1⟩)
    fun _ s _ holds lane mine => ?_
  by_cases here : may lane
  · exact holds.1 lane here
  · exact holds.2 lane ⟨mine, here⟩

theorem kept_idle : Kept cfg view i (Idle cfg view i) :=
  fun s s' sane rely idle lane mine => (lasting_calm mine).kept s s' sane rely (idle lane mine)

theorem does_idle_apart {α : Type} {p : Driver α}
    (does : Does cfg chip view i (fun _ => False) (fun _ => True) p (fun _ _ => True)) :
    Does cfg chip view i (Mine cfg i) (Idle cfg view i) p (fun _ => Idle cfg view i) :=
  does_idle (fun _ => False) (fun _ => False.elim)
    (does_mono does (fun _ _ _ => trivial) fun _ _ _ _ _ => False.elim)

theorem does_aside {q : Query} (step : ∀ (s : State D) c, ∃ context state mode busOffs,
      (perform chip s q c).2 = { s with
        exCntxt := context, rwDevState := state, controllerMode := mode, busOffs := busOffs }) :
    Does cfg chip view i (fun _ => False) (fun _ => True) (ask q) (fun _ _ => True) := by
  refine does_ask kept_true (fun _ => kept_true) fun s c _ _ _ => ⟨?_, trivial⟩
  obtain ⟨context, state, mode, busOffs, same⟩ := step s c
  rw [same]
  exact Guarantee.aside context state mode s.gComConfigId busOffs s.reports

theorem does_withContext {context : Context} {body : Driver Unit}
    (does : Does cfg chip view i (Mine cfg i) (Idle cfg view i) body (fun _ => Idle cfg view i)) :
    Does cfg chip view i (Mine cfg i) (Idle cfg view i) (withContext context body)
      (fun _ => Idle cfg view i) := by
  refine does_bind (does_idle_apart (does_aside fun s c => ⟨_, _, _, _, rfl⟩)) fun backup => ?_
  refine does_bind (does_idle_apart (does_aside fun s c => ⟨_, _, _, _, rfl⟩)) fun _ => ?_
  refine does_bind does fun _ => ?_
  exact does_idle_apart (does_aside fun s c => ⟨_, _, _, _, rfl⟩)

include contract

theorem does_busoffProcess : Does cfg chip view i (fun _ => False) (fun _ => True)
    (busoffProcess cfg) (fun _ _ => True) := by
  refine does_bind (does_readVerified_any kept_true) ?_
  rintro ⟨status, word⟩
  have ended : Does cfg chip view i (fun _ => False) (fun _ => True) (pure ()) (fun _ _ => True) :=
    does_pure kept_true fun _ _ => id
  have flags (lane : Lane) : word &&& irBo &&& lane.flag = 0#32 := by
    refine masked_apart ?_ word
    rcases lane with _ | ⟨_ | _ | _⟩
    · rfl
    · rfl
    · rfl
    · exact (by decide : irBo &&& irDrx = 0#32)
  dsimp only
  split_ifs
  · refine does_bind (does_clear_other contract flags lasting_true) fun _ => ?_
    refine does_bind (does_aside fun s c => ⟨_, _, _, _, rfl⟩) fun mode => ?_
    split
    · refine does_bind (does_aside fun s c => ⟨_, _, _, _, rfl⟩) fun _ => ?_
      refine does_bind (does_aside fun s c => ⟨_, _, _, _, rfl⟩) fun _ => ?_
      exact does_aside fun s c => ⟨_, _, _, _, rfl⟩
    · exact ended
  · exact ended
  · exact ended

include configured

theorem does_processCanTx_idle (mine : Mine cfg i .tx) :
    Does cfg chip view i (Mine cfg i) (Idle cfg view i) (processCanTx cfg i)
      (fun _ => Idle cfg view i) := by
  refine does_idle (fun lane => lane = .tx) (fun lane here => here ▸ mine)
    (does_mono (does_processCanTx configured contract mine) (fun s _ calm => calm .tx rfl) ?_)
  rintro _ s _ calm lane rfl
  exact calm

theorem does_processCanRx_idle (mine : ∀ store, Mine cfg i (.rx store)) :
    Does cfg chip view i (Mine cfg i) (Idle cfg view i) (processCanRx cfg i)
      (fun _ => Idle cfg view i) := by
  refine does_idle Received (fun lane ⟨store, here⟩ => here ▸ mine store)
    (does_mono (does_processCanRx configured contract mine)
      (fun s _ calm store => calm _ ⟨store, rfl⟩) ?_)
  rintro _ s _ calm lane ⟨store, rfl⟩
  exact calm store

theorem does_irqHandler : Does cfg chip view .isr (Mine cfg .isr) (Idle cfg view .isr)
    (irqHandler cfg) (fun _ => Idle cfg view .isr) := by
  have idle : Kept cfg view .isr (Idle cfg view .isr) := kept_idle
  have skip : Does cfg chip view .isr (Mine cfg .isr) (Idle cfg view .isr) (pure ())
      (fun _ => Idle cfg view .isr) := does_pure idle fun _ _ => id
  have last : Does cfg chip view .isr (Mine cfg .isr) (Idle cfg view .isr)
      (if cfg.canBusoffProcessing = .interrupt then busoffProcess cfg else pure ())
      (fun _ => Idle cfg view .isr) := by
    split
    · exact does_idle_apart (does_busoffProcess contract)
    · exact skip
  unfold irqHandler
  split
  · refine does_bind (does_look idle (fun _ => idle) (fun _ _ => rfl) fun _ _ _ calm _ => calm)
      fun state => ?_
    split
    · refine does_withContext ?_
      refine does_when (c := cfg.canTxProcessing = .interrupt) (fun tx => ?_) (fun _ _ _ => id) ?_
      · exact does_processCanTx_idle configured contract (by simp [Mine, processor, tx])
      refine does_when (c := cfg.canRxProcessing = .interrupt) (fun rx => ?_) (fun _ _ _ => id) last
      exact does_processCanRx_idle configured contract fun _ => by simp [Mine, processor, rx]
    · exact skip
  · exact skip

theorem does_entry (b : Entry) (s : State D) (start : (setting cfg chip view).startable s i b) :
    Does cfg chip view i (Mine cfg i) (Idle cfg view i) (entry cfg i b)
      (fun _ => Idle cfg view i) := by
  have skip : Does cfg chip view i (Mine cfg i) (Idle cfg view i) (pure ())
      (fun _ => Idle cfg view i) := does_pure kept_idle fun _ _ => id
  cases i <;> cases b
  case task.write call =>
      exact does_idle_apart (does_bind (does_canWrite configured contract start) fun _ =>
        does_pure kept_true fun _ _ => id)
  case isr.irq => exact does_irqHandler configured contract
  case mainFunction.mainWrite =>
      show Does cfg chip view _ _ _ (mainFunctionWrite cfg) _
      unfold mainFunctionWrite
      split
      · next polling =>
          exact does_withContext
            (does_processCanTx_idle configured contract (by simp [Mine, processor, polling]))
      · exact skip
  case mainFunction.mainRead =>
      show Does cfg chip view _ _ _ (mainFunctionRead cfg) _
      unfold mainFunctionRead
      split
      · next polling =>
          exact does_withContext (does_processCanRx_idle configured contract fun _ => by
            simp [Mine, processor, polling])
      · exact skip
  case mainFunction.mainBusOff =>
      show Does cfg chip view _ _ _ (mainFunctionBusOff cfg) _
      unfold mainFunctionBusOff
      split
      · exact does_withContext (does_idle_apart (does_busoffProcess contract))
      · exact skip
  all_goals exact skip

end Entries

end AnchorNode.CanDrv
