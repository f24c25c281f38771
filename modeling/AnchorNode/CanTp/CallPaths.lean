import AnchorNode.CanTp.StatePaths

/-! Every call of the module follows the channel relation, with the lapses it can commit. -/

namespace AnchorNode.CanTp

open AnchorNode.Lib

section Lapses
variable (b : Build) (cfg : Config b) (env : Env)

def LoopLapse (s : State) : List Nat → Lapse → Prop
  | [], _ => False
  | c :: cs, l => StateLapse b cfg env s c l ∨ LoopLapse (executeState b cfg env s c) cs l

def ScheduledLapse (s : State) (l : Lapse) : Option (Nat × BurstQ) → Prop
  | some (c, burstQ) => StateLapse b cfg env { s with burstQ } c l
  | none => LoopLapse b cfg env s (List.range cfg.numberOfChannels) l

def MainLapse (s : State) (l : Lapse) : Prop :=
  s.mainState = true ∧
    ScheduledLapse b cfg env s l (if b.txBurstMode then getFromQ b s.burstQ else none)

def QueuedLapse (s : State) (l : Lapse) : Option BurstQ → Prop
  | some burstQ => MainLapse b cfg env { s with burstQ } l
  | none => False

def BurstLapse (c : Nat) (s : State) (l : Lapse) : Prop :=
  burstReady b cfg c s = true ∧ b.schMSupport = false ∧
    QueuedLapse b cfg env s l (putInQ b s.burstQ c)

/-- The length check does what its name says, and lengths are at least 32 bits wide. -/
def SoundLengthCheck : Prop :=
  32 ≤ b.lengthBits ∧ ∀ length dl, b.dlcCheck length dl = .ok ↔ dl ≤ length

/-- The lapses of `CanTp_Prv_LengthError`. -/
def LengthErrorLapse (s : State) (ctx : RxContext) : Lapse → Prop
  | .foreignConfirmation =>
    ctx.frameType = .flowControl ∧ s.subState ctx.channelId = .txWaitForFlowControlFrame ∧
      ctx.sduId ≠ (s.channel ctx.channelId).activeSduId
  | .droppedTransmission =>
    ctx.frameType ≠ .flowControl ∧ s.subState ctx.channelId = .txWaitForFlowControlFrame
  | .foreignIndication =>
    ctx.frameType ≠ .flowControl ∧ s.subState ctx.channelId = .rxWaitForConsecutiveFrame ∧
      ctx.sduId ≠ (s.channel ctx.channelId).activeSduId
  | _ => False

/-- The lapses of `CanTp_Prv_ProcessFrame`. -/
def ProcessLapse (s : State) (ctx : RxContext) (data : Mem) (sduLength : Nat) : Lapse → Prop
  | .foreignConfirmation =>
    ctx.frameType = .flowControl ∧ s.subState ctx.channelId = .txWaitForFlowControlFrame ∧
      ctx.sduId ≠ (s.channel ctx.channelId).activeSduId ∧
      ((b.strictBsCrTimeoutCheck = true ∧
          elapsedSince b s.ticks (s.channel ctx.channelId).initialTicks >
            (cfg.timeOut (cfg.txSdu (s.channel ctx.channelId).activeSduId).timeOutId).bsBrTicks) ∨
        (ctx.flowStatus ≠ FlowStatus.wait.code ∧ ctx.flowStatus ≠ FlowStatus.cts.code))
  | .replacedPending =>
    (ctx.frameType = .single ∨ ctx.frameType = .first) ∧
      (fdCallOut b env ctx data sduLength s).1 = .ok ∧
      s.subState ctx.channelId = .rxWaitForFcTransmitConfirmation ∧
      (s.channel ctx.channelId).activeSduId = ctx.sduId ∧
      s.txConfirmationChannel (cfg.rxSdu ctx.sduId).txConfirmationId = ctx.channelId
  | .missizedFrame => ctx.frameType = .first ∧ ¬ (SoundLengthCheck b ∧ sduLength < invalidDl)
  | _ => False

def FrameLapse (s : State) (data : Mem) (sduLength : Nat) (l : Lapse) :
    Except ErrorId RxContext → Prop
  | .error _ => False
  | .ok ctx =>
    let checked := rxSduLengthCheck b s ctx data sduLength
    if checked.2 ≠ .ok then LengthErrorLapse s checked.1 l
    else
      ProcessLapse b cfg env s checked.1 data sduLength l ∨
        BurstLapse b cfg env checked.1.channelId
          (processFrame b cfg env checked.1 data sduLength s) l

def IndicationLapse (s : State) (p : Nat) (info : PduInfo) (l : Lapse) : Prop :=
  FrameLapse b cfg env s (info.sduDataPtr.getD fun _ => 0) info.sduLength l
    (getRxContext b cfg s p info)

def Misdirected (s : State) (p : Nat) : Prop :=
  let c := s.txConfirmationChannel p
  c < cfg.numberOfChannels ∧
    ((s.subState c = .txWaitForTransmitConfirmation ∧
        p ≠ (cfg.txSdu (s.channel c).activeSduId).txConfirmationId) ∨
      (s.subState c = .rxWaitForFcTransmitConfirmation ∧
        p ≠ (cfg.rxSdu (s.channel c).activeSduId).txConfirmationId))

/-- The lapses a call can commit in state `s`. -/
def StepLapse (s : State) : Op → Lapse → Prop
  | .cancelTransmit x, .abandonedFrame =>
    s.subState (cfg.txSdu x).channelId = .txWaitForTransmitConfirmation ∧
      x = (s.channel (cfg.txSdu x).channelId).activeSduId ∧
      getBit (cfg.txSdu x).bitFields tcDisabled = false ∧
      s.txConfirmationChannel (cfg.txSdu x).txConfirmationId ≠ b.invalidChannel
  | .cancelReceive r, .abandonedFrame =>
    s.subState (cfg.rxSdu r).channelId = .rxWaitForFcTransmitConfirmation ∧
      r = (s.channel (cfg.rxSdu r).channelId).activeSduId ∧
      s.txConfirmationChannel (cfg.rxSdu r).txConfirmationId ≠ b.invalidChannel
  | .mainFunction, l => MainLapse b cfg env s l
  | .txConfirmation p, l =>
    s.mainState = true ∧ p < cfg.numberOfTxPdus ∧
      (l = .confirmation ∨ (l = .staleConfirmation ∧ Misdirected b cfg s p) ∨
        BurstLapse b cfg env (s.txConfirmationChannel p) (confirmFrame b cfg p s) l)
  | .rxIndication p (some info), l =>
    s.mainState = true ∧ p < cfg.numberOfRxPdus ∧ IndicationLapse b cfg env s p info l
  | _, _ => False

def Scheduled (l : Lapse) : Prop :=
  l = .blockedTimeout ∨ l = .doubleIndication ∨ l = .abandonedFrame

variable {b cfg env} in
theorem LoopLapse.scheduled {cs : List Nat} {s : State} {l : Lapse}
    (lapsed : LoopLapse b cfg env s cs l) : Scheduled l := by
  induction cs generalizing s with
  | nil => cases lapsed
  | cons c cs ih =>
      rcases lapsed with here | later
      · cases l <;> simp_all [StateLapse, Scheduled]
      · exact ih later

variable {b cfg env} in
theorem MainLapse.scheduled {s : State} {l : Lapse} (lapsed : MainLapse b cfg env s l) :
    Scheduled l := by
  obtain ⟨-, lapsed⟩ := lapsed
  revert lapsed
  cases (if b.txBurstMode then getFromQ b s.burstQ else none) with
  | none => exact LoopLapse.scheduled
  | some taken =>
      intro lapsed
      cases l <;> simp_all [ScheduledLapse, StateLapse, Scheduled]

variable {b cfg env} in
theorem BurstLapse.scheduled {c : Nat} {s : State} {l : Lapse}
    (lapsed : BurstLapse b cfg env c s l) : Scheduled l := by
  obtain ⟨-, -, lapsed⟩ := lapsed
  revert lapsed
  cases putInQ b s.burstQ c with
  | none => exact fun lapsed => absurd lapsed id
  | some burstQ => exact MainLapse.scheduled

instance LoopLapse.decidable (l : Lapse) :
    (s : State) → (cs : List Nat) → Decidable (LoopLapse b cfg env s cs l)
  | _, [] => inferInstanceAs (Decidable False)
  | s, c :: cs =>
    have := LoopLapse.decidable l (executeState b cfg env s c) cs
    inferInstanceAs (Decidable (StateLapse b cfg env s c l ∨ _))

instance (s : State) (l : Lapse) :
    (taken : Option (Nat × BurstQ)) → Decidable (ScheduledLapse b cfg env s l taken)
  | some (c, burstQ) => inferInstanceAs (Decidable (StateLapse b cfg env { s with burstQ } c l))
  | none => inferInstanceAs (Decidable (LoopLapse b cfg env s _ l))

instance (s : State) (l : Lapse) : Decidable (MainLapse b cfg env s l) :=
  inferInstanceAs (Decidable (_ ∧ _))

instance (s : State) (l : Lapse) :
    (queued : Option BurstQ) → Decidable (QueuedLapse b cfg env s l queued)
  | some burstQ => inferInstanceAs (Decidable (MainLapse b cfg env { s with burstQ } l))
  | none => inferInstanceAs (Decidable False)

instance (c : Nat) (s : State) (l : Lapse) : Decidable (BurstLapse b cfg env c s l) :=
  inferInstanceAs (Decidable (_ ∧ _))

instance (s : State) (ctx : RxContext) : (l : Lapse) → Decidable (LengthErrorLapse s ctx l)
  | .foreignConfirmation => inferInstanceAs (Decidable (_ ∧ _))
  | .droppedTransmission => inferInstanceAs (Decidable (_ ∧ _))
  | .foreignIndication => inferInstanceAs (Decidable (_ ∧ _))
  | .blockedTimeout | .doubleIndication | .replacedPending | .staleConfirmation
  | .abandonedFrame | .missizedFrame | .confirmation => inferInstanceAs (Decidable False)

instance (s : State) (p : Nat) : Decidable (Misdirected b cfg s p) :=
  inferInstanceAs (Decidable (_ ∧ _))

variable [Decidable (SoundLengthCheck b)]

instance (s : State) (ctx : RxContext) (data : Mem) (sduLength : Nat) :
    (l : Lapse) → Decidable (ProcessLapse b cfg env s ctx data sduLength l)
  | .foreignConfirmation => inferInstanceAs (Decidable (_ ∧ _))
  | .replacedPending => inferInstanceAs (Decidable (_ ∧ _))
  | .missizedFrame => inferInstanceAs (Decidable (_ ∧ ¬ (SoundLengthCheck b ∧ _)))
  | .blockedTimeout | .droppedTransmission | .foreignIndication | .doubleIndication
  | .staleConfirmation | .abandonedFrame | .confirmation => inferInstanceAs (Decidable False)

instance (s : State) (data : Mem) (sduLength : Nat) (l : Lapse) :
    (context : Except ErrorId RxContext) →
      Decidable (FrameLapse b cfg env s data sduLength l context)
  | .error _ => inferInstanceAs (Decidable False)
  | .ok _ => inferInstanceAs (Decidable (ite _ _ _))

instance (s : State) : (op : Op) → (l : Lapse) → Decidable (StepLapse b cfg env s op l)
  | .mainFunction, l => inferInstanceAs (Decidable (MainLapse b cfg env s l))
  | .txConfirmation _, l => inferInstanceAs (Decidable (_ ∧ _ ∧ (l = _ ∨ (l = _ ∧ _) ∨ _)))
  | .rxIndication p (some info), l =>
    inferInstanceAs (Decidable (_ ∧ _ ∧ FrameLapse b cfg env s
      (info.sduDataPtr.getD fun _ => 0) info.sduLength l (getRxContext b cfg s p info)))
  | .rxIndication _ none, l => by cases l <;> exact inferInstanceAs (Decidable False)
  | .cancelTransmit _, l => by
    cases l
    case abandonedFrame => exact inferInstanceAs (Decidable (_ ∧ _))
    all_goals exact inferInstanceAs (Decidable False)
  | .cancelReceive _, l => by
    cases l
    case abandonedFrame => exact inferInstanceAs (Decidable (_ ∧ _))
    all_goals exact inferInstanceAs (Decidable False)
  | .transmit _ _, l => by cases l <;> exact inferInstanceAs (Decidable False)
  | .changeParameter _ _ _, l => by cases l <;> exact inferInstanceAs (Decidable False)
  | .tick, l => by cases l <;> exact inferInstanceAs (Decidable False)
  | .init, l => by cases l <;> exact inferInstanceAs (Decidable False)
  | .shutdown, l => by cases l <;> exact inferInstanceAs (Decidable False)

end Lapses

section Scheduled
variable {b : Build} {cfg : Config b} {env : Env} {lapse : Lapse → Prop}

theorem Path.queue {s s' : State} (path : Path b cfg lapse s s')
    (ok : QueueOk b cfg s.burstQ) : QueueOk b cfg s'.burstQ := by
  refine Path.invariant (fun s => QueueOk b cfg s.burstQ) ?_ path ok
  intro s s' move kept
  cases move with
  | silent silent => exact silent.queue kept
  | channel _ _ becomes => exact becomes.queue ▸ kept

theorem executeAll_path (cs : List Nat) (bound : ∀ c ∈ cs, c < cfg.numberOfChannels) {s : State}
    (lapses : ∀ l, LoopLapse b cfg env s cs l → lapse l) :
    Path b cfg lapse s (cs.foldl (executeState b cfg env) s) := by
  induction cs generalizing s with
  | nil => exact Path.refl s
  | cons c cs ih =>
      have first : Path b cfg lapse s (executeState b cfg env s c) :=
        executeState_path (bound c (by simp)) fun l lapsed => lapses l (Or.inl lapsed)
      exact first.trans (ih (fun d member => bound d (by simp [member]))
        fun l lapsed => lapses l (Or.inr lapsed))

theorem incrementCounter_silent (s : State) : Silent b cfg s (incrementCounter b s) := by
  unfold incrementCounter
  split
  · exact ⟨rfl, rfl, rfl, ⟨[], by simp, by simp⟩, Nat.le_succ _, id, rfl⟩
  · exact ⟨rfl, rfl, rfl, ⟨[], by simp, by simp⟩, Nat.le_refl _, id, rfl⟩

theorem mainFunction_path {s : State} (queue : QueueOk b cfg s.burstQ)
    (lapses : ∀ l, MainLapse b cfg env s l → lapse l) :
    Path b cfg lapse s (mainFunction b cfg env s) := by
  unfold mainFunction
  split
  · rename_i ready
    have described : ∀ l, _ → lapse l := fun l lapsed => lapses l ⟨ready, lapsed⟩
    split
    · rename_i c burstQ got
      have some' : getFromQ b s.burstQ = some (c, burstQ) := by
        split at got
        · exact got
        · cases got
      obtain ⟨bound, kept⟩ := getFromQ_ok some' queue
      refine (burstQ_silent s burstQ fun _ => kept).path.trans (executeState_path bound ?_)
      intro l lapsed
      exact described l (by simpa only [got, ScheduledLapse] using lapsed)
    · rename_i empty
      refine Path.trans (executeAll_path _ (by simp) ?_) (incrementCounter_silent _).path
      intro l lapsed
      exact described l (by simpa only [empty, ScheduledLapse] using lapsed)
  · exact (emit_silent s _ rfl).path

theorem burstMainFunction_path {s : State} {c : Nat} (point : TriggerPoint)
    (queue : QueueOk b cfg s.burstQ)
    (lapses : ∀ l, BurstLapse b cfg env c s l → lapse l) :
    Path b cfg lapse s (burstMainFunction b cfg env c point s) := by
  unfold burstMainFunction
  split
  · rename_i ready
    have exists' : c < cfg.numberOfChannels := by
      simp only [burstReady, Bool.and_eq_true, decide_eq_true_eq] at ready
      exact ready.1.1.2
    split
    · exact Path.refl s
    · rename_i burstQ put
      have kept := putInQ_ok exists' put queue
      refine (burstQ_silent s burstQ fun _ => kept).path.trans ?_
      split
      · exact (emit_silent _ _ rfl).path
      · rename_i direct
        refine mainFunction_path kept ?_
        intro l lapsed
        exact lapses l ⟨ready, by simpa using direct, by simpa only [put, QueuedLapse] using lapsed⟩
  · exact Path.refl s

end Scheduled

section Requests
variable {b : Build} {cfg : Config b} {env : Env} {lapse : Lapse → Prop}

theorem devCheck_path {s : State} {id total : Nat} {api : ApiId} {invalidId : ErrorId}
    {body : State → State}
    (inside : s.mainState = true → id < total → Path b cfg lapse s (body s)) :
    Path b cfg lapse s (devCheck s id total api invalidId body) := by
  unfold devCheck
  split
  · rename_i ready
    split
    · exact (emit_silent s _ rfl).path
    · rename_i valid
      exact inside ready (Nat.lt_of_not_le valid)
  · exact (emit_silent s _ rfl).path

theorem maxTransmitLength_lt (connection : TxSdu) (pciId : Npci) :
    maxTransmitLength b connection pciId < 2 ^ 16 := by
  have txDl := getTxDl_bounds (b := b) connection
  have address := addressSize_le connection.addressFormatId
  have payload := sub8_le (getTxDl b connection) (1 + addressSize connection.addressFormatId)
    (by omega) (by omega)
  simp only [maxTransmitLength, payload]
  split
  · split
    · omega
    · simp only [sub32]
      omega
  · split
    · exact Nat.mod_lt _ (by decide)
    · exact Nat.mod_lt _ (by decide)

theorem transmit_path {s : State} (x : Nat) (info : Option Nat) :
    Path b cfg lapse s (transmit b cfg x info s) := by
  refine devCheck_path fun _ configured => ?_
  have bound := cfg.txSdu_channel x configured
  cases info with
  | none => exact (emit_silent s _ rfl).path
  | some n =>
      simp only
      split
      · exact (emit_silent s _ rfl).path
      · rename_i positive
        split
        · exact (emit_silent s _ rfl).path
        · rename_i short
          split
          · rename_i idle
            have isIdle : s.subState (cfg.txSdu x).channelId = .idle := by
              revert idle
              cases s.subState (cfg.txSdu x).channelId <;> simp [SubState.state]
            have small : n < 2 ^ 16 :=
              Nat.lt_of_le_of_lt (Nat.le_of_not_lt short) (maxTransmitLength_lt _ _)
            let ch := { s.channel (cfg.txSdu x).channelId with
              activeSduId := x
              pciId := txPciInit b cfg x n
              sduLength := n
              initialTicks := (getElapsedValue b s 0).1
              txBufferStatus := .notAsked
              stMinTicks := b.invalidStMinTicks }
            have accepted : ChannelStep b cfg lapse s.ticks _ (s.view _) _ ⟨_, ch, _⟩ :=
              .accept (x := x) (n := n) isIdle configured rfl (Nat.pos_of_ne_zero positive)
                small rfl rfl rfl rfl
            refine step_path [] [] bound accepted ?_ no_noise no_noise
            constructor <;> simp [State.view, ch]
          · exact Path.refl s

theorem cancelTransmit_path {s : State} (x : Nat)
    (lapses : ∀ l, StepLapse b cfg env s (.cancelTransmit x) l → lapse l) :
    Path b cfg lapse s (cancelTransmit b cfg x s) := by
  refine devCheck_path fun _ configured => ?_
  have bound := cfg.txSdu_channel x configured
  simp only
  split
  · exact (emit_silent s _ rfl).path
  · rename_i allowed
    simp only [not_or, not_not, Bool.not_eq_true] at allowed
    obtain ⟨cancellable, transmission, active⟩ := allowed
    refine step_path [] [] bound (.txEnd (s.channel (cfg.txSdu x).channelId) transmission ?_) ?_
      no_noise no_noise
    · intro waiting recorded
      refine lapses .abandonedFrame ⟨waiting, active, cancellable, ?_⟩
      rw [active]
      exact recorded
    · by_cases waiting : s.subState (cfg.txSdu x).channelId = .txWaitForTransmitConfirmation
      · constructor <;> simp [State.view, pduRConfirmation, releasedTable, waiting, ← active]
      · constructor <;> simp [State.view, pduRConfirmation, releasedTable, waiting, ← active]

theorem cancelReceive_path {s : State} (r : Nat)
    (lapses : ∀ l, StepLapse b cfg env s (.cancelReceive r) l → lapse l) :
    Path b cfg lapse s (cancelReceive b cfg r s) := by
  refine devCheck_path fun _ configured => ?_
  have bound := cfg.rxSdu_channel r configured
  simp only
  split
  · exact (emit_silent s _ rfl).path
  · rename_i allowed
    simp only [not_or, not_not] at allowed
    obtain ⟨reception, active⟩ := allowed
    split
    · refine step_path [] [] bound (.rxEnd (s.channel (cfg.rxSdu r).channelId) reception ?_) ?_
        no_noise no_noise
      · intro waiting recorded
        refine lapses .abandonedFrame ⟨waiting, active, ?_⟩
        rw [active]
        exact recorded
      · by_cases waiting : s.subState (cfg.rxSdu r).channelId = .rxWaitForFcTransmitConfirmation
        · constructor <;> simp [State.view, pduRConfirmation, releasedTable, waiting, ← active]
        · constructor <;> simp [State.view, pduRConfirmation, releasedTable, waiting, ← active]
    · exact Path.refl s

theorem changeParameter_path {s : State} (r : Nat) (parameter : TpParameter) (value : Nat) :
    Path b cfg lapse s (changeParameter b cfg r parameter value s) := by
  refine devCheck_path fun _ _ => ?_
  split
  · exact (emit_silent s _ rfl).path
  · split
    · exact (emit_silent s _ rfl).path
    · exact Silent.path ⟨rfl, rfl, rfl, ⟨[], by simp, by simp⟩, Nat.le_refl _, id, rfl⟩

end Requests

section Confirmations
variable {b : Build} {cfg : Config b} {env : Env} {lapse : Lapse → Prop}

@[simp] theorem confirmData_active (ch : Channel) (value : Nat) :
    (confirmData b cfg ch value).activeSduId = ch.activeSduId := by
  simp only [confirmData]
  split <;> rfl

theorem confirmData_length (ch : Channel) (value : Nat) :
    (confirmData b cfg ch value).sduLength = ch.sduLength := by
  simp only [confirmData]
  split <;> rfl

theorem dataTxConfirmation_path {s : State} {p : Nat} (configured : p < cfg.numberOfTxPdus)
    (bound : s.txConfirmationChannel p < cfg.numberOfChannels)
    (waiting : s.subState (s.txConfirmationChannel p) = .txWaitForTransmitConfirmation)
    (own : p ≠ (cfg.txSdu (s.channel (s.txConfirmationChannel p)).activeSduId).txConfirmationId →
      lapse .staleConfirmation) (taken : lapse .confirmation) :
    Path b cfg lapse s ((dataTxConfirmation b cfg (s.txConfirmationChannel p) s).setConfirmation
      p b.invalidChannel) := by
  generalize channel : s.txConfirmationChannel p = c at bound waiting own ⊢
  generalize now : (getElapsedValue b s 0).1 = value
  have active : (confirmData b cfg (s.channel c) value).activeSduId =
      (s.channel c).activeSduId := confirmData_active _ _
  simp only [dataTxConfirmation, now]
  obtain rfl : stamp b s.ticks = value := now
  by_cases complete : (confirmData b cfg (s.channel c) (stamp b s.ticks)).sduLengthRemaining = 0
  · rw [if_pos complete]
    refine step_path [] [] bound (.txDone waiting ⟨configured, channel⟩ own complete taken) ?_
      no_noise no_noise
    constructor <;> simp [State.view, pduRConfirmation]
  · rw [if_neg complete]
    by_cases block :
        (confirmData b cfg (s.channel c) (stamp b s.ticks)).blockCfsRemaining ≠ 0
    · rw [if_pos block]
      refine step_path [] [] bound
        (.txNext waiting ⟨configured, channel⟩ own complete block taken) ?_ no_noise no_noise
      constructor <;> simp [State.view]
    · rw [if_neg block]
      simp only [prepareFcRecieve, State.setChannel_channel, Function.update_self, active]
      by_cases disabled : b.fcDisableSupport ∧
          getBit (cfg.txSdu (s.channel c).activeSduId).bitFields fcDisabled
      · rw [if_pos disabled]
        refine step_path [] [] bound (.txSkipFlow (v := s.view c)
          { confirmData b cfg (s.channel c) (stamp b s.ticks) with
            blockCfsRemaining := getTxBlockCfs b cfg
              (confirmData b cfg (s.channel c) (stamp b s.ticks))
            stMinTicks := b.defaultStMinTicks
            pciId := .fc } waiting ⟨configured, channel⟩ own disabled active
          (confirmData_length _ _) taken) ?_ no_noise no_noise
        constructor <;> simp [State.view]
      · rw [if_neg disabled]
        refine step_path [] [] bound
          (.txAwaitFlow waiting ⟨configured, channel⟩ own complete (not_not.mp block) taken) ?_
            no_noise no_noise
        constructor <;> simp [State.view]

theorem fcTxConfirmation_path {s : State} {p : Nat} (configured : p < cfg.numberOfTxPdus)
    (bound : s.txConfirmationChannel p < cfg.numberOfChannels)
    (waiting : s.subState (s.txConfirmationChannel p) = .rxWaitForFcTransmitConfirmation)
    (own : p ≠ (cfg.rxSdu (s.channel (s.txConfirmationChannel p)).activeSduId).txConfirmationId →
      lapse .staleConfirmation) (taken : lapse .confirmation) :
    Path b cfg lapse s ((fcTxConfirmation b cfg (s.txConfirmationChannel p)
      (s.setChannel (s.txConfirmationChannel p)
        { s.channel (s.txConfirmationChannel p) with
          initialTicks := (getElapsedValue b s 0).1 })).setConfirmation p b.invalidChannel) := by
  generalize channel : s.txConfirmationChannel p = c at bound waiting own ⊢
  simp only [fcTxConfirmation, State.setChannel_channel, Function.update_self, getElapsedValue_eq]
  cases flow : (s.channel c).flowStatus with
  | cts =>
      refine step_path [] [] bound
        (.fcConfirmedClear waiting ⟨configured, channel⟩ own flow taken) ?_ no_noise no_noise
      constructor <;> simp [State.view, flow]
  | wait =>
      refine step_path [] [] bound
        (.fcConfirmedWait waiting ⟨configured, channel⟩ own flow taken) ?_ no_noise no_noise
      constructor <;> simp [State.view, flow]
  | overflow =>
      refine step_path [] [] bound
        (.fcConfirmedOverflow waiting ⟨configured, channel⟩ own flow taken) ?_ no_noise no_noise
      constructor <;> simp [State.view, pduRConfirmation, flow]

theorem confirmFrame_path {s : State} {p : Nat} (configured : p < cfg.numberOfTxPdus)
    (stale : Misdirected b cfg s p → lapse .staleConfirmation) (taken : lapse .confirmation) :
    Path b cfg lapse s (confirmFrame b cfg p s) := by
  simp only [confirmFrame]
  split
  · rename_i bound
    split
    · rename_i waiting
      exact fcTxConfirmation_path configured bound waiting
        (fun other => stale ⟨bound, Or.inr ⟨waiting, other⟩⟩) taken
    · rename_i waiting
      exact dataTxConfirmation_path configured bound waiting
        (fun other => stale ⟨bound, Or.inl ⟨waiting, other⟩⟩) taken
    · exact Path.refl s
  · exact Path.refl s

theorem txConfirmation_path {s : State} (p : Nat) (queue : QueueOk b cfg s.burstQ)
    (lapses : ∀ l, StepLapse b cfg env s (.txConfirmation p) l → lapse l) :
    Path b cfg lapse s (txConfirmation b cfg env p s) := by
  refine devCheck_path fun ready configured => ?_
  have confirmed : Path b cfg lapse s (confirmFrame b cfg p s) :=
    confirmFrame_path configured
      (fun stale => lapses .staleConfirmation ⟨ready, configured, Or.inr (Or.inl ⟨rfl, stale⟩)⟩)
      (lapses .confirmation ⟨ready, configured, Or.inl rfl⟩)
  refine confirmed.trans (burstMainFunction_path _ (confirmed.queue queue) ?_)
  intro l lapsed
  exact lapses l ⟨ready, configured, Or.inr (Or.inr lapsed)⟩

end Confirmations

end AnchorNode.CanTp
