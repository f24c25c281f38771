import AnchorNode.CanTp.Sending

/-! Confirmations and clearances: how a transmission goes on, and how it starts. -/

namespace AnchorNode.CanTp

open AnchorNode.Lib

variable {b : Build} {cfg : Config b} {env : Env} {x n : Nat}

section Confirmations
variable {fit : Sendable b cfg x n} {payload : List UInt8} {base : List Event}
  {bs e i m : Nat} {s s' : State}

theorem payloadLength_piece {ch : Channel} (active : ch.activeSduId = x)
    (layout : ch.pciId = pciOf b cfg x n i)
    (remaining : ch.sduLengthRemaining = n - fit.cut.start i) :
    payloadLength b cfg ch = fit.cut.start (i + 1) - fit.cut.start i := by
  have txDl := getTxDl_bounds (b := b) (cfg.txSdu x)
  have room := roomLength_bounds b (cfg.txSdu x)
  have one : cfPciSize = 1 := rfl
  by_cases later : 0 < i
  · have most : sub8 (getTxDl b (cfg.txSdu x))
        (addressSize (cfg.txSdu x).addressFormatId + cfPciSize) = roomLength b (cfg.txSdu x) := by
      rw [sub8_le _ _ (by omega) (by omega)]
      rfl
    simp only [payloadLength, layout, pciOf_later later, Npci.frameType, active, remaining, most]
    rw [fit.later_length later, cfLength]
    split
    · omega
    · rw [u8_small (by omega)]
      omega
  · obtain rfl := Nat.eq_zero_of_not_pos later
    rw [fit.first_length]
    rw [Cut.start_zero, Nat.sub_zero] at remaining
    rcases fit.frameType with single | first
    · have whole := contentLength_single fit single
      have inside := contentLength_le fit 0
      simp only [payloadLength, layout, pciOf_zero, single, remaining]
      rw [headLength_single single, u8_small (by omega)]
    · have head := fit.headLength_first first
      simp only [payloadLength, layout, pciOf_zero, first, active]
      rw [sub8_le _ _ (by omega) (by omega)]
      omega

theorem confirmData_kept (cfg : Config b) (ch : Channel) (value : Nat) :
    (confirmData b cfg ch value).activeSduId = ch.activeSduId ∧
      (confirmData b cfg ch value).stMinTicks = ch.stMinTicks ∧
      (confirmData b cfg ch value).bs = ch.bs ∧
      (confirmData b cfg ch value).initialTicks = value := by
  by_cases consecutive : ch.pciId = .cf
  · simp only [confirmData, if_pos consecutive]
    exact ⟨trivial, trivial, trivial, trivial⟩
  · simp only [confirmData, if_neg consecutive]
    exact ⟨trivial, trivial, trivial, trivial⟩

theorem confirmData_piece {ch : Channel} (underway : Underway fit bs i ch)
    (layout : ch.pciId = pciOf b cfg x n i) (value : Nat) :
    Underway fit bs (i + 1) (confirmData b cfg ch value) := by
  have small := fit.small
  have next := fit.cut.start_le_total (i + 1)
  have further := fit.cut.start_le_succ i
  have whole : fit.cut.total = n := rfl
  have length := payloadLength_piece underway.active layout underway.remaining
  have remaining := underway.remaining
  have account := confirmData_account cfg ch value (by
    by_cases later : 0 < i
    · exact Or.inl (layout.trans (pciOf_later later))
    · obtain rfl := Nat.eq_zero_of_not_pos later
      rw [Cut.start_zero, Nat.sub_zero] at remaining
      rw [layout, pciOf_zero, underway.active, remaining]
      exact Or.inr rfl) (by omega)
  obtain ⟨active, stMinTicks, block, -⟩ := confirmData_kept cfg ch value
  refine ⟨active.trans underway.active, by omega, ?_, underway.timer⟩
  rw [stMinTicks, block]
  exact underway.lock

theorem confirmData_counts {ch : Channel} (layout : ch.pciId = pciOf b cfg x n i)
    (cleared : i < e) (within : e ≤ fit.cut.pieces) (first : i = 0 → e = 1)
    (sn : ch.sn = if i = 0 then 1 else i % 16)
    (block : ch.blockCfsRemaining = if i = 0 then 0 else e - i) (value : Nat) :
    (confirmData b cfg ch value).sn = (i + 1) % 16 ∧
      (confirmData b cfg ch value).blockCfsRemaining = e - (i + 1) := by
  have small := fit.small
  have pieces := fit.cut.pieces_le_total
  have whole : fit.cut.total = n := rfl
  have wide : 2 ^ 16 ≤ 2 ^ b.lengthBits := Nat.pow_le_pow_right (by decide) b.lengthBits_le
  by_cases later : 0 < i
  · rw [if_neg (Nat.ne_of_gt later)] at sn block
    rw [pciOf_later later] at layout
    simp only [confirmData, if_pos layout]
    rw [sn, block, subLength_le (by omega) (by omega)]
    omega
  · obtain rfl := Nat.eq_zero_of_not_pos later
    have start : ch.pciId ≠ .cf := by
      rw [layout, pciOf_zero]
      rintro consecutive
      rcases fit.frameType with type | type <;> simp [consecutive, Npci.frameType] at type
    simp only [confirmData, if_neg start]
    rw [sn, block, first rfl]
    exact ⟨rfl, rfl⟩

theorem SenderAt.released (at' : SenderAt fit payload base bs e i m s)
    (table : s'.txConfirmationChannel = Function.update s.txConfirmationChannel
      (cfg.txSdu x).txConfirmationId b.invalidChannel)
    (mainState : s'.mainState = s.mainState) {i' m' : Nat}
    (phase : SendPhase fit bs e i' m' (s'.subState (cfg.txSdu x).channelId) b.invalidChannel
      (s'.channel (cfg.txSdu x).channelId))
    (told : ∃ events, s'.log = base ++ events ∧ SenderLog fit payload i' m' events) :
    SenderAt fit payload base bs e i' m' s' := by
  refine ⟨mainState.trans at'.running, ?_, told⟩
  rw [table, Function.update_self]
  exact phase

theorem SenderAt.confirmed (at' : SenderAt fit payload base bs e i m s)
    (bound : (cfg.txSdu x).channelId < cfg.numberOfChannels)
    (waits : ¬ (b.fcDisableSupport = true ∧ getBit (cfg.txSdu x).bitFields fcDisabled = true)) :
    SenderAt fit payload base bs e m m
      (confirmFrame b cfg (cfg.txSdu x).txConfirmationId s) := by
  have fits := cfg.channels_fit
  have invalid : ¬ b.invalidChannel < cfg.numberOfChannels := Nat.not_lt.mpr fits
  have phase := at'.phase
  generalize sub : s.subState (cfg.txSdu x).channelId = st at phase
  generalize entry : s.txConfirmationChannel (cfg.txSdu x).txConfirmationId = v at phase
  generalize record : s.channel (cfg.txSdu x).channelId = ch at phase
  have nothing (none : v = b.invalidChannel) :
      confirmFrame b cfg (cfg.txSdu x).txConfirmationId s = s := by
    rw [confirmFrame, entry, none]
    exact if_neg invalid
  cases phase with
  | accepted => rwa [nothing rfl]
  | due => rwa [nothing rfl]
  | awaiting => rwa [nothing rfl]
  | done => rwa [nothing rfl]
  | handedOver cleared within first underway layout sn block status =>
      obtain ⟨events, log, told⟩ := at'.told
      have whole : fit.cut.total = n := rfl
      have through := fit.cut.start_lt_iff (i + 1)
      have next := confirmData_piece underway layout (getElapsedValue b s 0).1
      obtain ⟨sn', block'⟩ := confirmData_counts layout cleared within first sn block
        (getElapsedValue b s 0).1
      have remaining := next.remaining
      have called : confirmFrame b cfg (cfg.txSdu x).txConfirmationId s =
          (dataTxConfirmation b cfg (cfg.txSdu x).channelId s).setConfirmation
            (cfg.txSdu x).txConfirmationId b.invalidChannel := by
        simp only [confirmFrame, entry, if_pos bound, sub]
      rw [called, dataTxConfirmation, record]
      generalize confirmData b cfg ch (getElapsedValue b s 0).1 = ch' at *
      by_cases last : i + 1 = fit.cut.pieces
      · -- the last piece: the upper layer is told
        have none : ch'.sduLengthRemaining = 0 := by omega
        simp only [none, if_true, next.active]
        have ended := told.finished (by omega) x (cfg.txSdu x).pduRPduHandleId
        rw [last] at ended ⊢
        refine at'.released ?_ ?_ ?_ ⟨_, ?_, ended⟩
        · rfl
        · rfl
        · simp only [pduRConfirmation, State.setConfirmation_subState, State.emit_subState,
            State.setSub_subState, Function.update_self]
          exact .done (by omega)
        · simp [pduRConfirmation, log]
      · have more : ch'.sduLengthRemaining ≠ 0 := by omega
        have told' := told.confirmed (j := i + 1) (by omega) (by omega)
        simp only [more, if_false]
        by_cases stop : i + 1 = e
        · -- the block is through: the next clearance is due
          have none : ch'.blockCfsRemaining = 0 := by omega
          simp only [none, ne_eq, not_true_eq_false, if_false, prepareFcRecieve,
            State.setChannel_channel, Function.update_self, next.active, if_neg waits]
          refine at'.released ?_ ?_ ?_ ⟨_, log, told'⟩
          · rfl
          · rfl
          · simp only [State.setConfirmation_subState, State.setSub_subState,
              Function.update_self, State.setConfirmation_channel, State.setSub_channel,
              State.setChannel_channel]
            exact .awaiting (Nat.succ_pos i) stop (by omega)
              ⟨rfl, next.remaining, next.lock, next.timer⟩ sn'
        · have open' : ch'.blockCfsRemaining ≠ 0 := by omega
          simp only [open', ne_eq, not_false_eq_true, if_true]
          refine at'.released ?_ ?_ ?_ ⟨_, log, told'⟩
          · rfl
          · rfl
          · simp only [State.setConfirmation_subState, State.setSub_subState,
              Function.update_self, State.setConfirmation_channel, State.setSub_channel,
              State.setChannel_channel]
            exact .due (Nat.succ_pos i) (by omega) within next sn' block'

theorem dataTxConfirmation_timer (cfg : Config b) (c : Nat) (s : State) :
    ((dataTxConfirmation b cfg c s).channel c).initialTicks = (getElapsedValue b s 0).1 ∧
      (dataTxConfirmation b cfg c s).ticks = s.ticks := by
  have timer := (confirmData_kept cfg (s.channel c) (getElapsedValue b s 0).1).2.2.2
  simp only [dataTxConfirmation]
  generalize confirmData b cfg (s.channel c) (getElapsedValue b s 0).1 = ch at timer
  split
  · simp [pduRConfirmation, timer]
  · split
    · simp [timer]
    · simp only [prepareFcRecieve]
      split
      · simp [timer]
      · simp [timer]

theorem SenderAt.burst (at' : SenderAt fit payload base bs e i m s)
    (provides : Provides cfg env x n payload base) (format : (cfg.txSdu x).addressFormatId ≠ 4)
    (drained : Drained b s.burstQ)
    (timely : s.subState (cfg.txSdu x).channelId = .txSendConsecutiveFrame →
      ¬ Expired cfg s (cfg.txSdu x).channelId) (point : TriggerPoint) :
    ∃ m', m ≤ m' ∧ SenderAt fit payload base bs e i m'
      (burstMainFunction b cfg env (cfg.txSdu x).channelId point s) := by
  have outcome : BurstOutcome b cfg env (cfg.txSdu x).channelId s _ :=
    burstMainFunction_outcome drained at'.running (cfg.txSdu x).channelId point
  cases outcome with
  | none same =>
      refine ⟨m, Nat.le_refl m, ?_⟩
      rw [same]
      exact at'
  | scheduled point' q support tail told =>
      refine ⟨m, Nat.le_refl m, at'.apart ?_⟩
      rw [told]
      exact apart_of_same cfg _ _ rfl rfl rfl rfl rfl rfl (by simp [Event.channel?])
  | turn q ready direct room drained taken =>
      have queued : Apart cfg (cfg.txSdu x).channelId (cfg.txSdu x).txConfirmationId s
          { s with burstQ := q } :=
        apart_of_same cfg _ _ rfl rfl rfl rfl rfl (List.append_nil _).symm (by simp)
      obtain ⟨m', further, -, at''⟩ := (at'.apart queued).turn provides format
        (mt (queued.expired rfl).mp (timely (burstReady_spec ready).1))
      exact ⟨m', further, taken ▸ at''⟩

theorem SendPhase.entry {sub : SubState} {v : Nat} {ch : Channel}
    (phase : SendPhase fit bs e i m sub v ch) :
    (v = b.invalidChannel ∧ m = i) ∨
      (v = (cfg.txSdu x).channelId ∧ sub = .txWaitForTransmitConfirmation) := by
  cases phase with
  | handedOver => exact Or.inr ⟨rfl, rfl⟩
  | _ => exact Or.inl ⟨rfl, rfl⟩

theorem SenderAt.timely (at' : SenderAt fit payload base bs e i m s)
    (now : elapsedTicks b s (cfg.txSdu x).channelId = 0)
    (sending : s.subState (cfg.txSdu x).channelId = .txSendConsecutiveFrame) :
    ¬ Expired cfg s (cfg.txSdu x).channelId := by
  have phase := at'.phase
  rw [sending] at phase
  generalize entry : s.txConfirmationChannel (cfg.txSdu x).txConfirmationId = v at phase
  generalize record : s.channel (cfg.txSdu x).channelId = ch at phase
  cases phase with
  | due later cleared within underway =>
      have timer := underway.timer
      simp only [Expired, sending, TimerOver, record, underway.active, now]
      omega

theorem SenderAt.frameConfirmed (at' : SenderAt fit payload base bs e i m s)
    (provides : Provides cfg env x n payload base) (format : (cfg.txSdu x).addressFormatId ≠ 4)
    (bound : (cfg.txSdu x).channelId < cfg.numberOfChannels)
    (configured : (cfg.txSdu x).txConfirmationId < cfg.numberOfTxPdus)
    (waits : ¬ (b.fcDisableSupport = true ∧ getBit (cfg.txSdu x).bitFields fcDisabled = true))
    (drained : Drained b s.burstQ) :
    ∃ m', m ≤ m' ∧ SenderAt fit payload base bs e m m'
      (txConfirmation b cfg env (cfg.txSdu x).txConfirmationId s) := by
  have fits := cfg.channels_fit
  have confirmed := at'.confirmed bound waits
  have called : txConfirmation b cfg env (cfg.txSdu x).txConfirmationId s =
      burstMainFunction b cfg env (s.txConfirmationChannel (cfg.txSdu x).txConfirmationId)
        .txConfirmation (confirmFrame b cfg (cfg.txSdu x).txConfirmationId s) := by
    simp only [txConfirmation, devCheck, if_pos at'.running,
      if_neg (Nat.not_le.mpr configured)]
  rw [called]
  rcases at'.phase.entry with ⟨free, -⟩ | ⟨own, sub⟩
  · -- nothing awaits confirmation, and there is no channel to burst on
    have invalid : ¬ b.invalidChannel < cfg.numberOfChannels := Nat.not_lt.mpr fits
    rw [burstMainFunction, burstReady, free]
    simp only [invalid, decide_false, Bool.and_false, Bool.false_and, Bool.false_eq_true, if_false]
    exact ⟨m, Nat.le_refl m, confirmed⟩
  · have kept : confirmFrame b cfg (cfg.txSdu x).txConfirmationId s =
        (dataTxConfirmation b cfg (cfg.txSdu x).channelId s).setConfirmation
          (cfg.txSdu x).txConfirmationId b.invalidChannel := by
      simp only [confirmFrame, own, if_pos bound, sub]
    obtain ⟨stamp, ticks⟩ := dataTxConfirmation_timer cfg (cfg.txSdu x).channelId s
    have now : elapsedTicks b (confirmFrame b cfg (cfg.txSdu x).txConfirmationId s)
        (cfg.txSdu x).channelId = 0 := by
      rw [kept, elapsedTicks, State.setConfirmation_channel, stamp]
      simp only [getElapsedValue, State.setConfirmation_ticks, ticks]
      exact elapsed_now b s 0
    have queue : (confirmFrame b cfg (cfg.txSdu x).txConfirmationId s).burstQ = s.burstQ :=
      (confirmFrame_kept (cfg.txSdu x).txConfirmationId s).1
    rw [own]
    exact confirmed.burst provides format (by rw [queue]; exact drained)
      (confirmed.timely now) _

end Confirmations

section Clearances
variable {fit : Sendable b cfg x n} {payload : List UInt8} {base : List Event}
  {bs e i m : Nat} {s s' : State}

theorem setTxBlockInfo_piece {ch : Channel} (later : 0 < i) (unfinished : i < fit.cut.pieces)
    (underway : Underway fit bs i ch) {size : UInt8} (announced : size.toNat = bs) (stMin : UInt8) :
    Underway fit bs i (setTxBlockInfo b cfg ch size stMin) ∧
      (setTxBlockInfo b cfg ch size stMin).sn = ch.sn ∧
      (setTxBlockInfo b cfg ch size stMin).initialTicks = ch.initialTicks ∧
      (setTxBlockInfo b cfg ch size stMin).blockCfsRemaining = fit.blockEnd bs i - i := by
  have rest := fit.blockCfs_rest later (Nat.le_of_lt unfinished)
  have room := roomLength_bounds b (cfg.txSdu x)
  have most : sub8 (getTxDl b (cfg.txSdu x))
      (cfPciSize + addressSize (cfg.txSdu x).addressFormatId) = roomLength b (cfg.txSdu x) := by
    have txDl := getTxDl_bounds (b := b) (cfg.txSdu x)
    rw [Nat.add_comm cfPciSize, sub8_le _ _ (by omega) (by simp only [cfPciSize]; omega)]
    rfl
  have left (ch' : Channel) (active : ch'.activeSduId = ch.activeSduId)
      (remaining : ch'.sduLengthRemaining = ch.sduLengthRemaining) :
      getTxBlockCfs b cfg ch' = fit.cut.pieces - i := by
    simp only [getTxBlockCfs, active, remaining, underway.active, underway.remaining, most, rest]
  have count (ch' : Channel) (size' : ch'.bs = bs) (active : ch'.activeSduId = ch.activeSduId)
      (remaining : ch'.sduLengthRemaining = ch.sduLengthRemaining) :
      (if ch'.bs = 0 ∨ ch'.bs > getTxBlockCfs b cfg ch' then
        { ch' with blockCfsRemaining := getTxBlockCfs b cfg ch' }
      else { ch' with blockCfsRemaining := ch'.bs }) =
        { ch' with blockCfsRemaining := fit.blockEnd bs i - i } := by
    rw [left ch' active remaining, size']
    unfold Sendable.blockEnd
    split
    · congr 1
      split <;> omega
    · congr 1
      split <;> omega
  by_cases open' : b.dynamicFcSupport = true ∨ ch.stMinTicks = b.invalidStMinTicks
  · have called : setTxBlockInfo b cfg ch size stMin =
        { ch with
          bs := size.toNat
          stMinTicks := stMinToTicks b stMin
          blockCfsRemaining := fit.blockEnd bs i - i } := by
      unfold setTxBlockInfo
      rw [if_pos open']
      exact count { ch with bs := size.toNat, stMinTicks := stMinToTicks b stMin } announced rfl rfl
    rw [called]
    exact ⟨⟨underway.active, underway.remaining, Or.inr announced, underway.timer⟩, rfl, rfl, rfl⟩
  · have size' : ch.bs = bs := underway.lock.resolve_left (mt Or.inr open')
    have called : setTxBlockInfo b cfg ch size stMin =
        { ch with blockCfsRemaining := fit.blockEnd bs i - i } := by
      unfold setTxBlockInfo
      rw [if_neg open']
      exact count ch size' rfl rfl
    rw [called]
    exact ⟨⟨underway.active, underway.remaining, Or.inr size', underway.timer⟩, rfl, rfl, rfl⟩

theorem SendPhase.waits {sub : SubState} {v : Nat} {ch : Channel}
    (phase : SendPhase fit bs e i m sub v ch) (confirmed : m = i) (blocked : i = e)
    (later : 0 < i) (unfinished : i < fit.cut.pieces) : sub = .txWaitForFlowControlFrame := by
  cases phase with
  | awaiting => rfl
  | done => omega
  | _ => omega

theorem SendPhase.ended {sub : SubState} {v : Nat} {ch : Channel}
    (phase : SendPhase fit bs e i m sub v ch) (last : i = fit.cut.pieces) : sub = .idle := by
  have pieces := fit.cut.pieces_pos
  cases phase with
  | done => rfl
  | _ => omega

theorem SenderAt.cleared (at' : SenderAt fit payload base bs e i i s) (later : 0 < i)
    (blocked : i = e) (unfinished : i < fit.cut.pieces)
    (timely : ¬ Expired cfg s (cfg.txSdu x).channelId) {ctx : RxContext} {data : Mem}
    (channel : ctx.channelId = (cfg.txSdu x).channelId)
    (clear : ctx.flowStatus = FlowStatus.cts.code)
    (announced : (data ctx.dataOffset).toNat = bs) :
    let s' := processRxFlowControlFrame b cfg ctx data s
    SenderAt fit payload base bs (fit.blockEnd bs i) i i s' ∧
      elapsedTicks b s' (cfg.txSdu x).channelId = 0 ∧ s'.burstQ = s.burstQ := by
  have phase := at'.phase
  obtain ⟨events, log, told⟩ := at'.told
  generalize sub : s.subState (cfg.txSdu x).channelId = st at phase
  generalize entry : s.txConfirmationChannel (cfg.txSdu x).txConfirmationId = v at phase
  generalize record : s.channel (cfg.txSdu x).channelId = ch at phase
  cases phase with
  | accepted => exact absurd later (lt_irrefl 0)
  | due later' cleared => exact absurd blocked (Nat.ne_of_lt cleared)
  | done => exact absurd unfinished (lt_irrefl _)
  | awaiting later' blocked' unfinished' underway sn =>
  have code : FlowStatus.cts.code ≠ FlowStatus.wait.code := by decide
  have early : ¬ (b.strictBsCrTimeoutCheck = true ∧
      (getElapsedValue b s ch.initialTicks).2 >
        (cfg.timeOut (cfg.txSdu ch.activeSduId).timeOutId).bsBrTicks) := by
    rintro ⟨-, late⟩
    simp only [Expired, sub, TimerOver, record, elapsedTicks] at timely
    exact timely late
  have informed : Underway fit bs i { ch with
      initialTicks := (getElapsedValue b s ch.initialTicks).1, flowStatus := .cts } :=
    ⟨underway.active, underway.remaining, underway.lock, underway.timer⟩
  obtain ⟨next, sn', ticks, block⟩ :=
    setTxBlockInfo_piece later unfinished informed announced (data (ctx.dataOffset + 1))
  have inside := fit.blockEnd_bounds bs unfinished
  simp only [processRxFlowControlFrame, channel, sub, if_true, record, if_neg early, clear,
    if_neg code]
  generalize setTxBlockInfo b cfg _ _ _ = ch' at next sn' ticks block
  refine ⟨?_, ?_, rfl⟩
  · refine ⟨at'.running, ?_, events ++ [.clearToSend (cfg.txSdu x).channelId ctx.sduId
      (data ctx.dataOffset).toNat ch'.stMinTicks], ?_, told.silent ⟨rfl, rfl, rfl⟩⟩
    · simp only [State.emit_subState, State.setSub_subState, Function.update_self,
        State.emit_txConfirmationChannel, State.setSub_txConfirmationChannel,
        State.setChannel_txConfirmationChannel, entry, State.emit_channel, State.setSub_channel,
        State.setChannel_channel]
      exact .due later inside.1 inside.2 next (sn'.trans sn) block
    · simp [log]
  · simp only [elapsedTicks, State.emit_channel, State.setSub_channel, State.setChannel_channel,
      Function.update_self, ticks]
    exact elapsed_now b s ch.initialTicks

end Clearances

section Requests
variable {payload : List UInt8} {base : List Event} {bs : Nat} {s : State}

/-- The request to transmit `n` bytes was taken. -/
def TakesRequest (b : Build) (cfg : Config b) (x n : Nat) (s : State) : Prop :=
  .transmitOk (cfg.txSdu x).channelId x n ∈ ((transmit b cfg x (some n) s).log.drop s.log.length)

theorem takesRequest_spec (taken : TakesRequest b cfg x n s) :
    s.mainState = true ∧ Sendable b cfg x n ∧
      transmit b cfg x (some n) s = ((s.setChannel (cfg.txSdu x).channelId
        { s.channel (cfg.txSdu x).channelId with
          activeSduId := x
          pciId := txPciInit b cfg x n
          sduLength := n
          initialTicks := (getElapsedValue b s 0).1
          txBufferStatus := .notAsked
          stMinTicks := b.invalidStMinTicks }).setSub (cfg.txSdu x).channelId
            .txTransmissionRequestAccepted).emit (.transmitOk (cfg.txSdu x).channelId x n) := by
  unfold TakesRequest transmit devCheck at taken
  split at taken
  · rename_i running
    split at taken
    · simp at taken
    · rename_i configured
      simp only at taken
      split at taken
      · simp at taken
      · rename_i positive
        split at taken
        · simp at taken
        · rename_i limit
          split at taken
          · rename_i idle
            refine ⟨running, ⟨by omega, by omega⟩, ?_⟩
            simp only [transmit, devCheck, if_pos running, if_neg configured, if_neg positive,
              if_neg limit, if_pos idle]
          · simp at taken
  · simp at taken

theorem senderAt_start (taken : TakesRequest b cfg x n s)
    (free : s.txConfirmationChannel (cfg.txSdu x).txConfirmationId = b.invalidChannel)
    (payload : List UInt8) (bs : Nat) :
    ∃ fit : Sendable b cfg x n, SenderAt fit payload (transmit b cfg x (some n) s).log bs 1 0 0
      (transmit b cfg x (some n) s) := by
  obtain ⟨running, fit, called⟩ := takesRequest_spec taken
  refine ⟨fit, ?_⟩
  have pieces := fit.cut.pieces_pos
  generalize started : transmit b cfg x (some n) s = s' at called ⊢
  refine ⟨by rw [called]; exact running, ?_, [], (List.append_nil _).symm, rfl, rfl,
    fun k before => absurd before (Nat.not_lt_zero k), ?_⟩
  · rw [called]
    simp only [State.emit_subState, State.setSub_subState, Function.update_self,
      State.emit_txConfirmationChannel, State.setSub_txConfirmationChannel,
      State.setChannel_txConfirmationChannel, free, State.emit_channel,
      State.setSub_channel, State.setChannel_channel]
    exact .accepted rfl rfl rfl rfl rfl rfl
  · rw [if_neg (by omega)]
    rfl

end Requests

end AnchorNode.CanTp
