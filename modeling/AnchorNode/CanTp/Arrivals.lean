import AnchorNode.CanTp.Receiving

/-! What the receiver does with the data frames of the connection. -/

namespace AnchorNode.CanTp

open AnchorNode.Lib

variable {b b' : Build} {cfg : Config b} {cfg' : Config b'} {env : Env} {e : Pairing cfg cfg'}
  {n : Nat} {fit : Sendable b cfg e.x n} {payload bytes : List UInt8} {data : Mem}
  {base : List Event} {bs j f g h : Nat} {s s' : State}

structure Arrives (fit : Sendable b cfg e.x n) (payload : List UInt8) (j : Nat) (data : Mem)
    (length : Nat) (ctx : RxContext) : Prop where
  channel : ctx.channelId = (cfg'.rxSdu e.r).channelId
  sdu : ctx.sduId = e.r
  pdu : ctx.pduId = e.dataPdu
  handle : ctx.pduRPduHandleId = (cfg'.rxSdu e.r).pduRPduHandleId
  frameType : ctx.frameType = (pciOf b cfg e.x n j).frameType
  sduLength : j = 0 → ctx.sduLength = n
  sn : 0 < j → ctx.sn = j % 16
  canDl : ctx.canDl = length
  offset : ctx.dataOffset = addressSize (cfg.txSdu e.x).addressFormatId +
    (pciOf b cfg e.x n j).pciSize
  length : length = wireLength b (cfg.txSdu e.x).bitFields (contentLength fit j)
  payload : data.read ctx.dataOffset (fit.cut.start (j + 1) - fit.cut.start j) =
    fit.cut.piece payload j

theorem Carries.arrives (carries : Carries fit payload j bytes)
    (holds : data.read 0 bytes.length = bytes) (address : UInt8) :
    Arrives fit payload j data bytes.length (completed e n j bytes.length
      (dataContext e (pciOf b cfg e.x n j).frameType address)) := by
  refine ⟨rfl, rfl, rfl, rfl, rfl, fun first => ?_, fun later => ?_, rfl, rfl, carries.length,
    carries.payload data holds⟩
  · simp only [completed, first, if_true]
  · simp only [completed, if_neg (Nat.ne_of_gt later)]

theorem getConnectionAcceptance_idle {ctx : RxContext} {length : Nat}
    (idle : s.subState ctx.channelId = .idle)
    (admits : ∀ bytes, env.fdCallOut s.log ctx.pduId bytes ctx.isFdEnabled = .ok) :
    getConnectionAcceptance b' env ctx data length s =
      .ok ((fdCallOut b' env ctx data length s).2.setSub ctx.channelId
        .rxReceptionRequestAccepted) := by
  have admitted : (fdCallOut b' env ctx data length s).1 = .ok := by
    simp only [fdCallOut]
    split
    · exact admits _
    · rfl
  simp only [getConnectionAcceptance, if_pos admitted, fdCallOut_subState, idle, SubState.state]

theorem ReceiverAt.admitted (at' : ReceiverAt fit payload base bs j f g h s)
    (grants : Grants env e n base) {ctx : RxContext} {length : Nat}
    (arrives : Arrives fit payload j data length ctx)
    (idle : s.subState (cfg'.rxSdu e.r).channelId = .idle) :
    ∃ s₁, ReceiverAt fit payload base bs j f g h s₁ ∧
      getConnectionAcceptance b' env ctx data length s =
        .ok (s₁.setSub ctx.channelId .rxReceptionRequestAccepted) := by
  obtain ⟨events, log, -⟩ := at'.told
  obtain ⟨called, record, callout⟩ := fdCallOut_record b' env ctx data length s
  refine ⟨(fdCallOut b' env ctx data length s).2, ?_, getConnectionAcceptance_idle
    (by rw [arrives.channel, idle]) fun bytes => by
      rw [log, arrives.pdu]
      exact grants.admits _ _ _⟩
  rw [record]
  refine at'.apart (apart_of_same cfg' _ _ rfl rfl rfl rfl rfl rfl fun event member => ?_)
  obtain ⟨bytes, answer, rfl⟩ := callout event member
  rfl

theorem ReceiverAt.received (at' : ReceiverAt fit payload base bs j f g h s) {f' : Nat}
    (open' : j < fit.cut.pieces) (mainState : s'.mainState = s.mainState)
    (table : s'.txConfirmationChannel = s.txConfirmationChannel)
    (paramPair : s'.paramPair = s.paramPair)
    (phase : ReceivePhase fit bs (j + 1) f' g h (s'.subState (cfg'.rxSdu e.r).channelId)
      (s.txConfirmationChannel (cfg'.rxSdu e.r).txConfirmationId)
      (s'.channel (cfg'.rxSdu e.r).channelId)) {new : List Event} {starts : List Nat}
    {results : List StdReturn} (log : s'.log = s.log ++ new)
    (started : starts = if j = 0 then [n] else [])
    (ended : results = if j + 1 = fit.cut.pieces then [.ok] else [])
    (handed : RxAccount (cfg'.rxSdu e.r).channelId e.r new starts (fit.cut.piece payload j)
      results []) :
    ReceiverAt fit payload base bs (j + 1) f' g h s' := by
  obtain ⟨events, log', told⟩ := at'.told
  refine ⟨mainState.trans at'.running, ?_, ?_, _, ?_, told.taken open' started ended handed⟩
  · rw [getRxParam, paramPair]
    exact at'.param
  · rw [table]
    exact phase
  · rw [log, log', List.append_assoc]

theorem Grants.taken (grants : Grants env e n base) {events : List Event}
    (log : s.log = base ++ events) (new : List Event) (bytes : List UInt8) :
    ∃ room, env.copyRxData (s.log ++ new) (cfg'.rxSdu e.r).pduRPduHandleId bytes = (.ok, room) := by
  rw [log, List.append_assoc]
  exact ⟨_, Prod.ext (grants.takes _ bytes).1 rfl⟩

theorem Grants.started (grants : Grants env e n base) {events : List Event}
    (log : s.log = base ++ events) :
    ∃ size, env.startOfReception s.log (cfg'.rxSdu e.r).pduRPduHandleId n = (.ok, size) ∧
      n ≤ size := by
  obtain ⟨verdict, enough⟩ := grants.starts events
  rw [log]
  exact ⟨_, Prod.ext verdict rfl, enough⟩

section Starts

theorem rxAccount_single (c r id n size room : Nat) (piece : List UInt8) :
    RxAccount c r [.startOfReception c r id n .ok size, .copyRxData c r id piece .ok room,
      .rxIndication c r id .ok] [n] piece [.ok] [] := by
  refine ⟨?_, ?_, ?_, rfl⟩ <;> simp [rxStarts, rxCopied, rxResults]

theorem rxAccount_first (c r id n size room : Nat) (piece : List UInt8) :
    RxAccount c r [.startOfReception c r id n .ok size, .copyRxData c r id piece .ok room]
      [n] piece [] [] := by
  refine ⟨?_, ?_, ?_, rfl⟩ <;> simp [rxStarts, rxCopied, rxResults]

theorem receivePhase_done (last : j = fit.cut.pieces) (through : f = fit.cut.pieces)
    (rounds : g ≤ fit.cut.pieces) (ch : Channel) :
    ReceivePhase fit bs j f g g .idle b'.invalidChannel ch := by
  subst last through
  exact .done rounds

theorem ReceivePhase.start {sub : SubState} {v : Nat} {ch : Channel}
    (phase : ReceivePhase fit bs j f g h sub v ch) (first : j = 0) :
    f = 0 ∧ g = 0 ∧ h = 0 ∧ sub = .idle ∧ v = b'.invalidChannel := by
  have pieces := fit.cut.pieces_pos
  cases phase with
  | waiting => exact ⟨rfl, rfl, rfl, rfl, rfl⟩
  | clearing later => omega
  | confirming later => omega
  | collecting later => omega
  | done => omega

theorem ReceiverAt.single (at' : ReceiverAt fit payload base bs 0 f g h s)
    (grants : Grants env e n base) {ctx : RxContext} {length : Nat}
    (arrives : Arrives fit payload 0 data length ctx)
    (single : (txPciInit b cfg e.x n).frameType = .single) :
    ReceiverAt fit payload base bs 1 1 g h
      (processRxSingleFrame b' env ctx data length s) := by
  obtain ⟨-, -, -, idle, -⟩ := at'.phase.start rfl
  obtain ⟨s₁, at₁, accepted⟩ := at'.admitted grants arrives idle
  obtain ⟨-, rfl, rfl, -, free⟩ := at₁.phase.start rfl
  obtain ⟨events, log, told⟩ := at₁.told
  have pieces := fit.pieces_single single
  have size := arrives.payload
  rw [fit.first_length, headLength_single single] at size
  obtain ⟨room, started, enough⟩ := grants.started log
  obtain ⟨left, copied⟩ := grants.taken log [.startOfReception (cfg'.rxSdu e.r).channelId e.r
    (cfg'.rxSdu e.r).pduRPduHandleId n .ok room] (fit.cut.piece payload 0)
  simp only [processRxSingleFrame, accepted, arrives.channel, arrives.sdu, arrives.handle,
    arrives.sduLength rfl, State.setChannel_log, State.setSub_log, started, ge_iff_le,
    if_pos enough, size, State.emit_log, copied, ne_eq, not_true_eq_false, if_false,
    pduRConfirmation]
  refine at₁.received (by omega) ?_ ?_ ?_ ?_ ?_ rfl (if_pos pieces.symm).symm
    (rxAccount_single _ _ (cfg'.rxSdu e.r).pduRPduHandleId n room left _)
  · rfl
  · rfl
  · rfl
  · rw [free, State.setSub_subState, Function.update_self]
    exact receivePhase_done pieces.symm pieces.symm (Nat.zero_le _) _
  · simp only [State.setSub_log, State.emit_log, State.setChannel_log, List.append_assoc]
    rfl

theorem getRxDl_set (e : Pairing cfg cfg') (ch : Channel) :
    getRxDl b' (setRxDl b' ch (u8 (getTxDl b (cfg.txSdu e.x)))) = getTxDl b (cfg.txSdu e.x) := by
  have txDl := getTxDl_bounds (b := b) (cfg.txSdu e.x)
  rw [u8_small (by omega)]
  unfold getRxDl setRxDl getTxDl
  rw [e.fd]
  split
  · rfl
  · rfl

theorem ReceiverAt.first (at' : ReceiverAt fit payload base bs 0 f g h s)
    (grants : Grants env e n base) {ctx : RxContext} {length : Nat}
    (arrives : Arrives fit payload 0 data length ctx)
    (first : (txPciInit b cfg e.x n).frameType = .first) :
    ReceiverAt fit payload base bs 1 1 g h
      (processRxFirstFrame b' env ctx data length s) := by
  obtain ⟨-, -, -, idle, -⟩ := at'.phase.start rfl
  obtain ⟨s₁, at₁, accepted⟩ := at'.admitted grants arrives idle
  obtain ⟨-, rfl, rfl, -, free⟩ := at₁.phase.start rfl
  obtain ⟨events, log, told⟩ := at₁.told
  have pieces := fit.pieces_first first
  have head := fit.headLength_first first
  have small := fit.small
  have wide : 2 ^ 16 ≤ 2 ^ b'.lengthBits := Nat.pow_le_pow_right (by decide) b'.lengthBits_le
  have txDl := getTxDl_bounds (b := b) (cfg.txSdu e.x)
  have full : length = getTxDl b (cfg.txSdu e.x) := by
    rw [arrives.length, contentLength_first fit first, wireLength_full]
  have offset := arrives.offset
  rw [pciOf_zero] at offset
  have share : u8 (b'.subLength length ctx.dataOffset) = headLength b cfg e.x n := by
    rw [subLength_le (by omega) (by omega), u8_small (by omega)]
    omega
  have size := arrives.payload
  rw [fit.first_length] at size
  obtain ⟨room, started, enough⟩ := grants.started log
  obtain ⟨left, copied⟩ := grants.taken log [.startOfReception (cfg'.rxSdu e.r).channelId e.r
    (cfg'.rxSdu e.r).pduRPduHandleId n .ok room] (fit.cut.piece payload 0)
  have holds : headLength b cfg e.x n ≤ room := by omega
  simp only [processRxFirstFrame, accepted, arrives.channel, arrives.sdu, arrives.handle,
    arrives.sduLength rfl, State.setChannel_log, State.setSub_log, started, ge_iff_le, share,
    if_pos holds, size, State.emit_log, copied, ne_eq, not_true_eq_false, if_false]
  refine at₁.received (by omega) ?_ ?_ ?_ ?_ ?_ rfl (if_neg (by omega)).symm
    (rxAccount_first _ _ (cfg'.rxSdu e.r).pduRPduHandleId n room left _)
  · rfl
  · rfl
  · rfl
  · rw [free]
    simp only [State.setSub_subState, Function.update_self, State.setSub_channel,
      State.setChannel_channel]
    refine .clearing Nat.one_pos pieces Nat.one_pos ⟨rfl, ?_, ?_, rfl, Or.inl rfl⟩ rfl
    · rw [Cut.start_one]
      exact subLength_le (by omega) (by omega)
    · rw [full]
      exact getRxDl_set e _
  · simp only [State.setSub_log, State.emit_log, State.setChannel_log, List.append_assoc]
    rfl

end Starts

section Blocks

theorem ReceivePhase.inside {sub : SubState} {v : Nat} {ch : Channel}
    (phase : ReceivePhase fit bs j f g h sub v ch) (later : 0 < j) (more : j < f)
    (confirmed : g = h) :
    sub = .rxWaitForConsecutiveFrame ∧ v = b'.invalidChannel ∧ g ≤ j ∧ Arriving fit bs j ch ∧
      Counts fit f j ch := by
  cases phase with
  | waiting => omega
  | clearing => omega
  | confirming => omega
  | collecting later' rounds arriving counts => exact ⟨rfl, rfl, rounds, arriving, counts⟩
  | done => omega

theorem Arrives.share {ctx : RxContext} {length : Nat}
    (arrives : Arrives fit payload j data length ctx) (later : 0 < j) :
    cfLength (n - fit.cut.start j) (sub8 ctx.canDl ctx.dataOffset) =
      fit.cut.start (j + 1) - fit.cut.start j := by
  have txDl := getTxDl_bounds (b := b) (cfg.txSdu e.x)
  have room := roomLength_bounds b (cfg.txSdu e.x)
  have content := contentLength_later fit later
  have inside := contentLength_le fit j
  have one : Npci.cf.pciSize = 1 := rfl
  have offset := arrives.offset
  rw [pciOf_later later, one] at offset
  obtain ⟨longer, bounded, full⟩ : contentLength fit j ≤ length ∧ length ≤ 64 ∧
      (contentLength fit j = getTxDl b (cfg.txSdu e.x) →
        length = getTxDl b (cfg.txSdu e.x)) := by
    rw [arrives.length]
    obtain ⟨longer, bounded⟩ := wireLength_bounds b (cfg.txSdu e.x).bitFields inside
    exact ⟨longer, bounded, fun full => by rw [full, wireLength_full]⟩
  have most : sub8 ctx.canDl ctx.dataOffset =
      length - (addressSize (cfg.txSdu e.x).addressFormatId + 1) := by
    rw [arrives.canDl, offset, sub8_le _ _ (by omega) (by omega)]
  rw [most, fit.later_length later, cfLength]
  split
  · omega
  · rw [u8_small (by omega)]
    omega

theorem rxAccount_consecutive (c r id sn room : Nat) (piece : List UInt8) :
    RxAccount c r [.copyRxData c r id piece .ok room, .consecutiveFrame c r sn] [] piece [] [] := by
  refine ⟨rfl, ?_, rfl, rfl⟩
  simp [rxCopied]

theorem rxAccount_last (c r id sn room : Nat) (piece : List UInt8) :
    RxAccount c r [.copyRxData c r id piece .ok room, .consecutiveFrame c r sn,
      .rxIndication c r id .ok] [] piece [.ok] [] := by
  refine ⟨rfl, ?_, ?_, rfl⟩ <;> simp [rxCopied, rxResults]

theorem ReceiverAt.consecutive (at' : ReceiverAt fit payload base bs j f g h s)
    (grants : Grants env e n base) (later : 0 < j) (more : j < f) (confirmed : g = h)
    (timely : ¬ Expired cfg' s (cfg'.rxSdu e.r).channelId) {ctx : RxContext} {length : Nat}
    (arrives : Arrives fit payload j data length ctx) :
    ReceiverAt fit payload base bs (j + 1) f g h
      (processRxConsecutiveFrame b' cfg' env ctx data s) := by
  obtain ⟨waiting, free, rounds, arriving, counts⟩ := at'.phase.inside later more confirmed
  subst confirmed
  obtain ⟨events, log, told⟩ := at'.told
  have small := fit.small
  have wide : 2 ^ 16 ≤ 2 ^ b'.lengthBits := Nat.pow_le_pow_right (by decide) b'.lengthBits_le
  have whole : fit.cut.total = n := rfl
  have inside := fit.cut.start_le_total (j + 1)
  have further := fit.cut.start_le_succ j
  have through := fit.cut.start_lt_iff (j + 1)
  have within := counts.within
  have least := counts.least
  have exact' := counts.exact
  have block := counts.small
  have early : ¬ (b'.strictBsCrTimeoutCheck = true ∧
      (getElapsedValue b' s (s.channel (cfg'.rxSdu e.r).channelId).initialTicks).2 >
        (cfg'.timeOut (cfg'.rxSdu e.r).timeOutId).csCrTicks) := by
    rintro ⟨-, late⟩
    simp only [Expired, waiting, TimerOver, elapsedTicks, arriving.active] at timely
    exact timely late
  have size := arrives.share later
  rw [← arriving.remaining] at size
  obtain ⟨left, copied⟩ := grants.taken log [] (fit.cut.piece payload j)
  rw [List.append_nil] at copied
  have positive : (s.channel (cfg'.rxSdu e.r).channelId).blockCfsRemaining > 0 := by omega
  have sn : ctx.sn = (s.channel (cfg'.rxSdu e.r).channelId).sn := by
    rw [arrives.sn later, arriving.sn]
  simp only [processRxConsecutiveFrame, arrives.channel, arrives.sdu, arrives.handle, waiting,
    arriving.active, true_and, if_pos positive, if_neg early, if_pos sn, size, arrives.payload,
    State.setChannel_log, copied, if_true]
  have remaining : b'.subLength (s.channel (cfg'.rxSdu e.r).channelId).sduLengthRemaining
      (fit.cut.start (j + 1) - fit.cut.start j) = n - fit.cut.start (j + 1) := by
    rw [arriving.remaining, subLength_le (by omega) (by omega)]
    omega
  have count : b'.subLength (s.channel (cfg'.rxSdu e.r).channelId).blockCfsRemaining 1 =
      (s.channel (cfg'.rxSdu e.r).channelId).blockCfsRemaining - 1 :=
    subLength_le (by omega) positive
  have next : ((s.channel (cfg'.rxSdu e.r).channelId).sn + 1) % 16 = (j + 1) % 16 := by
    rw [arriving.sn]
    omega
  simp only [remaining, count, next, prepareFcTransmit, State.setChannel_channel,
    Function.update_self]
  by_cases last : j + 1 = fit.cut.pieces
  · -- the last piece: the upper layer is told, whatever the block counter shows
    have none : n - fit.cut.start (j + 1) = 0 := by omega
    simp only [none, ne_eq, not_true_eq_false, if_false, pduRConfirmation]
    refine at'.received (by omega) ?_ ?_ ?_ ?_ ?_ (if_neg (Nat.ne_of_gt later)).symm
      (if_pos last).symm (rxAccount_last _ _ (cfg'.rxSdu e.r).pduRPduHandleId ctx.sn left _)
    · split <;> rfl
    · split <;> rfl
    · split <;> rfl
    · rw [free, State.setSub_subState, Function.update_self]
      exact receivePhase_done last (by omega) (by omega) _
    · split
      · simp
      · simp
  · have some : n - fit.cut.start (j + 1) ≠ 0 := by omega
    simp only [some, ne_eq, not_false_eq_true, if_true]
    by_cases stop : (s.channel (cfg'.rxSdu e.r).channelId).blockCfsRemaining - 1 = 0
    · -- the block is through: the next clearance is due
      have end' : f = j + 1 := by omega
      subst end'
      simp only [stop, if_true]
      refine at'.received (by omega) ?_ ?_ ?_ ?_ ?_ (if_neg (Nat.ne_of_gt later)).symm
        (if_neg last).symm
        (rxAccount_consecutive _ _ (cfg'.rxSdu e.r).pduRPduHandleId ctx.sn left _)
      · rfl
      · rfl
      · rfl
      · rw [free, State.setSub_subState, Function.update_self, State.setSub_channel,
          State.setChannel_channel, Function.update_self]
        exact .clearing (by omega) (by omega) (by omega)
          ⟨rfl, rfl, arriving.rxDl, rfl, arriving.lock⟩ rfl
      · simp
    · simp only [stop, if_false]
      refine at'.received (by omega) ?_ ?_ ?_ ?_ ?_ (if_neg (Nat.ne_of_gt later)).symm
        (if_neg last).symm
        (rxAccount_consecutive _ _ (cfg'.rxSdu e.r).pduRPduHandleId ctx.sn left _)
      · rfl
      · rfl
      · rfl
      · rw [free, State.setChannel_channel, Function.update_self]
        simp only [State.setChannel_subState, State.emit_subState, waiting]
        exact .collecting (by omega) (by omega) ⟨rfl, rfl, arriving.rxDl, rfl, arriving.lock⟩
          ⟨within, by omega, by simp only; omega, fun short => by simp only; omega,
            by simp only; omega⟩
      · simp

end Blocks

theorem ReceiverAt.receives (at' : ReceiverAt fit payload base bs j f g h s)
    (grants : Grants env e n base) (open' : j = 0 ∨ j < f) (confirmed : g = h)
    (timely : ¬ Expired cfg' s (cfg'.rxSdu e.r).channelId) (carries : Carries fit payload j bytes)
    (holds : data.read 0 bytes.length = bytes) :
    ReceiverAt fit payload base bs (j + 1) (if j = 0 then 1 else f) g h
      (rxIndication b' cfg' env e.dataPdu (some ⟨some data, bytes.length⟩) s) := by
  have called : rxIndication b' cfg' env e.dataPdu (some ⟨some data, bytes.length⟩) s =
      receiveFrame b' cfg' env e.dataPdu ⟨some data, bytes.length⟩ s := by
    simp only [rxIndication, devCheck, if_pos at'.running,
      if_neg (Nat.not_le.mpr e.dataPdu_lt)]
  have expects : Expects b' fit j (s.channel (cfg'.rxSdu e.r).channelId) := by
    rintro later
    obtain ⟨-, -, -, arriving, -⟩ := at'.phase.inside later (by omega) confirmed
    exact ⟨arriving.remaining, arriving.rxDl⟩
  obtain ⟨ctx, address, context, received⟩ := receive_carried env carries holds expects
  have arrives := carries.arrives holds address
  rw [← context] at arrives
  have processed : ReceiverAt fit payload base bs (j + 1) (if j = 0 then 1 else f) g h
      (processFrame b' cfg' env ctx data bytes.length s) := by
    have type := arrives.frameType
    by_cases later : 0 < j
    · rw [pciOf_later later] at type
      rw [if_neg (Nat.ne_of_gt later)]
      simp only [processFrame, type, Npci.frameType]
      exact at'.consecutive grants later (by omega) confirmed timely arrives
    · obtain rfl := Nat.eq_zero_of_not_pos later
      rw [pciOf_zero] at type
      rw [if_pos rfl]
      rcases fit.frameType with single | first
      · simp only [processFrame, type, single]
        exact at'.single grants arrives single
      · simp only [processFrame, type, first]
        exact at'.first grants arrives first
  rw [called, received, burstMainFunction_idle]
  · exact processed
  · exact fun _ => processed.phase.not_sending

end AnchorNode.CanTp
