import AnchorNode.CanTp.Exchange
import AnchorNode.CanTp.Pairing

/-! A reception seen from its node: which pieces have arrived, which flow control frames were
sent, and what the channel holds at each of these points. -/

namespace AnchorNode.CanTp

open AnchorNode.Lib

variable {b b' : Build} {cfg : Config b} {cfg' : Config b'} {env : Env} {e : Pairing cfg cfg'}
  {n : Nat}

section Logs

structure ReceiverLog (fit : Sendable b cfg e.x n) (payload : List UInt8) (bs j g : Nat)
    (events : List Event) : Prop where
  account : ∃ frames, frames.length = g ∧
    (∀ k < g, Clears (cfg'.rxSdu e.r) bs (frames.getD k [])) ∧
    RxAccount (cfg'.rxSdu e.r).channelId e.r events (if j = 0 then [] else [n])
      (payload.take (fit.cut.start j)) (if j = fit.cut.pieces then [.ok] else []) frames

variable {fit : Sendable b cfg e.x n} {payload : List UInt8} {bs j g : Nat}
  {events new : List Event}

theorem ReceiverLog.silent (told : ReceiverLog fit payload bs j g events)
    (silent : RxAccount (cfg'.rxSdu e.r).channelId e.r new [] [] [] []) :
    ReceiverLog fit payload bs j g (events ++ new) := by
  obtain ⟨frames, count, clears, account⟩ := told.account
  have both := account.append silent
  simp only [List.append_nil] at both
  exact ⟨frames, count, clears, both⟩

theorem ReceiverLog.granted (told : ReceiverLog fit payload bs j g events) {frame : List UInt8}
    (clear : Clears (cfg'.rxSdu e.r) bs frame)
    (sent : RxAccount (cfg'.rxSdu e.r).channelId e.r new [] [] [] [frame]) :
    ReceiverLog fit payload bs j (g + 1) (events ++ new) := by
  obtain ⟨frames, count, clears, account⟩ := told.account
  have both := account.append sent
  simp only [List.append_nil] at both
  refine ⟨frames ++ [frame], by simp [count], fun k inside => ?_, both⟩
  by_cases last : k = g
  · rw [last, ← count, List.getD_eq_getElem?_getD, List.getElem?_concat_length]
    exact clear
  · rw [List.getD_eq_getElem?_getD, List.getElem?_append_left (by omega),
      ← List.getD_eq_getElem?_getD]
    exact clears k (by omega)

theorem ReceiverLog.taken (told : ReceiverLog fit payload bs j g events) {starts : List Nat}
    {results : List StdReturn} (open' : j < fit.cut.pieces)
    (started : starts = if j = 0 then [n] else [])
    (ended : results = if j + 1 = fit.cut.pieces then [.ok] else [])
    (handed : RxAccount (cfg'.rxSdu e.r).channelId e.r new starts (fit.cut.piece payload j)
      results []) :
    ReceiverLog fit payload bs (j + 1) g (events ++ new) := by
  obtain ⟨frames, count, clears, account⟩ := told.account
  have both := account.append handed
  rw [List.append_nil, Cut.take_succ, if_neg (Nat.ne_of_lt open'), List.nil_append, ended] at both
  have once : (if j = 0 then [] else [n]) ++ starts = if j + 1 = 0 then [] else [n] := by
    rw [started, if_neg (Nat.succ_ne_zero j)]
    split <;> rfl
  rw [once] at both
  exact ⟨frames, count, clears, both⟩

end Logs

section Phases

/-- The layers around the receiver from the log `base` on: every frame may come, the upper layer
takes the reception and grants a buffer at least as large as what remains, and the CAN
interface takes every frame. -/
structure Grants (env : Env) (e : Pairing cfg cfg') (n : Nat) (base : List Event) : Prop where
  admits : ∀ events bytes fd, env.fdCallOut (base ++ events) e.dataPdu bytes fd = .ok
  starts : ∀ events,
    let answer := env.startOfReception (base ++ events) (cfg'.rxSdu e.r).pduRPduHandleId n
    answer.1 = .ok ∧ n ≤ answer.2
  takes : ∀ events bytes,
    let taken := (rxCopied (cfg'.rxSdu e.r).channelId e.r events).length
    let answer := env.copyRxData (base ++ events) (cfg'.rxSdu e.r).pduRPduHandleId bytes
    answer.1 = .ok ∧ n ≤ taken + bytes.length + answer.2
  accepts : ∀ events bytes,
    env.canIfTransmit (base ++ events) (cfg'.rxSdu e.r).txPduId bytes = .ok

/-- What the channel keeps of the reception when `j` pieces have arrived. `bs` is the configured
block size. -/
structure Arriving (fit : Sendable b cfg e.x n) (bs j : Nat) (ch : Channel) : Prop where
  active : ch.activeSduId = e.r
  remaining : ch.sduLengthRemaining = n - fit.cut.start j
  rxDl : getRxDl b' ch = getTxDl b (cfg.txSdu e.x)
  sn : ch.sn = j % 16
  lock : ch.stMinTicks = b'.invalidStMinTicks ∨ ch.bs = bs

structure Counts (fit : Sendable b cfg e.x n) (f j : Nat) (ch : Channel) : Prop where
  within : f ≤ fit.cut.pieces
  ahead : j < f
  least : f - j ≤ ch.blockCfsRemaining
  exact : f < fit.cut.pieces → ch.blockCfsRemaining = f - j
  small : ch.blockCfsRemaining < 2 ^ 16

/-- Where a reception stands with `j` pieces arrived, `f` allowed, `g` flow control frames sent
and `h` of them confirmed: its substate, the table entry of its N-PDU and its channel. -/
inductive ReceivePhase (fit : Sendable b cfg e.x n) (bs : Nat) :
    Nat → Nat → Nat → Nat → SubState → Nat → Channel → Prop
  | waiting {ch : Channel} : ReceivePhase fit bs 0 0 0 0 .idle b'.invalidChannel ch
  | clearing {j g : Nat} {ch : Channel} (later : 0 < j) (unfinished : j < fit.cut.pieces)
      (rounds : g < j) (arriving : Arriving fit bs j ch) (flow : ch.flowStatus = .wait) :
      ReceivePhase fit bs j j g g .rxSendFc b'.invalidChannel ch
  | confirming {j f h : Nat} {ch : Channel} (later : 0 < j) (rounds : h < j)
      (arriving : Arriving fit bs j ch) (flow : ch.flowStatus = .cts) (counts : Counts fit f j ch) :
      ReceivePhase fit bs j f (h + 1) h .rxWaitForFcTransmitConfirmation
        (cfg'.rxSdu e.r).channelId ch
  | collecting {j f g : Nat} {ch : Channel} (later : 0 < j) (rounds : g ≤ j)
      (arriving : Arriving fit bs j ch) (counts : Counts fit f j ch) :
      ReceivePhase fit bs j f g g .rxWaitForConsecutiveFrame b'.invalidChannel ch
  | done {g : Nat} {ch : Channel} (rounds : g ≤ fit.cut.pieces) :
      ReceivePhase fit bs fit.cut.pieces fit.cut.pieces g g .idle b'.invalidChannel ch

/-- The reception stands at `j`, `f`, `g` and `h`, and the log says so. -/
structure ReceiverAt (fit : Sendable b cfg e.x n) (payload : List UInt8) (base : List Event)
    (bs j f g h : Nat) (s : State) : Prop where
  running : s.mainState = true
  param : (getRxParam b' cfg' s e.r .bs).toNat = bs
  phase : ReceivePhase fit bs j f g h (s.subState (cfg'.rxSdu e.r).channelId)
    (s.txConfirmationChannel (cfg'.rxSdu e.r).txConfirmationId)
    (s.channel (cfg'.rxSdu e.r).channelId)
  told : ∃ events, s.log = base ++ events ∧ ReceiverLog fit payload bs j g events

variable {fit : Sendable b cfg e.x n} {payload : List UInt8} {base : List Event}
  {bs j f g h : Nat} {s s' : State}

theorem ReceivePhase.bounds {sub : SubState} {v : Nat} {ch : Channel}
    (phase : ReceivePhase fit bs j f g h sub v ch) :
    j ≤ f ∧ f ≤ fit.cut.pieces ∧ h ≤ g ∧ g ≤ h + 1 ∧ g ≤ fit.cut.pieces := by
  cases phase with
  | waiting => omega
  | clearing later unfinished rounds => omega
  | confirming later rounds arriving flow counts =>
      have ahead := counts.ahead
      have within := counts.within
      omega
  | collecting later rounds arriving counts =>
      have ahead := counts.ahead
      have within := counts.within
      omega
  | done rounds => omega

theorem ReceivePhase.owes {sub : SubState} {v : Nat} {ch : Channel}
    (phase : ReceivePhase fit bs j f g h sub v ch) (sending : sub = .rxSendFc) :
    f = j ∧ g = h ∧ 0 < j ∧ j < fit.cut.pieces := by
  cases phase with
  | clearing later unfinished => exact ⟨rfl, rfl, later, unfinished⟩
  | _ => cases sending

theorem ReceivePhase.blocked {sub : SubState} {v : Nat} {ch : Channel}
    (phase : ReceivePhase fit bs j f g h sub v ch) (later : 0 < j) (stop : f ≤ j)
    (unfinished : j < fit.cut.pieces) : sub = .rxSendFc := by
  cases phase with
  | waiting => omega
  | clearing => rfl
  | confirming later' rounds arriving flow counts => exact absurd counts.ahead (by omega)
  | collecting later' rounds arriving counts => exact absurd counts.ahead (by omega)
  | done => omega

theorem ReceivePhase.ended {sub : SubState} {v : Nat} {ch : Channel}
    (phase : ReceivePhase fit bs j f g h sub v ch) (last : j = fit.cut.pieces) :
    g = h ∧ sub = .idle := by
  have pieces := fit.cut.pieces_pos
  cases phase with
  | waiting => exact ⟨rfl, rfl⟩
  | clearing later unfinished => omega
  | confirming later rounds arriving flow counts =>
      have ahead := counts.ahead
      have within := counts.within
      omega
  | collecting later rounds arriving counts =>
      have ahead := counts.ahead
      have within := counts.within
      omega
  | done => exact ⟨rfl, rfl⟩

theorem ReceiverAt.apart (at' : ReceiverAt fit payload base bs j f g h s)
    (apart : Apart cfg' (cfg'.rxSdu e.r).channelId (cfg'.rxSdu e.r).txConfirmationId s s') :
    ReceiverAt fit payload base bs j f g h s' := by
  obtain ⟨events, log, told⟩ := at'.told
  obtain ⟨new, log', elsewhere⟩ := apart.log
  refine ⟨apart.mainState.trans at'.running, ?_, ?_, events ++ new, ?_,
    told.silent (rxAccount_elsewhere elsewhere)⟩
  · have pair := apart.paramPair e.r rfl
    have same := at'.param
    simp only [getRxParam, pair] at same ⊢
    exact same
  · rw [apart.subState, apart.entry, apart.channel]
    exact at'.phase
  · rw [log', log, List.append_assoc]

end Phases

section Grants
variable {fit : Sendable b cfg e.x n} {payload : List UInt8} {base : List Event}
  {bs j f g h : Nat} {s s' : State}

theorem getRxBlockCfs_rest {ch : Channel} (later : 0 < j) (unfinished : j < fit.cut.pieces)
    (arriving : Arriving fit bs j ch) : getRxBlockCfs b' cfg' ch = fit.cut.pieces - j := by
  have txDl := getTxDl_bounds (b := b) (cfg.txSdu e.x)
  have room := roomLength_bounds b (cfg.txSdu e.x)
  have most : sub8 (getTxDl b (cfg.txSdu e.x))
      (cfPciSize + addressSize (cfg.txSdu e.x).addressFormatId) =
        roomLength b (cfg.txSdu e.x) := by
    rw [Nat.add_comm cfPciSize, sub8_le _ _ (by omega) (by simp only [cfPciSize]; omega)]
    rfl
  rw [getRxBlockCfs, arriving.active, arriving.remaining, arriving.rxDl, e.sameFormat, most]
  exact fit.blockCfs_rest later unfinished.le

def grantedBlock (b' : Build) (bs rest : Nat) (ch : Channel) : Channel :=
  { ch with
    blockCfsRemaining := if bs ≠ 0 then bs else rest
    flowStatus := .cts
    stMinTicks := if b'.dynamicFcSupport then ch.stMinTicks else 0
    bs }

theorem setRxBlockInfo_enough {ch : Channel} (later : 0 < j) (unfinished : j < fit.cut.pieces)
    (arriving : Arriving fit bs j ch) (param : (getRxParam b' cfg' s e.r .bs).toNat = bs)
    {size : Nat} (enough : n - fit.cut.start j ≤ size) :
    setRxBlockInfo b' cfg' s ch size = grantedBlock b' bs (fit.cut.pieces - j) ch := by
  have granted : rxBlockSize b' cfg' s ch size = bs := by
    simp only [rxBlockSize, arriving.active, arriving.remaining, param, if_pos enough]
    split
    · rfl
    · rename_i kept
      exact arriving.lock.resolve_left (mt Or.inr kept)
  have rest := getRxBlockCfs_rest later unfinished arriving
  have clear : ¬ ((bs = 0 ∧ size < ch.sduLengthRemaining) ∨
      (bs ≠ 0 ∧ size < u32 (bs * oneFramePayloadLength b' cfg' ch) ∧
        size < ch.sduLengthRemaining)) := by
    rw [arriving.remaining]
    omega
  simp only [setRxBlockInfo, granted, if_neg clear, rest, grantedBlock]

theorem Grants.polled (grants : Grants env e n base) {events : List Event}
    (told : ReceiverLog fit payload bs j g events) (log : s.log = base ++ events)
    (whole : payload.length = n) :
    ∃ size, env.copyRxData s.log (cfg'.rxSdu e.r).pduRPduHandleId [] = (.ok, size) ∧
      n - fit.cut.start j ≤ size := by
  obtain ⟨frames, -, -, account⟩ := told.account
  have inside := fit.cut.start_le_total j
  have total : fit.cut.total = n := rfl
  obtain ⟨verdict, room⟩ := grants.takes events []
  rw [account.copied, List.length_take, whole] at room
  rw [log]
  generalize env.copyRxData (base ++ events) (cfg'.rxSdu e.r).pduRPduHandleId [] = answer at *
  obtain ⟨_, size⟩ := answer
  exact ⟨size, Prod.ext verdict rfl, by simp at room; omega⟩

structure SendsFlow (e : Pairing cfg cfg') (bs : Nat) (ch : Channel) (s s' : State) : Prop where
  subState : s'.subState (cfg'.rxSdu e.r).channelId = .rxWaitForFcTransmitConfirmation
  channel : s'.channel (cfg'.rxSdu e.r).channelId = ch
  table : s'.txConfirmationChannel = Function.update s.txConfirmationChannel
    (cfg'.rxSdu e.r).txConfirmationId (cfg'.rxSdu e.r).channelId
  mainState : s'.mainState = s.mainState
  paramPair : s'.paramPair = s.paramPair
  log : ∃ frame : SentFrame, s'.log = s.log ++ [.canIfTransmit frame .ok] ∧
    frame.ch = (cfg'.rxSdu e.r).channelId ∧ Clears (cfg'.rxSdu e.r) bs frame.bytes

structure TxContext.Answers (ctx : TxContext) (cfg' : Config b') (r : Nat) : Prop where
  channel : ctx.channelId = (cfg'.rxSdu r).channelId
  pdu : ctx.pduId = (cfg'.rxSdu r).txPduId
  confirmation : ctx.txConfirmationId = (cfg'.rxSdu r).txConfirmationId

theorem fcTransmit_sends {ctx : TxContext} (own : ctx.Answers cfg' e.r)
    (sending : s.subState (cfg'.rxSdu e.r).channelId = .rxSendFc)
    (active : (s.channel (cfg'.rxSdu e.r).channelId).activeSduId = e.r)
    (clear : (s.channel (cfg'.rxSdu e.r).channelId).flowStatus = .cts)
    (block : (s.channel (cfg'.rxSdu e.r).channelId).bs = bs) (byte : bs < 256)
    (taken : ∀ bytes, env.canIfTransmit s.log (cfg'.rxSdu e.r).txPduId bytes = .ok) :
    SendsFlow e bs { s.channel (cfg'.rxSdu e.r).channelId with
      initialTicks := ctx.value, pciId := .fc } s (fcTransmit b' cfg' env ctx true s) := by
  have format : (cfg'.rxSdu e.r).addressFormatId ≠ 4 := e.sameFormat ▸ e.format
  generalize started : (s.setChannel (cfg'.rxSdu e.r).channelId
    { s.channel (cfg'.rxSdu e.r).channelId with initialTicks := ctx.value, pciId := .fc }).setSub
      (cfg'.rxSdu e.r).channelId .rxWaitForFcTransmitConfirmation = s₁
  have log₁ : s₁.log = s.log := by rw [← started]; rfl
  have waiting : s₁.subState (cfg'.rxSdu e.r).channelId = .rxWaitForFcTransmitConfirmation := by
    simp [← started]
  obtain ⟨frame, created, -, clears⟩ : ∃ frame, createTxFlowControlFrame b' cfg' env s₁
      (cfg'.rxSdu e.r).channelId = (s₁, some frame) ∧ frame.payload = [] ∧
        Clears (cfg'.rxSdu e.r) bs frame.bytes :=
    createTxFlowControlFrame_clears format waiting (by simp [← started, active])
      (by simp [← started, clear]) (by simp [← started, block]) byte
  have built : createFrame b' cfg' env s₁ (cfg'.rxSdu e.r).channelId = (s₁, some frame) := by
    have flow : (s₁.channel (cfg'.rxSdu e.r).channelId).pciId = .fc := by simp [← started]
    rw [createFrame, flow]
    exact created
  have enabled : ¬ (b'.fcDisableSupport = true ∧ getBit (cfg'.rxSdu
      (s.channel (cfg'.rxSdu e.r).channelId).activeSduId).bitFields fcDisabled = true) := by
    rw [active]
    exact e.sendsFc
  have ready : fcTransmit b' cfg' env ctx true s = canIfTransmit b' cfg' env ctx s₁ := by
    simp only [fcTransmit, own.channel, sending, true_and, if_true, if_neg enabled]
    rw [started]
  rw [ready]
  simp only [canIfTransmit, own.channel, own.confirmation, own.pdu, built,
    State.setConfirmation_log, log₁, taken, ne_eq, not_true_eq_false, if_false]
  refine ⟨?_, ?_, ?_, ?_, ?_, ?_⟩
  · simp [← started]
  · simp [← started]
  · simp [← started]
  · simp [← started]
  · simp [← started]
  · rw [State.emit_log, State.setConfirmation_log, log₁]
    exact ⟨_, rfl, rfl, clears⟩

theorem fcWaitRound_clear {ctx : TxContext} (ready : Bool)
    (clear : (s.channel ctx.channelId).flowStatus = .cts) :
    fcWaitRound b' cfg' ctx ready s = (ready, s) := by
  have other : ¬ ((s.channel ctx.channelId).flowStatus = .wait ∧
      (ctx.elapsedValue ≥ (cfg'.timeOut (cfg'.rxSdu
        (s.channel ctx.channelId).activeSduId).timeOutId).bsBrTicks ∨
          (s.channel ctx.channelId).fcWait = 0)) := by
    rw [clear]
    rintro ⟨wait, -⟩
    cases wait
  simp only [fcWaitRound, if_neg other]

theorem rxSendFlowControlFrame_granted {c size : Nat} {ch : Channel}
    (sending : s.subState c = .rxSendFc) (flow : (s.channel c).flowStatus = .wait)
    (free : s.txConfirmationChannel (cfg'.rxSdu (s.channel c).activeSduId).txConfirmationId =
      b'.invalidChannel)
    (answer : env.copyRxData s.log (cfg'.rxSdu (s.channel c).activeSduId).pduRPduHandleId [] =
      (.ok, size))
    (granted : ∀ t : State, t.paramPair = s.paramPair → setRxBlockInfo b' cfg' t
      { s.channel c with blockCfsRemaining := 0 } size = ch)
    (clear : ch.flowStatus = .cts) :
    rxSendFlowControlFrame b' cfg' env s c =
      fcTransmit b' cfg' env { rxContext b' cfg' s c 0 with remBufSize := size } true
        ((s.emit (.copyRxData c (s.channel c).activeSduId
          (cfg'.rxSdu (s.channel c).activeSduId).pduRPduHandleId [] .ok size)).setChannel
            c ch) := by
  have kept : ¬ (FlowStatus.wait = FlowStatus.overflow) := by decide
  have first : ¬ (FlowStatus.wait = FlowStatus.cts) := by decide
  have block := granted ((s.setChannel c { s.channel c with blockCfsRemaining := 0 }).emit
    (.copyRxData c (s.channel c).activeSduId
      (cfg'.rxSdu (s.channel c).activeSduId).pduRPduHandleId [] .ok size)) rfl
  simp only [rxSendFlowControlFrame, sending, free, and_self, if_true, flow, kept, first,
    not_false_eq_true, ne_eq, rxContext, State.setChannel_log, answer, not_true_eq_false, if_false,
    decide_false, Bool.or_false]
  simp only [flow] at block
  simp only [block, clear, decide_true]
  rw [fcWaitRound_clear true (by simp [clear])]
  simp only [← State.setChannel_emit, State.setChannel_setChannel]

theorem rxAccount_poll (c r id : Nat) (answer : BufReq) (size : Nat) :
    RxAccount c r [.copyRxData c r id [] answer size] [] [] [] [] := by
  refine ⟨rfl, ?_, rfl, rfl⟩
  simp [rxCopied]

theorem rxAccount_frame {c : Nat} (r : Nat) {frame : SentFrame} (own : frame.ch = c) :
    RxAccount c r [.canIfTransmit frame .ok] [] [] [] [frame.bytes] := by
  refine ⟨rfl, rfl, rfl, ?_⟩
  simp [sentFrames, own]

theorem Counts.granted (fit : Sendable b cfg e.x n) (byte : bs < 256)
    (unfinished : j < fit.cut.pieces) {ch : Channel}
    (count : ch.blockCfsRemaining = if bs ≠ 0 then bs else fit.cut.pieces - j) :
    Counts fit (fit.blockEnd bs j) j ch := by
  have small := fit.small
  have pieces := fit.cut.pieces_le_total
  have total : fit.cut.total = n := rfl
  unfold Sendable.blockEnd
  by_cases unlimited : bs = 0
  · rw [if_neg (not_not.mpr unlimited)] at count
    rw [if_pos unlimited]
    exact ⟨le_refl _, unfinished, by omega, fun short => absurd short (lt_irrefl _), by omega⟩
  · rw [if_pos unlimited] at count
    rw [if_neg unlimited]
    exact ⟨by omega, by omega, by omega, fun short => by omega, by omega⟩

theorem ReceiverAt.turn_clearing (at' : ReceiverAt fit payload base bs j f g h s)
    (grants : Grants env e n base) (whole : payload.length = n)
    (sending : s.subState (cfg'.rxSdu e.r).channelId = .rxSendFc) :
    ReceiverAt fit payload base bs j (fit.blockEnd bs j) (g + 1) g
      (executeState b' cfg' env s (cfg'.rxSdu e.r).channelId) := by
  have phase := at'.phase
  obtain ⟨events, log, told⟩ := at'.told
  obtain ⟨size, answer, room⟩ := grants.polled told log whole
  rw [sending] at phase
  generalize entry : s.txConfirmationChannel (cfg'.rxSdu e.r).txConfirmationId = v at phase
  generalize record : s.channel (cfg'.rxSdu e.r).channelId = ch at phase
  cases phase with
  | clearing later unfinished rounds arriving flow =>
  have byte : bs < 256 := at'.param ▸ UInt8.toNat_lt _
  have active : (s.channel (cfg'.rxSdu e.r).channelId).activeSduId = e.r := by
    rw [record, arriving.active]
  have called : executeState b' cfg' env s (cfg'.rxSdu e.r).channelId =
      rxSendFlowControlFrame b' cfg' env s (cfg'.rxSdu e.r).channelId := by
    simp only [executeState, sending]
  have cleared : Arriving fit bs j { ch with blockCfsRemaining := 0 } :=
    ⟨arriving.active, arriving.remaining, arriving.rxDl, arriving.sn, arriving.lock⟩
  have granted (t : State) (same : t.paramPair = s.paramPair) :=
    setRxBlockInfo_enough later unfinished cleared
      (show (getRxParam b' cfg' t e.r .bs).toNat = bs by
        rw [← at'.param, getRxParam, getRxParam, same]) room
  rw [called, rxSendFlowControlFrame_granted sending (by rw [record, flow])
    (by rw [active, entry]) (by rw [active, answer]) (by rw [record]; exact granted) rfl]
  generalize polled : (s.emit (.copyRxData (cfg'.rxSdu e.r).channelId
    (s.channel (cfg'.rxSdu e.r).channelId).activeSduId (cfg'.rxSdu
      (s.channel (cfg'.rxSdu e.r).channelId).activeSduId).pduRPduHandleId [] .ok size)).setChannel
        (cfg'.rxSdu e.r).channelId (grantedBlock b' bs (fit.cut.pieces - j)
          { ch with blockCfsRemaining := 0 }) = s₂
  have log₂ : s₂.log = base ++ (events ++ [.copyRxData (cfg'.rxSdu e.r).channelId e.r
      (cfg'.rxSdu e.r).pduRPduHandleId [] .ok size]) := by
    rw [← polled, State.setChannel_log, State.emit_log, log, active, List.append_assoc]
  have channel₂ : s₂.channel (cfg'.rxSdu e.r).channelId =
      grantedBlock b' bs (fit.cut.pieces - j) { ch with blockCfsRemaining := 0 } := by
    rw [← polled, State.setChannel_channel, Function.update_self]
  have answers : TxContext.Answers
      { rxContext b' cfg' s (cfg'.rxSdu e.r).channelId 0 with remBufSize := size } cfg' e.r :=
    ⟨rfl, by rw [rxContext, active], by rw [rxContext, active]⟩
  have sends : SendsFlow e bs _ s₂ (fcTransmit b' cfg' env
      { rxContext b' cfg' s (cfg'.rxSdu e.r).channelId 0 with remBufSize := size } true s₂) :=
    fcTransmit_sends answers (by simp [← polled, sending])
      (by rw [channel₂]; exact arriving.active) (by rw [channel₂]; rfl) (by rw [channel₂]; rfl)
      byte (fun bytes => by rw [log₂]; exact grants.accepts _ bytes)
  generalize fcTransmit b' cfg' env _ true s₂ = s' at sends ⊢
  obtain ⟨frame, log', own, clears⟩ := sends.log
  have asked := told.silent (rxAccount_poll (cfg'.rxSdu e.r).channelId e.r
    (cfg'.rxSdu e.r).pduRPduHandleId .ok size)
  refine ⟨sends.mainState.trans (by rw [← polled]; exact at'.running), ?_, ?_, _, ?_,
    asked.granted clears (rxAccount_frame e.r own)⟩
  · rw [getRxParam, sends.paramPair, ← polled]
    exact at'.param
  · rw [sends.subState, sends.table, Function.update_self, sends.channel, channel₂]
    refine .confirming later rounds ⟨arriving.active, arriving.remaining, arriving.rxDl,
      arriving.sn, Or.inr rfl⟩ rfl (Counts.granted fit byte unfinished rfl)
  · rw [log', log₂, List.append_assoc, List.append_assoc]

theorem ReceiverAt.turn (at' : ReceiverAt fit payload base bs j f g h s)
    (grants : Grants env e n base) (whole : payload.length = n)
    (timely : ¬ Expired cfg' s (cfg'.rxSdu e.r).channelId) :
    (s.subState (cfg'.rxSdu e.r).channelId = .rxSendFc ∧
      ReceiverAt fit payload base bs j (fit.blockEnd bs j) (g + 1) g
        (executeState b' cfg' env s (cfg'.rxSdu e.r).channelId)) ∨
      (s.subState (cfg'.rxSdu e.r).channelId ≠ .rxSendFc ∧
        executeState b' cfg' env s (cfg'.rxSdu e.r).channelId = s) := by
  have phase := at'.phase
  generalize sub : s.subState (cfg'.rxSdu e.r).channelId = st at phase
  generalize entry : s.txConfirmationChannel (cfg'.rxSdu e.r).txConfirmationId = v at phase
  generalize record : s.channel (cfg'.rxSdu e.r).channelId = ch at phase
  cases phase with
  | waiting => exact Or.inr ⟨by decide, by simp only [executeState, sub]⟩
  | done => exact Or.inr ⟨by decide, by simp only [executeState, sub]⟩
  | clearing => exact Or.inl ⟨rfl, at'.turn_clearing grants whole sub⟩
  | confirming =>
      refine Or.inr ⟨by decide, ?_⟩
      simp only [Expired, sub, TimerOver, elapsedTicks] at timely
      simp only [executeState, sub, rxWaitForFcTransmitConfirmation, true_and]
      exact if_neg timely
  | collecting =>
      refine Or.inr ⟨by decide, ?_⟩
      simp only [Expired, sub, TimerOver, elapsedTicks] at timely
      simp only [executeState, sub, rxWaitForConsecutiveFrame, true_and]
      exact if_neg timely

end Grants

section Confirmations
variable {fit : Sendable b cfg e.x n} {payload : List UInt8} {base : List Event}
  {bs j f g h : Nat} {s s' : State}

theorem ReceivePhase.entry {sub : SubState} {v : Nat} {ch : Channel}
    (phase : ReceivePhase fit bs j f g h sub v ch) :
    (v = b'.invalidChannel ∧ g = h ∧ sub ≠ .rxWaitForFcTransmitConfirmation) ∨
      (v = (cfg'.rxSdu e.r).channelId ∧ g = h + 1 ∧
        sub = .rxWaitForFcTransmitConfirmation) := by
  cases phase with
  | confirming => exact Or.inr ⟨rfl, rfl, rfl⟩
  | _ => exact Or.inl ⟨rfl, rfl, nofun⟩

theorem ReceivePhase.not_sending {sub : SubState} {v : Nat} {ch : Channel}
    (phase : ReceivePhase fit bs j f g h sub v ch) : sub ≠ .txSendConsecutiveFrame := by
  cases phase <;> exact nofun

theorem burstMainFunction_idle {c : Nat} (point : TriggerPoint)
    (idle : c < cfg'.numberOfChannels → s.subState c ≠ .txSendConsecutiveFrame) :
    burstMainFunction b' cfg' env c point s = s := by
  have notReady : burstReady b' cfg' c s ≠ true := by
    intro ready
    simp only [burstReady, Bool.and_eq_true, decide_eq_true_eq, beq_iff_eq] at ready
    obtain ⟨⟨⟨-, bound⟩, -⟩, sending⟩ := ready
    exact idle bound sending
  rw [burstMainFunction, if_neg notReady]

theorem ReceiverAt.confirmed (at' : ReceiverAt fit payload base bs j f g h s) :
    ReceiverAt fit payload base bs j f g g
      (confirmFrame b' cfg' (cfg'.rxSdu e.r).txConfirmationId s) := by
  have bound := cfg'.rxSdu_channel e.r e.r_lt
  have fits := cfg'.channels_fit
  have invalid : ¬ b'.invalidChannel < cfg'.numberOfChannels := Nat.not_lt.mpr fits
  have phase := at'.phase
  generalize sub : s.subState (cfg'.rxSdu e.r).channelId = st at phase
  generalize entry : s.txConfirmationChannel (cfg'.rxSdu e.r).txConfirmationId = v at phase
  generalize record : s.channel (cfg'.rxSdu e.r).channelId = ch at phase
  have nothing (none : v = b'.invalidChannel) :
      confirmFrame b' cfg' (cfg'.rxSdu e.r).txConfirmationId s = s := by
    rw [confirmFrame, entry, none]
    exact if_neg invalid
  cases phase with
  | waiting => rwa [nothing rfl]
  | clearing => rwa [nothing rfl]
  | collecting => rwa [nothing rfl]
  | done => rwa [nothing rfl]
  | confirming later rounds arriving flow counts =>
      have called : confirmFrame b' cfg' (cfg'.rxSdu e.r).txConfirmationId s =
          ((s.setChannel (cfg'.rxSdu e.r).channelId
            { ch with initialTicks := (getElapsedValue b' s 0).1 }).setSub
              (cfg'.rxSdu e.r).channelId .rxWaitForConsecutiveFrame).setConfirmation
                (cfg'.rxSdu e.r).txConfirmationId b'.invalidChannel := by
        simp only [confirmFrame, entry, if_pos bound, sub, record, fcTxConfirmation,
          State.setChannel_channel, Function.update_self, flow]
      rw [called]
      refine ⟨at'.running, at'.param, ?_, at'.told⟩
      simp only [State.setConfirmation_subState, State.setSub_subState, Function.update_self,
        State.setConfirmation_txConfirmationChannel, State.setConfirmation_channel,
        State.setSub_channel, State.setChannel_channel]
      exact .collecting later rounds
        ⟨arriving.active, arriving.remaining, arriving.rxDl, arriving.sn, arriving.lock⟩
        ⟨counts.within, counts.ahead, counts.least, counts.exact, counts.small⟩

theorem ReceiverAt.frameConfirmed (at' : ReceiverAt fit payload base bs j f g h s) :
    ReceiverAt fit payload base bs j f g g
      (txConfirmation b' cfg' env (cfg'.rxSdu e.r).txConfirmationId s) := by
  have configured := cfg'.rxSdu_confirmation e.r e.r_lt
  have confirmed := at'.confirmed
  have called : txConfirmation b' cfg' env (cfg'.rxSdu e.r).txConfirmationId s =
      burstMainFunction b' cfg' env (s.txConfirmationChannel (cfg'.rxSdu e.r).txConfirmationId)
        .txConfirmation (confirmFrame b' cfg' (cfg'.rxSdu e.r).txConfirmationId s) := by
    simp only [txConfirmation, devCheck, if_pos at'.running, if_neg (Nat.not_le.mpr configured)]
  rw [called, burstMainFunction_idle]
  · exact confirmed
  · rintro bound
    rcases at'.phase.entry with ⟨free, -⟩ | ⟨own, -⟩
    · rw [free] at bound
      exact absurd bound (Nat.not_lt.mpr cfg'.channels_fit)
    · rw [own]
      exact confirmed.phase.not_sending

end Confirmations

end AnchorNode.CanTp
