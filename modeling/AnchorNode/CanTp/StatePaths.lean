import AnchorNode.CanTp.Moves

/-! Every state function follows the channel relation. -/

namespace AnchorNode.CanTp

open AnchorNode.Lib

section Lapses
variable (b : Build) (cfg : Config b) (env : Env)

def RequestBlocked (s : State) (c : Nat) : Prop :=
  let connection := cfg.txSdu (s.channel c).activeSduId
  s.subState c = .txTransmissionRequestAccepted ∧
    s.txConfirmationChannel connection.txConfirmationId ≠ b.invalidChannel ∧
    elapsedSince b s.ticks (s.channel c).initialTicks >
      (cfg.timeOut connection.timeOutId).asArTicks

def ConfirmationTimeout (s : State) (c : Nat) : Prop :=
  let elapsed := elapsedSince b s.ticks (s.channel c).initialTicks
  let txConnection := cfg.txSdu (s.channel c).activeSduId
  let rxConnection := cfg.rxSdu (s.channel c).activeSduId
  (s.subState c = .txWaitForTransmitConfirmation ∧
      s.txConfirmationChannel txConnection.txConfirmationId ≠ b.invalidChannel ∧
      elapsed > (cfg.timeOut txConnection.timeOutId).asArTicks) ∨
    (s.subState c = .rxWaitForFcTransmitConfirmation ∧
      s.txConfirmationChannel rxConnection.txConfirmationId ≠ b.invalidChannel ∧
      elapsed > (cfg.timeOut rxConnection.timeOutId).asArTicks)

def IndicatedTwice (s : State) (c : Nat) : Prop :=
  let ch := s.channel c
  let connection := cfg.rxSdu ch.activeSduId
  s.subState c = .rxSendFc ∧
    s.txConfirmationChannel connection.txConfirmationId = b.invalidChannel ∧
    ch.flowStatus = .wait ∧ (env.copyRxData s.log connection.pduRPduHandleId []).1 ≠ .ok ∧
    (elapsedSince b s.ticks ch.initialTicks ≥ (cfg.timeOut connection.timeOutId).bsBrTicks ∨
      ch.fcWait = 0) ∧
    (cfg.param connection.paramId).fcWaitMax ≤ ch.fcWait

/-- The lapses of `CanTp_Prv_ExecuteState`. -/
def StateLapse (s : State) (c : Nat) : Lapse → Prop
  | .blockedTimeout => RequestBlocked b cfg s c
  | .doubleIndication => IndicatedTwice b cfg env s c
  | .abandonedFrame => RequestBlocked b cfg s c ∨ ConfirmationTimeout b cfg s c
  | _ => False

instance (s : State) (c : Nat) : Decidable (RequestBlocked b cfg s c) :=
  inferInstanceAs (Decidable (_ ∧ _))

instance (s : State) (c : Nat) : Decidable (ConfirmationTimeout b cfg s c) :=
  inferInstanceAs (Decidable (_ ∨ _))

instance (s : State) (c : Nat) : Decidable (IndicatedTwice b cfg env s c) :=
  inferInstanceAs (Decidable (_ ∧ _))

instance (s : State) (c : Nat) : (l : Lapse) → Decidable (StateLapse b cfg env s c l)
  | .blockedTimeout => inferInstanceAs (Decidable (RequestBlocked b cfg s c))
  | .doubleIndication => inferInstanceAs (Decidable (IndicatedTwice b cfg env s c))
  | .abandonedFrame =>
    inferInstanceAs (Decidable (RequestBlocked b cfg s c ∨ ConfirmationTimeout b cfg s c))
  | .foreignConfirmation | .droppedTransmission | .foreignIndication | .replacedPending
  | .staleConfirmation | .missizedFrame | .confirmation => inferInstanceAs (Decidable False)

end Lapses

section Assembly
variable {b : Build} {cfg : Config b} {env : Env}

theorem sub8_le (n m : Nat) (small : n < 256) (le : m ≤ n) : sub8 n m = n - m := by
  simp only [sub8]
  omega

theorem u8_small {n : Nat} (small : n < 256) : u8 n = n := Nat.mod_eq_of_lt small

theorem addressSize_le (f : Fin 5) : addressSize f ≤ 1 := by
  revert f
  decide

theorem pciOffset_le (f : Fin 5) : pciOffset f ≤ 1 := by
  unfold pciOffset
  split <;> omega

theorem canDl_bounds (d : CanDl) : 8 ≤ d.val ∧ d.val ≤ 64 := by
  obtain ⟨n, member⟩ := d
  simp only [List.mem_cons, List.not_mem_nil, or_false] at member
  simp only
  omega

theorem getTxDl_bounds (connection : TxSdu) :
    8 ≤ getTxDl b connection ∧ getTxDl b connection ≤ 64 := by
  unfold getTxDl
  split
  · exact canDl_bounds _
  · decide

theorem canDlTable_bounds : ∀ n ≤ 64, n ≤ canDlTable.getD n 0 ∧ 8 ≤ canDlTable.getD n 0 ∧
    canDlTable.getD n 0 ≤ 64 := by
  decide

theorem getCanDl_lower {n : Nat} (inside : n ≤ 64) : 8 ≤ getCanDl b n := by
  unfold getCanDl
  split
  · exact (canDlTable_bounds n inside).2.1
  · decide

private theorem sequence_byte (sn : Nat) : (UInt8.ofNat (0x20 ||| sn)).toNat % 16 = sn % 16 := by
  have low : (0x20 ||| sn) % 16 = sn % 16 := by
    have split := @Nat.or_mod_two_pow 0x20 sn 4
    simpa using split
  rw [UInt8.toNat_ofNat']
  omega

private theorem write_head (m : Mem) (offset : Nat) (byte : UInt8) :
    m.write offset [byte] offset = byte := by
  simpa using write_inside m offset [byte] 0 (by simp)

structure Built (s : State) (result : State × Option Frame)
    (holds : Frame → Prop) : Prop where
  state : ∃ events, result.1 = { s with log := s.log ++ events } ∧
    ∀ e ∈ events, e.isNoise = true
  frame : ∀ frame, result.2 = some frame → holds frame

private theorem Built.copied {s : State} {c x id n : Nat} {answer : BufReq × Mem × Nat}
    {frame : Frame} {holds : Frame → Prop} (right : holds frame) :
    Built s
      (if answer.1 ≠ .ok then
        ((s.emit (.copyTxData c x id (answer.2.1.read 0 n) answer.1 answer.2.2)).emit
          (.reportRunTimeError .triggerTransmit .com), none)
      else (s.emit (.copyTxData c x id (answer.2.1.read 0 n) answer.1 answer.2.2), some frame))
      holds := by
  split
  · refine ⟨⟨[.copyTxData c x id (answer.2.1.read 0 n) answer.1 answer.2.2,
      .reportRunTimeError .triggerTransmit .com], ?_, by simp [Event.isNoise]⟩, by simp⟩
    simp [State.emit]
  · refine ⟨⟨[_], rfl, by simp [Event.isNoise]⟩, ?_⟩
    intro frame' present
    obtain rfl := Option.some.inj present
    exact right

def FrameShape (b : Build) (cfg : Config b) (ch : Channel) (frame : Frame) : Prop :=
  frame.payload.length = payloadLength b cfg ch ∧
    (ch.pciId = .cf → 0 < ch.sduLengthRemaining →
      (frame.bytes.getD (pciOffset (cfg.txSdu ch.activeSduId).addressFormatId) 0).toNat % 16 =
        ch.sn % 16)

theorem createTxSingleFrame_built {s : State} {c : Nat}
    (waiting : s.subState c = .txWaitForTransmitConfirmation)
    (single : (s.channel c).pciId.frameType = .single) :
    Built s (createTxSingleFrame b cfg env s c) (FrameShape b cfg (s.channel c)) := by
  simp only [createTxSingleFrame, if_pos waiting]
  apply Built.copied
  refine ⟨by simp [payloadLength, single], ?_⟩
  intro cf
  simp [cf, Npci.frameType] at single

theorem createTxFirstFrame_built {s : State} {c : Nat}
    (waiting : s.subState c = .txWaitForTransmitConfirmation)
    (first : (s.channel c).pciId.frameType = .first) :
    Built s (createTxFirstFrame b cfg env s c) (FrameShape b cfg (s.channel c)) := by
  simp only [createTxFirstFrame, if_pos waiting]
  apply Built.copied
  refine ⟨by simp [payloadLength, first], ?_⟩
  intro cf
  simp [cf, Npci.frameType] at first

theorem createTxConsecutiveFrame_built {s : State} {c : Nat}
    (waiting : s.subState c = .txWaitForTransmitConfirmation)
    (consecutive : (s.channel c).pciId.frameType = .consecutive) :
    Built s (createTxConsecutiveFrame b cfg env s c) (FrameShape b cfg (s.channel c)) := by
  simp only [createTxConsecutiveFrame, if_pos waiting]
  apply Built.copied
  refine ⟨by simp [payloadLength, consecutive], ?_⟩
  intro _ positive
  have offset := pciOffset_le (cfg.txSdu (s.channel c).activeSduId).addressFormatId
  have txDl := getTxDl_bounds (b := b) (cfg.txSdu (s.channel c).activeSduId)
  have address := addressSize_le (cfg.txSdu (s.channel c).activeSduId).addressFormatId
  rw [getD_read, write_head, sequence_byte]
  -- the PCI byte lies inside the frame, whether it was cut, padded or full
  split
  · rename_i short
    have room : sub8 (getTxDl b (cfg.txSdu (s.channel c).activeSduId))
        (addressSize (cfg.txSdu (s.channel c).activeSduId).addressFormatId + cfPciSize) ≤ 63 := by
      rw [sub8_le _ _ (by omega) (by simp only [cfPciSize]; omega)]
      simp only [cfPciSize]
      omega
    rw [cfLength, if_neg (by omega), u8_small (by omega)]
    simp only [padFrame]
    split
    · have lower := getCanDl_lower (b := b)
        (n := addressSize (cfg.txSdu (s.channel c).activeSduId).addressFormatId + cfPciSize +
          (s.channel c).sduLengthRemaining) (by simp only [cfPciSize]; omega)
      simp only
      omega
    · simp only [cfPciSize]
      rw [u8_small (by omega)]
      omega
  · simp only
    omega

theorem createFrame_built (b : Build) (cfg : Config b) (env : Env) {s : State} {c : Nat}
    (waiting : s.subState c = .txWaitForTransmitConfirmation) :
    Built s (createFrame b cfg env s c) (FrameShape b cfg (s.channel c)) := by
  unfold createFrame
  split
  · exact createTxSingleFrame_built waiting ‹_›
  · exact createTxFirstFrame_built waiting ‹_›
  · exact createTxConsecutiveFrame_built waiting ‹_›
  · refine ⟨⟨[], ?_, by simp⟩, ?_⟩
    · simp [createTxFlowControlFrame, waiting]
    · simp [createTxFlowControlFrame, waiting]

theorem createFrame_flow (b : Build) (cfg : Config b) (env : Env) {s : State} {c : Nat}
    (waiting : s.subState c = .rxWaitForFcTransmitConfirmation)
    (flow : (s.channel c).pciId = .fc) :
    ∃ frame, createFrame b cfg env s c = (s, some frame) := by
  simp only [createFrame, flow, Npci.frameType, createTxFlowControlFrame, if_pos waiting]
  split
  · exact ⟨_, rfl⟩
  · exact ⟨_, rfl⟩

end Assembly

section Sending
variable {b : Build} {cfg : Config b} {env : Env} {lapse : Lapse → Prop}

@[simp] theorem pduRConfirmation_channel (api : PduRApi) (s : State) (c sdu id : Nat)
    (result : StdReturn) : (pduRConfirmation api s c sdu id result).channel = s.channel := by
  cases api <;> rfl

@[simp] theorem endWithError_channel (ctx : TxContext) (error : ErrorId) (s : State) :
    (endWithError ctx error s).channel = s.channel := by
  simp [endWithError]

structure TxFor (b : Build) (cfg : Config b) (now c : Nat) (ch : Channel) (ctx : TxContext) :
    Prop where
  api : ctx.pduRApi = .tx
  channel : ctx.channelId = c
  sdu : ctx.sduId = ch.activeSduId
  confirmation : ctx.txConfirmationId = (cfg.txSdu ch.activeSduId).txConfirmationId
  handle : ctx.pduRPduHandleId = (cfg.txSdu ch.activeSduId).pduRPduHandleId
  value : ctx.value = stamp b now

theorem txContext_for (s : State) (c n : Nat) :
    TxFor b cfg s.ticks c (s.channel c) (txContext b cfg s c n) :=
  ⟨rfl, rfl, rfl, rfl, rfl, rfl⟩

theorem endWithError_tx {s : State} {c : Nat} {ctx : TxContext} (error : ErrorId)
    (bound : c < cfg.numberOfChannels) (own : TxFor b cfg s.ticks c (s.channel c) ctx)
    (active : (s.subState c).state = .transmission)
    (free : s.subState c ≠ .txWaitForTransmitConfirmation) :
    Path b cfg lapse s (endWithError ctx error s) := by
  refine step_path [] [.reportRunTimeError .mainFunction error] bound
    (.txEnd (s.channel c) active fun waiting => absurd waiting free) ?_ no_noise (report_noise _ _)
  have idle : (s.subState c == .txWaitForTransmitConfirmation) = false := by simpa using free
  constructor <;>
    simp [endWithError, pduRConfirmation, own.api, own.channel, own.sdu, own.handle,
      State.view, releasedTable, idle]

theorem txBuffer_path {s s' : State} {c : Nat} (status : TxBufferStatus) (events : List Event)
    (bound : c < cfg.numberOfChannels)
    (waiting : s.subState c = .txTransmissionRequestAccepted ∨
      s.subState c = .txSendConsecutiveFrame)
    (noise : ∀ e ∈ events, e.isNoise = true)
    (same : s' = { s with
      log := s.log ++ events
      channel := Function.update s.channel c { s.channel c with txBufferStatus := status } }) :
    Path b cfg lapse s s' := by
  refine step_path [] events bound (.txBuffer (v := s.view c) status waiting) ?_ (by simp) noise
  subst same
  constructor <;> simp [State.view]

theorem getTxBuffer_path (env : Env) (lapse : Lapse → Prop) {s : State} {c : Nat} {ctx : TxContext}
    (bound : c < cfg.numberOfChannels) (own : TxFor b cfg s.ticks c (s.channel c) ctx)
    (waiting : s.subState c = .txTransmissionRequestAccepted ∨
      s.subState c = .txSendConsecutiveFrame) :
    Path b cfg lapse s (getTxBuffer b env ctx s) ∧
      (((getTxBuffer b env ctx s).channel c).txBufferStatus = .available →
        ∃ events, (∀ e ∈ events, e.isNoise = true) ∧ getTxBuffer b env ctx s = { s with
          log := s.log ++ events
          channel := Function.update s.channel c
            { s.channel c with txBufferStatus := .available } }) := by
  have active : (s.subState c).state = .transmission := by
    rcases waiting with sub | sub <;> simp [sub, SubState.state]
  have free : s.subState c ≠ .txWaitForTransmitConfirmation := by
    rcases waiting with sub | sub <;> simp [sub]
  have unchanged (available : (s.channel c).txBufferStatus = .available) :
      ∃ events : List Event, (∀ e ∈ events, e.isNoise = true) ∧ s = { s with
        log := s.log ++ events
        channel := Function.update s.channel c
          { s.channel c with txBufferStatus := .available } } := by
    refine ⟨[], by simp, ?_⟩
    have whole : { s.channel c with txBufferStatus := .available } = s.channel c := by
      rw [← available]
    rw [whole, Function.update_eq_self, List.append_nil]
  have asked (e : Event) (noise : e.isNoise = true) (error : ErrorId) :
      Path b cfg lapse s (endWithError ctx error (s.emit e)) :=
    (emit_silent s e noise).path.trans
      (endWithError_tx error bound (s := s.emit e) own active free)
  obtain ⟨api, rfl, sdu, confirmation, handle, value⟩ := own
  simp only [getTxBuffer]
  split
  · split
    · rename_i missing
      split
      · split
        · refine ⟨txBuffer_path .available [_] bound waiting (by simp [Event.isNoise]) rfl, ?_⟩
          intro _
          exact ⟨[_], by simp [Event.isNoise], rfl⟩
        · split
          · simp only [pageConfirmation]
            split
            · refine ⟨(emit_silent s _ rfl).path.trans
                (txBuffer_path .asked [_] bound waiting (by simp [Event.isNoise]) rfl), by simp⟩
            · exact ⟨(emit_silent _ _ rfl).path, fun available => absurd available missing⟩
          · exact ⟨(emit_silent _ _ rfl).path, fun available => absurd available missing⟩
      · exact ⟨(emit_silent _ _ rfl).path, fun available => absurd available missing⟩
      · exact ⟨asked _ rfl .com, by simp [missing]⟩
    · rename_i available
      exact ⟨Path.refl s, fun _ => unchanged (not_not.mp available)⟩
  · split
    · rename_i missing
      exact ⟨endWithError_tx .txCom bound ⟨api, rfl, sdu, confirmation, handle, value⟩ active free,
        by simp [missing]⟩
    · rename_i available
      exact ⟨Path.refl s, fun _ => unchanged (not_not.mp available)⟩

def handedOver (ctx : TxContext) (s : State) (frame : Frame) : SentFrame where
  ch := ctx.channelId
  sdu := ctx.sduId
  pduId := ctx.pduId
  confirmationId := ctx.txConfirmationId
  pciId := (s.channel ctx.channelId).pciId
  bytes := frame.bytes
  payload := frame.payload
  ticks := s.ticks

/-- The three outcomes of `CanTp_Prv_CanIfTransmit`: no frame, a frame taken by the CAN
interface, a frame refused by it. -/
theorem canIfTransmit_cases {s : State} (ctx : TxContext) {holds : Frame → Prop}
    (built : Built s (createFrame b cfg env s ctx.channelId) holds) :
    ∃ events, (∀ e ∈ events, e.isNoise = true) ∧
      (((createFrame b cfg env s ctx.channelId).2 = none ∧
          canIfTransmit b cfg env ctx s = { s with log := s.log ++ events }) ∨
        ∃ frame, holds frame ∧
          (canIfTransmit b cfg env ctx s = { s with
              log := s.log ++ (events ++ [.canIfTransmit (handedOver ctx s frame) .ok])
              txConfirmationChannel := Function.update s.txConfirmationChannel
                ctx.txConfirmationId ctx.channelId } ∨
            canIfTransmit b cfg env ctx s = (endWithError ctx .com { s with
              log := s.log ++ (events ++ [.canIfTransmit (handedOver ctx s frame) .notOk])
                }).setConfirmation ctx.txConfirmationId b.invalidChannel)) := by
  obtain ⟨⟨events, state, noise⟩, shape⟩ := built
  refine ⟨events, noise, ?_⟩
  simp only [canIfTransmit]
  generalize createFrame b cfg env s ctx.channelId = created at state shape ⊢
  obtain ⟨after, outcome⟩ := created
  obtain rfl : after = _ := state
  cases outcome with
  | none => exact Or.inl ⟨rfl, rfl⟩
  | some frame =>
      refine Or.inr ⟨frame, shape frame rfl, ?_⟩
      cases answer : env.canIfTransmit (s.log ++ events) ctx.pduId frame.bytes with
      | ok =>
          refine Or.inl ?_
          simp [State.setConfirmation, State.emit, handedOver, answer]
      | notOk =>
          refine Or.inr ?_
          cases api : ctx.pduRApi <;>
            simp [State.setConfirmation, State.emit, State.setSub, handedOver, answer,
              endWithError, pduRConfirmation, api]

theorem sendFrame_path {s : State} {c : Nat} {ctx : TxContext} {pciId : Npci}
    (bound : c < cfg.numberOfChannels) (own : TxFor b cfg s.ticks c (s.channel c) ctx)
    (ready : ReadyToSend b s.ticks (s.view c) pciId)
    (free : s.txConfirmationChannel ctx.txConfirmationId = b.invalidChannel) :
    Path b cfg lapse s (sendFrame b cfg env ctx pciId s) := by
  obtain ⟨api, rfl, sdu, confirmation, handle, value⟩ := own
  rw [confirmation] at free
  let s₁ := (s.setChannel ctx.channelId
    { s.channel ctx.channelId with pciId, initialTicks := ctx.value }).setSub ctx.channelId
      .txWaitForTransmitConfirmation
  have waiting : s₁.subState ctx.channelId = .txWaitForTransmitConfirmation := by simp [s₁]
  have frameOf (frame : Frame)
      (shape : FrameShape b cfg (s₁.channel ctx.channelId) frame) :
      DataFrame b cfg s.ticks ctx.channelId
        (sentChannel b s.ticks (s.channel ctx.channelId) pciId) (handedOver ctx s₁ frame) := by
    obtain ⟨payload, sequence⟩ := shape
    simp only [s₁, State.setSub_channel, State.setChannel_channel, Function.update_self]
      at payload sequence
    refine ⟨rfl, sdu, confirmation, ?_, payload, ?_, rfl⟩
    · simp [handedOver, s₁, sentChannel]
    · simpa [SentFrame.sequenceNumber, handedOver, sdu, sentChannel] using sequence
  obtain ⟨events, noise, ⟨-, none⟩ | ⟨frame, shape, sent | refused⟩⟩ :=
    canIfTransmit_cases ctx (createFrame_built b cfg env waiting)
  · simp only [sendFrame]
    rw [show canIfTransmit b cfg env ctx _ = _ from none]
    refine step_path [] events bound (.txSendFailed ready free) ?_ (by simp) noise
    constructor <;> simp [s₁, sentChannel, State.view, value]
  · simp only [sendFrame]
    rw [show canIfTransmit b cfg env ctx _ = _ from sent]
    refine step_path events [] bound (.txSent ready free (frameOf frame shape)) ?_ noise no_noise
    constructor <;> simp [s₁, sentChannel, State.view, value, confirmation]
  · simp only [sendFrame]
    rw [show canIfTransmit b cfg env ctx _ = _ from refused]
    refine step_path events [.reportRunTimeError .mainFunction .com] bound
      (.txRefused (sentChannel b s.ticks (s.channel ctx.channelId) pciId) ready free
        (frameOf frame shape)) ?_ noise (report_noise _ _)
    constructor <;>
      simp [s₁, sentChannel, State.view, value, confirmation, endWithError, pduRConfirmation,
        api, sdu, handle]

theorem getTxBuffer_send_path {s : State} {c : Nat} {ctx : TxContext}
    (guard : Channel → Prop) [DecidablePred guard] (env : Env) (pciId : Npci)
    (bound : c < cfg.numberOfChannels)
    (own : TxFor b cfg s.ticks c (s.channel c) ctx)
    (waiting : s.subState c = .txTransmissionRequestAccepted ∨
      s.subState c = .txSendConsecutiveFrame)
    (ready : ∀ status, guard { s.channel c with txBufferStatus := status } →
      ReadyToSend b s.ticks
        ⟨s.subState c, { s.channel c with txBufferStatus := status }, s.txConfirmationChannel⟩
        pciId)
    (free : s.txConfirmationChannel ctx.txConfirmationId = b.invalidChannel) :
    Path b cfg lapse s
      (if ((getTxBuffer b env ctx s).channel c).txBufferStatus = .available ∧
          guard ((getTxBuffer b env ctx s).channel c) then
        sendFrame b cfg env ctx pciId (getTxBuffer b env ctx s)
      else getTxBuffer b env ctx s) := by
  obtain ⟨path, available⟩ :=
    getTxBuffer_path env lapse bound own waiting
  split
  · rename_i go
    obtain ⟨events, _, same⟩ := available go.1
    refine path.trans ?_
    have allowed := go.2
    rw [same] at allowed ⊢
    simp only [Function.update_self] at allowed
    refine sendFrame_path bound ?_ ?_ free
    · simpa using ⟨own.api, own.channel, own.sdu, own.confirmation, own.handle, own.value⟩
    · simpa [State.view] using ready .available allowed
  · exact path

theorem requestAccepted_path {s : State} {c : Nat} (bound : c < cfg.numberOfChannels)
    (accepted : s.subState c = .txTransmissionRequestAccepted)
    (lapses : ∀ l, StateLapse b cfg env s c l → lapse l) :
    Path b cfg lapse s (requestAccepted b cfg env s c) := by
  simp only [requestAccepted]
  split
  · rename_i free
    generalize requestPayLoad b cfg (s.channel c) = n
    let s₁ := s.setChannel c { s.channel c with
      blockCfsRemaining := 0, sduLengthRemaining := (s.channel c).sduLength, sn := 1 }
    have prepared : Path b cfg lapse s s₁ := by
      refine step_path [] [] bound (.txPrepare (v := s.view c) accepted) ?_ no_noise no_noise
      constructor <;> simp [s₁, State.view]
    have own : TxFor b cfg s₁.ticks c (s₁.channel c) (txContext b cfg s c n) := by
      simpa [s₁] using ⟨rfl, rfl, rfl, rfl, rfl, rfl⟩
    have sent : Path b cfg lapse s₁ _ :=
      getTxBuffer_send_path (fun _ => True) env (s.channel c).pciId bound own (Or.inl accepted)
        (fun status _ =>
          Or.inl ⟨accepted, by simp [s₁], by simp [s₁], by simp [s₁], by simp [s₁]⟩) free
    simpa [s₁] using prepared.trans sent
  · split
    · rename_i blocked late
      have request : RequestBlocked b cfg s c := ⟨accepted, blocked, late⟩
      refine step_path [] [.reportRunTimeError .mainFunction .txCom] bound
        (.txBlockedTimeout accepted blocked (lapses .blockedTimeout request)
          (lapses .abandonedFrame (Or.inl request))) ?_ no_noise (report_noise _ _)
      constructor <;> simp [State.view, pduRConfirmation]
    · exact Path.refl s

theorem txSendConsecutiveFrame_path {s : State} {c : Nat} (bound : c < cfg.numberOfChannels) :
    Path b cfg lapse s (txSendConsecutiveFrame b cfg env s c) := by
  simp only [txSendConsecutiveFrame]
  split
  · rename_i ready
    obtain ⟨sending, free⟩ := ready
    generalize (if (s.channel c).sduLengthRemaining < _ then _ else _) = n
    have own : TxFor b cfg s.ticks c _ _ := txContext_for s c n
    refine getTxBuffer_send_path
      (fun ch => (txContext b cfg s c n).elapsedValue ≥ ch.stMinTicks ∨ ch.pciId ≠ .cf)
      env .cf bound own (Or.inr sending) ?_ free
    intro status allowed
    exact Or.inr ⟨sending, rfl, allowed⟩
  · exact Path.refl s

theorem txWaitForFlowControlFrame_path {s : State} {c : Nat} (bound : c < cfg.numberOfChannels) :
    Path b cfg lapse s (txWaitForFlowControlFrame b cfg s c) := by
  simp only [txWaitForFlowControlFrame]
  split
  · rename_i late
    refine endWithError_tx .txCom bound (txContext_for s c 0) ?_ ?_
    · simp [late.1, SubState.state]
    · simp [late.1]
  · exact Path.refl s

theorem txWaitForTransmitConfirmation_path {s : State} {c : Nat}
    (bound : c < cfg.numberOfChannels)
    (lapses : ∀ l, StateLapse b cfg env s c l → lapse l) :
    Path b cfg lapse s (txWaitForTransmitConfirmation b cfg s c) := by
  simp only [txWaitForTransmitConfirmation]
  split
  · rename_i late
    obtain ⟨waiting, elapsed⟩ := late
    refine step_path [] [.reportRunTimeError .mainFunction .txCom] bound
      (.txEnd (s.channel c) ?_ ?_) ?_ no_noise (report_noise _ _)
    · simp [State.view, waiting, SubState.state]
    · intro _ recorded
      exact lapses .abandonedFrame (Or.inr (Or.inl ⟨waiting, recorded, elapsed⟩))
    · constructor <;>
        simp [endWithError, pduRConfirmation, txContext, State.view, releasedTable, waiting]
  · exact Path.refl s

end Sending

section FlowControl
variable {b : Build} {cfg : Config b} {env : Env} {lapse : Lapse → Prop}

structure RxFor (b : Build) (cfg : Config b) (now c : Nat) (ch : Channel) (ctx : TxContext) :
    Prop where
  api : ctx.pduRApi = .rx
  channel : ctx.channelId = c
  sdu : ctx.sduId = ch.activeSduId
  confirmation : ctx.txConfirmationId = (cfg.rxSdu ch.activeSduId).txConfirmationId
  handle : ctx.pduRPduHandleId = (cfg.rxSdu ch.activeSduId).pduRPduHandleId
  value : ctx.value = stamp b now

theorem rxContext_for (s : State) (c n : Nat) :
    RxFor b cfg s.ticks c (s.channel c) (rxContext b cfg s c n) :=
  ⟨rfl, rfl, rfl, rfl, rfl, rfl⟩

theorem endWithError_rx {s : State} {c : Nat} {ctx : TxContext} (error : ErrorId)
    (bound : c < cfg.numberOfChannels) (own : RxFor b cfg s.ticks c (s.channel c) ctx)
    (active : (s.subState c).state = .reception)
    (free : s.subState c ≠ .rxWaitForFcTransmitConfirmation) :
    Path b cfg lapse s (endWithError ctx error s) := by
  refine step_path [] [.reportRunTimeError .mainFunction error] bound
    (.rxEnd (s.channel c) active fun waiting => absurd waiting free) ?_ no_noise (report_noise _ _)
  have idle : (s.subState c == .rxWaitForFcTransmitConfirmation) = false := by simpa using free
  constructor <;>
    simp [endWithError, pduRConfirmation, own.api, own.channel, own.sdu, own.handle,
      State.view, releasedTable, idle]

theorem fcTransmit_path {s : State} {c : Nat} {ctx : TxContext} {ready : Bool}
    (bound : c < cfg.numberOfChannels) (own : RxFor b cfg s.ticks c (s.channel c) ctx)
    (free : s.txConfirmationChannel ctx.txConfirmationId = b.invalidChannel)
    (wait : ready = true → s.subState c = .rxSendFc → (s.channel c).flowStatus = .wait →
      0 < (s.channel c).sduLengthRemaining) :
    Path b cfg lapse s (fcTransmit b cfg env ctx ready s) := by
  obtain ⟨api, rfl, sdu, confirmation, handle, value⟩ := own
  rw [confirmation] at free
  simp only [fcTransmit]
  split
  · rename_i go
    obtain ⟨isReady, sending⟩ := go
    split
    · split
      · rename_i granted
        refine step_path [] [] bound (.fcSkipped (v := s.view ctx.channelId)
          { s.channel ctx.channelId with
            initialTicks := ctx.value
            pciId := .fc
            blockCfsRemaining := getRxBlockCfs b cfg
              { s.channel ctx.channelId with initialTicks := ctx.value, pciId := .fc }
            stMinTicks := b.defaultStMinTicks }
          sending granted.1 rfl rfl rfl rfl rfl rfl) ?_ no_noise no_noise
        constructor <;> simp [State.view]
      · refine step_path [] [] bound (.rxEnd (v := s.view ctx.channelId)
          { s.channel ctx.channelId with initialTicks := ctx.value, pciId := .fc } ?_ ?_) ?_
            no_noise no_noise
        · simp [State.view, sending, SubState.state]
        · simp [State.view, sending]
        · constructor <;>
            simp [State.view, pduRConfirmation, api, sdu, handle, releasedTable, sending]
    · let s₁ := (s.setChannel ctx.channelId
        { s.channel ctx.channelId with initialTicks := ctx.value, pciId := .fc }).setSub
          ctx.channelId .rxWaitForFcTransmitConfirmation
      obtain ⟨frame, created⟩ := createFrame_flow b cfg env (s := s₁)
        (c := ctx.channelId) (by simp [s₁]) (by simp [s₁])
      have built : Built s₁ (createFrame b cfg env s₁ ctx.channelId) fun _ => True := by
        rw [created]
        exact ⟨⟨[], by simp, by simp⟩, fun _ _ => trivial⟩
      have frameOf (frame : Frame) : FlowFrame b cfg s.ticks ctx.channelId
          (s.channel ctx.channelId) (handedOver ctx s₁ frame) := by
        exact ⟨rfl, sdu, confirmation, by simp [handedOver, s₁], rfl⟩
      obtain ⟨events, noise, ⟨none, -⟩ | ⟨frame, -, sent | refused⟩⟩ :=
        canIfTransmit_cases ctx built
      · simp [created] at none
      · rw [show canIfTransmit b cfg env ctx _ = _ from sent]
        refine step_path events [] bound
          (.fcSent sending free (wait isReady sending) (frameOf frame)) ?_ noise no_noise
        constructor <;> simp [s₁, State.view, value, confirmation]
      · rw [show canIfTransmit b cfg env ctx _ = _ from refused]
        refine step_path events [.reportRunTimeError .mainFunction .com] bound
          (.fcRefused (s₁.channel ctx.channelId) sending free (frameOf frame)) ?_ noise
            (report_noise _ _)
        constructor <;>
          simp [s₁, State.view, confirmation, endWithError, pduRConfirmation, api, sdu, handle]
  · exact Path.refl s

structure SameReception (ch ch' : Channel) : Prop where
  active : ch'.activeSduId = ch.activeSduId
  length : ch'.sduLength = ch.sduLength
  remaining : ch'.sduLengthRemaining = ch.sduLengthRemaining
  sn : ch'.sn = ch.sn
  rxDl : ch'.rxDl = ch.rxDl

theorem setRxBlockInfo_same (s : State) (ch : Channel) (remBufSize : Nat) :
    SameReception ch (setRxBlockInfo b cfg s ch remBufSize) := by
  simp only [setRxBlockInfo]
  split <;> exact ⟨rfl, rfl, rfl, rfl, rfl⟩

theorem setRxBlockInfo_flow (cfg : Config b) (s : State) (ch : Channel) (remBufSize : Nat) :
    (setRxBlockInfo b cfg s ch remBufSize).flowStatus = .cts ∨
      ((setRxBlockInfo b cfg s ch remBufSize).flowStatus = .wait ∧
        0 < ch.sduLengthRemaining) := by
  simp only [setRxBlockInfo]
  split
  · refine Or.inr ⟨rfl, ?_⟩
    omega
  · exact Or.inl rfl

theorem fcPrepare_path {s : State} {c : Nat} {ch : Channel} (bound : c < cfg.numberOfChannels)
    (sending : s.subState c = .rxSendFc) (same : SameReception (s.channel c) ch)
    (flow : ch.flowStatus = .overflow ↔ (s.channel c).flowStatus = .overflow) :
    Path b cfg lapse s (s.setChannel c ch) := by
  refine step_path [] [] bound (.fcPrepare (v := s.view c) ch sending same.active
    same.length same.remaining same.sn same.rxDl flow) ?_ no_noise no_noise
  constructor <;> simp [State.view]

theorem fcWaitRound_idle (lapse : Lapse → Prop) (ready : Bool) {s : State} {c : Nat}
    {ctx : TxContext}
    (bound : c < cfg.numberOfChannels) (own : RxFor b cfg s.ticks c (s.channel c) ctx)
    (idle : s.subState c = .idle)
    (twice : (s.channel c).flowStatus = .wait →
      (ctx.elapsedValue ≥ (cfg.timeOut (cfg.rxSdu (s.channel c).activeSduId).timeOutId).bsBrTicks ∨
        (s.channel c).fcWait = 0) →
      (cfg.param (cfg.rxSdu (s.channel c).activeSduId).paramId).fcWaitMax ≤ (s.channel c).fcWait →
      lapse .doubleIndication) :
    Path b cfg lapse s (fcWaitRound b cfg ctx ready s).2 ∧
      (fcWaitRound b cfg ctx ready s).2.subState c = .idle := by
  obtain ⟨api, rfl, sdu, confirmation, handle, value⟩ := own
  simp only [fcWaitRound]
  split
  · rename_i due
    split
    · refine ⟨step_path [] [] bound (.idleTouch (v := s.view ctx.channelId)
        { s.channel ctx.channelId with
          fcWait := (s.channel ctx.channelId).fcWait + 1
          initialTicks := ctx.value } idle rfl) ?_ no_noise no_noise, idle⟩
      constructor <;> simp [State.view, idle]
    · rename_i exhausted
      have lapsed := twice due.1 due.2 (Nat.le_of_not_lt exhausted)
      refine ⟨step_path [] [.reportRunTimeError .mainFunction .rxCom] bound
        (.rxDoubleIndication (v := s.view ctx.channelId) idle lapsed) ?_ no_noise
          (report_noise _ _), by simp [endWithError]⟩
      constructor <;>
        simp [State.view, endWithError, pduRConfirmation, api, sdu, handle, idle]
  · exact ⟨Path.refl s, idle⟩

theorem fcWaitRound_sending (lapse : Lapse → Prop) (ready : Bool) {s : State} {c : Nat}
    {ctx : TxContext}
    (bound : c < cfg.numberOfChannels) (own : RxFor b cfg s.ticks c (s.channel c) ctx)
    (sending : s.subState c = .rxSendFc) :
    Path b cfg lapse s (fcWaitRound b cfg ctx ready s).2 ∧
      ((fcWaitRound b cfg ctx ready s).2.subState c = .rxSendFc →
        SameReception (s.channel c) ((fcWaitRound b cfg ctx ready s).2.channel c) ∧
          ((fcWaitRound b cfg ctx ready s).2.channel c).flowStatus = (s.channel c).flowStatus ∧
          (fcWaitRound b cfg ctx ready s).2.txConfirmationChannel = s.txConfirmationChannel ∧
          (fcWaitRound b cfg ctx ready s).2.ticks = s.ticks) := by
  obtain ⟨api, rfl, sdu, confirmation, handle, value⟩ := own
  simp only [fcWaitRound]
  split
  · split
    · refine ⟨fcPrepare_path bound sending ⟨rfl, rfl, rfl, rfl, rfl⟩ Iff.rfl, ?_⟩
      intro _
      simpa using ⟨rfl, rfl, rfl, rfl, rfl⟩
    · refine ⟨endWithError_rx .rxCom bound ⟨api, rfl, sdu, confirmation, handle, value⟩ ?_ ?_, ?_⟩
      · simp [sending, SubState.state]
      · simp [sending]
      · simp [endWithError]
  · exact ⟨Path.refl s, fun _ => ⟨⟨rfl, rfl, rfl, rfl, rfl⟩, rfl, rfl, rfl⟩⟩

theorem RxFor.of_same {now c : Nat} {ch ch' : Channel} {ctx : TxContext}
    (own : RxFor b cfg now c ch ctx) (same : SameReception ch ch') :
    RxFor b cfg now c ch' ctx := by
  obtain ⟨api, channel, sdu, confirmation, handle, value⟩ := own
  rw [← same.active] at sdu confirmation handle
  exact ⟨api, channel, sdu, confirmation, handle, value⟩

theorem fcRound_path {s : State} {c : Nat} {ctx : TxContext} {ready : Bool}
    (bound : c < cfg.numberOfChannels) (own : RxFor b cfg s.ticks c (s.channel c) ctx)
    (sending : s.subState c = .rxSendFc)
    (free : s.txConfirmationChannel ctx.txConfirmationId = b.invalidChannel)
    (wait : (s.channel c).flowStatus = .wait → 0 < (s.channel c).sduLengthRemaining) :
    Path b cfg lapse s (fcTransmit b cfg env ctx (fcWaitRound b cfg ctx ready s).1
      (fcWaitRound b cfg ctx ready s).2) := by
  obtain ⟨path, kept⟩ :=
    fcWaitRound_sending lapse ready bound own sending
  refine path.trans ?_
  generalize fcWaitRound b cfg ctx ready s = waited at kept ⊢
  obtain ⟨ready', s'⟩ := waited
  by_cases still : s'.subState c = .rxSendFc
  · obtain ⟨same, flow, table, ticks⟩ := kept still
    refine fcTransmit_path bound (ticks ▸ own.of_same same) (table ▸ free) ?_
    intro _ _ waiting
    rw [same.remaining]
    exact wait (flow ▸ waiting)
  · simp only [fcTransmit, own.channel]
    rw [if_neg fun go => still go.2]
    exact Path.refl s'

theorem fcRefusedRound_path {s : State} {c : Nat} {ctx : TxContext} {ready : Bool}
    (bound : c < cfg.numberOfChannels) (own : RxFor b cfg s.ticks c (s.channel c) ctx)
    (sending : s.subState c = .rxSendFc)
    (twice : (s.channel c).flowStatus = .wait →
      (ctx.elapsedValue ≥ (cfg.timeOut (cfg.rxSdu (s.channel c).activeSduId).timeOutId).bsBrTicks ∨
        (s.channel c).fcWait = 0) →
      (cfg.param (cfg.rxSdu (s.channel c).activeSduId).paramId).fcWaitMax ≤ (s.channel c).fcWait →
      lapse .doubleIndication) :
    Path b cfg lapse s (fcTransmit b cfg env ctx
      (fcWaitRound b cfg ctx ready (endWithError ctx .com s)).1
      (fcWaitRound b cfg ctx ready (endWithError ctx .com s)).2) := by
  have ended : Path b cfg lapse s (endWithError ctx .com s) :=
    endWithError_rx .com bound own (by simp [sending, SubState.state]) (by simp [sending])
  have idle : (endWithError ctx .com s).subState c = .idle := by
    simp [endWithError, own.channel]
  have ticks : (endWithError ctx .com s).ticks = s.ticks := by
    simp [endWithError, pduRConfirmation, own.api]
  obtain ⟨path, stays⟩ := fcWaitRound_idle lapse ready bound
    (s := endWithError ctx .com s) (by simpa [ticks] using own) idle (by simpa using twice)
  refine (ended.trans path).trans ?_
  simp only [fcTransmit, own.channel, stays, reduceCtorEq, and_false, if_false]
  exact Path.refl _

theorem rxSendFlowControlFrame_path {s : State} {c : Nat} (bound : c < cfg.numberOfChannels)
    (lapses : ∀ l, StateLapse b cfg env s c l → lapse l) :
    Path b cfg lapse s (rxSendFlowControlFrame b cfg env s c) := by
  simp only [rxSendFlowControlFrame]
  split
  · rename_i go
    obtain ⟨sending, free⟩ := go
    have own : RxFor b cfg s.ticks c (s.channel c) (rxContext b cfg s c 0) := rxContext_for s c 0
    have reset : SameReception (s.channel c) { s.channel c with blockCfsRemaining := 0 } :=
      ⟨rfl, rfl, rfl, rfl, rfl⟩
    have prepared : Path b cfg lapse s
        (s.setChannel c { s.channel c with blockCfsRemaining := 0 }) :=
      fcPrepare_path bound sending reset Iff.rfl
    split
    · refine prepared.trans ?_
      rename_i flow
      let s₁ := s.setChannel c { s.channel c with blockCfsRemaining := 0 }
      let answer := env.copyRxData s₁.log (rxContext b cfg s c 0).pduRPduHandleId []
      let ctx := { rxContext b cfg s c 0 with remBufSize := answer.2 }
      let s₂ := s₁.emit (.copyRxData c ctx.sduId ctx.pduRPduHandleId [] answer.1 answer.2)
      have polled : Path b cfg lapse s₁ s₂ := (emit_silent _ _ rfl).path
      have own₂ : RxFor b cfg s₂.ticks c (s₂.channel c) ctx := by
        simpa [s₂, s₁] using ⟨rfl, rfl, rfl, rfl, rfl, rfl⟩
      refine polled.trans ?_
      by_cases refused : answer.1 ≠ .ok
      · rw [if_pos refused]
        refine fcRefusedRound_path bound own₂ sending ?_
        intro waiting due exhausted
        simp only [s₂, s₁, State.emit_channel, State.setChannel_channel, Function.update_self]
          at waiting due exhausted
        exact lapses .doubleIndication ⟨sending, free, waiting, refused, due, exhausted⟩
      · rw [if_neg refused]
        by_cases open' : (s.channel c).flowStatus ≠ .cts
        · rw [if_pos open']
          let ch := setRxBlockInfo b cfg s₂ { s.channel c with blockCfsRemaining := 0 } answer.2
          have same : SameReception (s₂.channel c) ch := by
            simpa [s₂, s₁] using setRxBlockInfo_same s₂ _ answer.2
          have settled := setRxBlockInfo_flow cfg s₂
            { s.channel c with blockCfsRemaining := 0 } answer.2
          have blocked : Path b cfg lapse s₂ (s₂.setChannel c ch) := by
            refine fcPrepare_path bound sending same ?_
            have before : (s₂.channel c).flowStatus ≠ .overflow := by simpa [s₂, s₁] using flow
            rcases settled with clear | ⟨wait, -⟩
            · simp [ch, clear, before]
            · simp [ch, wait, before]
          refine blocked.trans (fcRound_path bound ?_ sending free ?_)
          · rw [State.setChannel_channel, Function.update_self]
            exact own₂.of_same same
          · intro waiting
            simp only [State.setChannel_channel, Function.update_self] at waiting ⊢
            rcases settled with clear | ⟨-, positive⟩
            · simp [ch, clear] at waiting
            · rw [same.remaining]
              simpa [s₂, s₁] using positive
        · rw [if_neg open']
          refine fcRound_path bound own₂ sending free ?_
          intro waiting
          simp only [s₂, s₁, State.emit_channel, State.setChannel_channel, Function.update_self]
            at waiting
          simp [waiting] at open'
    · refine prepared.trans ?_
      rename_i overflow
      refine fcTransmit_path bound (by simpa using own.of_same reset) free ?_
      intro _ _ waiting
      simp only [State.setChannel_channel, Function.update_self] at waiting
      simp [waiting] at overflow
  · exact Path.refl s

theorem rxWaitForFcTransmitConfirmation_path {s : State} {c : Nat}
    (bound : c < cfg.numberOfChannels)
    (lapses : ∀ l, StateLapse b cfg env s c l → lapse l) :
    Path b cfg lapse s (rxWaitForFcTransmitConfirmation b cfg s c) := by
  simp only [rxWaitForFcTransmitConfirmation]
  split
  · rename_i late
    obtain ⟨waiting, elapsed⟩ := late
    refine step_path [] [.reportRunTimeError .mainFunction .rxCom] bound
      (.rxEnd (s.channel c) ?_ ?_) ?_ no_noise (report_noise _ _)
    · simp [State.view, waiting, SubState.state]
    · intro _ recorded
      exact lapses .abandonedFrame (Or.inr (Or.inr ⟨waiting, recorded, elapsed⟩))
    · constructor <;>
        simp [endWithError, pduRConfirmation, rxContext, State.view, releasedTable, waiting]
  · exact Path.refl s

theorem rxReceptionRequestAccepted_path {s : State} {c : Nat}
    (bound : c < cfg.numberOfChannels) :
    Path b cfg lapse s (rxReceptionRequestAccepted b cfg s c) := by
  simp only [rxReceptionRequestAccepted]
  split
  · rename_i late
    refine endWithError_rx .rxCom bound (rxContext_for s c 0) ?_ ?_
    · simp [late.1, SubState.state]
    · simp [late.1]
  · exact Path.refl s

theorem rxWaitForConsecutiveFrame_path {s : State} {c : Nat}
    (bound : c < cfg.numberOfChannels) :
    Path b cfg lapse s (rxWaitForConsecutiveFrame b cfg s c) := by
  simp only [rxWaitForConsecutiveFrame]
  split
  · rename_i late
    refine endWithError_rx .rxCom bound (rxContext_for s c 0) ?_ ?_
    · simp [late.1, SubState.state]
    · simp [late.1]
  · exact Path.refl s

end FlowControl

theorem executeState_path {b : Build} {cfg : Config b} {env : Env} {lapse : Lapse → Prop}
    {s : State} {c : Nat} (bound : c < cfg.numberOfChannels)
    (lapses : ∀ l, StateLapse b cfg env s c l → lapse l) :
    Path b cfg lapse s (executeState b cfg env s c) := by
  unfold executeState
  split
  · exact Path.refl s
  · rename_i accepted
    simp only [txTransmissionRequestAccepted, if_pos accepted, Option.getD_some]
    exact requestAccepted_path bound accepted lapses
  · exact txWaitForTransmitConfirmation_path bound lapses
  · exact txWaitForFlowControlFrame_path bound
  · exact txSendConsecutiveFrame_path bound
  · exact rxReceptionRequestAccepted_path bound
  · exact rxSendFlowControlFrame_path bound lapses
  · exact rxWaitForFcTransmitConfirmation_path bound lapses
  · exact rxWaitForConsecutiveFrame_path bound

end AnchorNode.CanTp
