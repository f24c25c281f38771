import AnchorNode.CanTp.FramePaths
import AnchorNode.CanTp.Sender

/-! What a flow control frame grants the sender, and when the receiver grants anything. -/

namespace AnchorNode.CanTp

open AnchorNode.Lib

variable {b : Build} {cfg : Config b} {s : State} {ch : Channel} {remBufSize : Nat}

/-- Payload bytes the sender may send before the next flow control frame. -/
def grantedBytes (b : Build) (cfg : Config b) (ch : Channel) : Nat :=
  min (ch.blockCfsRemaining * oneFramePayloadLength b cfg ch) ch.sduLengthRemaining

theorem oneFrame_room (cfg : Config b) (valid : isRxDlInValid b (getRxDl b ch) = false) :
    6 ≤ oneFramePayloadLength b cfg ch ∧ oneFramePayloadLength b cfg ch ≤ 63 ∧
      sub8 (getRxDl b ch) (cfPciSize + addressSize (cfg.rxSdu ch.activeSduId).addressFormatId) =
        oneFramePayloadLength b cfg ch := by
  have bounds := rxDl_bounds valid
  have address := addressSize_le (cfg.rxSdu ch.activeSduId).addressFormatId
  have wide : 2 ^ 16 ≤ 2 ^ b.lengthBits := Nat.pow_le_pow_right (by decide) b.lengthBits_le
  unfold oneFramePayloadLength cfPciSize
  rw [sub8_le _ _ (by omega) (by omega), subLength_le (by omega) (by omega)]
  omega

theorem rxBlockSize_lt (cfg : Config b) (s : State) (byte : ch.bs < 256) (remBufSize : Nat) :
    rxBlockSize b cfg s ch remBufSize < 256 := by
  have parameter := UInt8.toNat_lt (getRxParam b cfg s ch.activeSduId .bs)
  have quotient : u8 (remBufSize / oneFramePayloadLength b cfg ch) < 256 := Nat.mod_lt _ (by decide)
  simp only [rxBlockSize]
  split
  · split
    · exact parameter
    · split
      · exact parameter
      · exact quotient
  · exact byte

def Insufficient (b : Build) (cfg : Config b) (ch : Channel) (bs remBufSize : Nat) : Prop :=
  (bs = 0 ∧ remBufSize < ch.sduLengthRemaining) ∨
    (bs ≠ 0 ∧ remBufSize < u32 (bs * oneFramePayloadLength b cfg ch) ∧
      remBufSize < ch.sduLengthRemaining)

theorem setRxBlockInfo_cts_iff (cfg : Config b) (s : State) (ch : Channel) (remBufSize : Nat) :
    (setRxBlockInfo b cfg s ch remBufSize).flowStatus = .cts ↔
      ¬ Insufficient b cfg ch (rxBlockSize b cfg s ch remBufSize) remBufSize := by
  unfold setRxBlockInfo Insufficient
  simp only
  split
  · rename_i small
    simp [small]
  · rename_i enough
    simp [enough]

theorem setRxBlockInfo_cts (clear : (setRxBlockInfo b cfg s ch remBufSize).flowStatus = .cts) :
    let bs := rxBlockSize b cfg s ch remBufSize
    setRxBlockInfo b cfg s ch remBufSize =
      { ch with
        blockCfsRemaining := if bs ≠ 0 then bs else getRxBlockCfs b cfg ch
        flowStatus := .cts
        stMinTicks := if b.dynamicFcSupport then ch.stMinTicks else 0
        bs } := by
  have enough := (setRxBlockInfo_cts_iff cfg s ch remBufSize).mp clear
  unfold Insufficient at enough
  simp only [setRxBlockInfo, if_neg enough]

theorem blockCfs_covers {length payLoadLength : Nat} (room : 0 < payLoadLength) :
    length ≤ blockCfs length payLoadLength * payLoadLength := by
  have factor := Nat.div_add_mod length payLoadLength
  have rest := Nat.mod_lt length room
  unfold blockCfs
  split
  · rw [Nat.mul_comm]
    omega
  · rw [Nat.add_mul, Nat.mul_comm]
    omega

theorem createTxFlowControlFrame_pci {env : Env} {t : State} {c : Nat} {frame : Frame}
    (created : (createTxFlowControlFrame b cfg env t c).2 = some frame) {i : Nat} (inside : i < 3) :
    frame.bytes.getD (pciOffset
      (cfg.rxSdu (t.channel c).activeSduId).addressFormatId + i) 0 =
        [UInt8.ofNat (0x30 ||| (t.channel c).flowStatus.code), UInt8.ofNat (t.channel c).bs,
          getRxParam b cfg t (t.channel c).activeSduId .stMin].getD i 0 := by
  have offset := pciOffset_le (cfg.rxSdu (t.channel c).activeSduId).addressFormatId
  have pci : ∀ (m : Mem) (at' : Nat) (bytes : List UInt8), i < bytes.length →
      m.write at' bytes (at' + i) = bytes.getD i 0 := by
    intro m at' bytes short
    rw [write_inside m at' bytes i short, List.getD_eq_getElem?_getD,
      List.getElem?_eq_getElem short, Option.getD_some]
  unfold createTxFlowControlFrame at created
  simp only at created
  split at created
  · split at created
    · obtain rfl := Option.some.inj created
      rw [getD_read _ _ _ (by simp only [defaultCanDl]; omega),
        write_outside _ _ _ _ (Or.inl (by simp only [fcPciSize]; omega))]
      exact pci _ _ _ inside
    · obtain rfl := Option.some.inj created
      rw [getD_read _ _ _ (by simp only [fcPciSize]; omega)]
      exact pci _ _ _ inside
  · cases created

/-- A flow control frame clears the sender for exactly the frames the receiver counts on. -/
structure GrantsExactly (b : Build) (cfg : Config b) (ch : Channel) (bs : Nat) : Prop where
  limited : bs ≠ 0 → ch.blockCfsRemaining = bs
  unlimited : bs = 0 → ch.blockCfsRemaining = getRxBlockCfs b cfg ch ∧
    grantedBytes b cfg ch = ch.sduLengthRemaining

/-- For every receive channel with a valid RX_DL, every buffer the upper layer reports, every
configured BS and whether or not the block size is locked: if the receiver decides to clear the
sender to send, the bytes of the block fit into the buffer, the block is not empty, and the BS
byte of the flow control frame assembled from the channel grants the sender exactly the frames of
the block, 0 standing for all that remain. -/
theorem grants_fit (b : Build) (cfg : Config b) (s : State) (ch : Channel) (remBufSize : Nat)
    (valid : isRxDlInValid b (getRxDl b ch) = false) (byte : ch.bs < 256)
    (left : 0 < ch.sduLengthRemaining)
    (clear : (setRxBlockInfo b cfg s ch remBufSize).flowStatus = .cts) :
    let granted := setRxBlockInfo b cfg s ch remBufSize
    grantedBytes b cfg granted ≤ remBufSize ∧ 0 < granted.blockCfsRemaining ∧
      ∀ (env : Env) (t : State) (c ticks : Nat) (frame : Frame),
        t.channel c = { granted with initialTicks := ticks, pciId := .fc } →
        (createTxFlowControlFrame b cfg env t c).2 = some frame →
        GrantsExactly b cfg granted (frame.bytes.getD (pciOffset
          (cfg.rxSdu ch.activeSduId).addressFormatId + 1) 0).toNat := by
  have enough := (setRxBlockInfo_cts_iff cfg s ch remBufSize).mp clear
  have small := rxBlockSize_lt cfg s byte remBufSize
  obtain ⟨lower, upper, agree⟩ := oneFrame_room cfg valid
  have cfs : getRxBlockCfs b cfg ch =
      blockCfs ch.sduLengthRemaining (oneFramePayloadLength b cfg ch) := by
    rw [getRxBlockCfs, agree]
  have some := (blockCfs_bounds left (show 0 < oneFramePayloadLength b cfg ch by omega)).1
  have covers := @blockCfs_covers ch.sduLengthRemaining (oneFramePayloadLength b cfg ch) (by omega)
  rw [← cfs] at some covers
  simp only [setRxBlockInfo_cts clear]
  generalize rxBlockSize b cfg s ch remBufSize = bs at enough small ⊢
  -- the two quantities the frame's grant is compared with do not depend on the new fields
  have same : ∀ count flow ticks,
      oneFramePayloadLength b cfg
        { ch with blockCfsRemaining := count, flowStatus := flow, stMinTicks := ticks, bs } =
        oneFramePayloadLength b cfg ch := fun _ _ _ => rfl
  by_cases unlimited : bs = 0
  · subst unlimited
    have fits : ch.sduLengthRemaining ≤ remBufSize := by
      by_contra short
      exact enough (Or.inl ⟨rfl, by omega⟩)
    have all : min (getRxBlockCfs b cfg ch * oneFramePayloadLength b cfg ch)
        ch.sduLengthRemaining = ch.sduLengthRemaining := Nat.min_eq_right covers
    simp only [grantedBytes, ne_eq, not_true_eq_false, if_false, same, all]
    refine ⟨fits, some, ?_⟩
    intro env t c ticks frame channel created
    have byte := createTxFlowControlFrame_pci created (i := 1) (by decide)
    rw [channel] at byte
    simp only [List.getD_cons_succ, List.getD_cons_zero] at byte
    rw [byte]
    exact ⟨fun nonzero => absurd rfl nonzero, fun _ => ⟨rfl, all⟩⟩
  · have block : u32 (bs * oneFramePayloadLength b cfg ch) =
        bs * oneFramePayloadLength b cfg ch := by
      have product : bs * oneFramePayloadLength b cfg ch ≤ 255 * 63 :=
        Nat.mul_le_mul (by omega) upper
      exact Nat.mod_eq_of_lt (by omega)
    have fits : min (bs * oneFramePayloadLength b cfg ch) ch.sduLengthRemaining ≤ remBufSize := by
      by_contra exceeds
      have short := Nat.lt_min.mp (Nat.lt_of_not_le exceeds)
      exact enough (Or.inr ⟨unlimited, block.symm ▸ short.1, short.2⟩)
    simp only [grantedBytes, ne_eq, unlimited, not_false_eq_true, if_true, same]
    refine ⟨fits, by omega, ?_⟩
    intro env t c ticks frame channel created
    have byte := createTxFlowControlFrame_pci created (i := 1) (by decide)
    rw [channel] at byte
    simp only [List.getD_cons_succ, List.getD_cons_zero] at byte
    have value : (UInt8.ofNat bs).toNat = bs := by
      rw [UInt8.toNat_ofNat']
      omega
    rw [byte, value]
    exact ⟨fun _ => rfl, fun zero => absurd zero unlimited⟩

def openReception : Channel :=
  { txBufferStatus := .notAsked
    rxDl := 8
    pciId := .sfCan
    flowStatus := .wait
    sn := 1
    bs := 0
    activeSduId := 0
    fcWait := 0
    blockCfsRemaining := 0
    sduLengthRemaining := 3000
    sduLength := 3006
    initialTicks := 0
    stMinTicks := nodeBuild.invalidStMinTicks }

theorem grants_fit_partial :
    (setRxBlockInfo nodeBuild nodeConfig nodeRam openReception 20).blockCfsRemaining = 2 ∧
    grantedBytes nodeBuild nodeConfig
      (setRxBlockInfo nodeBuild nodeConfig nodeRam openReception 20) ≤ 20 :=
  ⟨by decide, (grants_fit nodeBuild nodeConfig nodeRam openReception 20 (by decide) (by decide)
    (by decide) (by decide)).1⟩

/-- Signs that the receiver holds the sender off or gives the reception up. -/
def Hesitates (cfg : Config b) : Event → Prop
  | .canIfTransmit frame _ =>
    frame.pciId = .fc ∧
      frame.bytes.getD (pciOffset (cfg.rxSdu frame.sdu).addressFormatId) 0 =
        UInt8.ofNat (0x30 ||| FlowStatus.wait.code)
  | .rxIndication _ _ _ result => result = .notOk
  | _ => False

/-- The buffer takes all that is left or, with the number of full frames it has room for cut to
a byte, at least one frame. -/
def TakesFrames (b : Build) (cfg : Config b) (ch : Channel) (remBufSize : Nat) : Prop :=
  ch.sduLengthRemaining ≤ remBufSize ∨ remBufSize / oneFramePayloadLength b cfg ch % 256 ≠ 0

theorem unlocked_cts_iff
    (unlocked : b.dynamicFcSupport = true ∨ ch.stMinTicks = b.invalidStMinTicks) :
    (setRxBlockInfo b cfg s ch remBufSize).flowStatus = .cts ↔
      TakesFrames b cfg ch remBufSize := by
  rw [setRxBlockInfo_cts_iff]
  simp only [Insufficient, TakesFrames, rxBlockSize, if_pos unlocked]
  generalize oneFramePayloadLength b cfg ch = room
  generalize (getRxParam b cfg s ch.activeSduId .bs).toNat = bsMax
  by_cases whole : ch.sduLengthRemaining ≤ remBufSize
  · simp only [ge_iff_le, whole, if_true, true_or, iff_true]
    omega
  · have short : remBufSize < ch.sduLengthRemaining := by omega
    have cut : u8 (remBufSize / room) = remBufSize / room % 256 := rfl
    simp only [ge_iff_le, whole, if_false, false_or, short, and_true, ← cut]
    have quotient := Nat.div_mul_le_self remBufSize room
    -- a block of no more frames than the quotient fits into the buffer
    have fits : ∀ n ≤ u8 (remBufSize / room), ¬ remBufSize < u32 (n * room) := by
      intro n few
      have less := Nat.mod_le (remBufSize / room) 256
      have product : n * room ≤ remBufSize / room * room := Nat.mul_le_mul_right room (by omega)
      have wrapped : u32 (n * room) ≤ n * room := Nat.mod_le _ _
      omega
    clear cut
    generalize u8 (remBufSize / room) = frames at fits ⊢
    by_cases clipped : bsMax ≠ 0 ∧ frames > bsMax
    · have fit := fits bsMax (by omega)
      rw [if_pos clipped]
      simp only [clipped.1, false_or, ne_eq, not_false_eq_true, true_and, fit, true_iff]
      omega
    · have fit := fits frames (Nat.le_refl _)
      simp only [if_neg clipped, fit, and_false, or_false]

/-- The upper layer reports the buffer size when the state function asks for it, and the CAN
interface takes every frame. -/
structure Reports (env : Env) (cfg : Config b) (s : State) (c remBufSize : Nat) : Prop where
  asked : (s.channel c).flowStatus ≠ .overflow
  buffer : env.copyRxData s.log (cfg.rxSdu (s.channel c).activeSduId).pduRPduHandleId [] =
    (.ok, remBufSize)
  accepts : ∀ log p bytes, env.canIfTransmit log p bytes = .ok

def Steady (cfg : Config b) (s s' : State) : Prop :=
  ∃ events, s'.log = s.log ++ events ∧ ∀ e ∈ events, ¬ Hesitates cfg e

def FlowSkipped (b : Build) (cfg : Config b) (ch : Channel) : Prop :=
  b.fcDisableSupport = true ∧ getBit (cfg.rxSdu ch.activeSduId).bitFields fcDisabled = true

theorem Steady.after {s s' s'' : State} {e : Event} (first : s'.log = s.log ++ [e])
    (harmless : ¬ Hesitates cfg e) (later : Steady cfg s' s'') : Steady cfg s s'' := by
  obtain ⟨events, log, steady⟩ := later
  refine ⟨e :: events, by rw [log, first, List.append_assoc]; rfl, ?_⟩
  intro e' member
  rcases List.mem_cons.mp member with rfl | member
  · exact harmless
  · exact steady e' member

theorem canIfTransmit_steady {env : Env} {t : State} {ctx : TxContext}
    (accepts : ∀ log p bytes, env.canIfTransmit log p bytes = .ok)
    (waiting : t.subState ctx.channelId = .rxWaitForFcTransmitConfirmation)
    (flow : (t.channel ctx.channelId).pciId = .fc)
    (own : ctx.sduId = (t.channel ctx.channelId).activeSduId)
    (clear : (t.channel ctx.channelId).flowStatus ≠ .wait) :
    Steady cfg t (canIfTransmit b cfg env ctx t) := by
  obtain ⟨frame, created⟩ := createFrame_flow b cfg env waiting flow
  have assembled : (createTxFlowControlFrame b cfg env t ctx.channelId).2 = some frame := by
    have same : createFrame b cfg env t ctx.channelId =
        createTxFlowControlFrame b cfg env t ctx.channelId := by
      simp only [createFrame, flow, Npci.frameType]
    rw [← same, created]
  have pci := createTxFlowControlFrame_pci assembled (i := 0) (by decide)
  simp only [List.getD_cons_zero, Nat.add_zero] at pci
  simp only [canIfTransmit, created, accepts, ne_eq, not_true_eq_false, if_false]
  refine ⟨[_], rfl, ?_⟩
  simp only [List.mem_singleton, forall_eq, Hesitates, not_and]
  intro _
  rw [own, pci]
  cases status : (t.channel ctx.channelId).flowStatus with
  | cts => decide
  | wait => exact absurd status clear
  | overflow => decide

/-- A flow control frame that is not a WAIT is handed over without hesitation, and without
flow control the reception goes on if the buffer takes the rest. -/
theorem fcTransmit_steady {env : Env} {t : State} {ctx : TxContext} {ready : Bool}
    (accepts : ∀ log p bytes, env.canIfTransmit log p bytes = .ok)
    (own : ctx.sduId = (t.channel ctx.channelId).activeSduId)
    (clear : (t.channel ctx.channelId).flowStatus = .cts)
    (room : ready = true → FlowSkipped b cfg (t.channel ctx.channelId) →
      (t.channel ctx.channelId).sduLengthRemaining ≤ ctx.remBufSize) :
    Steady cfg t (fcTransmit b cfg env ctx ready t) := by
  simp only [fcTransmit]
  split
  · rename_i go
    split
    · rename_i skipped
      rw [if_pos ⟨by simp [clear], room go.1 skipped⟩]
      exact ⟨[], by simp, by simp⟩
    · have sent := @canIfTransmit_steady b cfg env
        ((t.setChannel ctx.channelId
          { t.channel ctx.channelId with initialTicks := ctx.value, pciId := .fc }).setSub
            ctx.channelId .rxWaitForFcTransmitConfirmation) ctx accepts
        (by simp) (by simp) (by simpa using own) (by simp [clear])
      exact sent
  · exact ⟨[], by simp, by simp⟩

structure Cleared (cfg : Config b) (s t : State) (c remBufSize : Nat) : Prop where
  log : t.log = s.log ++ [.copyRxData c (s.channel c).activeSduId
    (cfg.rxSdu (s.channel c).activeSduId).pduRPduHandleId [] .ok remBufSize]
  sub : t.subState = s.subState
  flow : (t.channel c).flowStatus = .cts
  active : (t.channel c).activeSduId = (s.channel c).activeSduId
  remaining : (t.channel c).sduLengthRemaining = (s.channel c).sduLengthRemaining

theorem rxSendFlowControlFrame_cleared {env : Env} {c : Nat}
    (go : s.subState c = .rxSendFc ∧ s.txConfirmationChannel
      (cfg.rxSdu (s.channel c).activeSduId).txConfirmationId = b.invalidChannel)
    (reports : Reports env cfg s c remBufSize)
    (unlocked : b.dynamicFcSupport = true ∨ (s.channel c).stMinTicks = b.invalidStMinTicks)
    (takes : TakesFrames b cfg (s.channel c) remBufSize) :
    ∃ ready t, Cleared cfg s t c remBufSize ∧
      (ready = true ↔ (s.channel c).flowStatus = .wait) ∧
      rxSendFlowControlFrame b cfg env s c =
        fcTransmit b cfg env { rxContext b cfg s c 0 with remBufSize } ready t := by
  obtain ⟨asked, buffer, -⟩ := reports
  let s₁ := (s.setChannel c { s.channel c with blockCfsRemaining := 0 }).emit
    (.copyRxData c (s.channel c).activeSduId
      (cfg.rxSdu (s.channel c).activeSduId).pduRPduHandleId [] .ok remBufSize)
  let ch := setRxBlockInfo b cfg s₁ { s.channel c with blockCfsRemaining := 0 } remBufSize
  have answer : env.copyRxData (s.setChannel c { s.channel c with blockCfsRemaining := 0 }).log
      (rxContext b cfg s c 0).pduRPduHandleId [] = (.ok, remBufSize) := buffer
  by_cases before : (s.channel c).flowStatus = .cts
  · refine ⟨false, s₁, ⟨rfl, rfl, by simp [s₁, before], by simp [s₁], by simp [s₁]⟩, ?_, ?_⟩
    · simp [before]
    · simp only [rxSendFlowControlFrame, if_pos go, if_pos asked, answer]
      simp [before, fcWaitRound, s₁, rxContext]
  · have clear : ch.flowStatus = .cts :=
      (@unlocked_cts_iff b cfg s₁ { s.channel c with blockCfsRemaining := 0 } _ unlocked).mpr takes
    have same : SameReception { s.channel c with blockCfsRemaining := 0 } ch :=
      setRxBlockInfo_same s₁ _ remBufSize
    refine ⟨true, s₁.setChannel c ch, ⟨rfl, rfl, by simpa using clear, by simp [same.active],
      by simp [same.remaining]⟩, ?_, ?_⟩
    · cases status : (s.channel c).flowStatus with
      | cts => exact absurd status before
      | wait => simp
      | overflow => exact absurd status asked
    · simp only [rxSendFlowControlFrame, if_pos go, if_pos asked, answer, ne_eq, before,
        not_true_eq_false, not_false_eq_true, if_true, if_false]
      have round : fcWaitRound b cfg { rxContext b cfg s c 0 with remBufSize }
          (decide (ch.flowStatus = .cts) || decide ((s.channel c).flowStatus = .overflow))
          (s₁.setChannel c ch) = (true, s₁.setChannel c ch) := by
        simp [fcWaitRound, rxContext, clear]
      exact congrArg (fun waited => fcTransmit b cfg env
        { rxContext b cfg s c 0 with remBufSize } waited.1 waited.2) round

def Decides (b : Build) (cfg : Config b) (s : State) (c : Nat) : Prop :=
  s.subState c = .rxSendFc ∧ s.txConfirmationChannel
    (cfg.rxSdu (s.channel c).activeSduId).txConfirmationId = b.invalidChannel ∧
    (s.channel c).flowStatus = .wait

/-- Without flow control the upper layer must take all that is left at once. -/
def TakesRest (b : Build) (cfg : Config b) (s : State) (c remBufSize : Nat) : Prop :=
  Decides b cfg s c → FlowSkipped b cfg (s.channel c) →
    (s.channel c).sduLengthRemaining ≤ remBufSize

theorem rxSendFlowControlFrame_steady {env : Env} {c : Nat}
    (reports : Reports env cfg s c remBufSize)
    (unlocked : b.dynamicFcSupport = true ∨ (s.channel c).stMinTicks = b.invalidStMinTicks)
    (takes : TakesFrames b cfg (s.channel c) remBufSize) (rest : TakesRest b cfg s c remBufSize) :
    Steady cfg s (rxSendFlowControlFrame b cfg env s c) := by
  by_cases go : s.subState c = .rxSendFc ∧ s.txConfirmationChannel
      (cfg.rxSdu (s.channel c).activeSduId).txConfirmationId = b.invalidChannel
  · obtain ⟨ready, t, cleared, waits, result⟩ :=
      rxSendFlowControlFrame_cleared go reports unlocked takes
    rw [result]
    refine Steady.after cleared.log id (fcTransmit_steady reports.accepts cleared.active.symm
      cleared.flow ?_)
    intro isReady skipped
    have skipped' : FlowSkipped b cfg (s.channel c) := by
      simpa [FlowSkipped, rxContext, cleared.active] using skipped
    simpa [rxContext, cleared.remaining] using rest ⟨go.1, go.2, waits.mp isReady⟩ skipped'
  · simp only [rxSendFlowControlFrame, if_neg go]
    exact ⟨[], by simp, by simp⟩

def reportingEnv (remBufSize : Nat) : Env :=
  { nodeEnv with copyRxData := fun _ _ _ => (.ok, remBufSize) }

theorem skipped_hesitates {c : Nat} (decides : Decides b cfg s c)
    (unlocked : b.dynamicFcSupport = true ∨ (s.channel c).stMinTicks = b.invalidStMinTicks)
    (takes : TakesFrames b cfg (s.channel c) remBufSize)
    (skipped : FlowSkipped b cfg (s.channel c))
    (short : ¬ (s.channel c).sduLengthRemaining ≤ remBufSize) :
    ¬ Steady cfg s (rxSendFlowControlFrame b cfg (reportingEnv remBufSize) s c) := by
  obtain ⟨sending, free, wait⟩ := decides
  have reports : Reports (reportingEnv remBufSize) cfg s c remBufSize :=
    ⟨by simp [wait], rfl, fun _ _ _ => rfl⟩
  obtain ⟨ready, t, cleared, waits, result⟩ :=
    rxSendFlowControlFrame_cleared ⟨sending, free⟩ reports unlocked takes
  obtain rfl : ready = true := waits.mpr wait
  have ended : (rxSendFlowControlFrame b cfg (reportingEnv remBufSize) s c).log =
      t.log ++ [.rxIndication c (s.channel c).activeSduId
        (cfg.rxSdu (s.channel c).activeSduId).pduRPduHandleId .notOk] := by
    have off : b.fcDisableSupport = true ∧
        getBit (cfg.rxSdu (t.channel c).activeSduId).bitFields fcDisabled = true := by
      rw [cleared.active]
      exact skipped
    have little : ¬ (t.channel c).sduLengthRemaining ≤ remBufSize := by
      rw [cleared.remaining]
      exact short
    rw [result]
    simp [fcTransmit, rxContext, cleared.sub, sending, off, little, pduRConfirmation]
  rintro ⟨events, log, steady⟩
  rw [ended, cleared.log, List.append_assoc] at log
  have same := List.append_cancel_left log
  have hesitates := steady (.rxIndication c (s.channel c).activeSduId
    (cfg.rxSdu (s.channel c).activeSduId).pduRPduHandleId .notOk)
  refine hesitates ?_ rfl
  rw [← same]
  exact List.mem_append_right _ (List.mem_singleton_self _)

/-- Exactly when an unlocked receiver is clear to send and its state function neither sends a
WAIT nor gives up. -/
theorem sufficient_buffer_granted_iff (b : Build) (cfg : Config b) (s : State)
    (c remBufSize : Nat)
    (unlocked : b.dynamicFcSupport = true ∨ (s.channel c).stMinTicks = b.invalidStMinTicks) :
    ((setRxBlockInfo b cfg s (s.channel c) remBufSize).flowStatus = .cts ∧
        ∀ env, Reports env cfg s c remBufSize →
          Steady cfg s (rxSendFlowControlFrame b cfg env s c)) ↔
      TakesFrames b cfg (s.channel c) remBufSize ∧ TakesRest b cfg s c remBufSize := by
  rw [unlocked_cts_iff unlocked]
  refine and_congr_right fun takes => ⟨fun steady decides skipped => ?_, fun rest env reports => ?_⟩
  · by_contra short
    refine skipped_hesitates decides unlocked takes skipped short (steady _ ?_)
    exact ⟨by simp [decides.2.2], rfl, fun _ _ _ => rfl⟩
  · exact rxSendFlowControlFrame_steady reports unlocked takes rest

def openNode : State :=
  { nodeRam.setChannel 0 openReception with subState := fun _ => .rxSendFc }

theorem sufficient_buffer_granted_partial :
    (setRxBlockInfo nodeBuild nodeConfig openNode openReception 20).flowStatus = .cts ∧
      ∀ env, Reports env nodeConfig openNode 0 20 →
        Steady nodeConfig openNode (rxSendFlowControlFrame nodeBuild nodeConfig env openNode 0) :=
  (sufficient_buffer_granted_iff nodeBuild nodeConfig openNode 0 20 (by decide)).mpr
    ⟨Or.inr (by decide), fun _ skipped => absurd skipped.1 (by decide)⟩

/-- Room for 256 frames of seven bytes, which is none modulo 256: after the first frame of
3006 bytes the receiver sends a WAIT. -/
theorem large_buffer_refused :
    (0 < openReception.sduLengthRemaining ∧
      min openReception.sduLengthRemaining
        (oneFramePayloadLength nodeBuild nodeConfig openReception) ≤ 1792 ∧
      openReception.stMinTicks = nodeBuild.invalidStMinTicks ∧
      (setRxBlockInfo nodeBuild nodeConfig openNode openReception 1792).flowStatus = .wait) ∧
    ∃ event ∈ (run (step nodeBuild nodeConfig (reportingEnv 1792))
        (start nodeBuild nodeConfig nodeRam)
        [.rxIndication 0 (nodeFrame [0x1B, 0xBE, 1, 2, 3, 4, 5, 6]), .mainFunction]).log,
      Hesitates nodeConfig event := by
  refine ⟨by decide, .canIfTransmit ⟨0, 0, 2, 2, .fc, [0x31, 0, 0], [], 0⟩ .ok, ?_, ?_⟩
  · decide +kernel
  · exact ⟨rfl, by decide⟩

end AnchorNode.CanTp
