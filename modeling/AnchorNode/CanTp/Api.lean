import AnchorNode.CanTp.StateFunctions
import AnchorNode.Lib.Run

/-! The interface functions: requests of the upper layer, callbacks of the CAN interface
and the scheduled main function. -/

namespace AnchorNode.CanTp

open AnchorNode.Lib

section Indication
variable (b : Build) (cfg : Config b) (env : Env)

/-- The call of `CanTp_FdCallOut`, which only some builds make. -/
def fdCallOut (ctx : RxContext) (data : Mem) (sduLength : Nat) (s : State) : StdReturn × State :=
  if b.fdCalloutSupport then
    let bytes := data.read 0 sduLength
    let answer := env.fdCallOut s.log ctx.pduId bytes ctx.isFdEnabled
    (answer, s.emit (.fdCallOut ctx.pduId bytes ctx.isFdEnabled answer))
  else (.ok, s)

/-- `CanTp_Prv_GetConnectionAcceptance`; an `error` when the frame is refused. -/
def getConnectionAcceptance (ctx : RxContext) (data : Mem) (sduLength : Nat) (s : State) :
    Except State State :=
  let c := ctx.channelId
  let call := fdCallOut b env ctx data sduLength s
  let s := call.2
  if call.1 = .ok then
    match (s.subState c).state with
    | .idle => .ok (s.setSub c .rxReceptionRequestAccepted)
    | .reception =>
      -- an earlier reception of the same SDU is given up for the new one
      if (s.channel c).activeSduId = ctx.sduId then
        .ok ((pduRConfirmation .rx s c ctx.sduId ctx.pduRPduHandleId .notOk).setSub c
          .rxReceptionRequestAccepted)
      else .error s
    | .transmission => .error s
  else .error s

/-- `CanTp_Prv_ProcessRxSingleFrame`. -/
def processRxSingleFrame (ctx : RxContext) (data : Mem) (sduLength : Nat) (s : State) : State :=
  let c := ctx.channelId
  let id := ctx.pduRPduHandleId
  match getConnectionAcceptance b env ctx data sduLength s with
  | .error s => s
  | .ok s =>
    let ch := setRxDl b (s.channel c) (u8 sduLength)
    let s := s.setChannel c
      { ch with
        activeSduId := ctx.sduId
        sduLength := ctx.sduLength
        sduLengthRemaining := ctx.sduLength
        initialTicks := (getElapsedValue b s 0).1 }
    let answer := env.startOfReception s.log id ctx.sduLength
    let s := s.emit (.startOfReception c ctx.sduId id ctx.sduLength answer.1 answer.2)
    let s := match answer.1 with
      | .ok =>
        if answer.2 ≥ ctx.sduLength then
          let bytes := data.read ctx.dataOffset ctx.sduLength
          let copied := env.copyRxData s.log id bytes
          let s := s.emit (.copyRxData c ctx.sduId id bytes copied.1 copied.2)
          pduRConfirmation .rx s c ctx.sduId id (if copied.1 ≠ BufReq.ok then .notOk else .ok)
        else pduRConfirmation .rx s c ctx.sduId id .notOk
      | .ovfl => pduRConfirmation .rx s c ctx.sduId id .notOk
      | _ => s
    s.setSub c .idle

/-- `CanTp_Prv_ProcessRxFirstFrame`. -/
def processRxFirstFrame (ctx : RxContext) (data : Mem) (sduLength : Nat) (s : State) : State :=
  let c := ctx.channelId
  let id := ctx.pduRPduHandleId
  let payLoadLength := u8 (b.subLength sduLength ctx.dataOffset)
  match getConnectionAcceptance b env ctx data sduLength s with
  | .error s => s
  | .ok s =>
    let ch := setRxDl b (s.channel c) (u8 sduLength)
    let ch := { ch with
      activeSduId := ctx.sduId
      sduLength := ctx.sduLength
      initialTicks := (getElapsedValue b s 0).1 }
    let s := s.setChannel c ch
    let answer := env.startOfReception s.log id ctx.sduLength
    let s := s.emit (.startOfReception c ctx.sduId id ctx.sduLength answer.1 answer.2)
    match answer.1 with
    | .ok =>
      if answer.2 ≥ payLoadLength then
        let bytes := data.read ctx.dataOffset payLoadLength
        let copied := env.copyRxData s.log id bytes
        let s := s.emit (.copyRxData c ctx.sduId id bytes copied.1 copied.2)
        if copied.1 ≠ .ok then
          let s := (pduRConfirmation .rx s c ctx.sduId id .notOk).emit
            (.reportRunTimeError .rxIndication .com)
          (s.setChannel c { ch with flowStatus := .wait }).setSub c .idle
        else
          (s.setChannel c
            { ch with
              sduLengthRemaining := b.subLength ctx.sduLength payLoadLength
              bs := 0
              stMinTicks := b.invalidStMinTicks
              fcWait := 0
              sn := 1
              flowStatus := .wait }).setSub c .rxSendFc
      else
        let s := pduRConfirmation .rx s c ctx.sduId id .notOk
        (s.setChannel c { ch with flowStatus := .wait }).setSub c .idle
    | .ovfl => (s.setChannel c { ch with bs := 0, flowStatus := .overflow }).setSub c .rxSendFc
    | _ => (s.setChannel c { ch with flowStatus := .wait }).setSub c .idle

/-- `CanTp_Prv_PrepareFcTransmit`. -/
def prepareFcTransmit (c : Nat) (s : State) : State :=
  let ch := s.channel c
  if ch.blockCfsRemaining = 0 then
    (s.setChannel c { ch with fcWait := 0, flowStatus := .wait }).setSub c .rxSendFc
  else s

/-- `CanTp_Prv_ProcessRxConsecutiveFrame`. -/
def processRxConsecutiveFrame (ctx : RxContext) (data : Mem) (s : State) : State :=
  let c := ctx.channelId
  let id := ctx.pduRPduHandleId
  let ch := s.channel c
  let elapsed := getElapsedValue b s ch.initialTicks
  let payloadLength := sub8 ctx.canDl ctx.dataOffset
  if s.subState c = .rxWaitForConsecutiveFrame ∧ ctx.sduId = ch.activeSduId ∧
      ch.blockCfsRemaining > 0 then
    if b.strictBsCrTimeoutCheck ∧
        elapsed.2 > (cfg.timeOut (cfg.rxSdu ctx.sduId).timeOutId).csCrTicks then
      ((pduRConfirmation .rx s c ctx.sduId id .notOk).emit
        (.reportRunTimeError .rxIndication .rxCom)).setSub c .idle
    else if ctx.sn = ch.sn then
      let ch := { ch with initialTicks := elapsed.1 }
      let s := s.setChannel c ch
      let length := cfLength ch.sduLengthRemaining payloadLength
      let bytes := data.read ctx.dataOffset length
      let copied := env.copyRxData s.log id bytes
      let s := s.emit (.copyRxData c ctx.sduId id bytes copied.1 copied.2)
      if copied.1 = .ok then
        let ch := { ch with
          sn := (ch.sn + 1) % 16
          sduLengthRemaining := b.subLength ch.sduLengthRemaining length
          blockCfsRemaining := b.subLength ch.blockCfsRemaining 1 }
        let s := s.emit (.consecutiveFrame c ctx.sduId ctx.sn)
        let s := prepareFcTransmit c (s.setChannel c ch)
        if ch.sduLengthRemaining ≠ 0 then s
        else (pduRConfirmation .rx s c ctx.sduId id .ok).setSub c .idle
      else (pduRConfirmation .rx s c ctx.sduId id .notOk).setSub c .idle
    else (pduRConfirmation .rx s c ctx.sduId id .notOk).setSub c .idle
  else s

/-- `CanTp_Prv_ProcessRxFlowControlFrame`. -/
def processRxFlowControlFrame (ctx : RxContext) (data : Mem) (s : State) : State :=
  let c := ctx.channelId
  let id := ctx.pduRPduHandleId
  let ch := s.channel c
  let elapsed := getElapsedValue b s ch.initialTicks
  if s.subState c = .txWaitForFlowControlFrame then
    if b.strictBsCrTimeoutCheck ∧
        elapsed.2 > (cfg.timeOut (cfg.txSdu ch.activeSduId).timeOutId).bsBrTicks then
      ((pduRConfirmation .tx s c ctx.sduId id .notOk).emit
        (.reportRunTimeError .rxIndication .txCom)).setSub c .idle
    else
      let ch := { ch with initialTicks := elapsed.1 }
      if ctx.flowStatus = FlowStatus.wait.code then
        s.setChannel c { ch with flowStatus := .wait }
      else if ctx.flowStatus = FlowStatus.cts.code then
        let ch := setTxBlockInfo b cfg { ch with flowStatus := .cts }
          (data ctx.dataOffset) (data (ctx.dataOffset + 1))
        ((s.setChannel c ch).setSub c .txSendConsecutiveFrame).emit
          (.clearToSend c ctx.sduId (data ctx.dataOffset).toNat ch.stMinTicks)
      else
        (pduRConfirmation .tx (s.setChannel c ch) c ctx.sduId id .notOk).setSub c .idle
  else s

/-- `CanTp_Prv_ProcessFrame`. -/
def processFrame (ctx : RxContext) (data : Mem) (sduLength : Nat) (s : State) : State :=
  match ctx.frameType with
  | .single => processRxSingleFrame b env ctx data sduLength s
  | .first => processRxFirstFrame b env ctx data sduLength s
  | .consecutive => processRxConsecutiveFrame b cfg env ctx data s
  | .flowControl => processRxFlowControlFrame b cfg ctx data s

/-- `CanTp_Prv_LengthError`. -/
def lengthError (ctx : RxContext) (s : State) : State :=
  let c := ctx.channelId
  let api := if ctx.frameType = .flowControl then PduRApi.tx else .rx
  let s :=
    if s.subState c = .txWaitForFlowControlFrame ∨ s.subState c = .rxWaitForConsecutiveFrame then
      (pduRConfirmation api s c ctx.sduId ctx.pduRPduHandleId .notOk).setSub c .idle
    else s
  if ctx.isPaddingOn then s.emit (.reportError .rxIndication .padding)
  else s.emit (.reportRunTimeError .rxIndication .com)

end Indication

section Burst
variable (b : Build)

/-- `CanTp_Prv_PutInQ`; `none` when the queue is full. -/
def putInQ (q : BurstQ) (c : Nat) : Option BurstQ :=
  if (q.tail : Int) - q.head ≠ b.burstQueueSize then
    let tail := u8 (q.tail + 1)
    some { q with tail, queue := Function.update q.queue (tail % b.burstQueueSize) c }
  else none

/-- `CanTp_Prv_GetFromQ`; `none` when the queue is empty. -/
def getFromQ (q : BurstQ) : Option (Nat × BurstQ) :=
  if (q.tail : Int) - q.head ≠ 0 then
    let head := u8 (q.head + 1)
    some (q.queue (head % b.burstQueueSize), { q with head })
  else none

end Burst

section Calls
variable (b : Build) (cfg : Config b) (env : Env)

def incrementCounter (s : State) : State :=
  if b.cycleCounter then { s with ticks := s.ticks + 1 } else s

/-- The loop of `CanTp_MainFunction` over all channels. -/
def executeAll (s : State) : State :=
  (List.range cfg.numberOfChannels).foldl (executeState b cfg env) s

/-- `CanTp_MainFunction`. -/
def mainFunction (s : State) : State :=
  if s.mainState then
    match (if b.txBurstMode then getFromQ b s.burstQ else none) with
    | some (c, burstQ) => executeState b cfg env { s with burstQ } c
    | none => incrementCounter b (executeAll b cfg env s)
  else s.emit (.reportError .mainFunction .uninit)

/-- The condition of `CanTp_Prv_BurstMainFunction`. -/
def burstReady (c : Nat) (s : State) : Bool :=
  b.txBurstMode && decide (c < cfg.numberOfChannels) && (s.channel c).stMinTicks == 0 &&
    s.subState c == .txSendConsecutiveFrame

/-- `CanTp_Prv_BurstMainFunction`, which is empty without burst mode. -/
def burstMainFunction (c : Nat) (point : TriggerPoint) (s : State) : State :=
  if burstReady b cfg c s then
    match putInQ b s.burstQ c with
    | none => s
    | some burstQ =>
      let s := { s with burstQ }
      if b.schMSupport then s.emit (.activateMainFunction point) else mainFunction b cfg env s
  else s

/-- The range check of `CanTp_Prv_IsNoDevError`. -/
def devCheck (s : State) (id total : Nat) (api : ApiId) (invalidId : ErrorId)
    (body : State → State) : State :=
  if s.mainState then
    if id ≥ total then s.emit (.reportError api invalidId) else body s
  else s.emit (.reportError api .uninit)

/-- The longest SDU `CanTp_Transmit` takes on a connection. -/
def maxTransmitLength (connection : TxSdu) (pciId : Npci) : Nat :=
  let txDl := getTxDl b connection
  if getBit connection.bitFields functional then
    let payloadLength := sub8 txDl (1 + addressSize connection.addressFormatId)
    if pciId = .sfCan then payloadLength else sub32 payloadLength 1
  else if b.canFdSupport then
    (if txDl > defaultCanDl then maxFdFfDl else maxFfDl) % 2 ^ 16
  else maxFfDl % 2 ^ 16

/-- `CanTp_Transmit`; the argument is the SDU length behind the info pointer, `none` for
NULL. Acceptance is recorded by `transmitOk`. -/
def transmit (x : Nat) (info : Option Nat) (s : State) : State :=
  devCheck s x cfg.numberOfTxSdus .transmit .invalidTxId fun s =>
    let connection := cfg.txSdu x
    let c := connection.channelId
    match info with
    | none => s.emit (.reportRunTimeError .transmit .paramPointer)
    | some sduLength =>
      if sduLength = 0 then s.emit (.reportRunTimeError .transmit .com)
      else
        let pciId := txPciInit b cfg x sduLength
        if sduLength > maxTransmitLength b connection pciId then
          s.emit (.reportRunTimeError .transmit .invalidTaType)
        else if (s.subState c).state = .idle then
          ((s.setChannel c
            { s.channel c with
              activeSduId := x
              pciId
              sduLength
              initialTicks := (getElapsedValue b s 0).1
              txBufferStatus := .notAsked
              stMinTicks := b.invalidStMinTicks }).setSub c
                .txTransmissionRequestAccepted).emit (.transmitOk c x sduLength)
        else s

/-- `CanTp_CancelTransmit`. -/
def cancelTransmit (x : Nat) (s : State) : State :=
  devCheck s x cfg.numberOfTxSdus .cancelTransmit .invalidTxId fun s =>
    let connection := cfg.txSdu x
    let c := connection.channelId
    if getBit connection.bitFields tcDisabled ∨ (s.subState c).state ≠ .transmission ∨
        x ≠ (s.channel c).activeSduId then
      s.emit (.reportRunTimeError .cancelTransmit .operNotSupported)
    else
      let waiting := s.subState c = .txWaitForTransmitConfirmation
      let s := pduRConfirmation .tx s c x connection.pduRPduHandleId .notOk
      let s :=
        if waiting then s.setConfirmation connection.txConfirmationId b.invalidChannel else s
      s.setSub c .idle

/-- `CanTp_CancelReceive`. -/
def cancelReceive (r : Nat) (s : State) : State :=
  devCheck s r cfg.numberOfRxSdus .cancelReceive .paramId fun s =>
    let connection := cfg.rxSdu r
    let c := connection.channelId
    let ch := s.channel c
    if (s.subState c).state ≠ .reception ∨ r ≠ ch.activeSduId then
      s.emit (.reportRunTimeError .cancelReceive .operNotSupported)
    else
      let payLoadLength := sub8 (getRxDl b ch) (addressSize connection.addressFormatId + cfPciSize)
      if ch.sduLengthRemaining > payLoadLength then
        let waiting := s.subState c = .rxWaitForFcTransmitConfirmation
        let s := pduRConfirmation .rx s c r connection.pduRPduHandleId .notOk
        let s :=
          if waiting then s.setConfirmation connection.txConfirmationId b.invalidChannel else s
        s.setSub c .idle
      else s

/-- `CanTp_Prv_FcTxConfirmation`. -/
def fcTxConfirmation (c : Nat) (s : State) : State :=
  let ch := s.channel c
  match ch.flowStatus with
  | .cts => s.setSub c .rxWaitForConsecutiveFrame
  | .wait => s.setSub c (if ch.sduLengthRemaining > 0 then .rxSendFc else .idle)
  | .overflow =>
    (pduRConfirmation .rx s c ch.activeSduId (cfg.rxSdu ch.activeSduId).pduRPduHandleId
      .notOk).setSub c .idle

/-- `CanTp_Prv_PrepareFcRecieve`. -/
def prepareFcRecieve (c : Nat) (s : State) : State :=
  let ch := s.channel c
  let connection := cfg.txSdu ch.activeSduId
  if b.fcDisableSupport ∧ getBit connection.bitFields fcDisabled then
    (s.setChannel c
      { ch with
        blockCfsRemaining := getTxBlockCfs b cfg ch
        stMinTicks := b.defaultStMinTicks
        pciId := .fc }).setSub c .txSendConsecutiveFrame
  else (s.setChannel c { ch with pciId := .fc }).setSub c .txWaitForFlowControlFrame

def confirmData (ch : Channel) (value : Nat) : Channel :=
  let connection := cfg.txSdu ch.activeSduId
  let maxCopyLength := sub8 (getTxDl b connection)
    (addressSize connection.addressFormatId + ch.pciId.pciSize)
  let ch := { ch with
    initialTicks := value
    sduLengthRemaining :=
      if ch.sduLengthRemaining < maxCopyLength then 0
      else b.subLength ch.sduLengthRemaining maxCopyLength }
  if ch.pciId = .cf then
    { ch with
      sn := (ch.sn + 1) % 16
      blockCfsRemaining := b.subLength ch.blockCfsRemaining 1 }
  else ch

def dataTxConfirmation (c : Nat) (s : State) : State :=
  let ch := confirmData b cfg (s.channel c) (getElapsedValue b s 0).1
  let s := s.setChannel c ch
  if ch.sduLengthRemaining = 0 then
    pduRConfirmation .tx (s.setSub c .idle) c ch.activeSduId
      (cfg.txSdu ch.activeSduId).pduRPduHandleId .ok
  else if ch.blockCfsRemaining ≠ 0 then s.setSub c .txSendConsecutiveFrame
  else prepareFcRecieve b cfg c s

/-- What `CanTp_TxConfirmation` does inside its exclusive area. -/
def confirmFrame (p : Nat) (s : State) : State :=
  let c := s.txConfirmationChannel p
  if c < cfg.numberOfChannels then
    match s.subState c with
    | .rxWaitForFcTransmitConfirmation =>
      let ch := { s.channel c with initialTicks := (getElapsedValue b s 0).1 }
      (fcTxConfirmation b cfg c (s.setChannel c ch)).setConfirmation p b.invalidChannel
    | .txWaitForTransmitConfirmation =>
      (dataTxConfirmation b cfg c s).setConfirmation p b.invalidChannel
    | _ => s
  else s

/-- `CanTp_TxConfirmation`. -/
def txConfirmation (p : Nat) (s : State) : State :=
  devCheck s p cfg.numberOfTxPdus .txConfirmation .invalidTxId fun s =>
    burstMainFunction b cfg env (s.txConfirmationChannel p) .txConfirmation
      (confirmFrame b cfg p s)

/-- `CanTp_RxIndication` behind its parameter checks. -/
def receiveFrame (p : Nat) (info : PduInfo) (s : State) : State :=
  match getRxContext b cfg s p info with
  | .error error => s.emit (.reportRunTimeError .rxIndication error)
  | .ok ctx =>
    let data := info.sduDataPtr.getD fun _ => 0
    let checked := rxSduLengthCheck b s ctx data info.sduLength
    if checked.2 ≠ .ok then lengthError checked.1 s
    else
      burstMainFunction b cfg env checked.1.channelId .rxIndication
        (processFrame b cfg env checked.1 data info.sduLength s)

/-- `CanTp_RxIndication`. -/
def rxIndication (p : Nat) (info : Option PduInfo) (s : State) : State :=
  devCheck s p cfg.numberOfRxPdus .rxIndication .invalidRxId fun s =>
    match info with
    | none => s.emit (.reportRunTimeError .rxIndication .paramPointer)
    | some info => receiveFrame b cfg env p info s

/-- `CanTp_Prv_IsChangeParameterOk`: the error to report, if any. -/
def changeParameterError (parameter : TpParameter) (value : Nat) : Option ErrorId :=
  match parameter with
  | .other => some .paramId
  | .stMin =>
    if value ≤ 0x7F ∨ (value ≥ 0xF1 ∧ value ≤ 0xF9) then none else some .paramConfig
  | .bs => if value > 0xFF then some .paramConfig else none

/-- `CanTp_ChangeParameter`. -/
def changeParameter (r : Nat) (parameter : TpParameter) (value : Nat) (s : State) : State :=
  devCheck s r cfg.numberOfRxSdus .changeParameter .invalidRxId fun s =>
    match changeParameterError parameter value with
    | some error => s.emit (.reportRunTimeError .changeParameter error)
    | none =>
      if (s.subState (cfg.rxSdu r).channelId).state = .reception then
        s.emit (.reportRunTimeError .changeParameter .operNotSupported)
      else
        let pair := s.paramPair r
        { s with
          paramPair := Function.update s.paramPair r
            (if parameter = .stMin then (UInt8.ofNat value, pair.2)
             else (pair.1, UInt8.ofNat value)) }

/-- The resets common to `CanTp_Init` and `CanTp_Shutdown`. -/
def resetModule (s : State) : State :=
  { s with
    paramPair := fun r =>
      if r < cfg.numberOfRxSdus then
        ((cfg.param (cfg.rxSdu r).paramId).stMin, (cfg.param (cfg.rxSdu r).paramId).bs)
      else s.paramPair r
    burstQ := { s.burstQ with head := 0, tail := 0 }
    subState := fun c => if c < cfg.numberOfChannels then .idle else s.subState c
    txConfirmationChannel := fun p =>
      if p < cfg.numberOfTxPdus then b.invalidChannel else s.txConfirmationChannel p }

/-- `CanTp_Init`. -/
def init (s : State) : State := { resetModule b cfg s with mainState := true }

/-- `CanTp_Shutdown`. -/
def shutdown (s : State) : State :=
  if s.mainState then { resetModule b cfg s with mainState := false }
  else s.emit (.reportError .shutdown .uninit)

/-- The calls the environment can make, and the progress of time. -/
inductive Op where
  | transmit (x : Nat) (info : Option Nat)
  | cancelTransmit (x : Nat)
  | cancelReceive (r : Nat)
  | mainFunction
  | txConfirmation (p : Nat)
  | rxIndication (p : Nat) (info : Option PduInfo)
  | changeParameter (r : Nat) (parameter : TpParameter) (value : Nat)
  | tick
  | init
  | shutdown

def step (s : State) : Op → State
  | .transmit x info => transmit b cfg x info s
  | .cancelTransmit x => cancelTransmit b cfg x s
  | .cancelReceive r => cancelReceive b cfg r s
  | .mainFunction => mainFunction b cfg env s
  | .txConfirmation p => txConfirmation b cfg env p s
  | .rxIndication p info => rxIndication b cfg env p info s
  | .changeParameter r parameter value => changeParameter b cfg r parameter value s
  | .tick => { s with ticks := s.ticks + 1 }
  | .init => init b cfg s
  | .shutdown => shutdown b cfg s

/-- The state after `CanTp_Init`, whatever the RAM held before; the log starts there. -/
def start (s : State) : State := init b cfg { s with log := [] }

/-- A run of the initialised module: every call but `CanTp_Init` and `CanTp_Shutdown`. -/
def Op.isCall : Op → Bool
  | .init => false
  | .shutdown => false
  | _ => true

end Calls

end AnchorNode.CanTp
