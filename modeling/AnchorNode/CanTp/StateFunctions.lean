import AnchorNode.CanTp.Frame

/-! The state functions `CanTp_MainFunction` dispatches to, one for each substate. -/

namespace AnchorNode.CanTp

open AnchorNode.Lib

inductive PduRApi where
  | tx
  | rx
  deriving DecidableEq, Repr

/-- `CanTp_TxContextType`, with the index of the connection the context was filled from. -/
structure TxContext where
  pduRApi : PduRApi
  payLoadLength : Nat
  channelId : Nat
  sduId : Nat
  txConfirmationId : Nat
  pduId : Nat
  pduRPduHandleId : Nat
  remBufSize : Nat
  value : Nat
  elapsedValue : Nat
  csTicks : Nat

/-- `CanTp_Prv_PduRConfirmation`. -/
def pduRConfirmation (api : PduRApi) (s : State) (c sdu id : Nat) (result : StdReturn) : State :=
  match api with
  | .tx => s.emit (.txConfirmation c sdu id result)
  | .rx => s.emit (.rxIndication c sdu id result)

section Transmission
variable (b : Build) (cfg : Config b) (env : Env)

/-- `CanTp_Prv_PageConfirmation`. -/
def pageConfirmation (ctx : TxContext) (s : State) : State :=
  let ch := s.channel ctx.channelId
  if ch.txBufferStatus = .notAsked then
    let answer := env.copyTxData s.log ctx.pduRPduHandleId ctx.payLoadLength
    let s := s.emit (.copyTxData ctx.channelId ctx.sduId ctx.pduRPduHandleId
      (answer.2.1.read 0 ctx.payLoadLength) answer.1 answer.2.2)
    s.setChannel ctx.channelId { ch with txBufferStatus := .asked }
  else s

def endWithError (ctx : TxContext) (error : ErrorId) (s : State) : State :=
  ((pduRConfirmation ctx.pduRApi s ctx.channelId ctx.sduId ctx.pduRPduHandleId .notOk).emit
    (.reportRunTimeError .mainFunction error)).setSub ctx.channelId .idle

/-- `CanTp_Prv_GetTxBuffer`. -/
def getTxBuffer (ctx : TxContext) (s : State) : State :=
  let ch := s.channel ctx.channelId
  if ctx.elapsedValue < ctx.csTicks then
    if ch.txBufferStatus ≠ .available then
      let answer := env.copyTxData s.log ctx.pduRPduHandleId 0
      let s := s.emit (.copyTxData ctx.channelId ctx.sduId ctx.pduRPduHandleId []
        answer.1 answer.2.2)
      match answer.1 with
      | .ok =>
        if answer.2.2 ≥ ctx.payLoadLength then
          s.setChannel ctx.channelId { ch with txBufferStatus := .available }
        else if b.pageConfirmation then pageConfirmation env ctx s
        else s
      | .busy => s
      | _ => endWithError ctx .com s
    else s
  else if ch.txBufferStatus ≠ .available then endWithError ctx .txCom s
  else s

/-- `CanTp_Prv_CanIfTransmit`. -/
def canIfTransmit (ctx : TxContext) (s : State) : State :=
  let created := createFrame b cfg env s ctx.channelId
  match created.2 with
  | none => created.1
  | some frame =>
    let s := created.1.setConfirmation ctx.txConfirmationId ctx.channelId
    let result := env.canIfTransmit s.log ctx.pduId frame.bytes
    let s := s.emit (.canIfTransmit
      { ch := ctx.channelId
        sdu := ctx.sduId
        pduId := ctx.pduId
        confirmationId := ctx.txConfirmationId
        pciId := (s.channel ctx.channelId).pciId
        bytes := frame.bytes
        payload := frame.payload
        ticks := s.ticks } result)
    if result ≠ .ok then
      (endWithError ctx .com s).setConfirmation ctx.txConfirmationId b.invalidChannel
    else s

def sendFrame (ctx : TxContext) (pciId : Npci) (s : State) : State :=
  let c := ctx.channelId
  let s := s.setChannel c { s.channel c with pciId, initialTicks := ctx.value }
  let s := s.setSub c .txWaitForTransmitConfirmation
  let s := canIfTransmit b cfg env ctx s
  s.setChannel c { s.channel c with txBufferStatus := .notAsked }

def txContext (s : State) (c payLoadLength : Nat) : TxContext :=
  let ch := s.channel c
  let connection := cfg.txSdu ch.activeSduId
  let elapsed := getElapsedValue b s ch.initialTicks
  { pduRApi := .tx
    payLoadLength
    channelId := c
    sduId := ch.activeSduId
    txConfirmationId := connection.txConfirmationId
    pduId := connection.txPduId
    pduRPduHandleId := connection.pduRPduHandleId
    remBufSize := 0
    value := elapsed.1
    elapsedValue := elapsed.2
    csTicks := (cfg.timeOut connection.timeOutId).csCrTicks }

/-- `CanTp_Prv_TxSendConsecutiveFrame`. -/
def txSendConsecutiveFrame (s : State) (c : Nat) : State :=
  let ch := s.channel c
  let connection := cfg.txSdu ch.activeSduId
  if s.subState c = .txSendConsecutiveFrame ∧
      s.txConfirmationChannel connection.txConfirmationId = b.invalidChannel then
    let maxLength := sub8 (getTxDl b connection)
      (cfPciSize + addressSize connection.addressFormatId)
    let ctx := txContext b cfg s c
      (if ch.sduLengthRemaining < maxLength then u8 ch.sduLengthRemaining else maxLength)
    let s := getTxBuffer b env ctx s
    let ch := s.channel c
    if ch.txBufferStatus = .available ∧
        (ctx.elapsedValue ≥ ch.stMinTicks ∨ ch.pciId ≠ .cf) then
      sendFrame b cfg env ctx .cf s
    else s
  else s

/-- `CanTp_Prv_TxWaitForFlowControlFrame`. -/
def txWaitForFlowControlFrame (s : State) (c : Nat) : State :=
  let ch := s.channel c
  let connection := cfg.txSdu ch.activeSduId
  if s.subState c = .txWaitForFlowControlFrame ∧
      (getElapsedValue b s ch.initialTicks).2 > (cfg.timeOut connection.timeOutId).bsBrTicks then
    endWithError (txContext b cfg s c 0) .txCom s
  else s

/-- `CanTp_Prv_TxWaitForTransmitConfirmation`. -/
def txWaitForTransmitConfirmation (s : State) (c : Nat) : State :=
  let ch := s.channel c
  let connection := cfg.txSdu ch.activeSduId
  if s.subState c = .txWaitForTransmitConfirmation ∧
      (getElapsedValue b s ch.initialTicks).2 > (cfg.timeOut connection.timeOutId).asArTicks then
    (endWithError (txContext b cfg s c 0) .txCom s).setConfirmation
      connection.txConfirmationId b.invalidChannel
  else s

def requestPayLoad (ch : Channel) : Nat :=
  let connection := cfg.txSdu ch.activeSduId
  let dataOffset := addressSize connection.addressFormatId + ch.pciId.pciSize
  match ch.pciId with
  | .sfCan | .sfCanFd => u8 ch.sduLength
  | _ => sub8 (getTxDl b connection) dataOffset

/-- The part of `CanTp_Prv_TxTransmissionRequestAccepted` behind the NULL check. -/
def requestAccepted (s : State) (c : Nat) : State :=
  let ch := s.channel c
  let connection := cfg.txSdu ch.activeSduId
  let elapsed := (getElapsedValue b s ch.initialTicks).2
  if s.txConfirmationChannel connection.txConfirmationId = b.invalidChannel then
    let ctx := txContext b cfg s c (requestPayLoad b cfg ch)
    let s := s.setChannel c
      { ch with blockCfsRemaining := 0, sduLengthRemaining := ch.sduLength, sn := 1 }
    let s := getTxBuffer b env ctx s
    if (s.channel c).txBufferStatus = .available then sendFrame b cfg env ctx ch.pciId s
    else s
  else if elapsed > (cfg.timeOut connection.timeOutId).asArTicks then
    -- the substate is left as it is here, unlike in the other timeouts
    ((pduRConfirmation .tx s c ch.activeSduId connection.pduRPduHandleId .notOk).emit
      (.reportRunTimeError .mainFunction .txCom)).setConfirmation
        connection.txConfirmationId b.invalidChannel
  else s

/-- `CanTp_Prv_TxTransmissionRequestAccepted`; `none` is the access through the NULL
`Connection` that happens when the substate changed since the dispatch. -/
def txTransmissionRequestAccepted (s : State) (c : Nat) : Option State :=
  if s.subState c = .txTransmissionRequestAccepted then some (requestAccepted b cfg env s c)
  else none

end Transmission

section Reception
variable (b : Build) (cfg : Config b) (env : Env)

def rxContext (s : State) (c remBufSize : Nat) : TxContext :=
  let ch := s.channel c
  let connection := cfg.rxSdu ch.activeSduId
  let elapsed := getElapsedValue b s ch.initialTicks
  { pduRApi := .rx
    payLoadLength := 0
    channelId := c
    sduId := ch.activeSduId
    txConfirmationId := connection.txConfirmationId
    pduId := connection.txPduId
    pduRPduHandleId := connection.pduRPduHandleId
    remBufSize
    value := elapsed.1
    elapsedValue := elapsed.2
    csTicks := 0 }

/-- `CanTp_Prv_FcTransmit`. -/
def fcTransmit (ctx : TxContext) (isFcTransmitReady : Bool) (s : State) : State :=
  let c := ctx.channelId
  if isFcTransmitReady ∧ s.subState c = .rxSendFc then
    let ch := { s.channel c with initialTicks := ctx.value, pciId := .fc }
    let s := (s.setChannel c ch).setSub c .rxWaitForFcTransmitConfirmation
    if b.fcDisableSupport ∧ getBit (cfg.rxSdu ch.activeSduId).bitFields fcDisabled then
      if ch.flowStatus ≠ .overflow ∧ ch.sduLengthRemaining ≤ ctx.remBufSize then
        (s.setChannel c
          { ch with
            blockCfsRemaining := getRxBlockCfs b cfg ch
            stMinTicks := b.defaultStMinTicks }).setSub c .rxWaitForConsecutiveFrame
      else
        (pduRConfirmation ctx.pduRApi s c ctx.sduId ctx.pduRPduHandleId .notOk).setSub c .idle
    else canIfTransmit b cfg env ctx s
  else s

/-- The wait round of `CanTp_Prv_RxSendFlowControlFrame`: whether FC.WAIT is to be sent. -/
def fcWaitRound (ctx : TxContext) (isFcReady : Bool) (s : State) : Bool × State :=
  let c := ctx.channelId
  let ch := s.channel c
  let connection := cfg.rxSdu ch.activeSduId
  if ch.flowStatus = .wait ∧
      (ctx.elapsedValue ≥ (cfg.timeOut connection.timeOutId).bsBrTicks ∨ ch.fcWait = 0) then
    if ch.fcWait < (cfg.param connection.paramId).fcWaitMax then
      (true, s.setChannel c { ch with fcWait := ch.fcWait + 1, initialTicks := ctx.value })
    else (isFcReady, endWithError ctx .rxCom s)
  else (isFcReady, s)

/-- `CanTp_Prv_RxSendFlowControlFrame`. -/
def rxSendFlowControlFrame (s : State) (c : Nat) : State :=
  let ch := s.channel c
  let connection := cfg.rxSdu ch.activeSduId
  if s.subState c = .rxSendFc ∧
      s.txConfirmationChannel connection.txConfirmationId = b.invalidChannel then
    let isFcReady := decide (ch.flowStatus = .overflow)
    let ctx := rxContext b cfg s c 0
    let ch := { ch with blockCfsRemaining := 0 }
    let s := s.setChannel c ch
    if ch.flowStatus ≠ .overflow then
      let answer := env.copyRxData s.log ctx.pduRPduHandleId []
      let ctx := { ctx with remBufSize := answer.2 }
      let s := s.emit (.copyRxData c ctx.sduId ctx.pduRPduHandleId [] answer.1 answer.2)
      let granted :=
        if answer.1 ≠ .ok then (false, endWithError ctx .com s)
        else if ch.flowStatus ≠ .cts then
          let ch := setRxBlockInfo b cfg s ch answer.2
          (decide (ch.flowStatus = .cts) || isFcReady, s.setChannel c ch)
        else (isFcReady, s)
      let waited := fcWaitRound b cfg ctx granted.1 granted.2
      fcTransmit b cfg env ctx waited.1 waited.2
    else fcTransmit b cfg env ctx isFcReady s
  else s

/-- `CanTp_Prv_RxReceptionRequestAccepted`. -/
def rxReceptionRequestAccepted (s : State) (c : Nat) : State :=
  let ch := s.channel c
  let connection := cfg.rxSdu ch.activeSduId
  if s.subState c = .rxReceptionRequestAccepted ∧
      (getElapsedValue b s ch.initialTicks).2 > (cfg.timeOut connection.timeOutId).bsBrTicks then
    endWithError (rxContext b cfg s c 0) .rxCom s
  else s

/-- `CanTp_Prv_RxWaitForFcTransmitConfirmation`. -/
def rxWaitForFcTransmitConfirmation (s : State) (c : Nat) : State :=
  let ch := s.channel c
  let connection := cfg.rxSdu ch.activeSduId
  if s.subState c = .rxWaitForFcTransmitConfirmation ∧
      (getElapsedValue b s ch.initialTicks).2 > (cfg.timeOut connection.timeOutId).asArTicks then
    (endWithError (rxContext b cfg s c 0) .rxCom s).setConfirmation
      connection.txConfirmationId b.invalidChannel
  else s

/-- `CanTp_Prv_RxWaitForConsecutiveFrame`. -/
def rxWaitForConsecutiveFrame (s : State) (c : Nat) : State :=
  let ch := s.channel c
  let connection := cfg.rxSdu ch.activeSduId
  if s.subState c = .rxWaitForConsecutiveFrame ∧
      (getElapsedValue b s ch.initialTicks).2 > (cfg.timeOut connection.timeOutId).csCrTicks then
    endWithError (rxContext b cfg s c 0) .rxCom s
  else s

end Reception

/-- `CanTp_Prv_ExecuteState`. -/
def executeState (b : Build) (cfg : Config b) (env : Env) (s : State) (c : Nat) : State :=
  match s.subState c with
  | .idle => s
  | .txTransmissionRequestAccepted => (txTransmissionRequestAccepted b cfg env s c).getD s
  | .txWaitForTransmitConfirmation => txWaitForTransmitConfirmation b cfg s c
  | .txWaitForFlowControlFrame => txWaitForFlowControlFrame b cfg s c
  | .txSendConsecutiveFrame => txSendConsecutiveFrame b cfg env s c
  | .rxReceptionRequestAccepted => rxReceptionRequestAccepted b cfg s c
  | .rxSendFc => rxSendFlowControlFrame b cfg env s c
  | .rxWaitForFcTransmitConfirmation => rxWaitForFcTransmitConfirmation b cfg s c
  | .rxWaitForConsecutiveFrame => rxWaitForConsecutiveFrame b cfg s c

end AnchorNode.CanTp
