import AnchorNode.CanTp.StateFunctions
import AnchorNode.CanTp.Ownership

/-! The window between the dispatch of a state function and its exclusive area. A cancel, a
reception or a confirmation can run in it, so that the function finds another substate than the
one it was dispatched for. -/

namespace AnchorNode.CanTp

open AnchorNode.Lib

/-- What a state function reads before it enters the exclusive area: the time and the elapsed
time, and whether the channel is in overflow. -/
structure EarlyRead where
  value : Nat
  elapsedValue : Nat
  isOverflow : Bool

def readEarly (b : Build) (s : State) (c : Nat) : EarlyRead :=
  let elapsed := getElapsedValue b s (s.channel c).initialTicks
  ⟨elapsed.1, elapsed.2, decide ((s.channel c).flowStatus = .overflow)⟩

def EarlyRead.fill (early : EarlyRead) (ctx : TxContext) : TxContext :=
  { ctx with value := early.value, elapsedValue := early.elapsedValue }

section Entries
variable (b : Build) (cfg : Config b) (env : Env) (early : EarlyRead)

def pendingChannel (s : State) (txConfirmationId : Option Nat) : Nat :=
  match txConfirmationId with
  | some id => s.txConfirmationChannel id
  | none => 0

def txConnection (st : SubState) (s : State) (c : Nat) : Option TxSdu :=
  if s.subState c = st then some (cfg.txSdu (s.channel c).activeSduId) else none

def rxConnection (st : SubState) (s : State) (c : Nat) : Option RxSdu :=
  if s.subState c = st then some (cfg.rxSdu (s.channel c).activeSduId) else none

/-- `CanTp_Prv_TxSendConsecutiveFrame` from its exclusive area on. Here and below, `none` is an
access through the NULL connection. -/
def sendConsecutiveEntry (s : State) (c : Nat) : Option State :=
  let connection := txConnection b cfg .txSendConsecutiveFrame s c
  if pendingChannel s (connection.map (·.txConfirmationId)) = b.invalidChannel then
    connection.map fun connection =>
      let ch := s.channel c
      let maxLength := sub8 (getTxDl b connection)
        (cfPciSize + addressSize connection.addressFormatId)
      let ctx := early.fill (txContext b cfg s c
        (if ch.sduLengthRemaining < maxLength then u8 ch.sduLengthRemaining else maxLength))
      let s := getTxBuffer b env ctx s
      let ch := s.channel c
      if ch.txBufferStatus = .available ∧
          (ctx.elapsedValue ≥ ch.stMinTicks ∨ ch.pciId ≠ .cf) then
        sendFrame b cfg env ctx .cf s
      else s
  else some s

/-- `CanTp_Prv_TxTransmissionRequestAccepted` from its exclusive area on. -/
def requestAcceptedEntry (s : State) (c : Nat) : Option State :=
  let connection := txConnection b cfg .txTransmissionRequestAccepted s c
  if pendingChannel s (connection.map (·.txConfirmationId)) = b.invalidChannel then
    connection.map fun _ =>
      let ch := s.channel c
      let ctx := early.fill (txContext b cfg s c (requestPayLoad b cfg ch))
      let s := s.setChannel c
        { ch with blockCfsRemaining := 0, sduLengthRemaining := ch.sduLength, sn := 1 }
      let s := getTxBuffer b env ctx s
      if (s.channel c).txBufferStatus = .available then sendFrame b cfg env ctx ch.pciId s
      else s
  else
    connection.map fun connection =>
      if early.elapsedValue > (cfg.timeOut connection.timeOutId).asArTicks then
        ((pduRConfirmation .tx s c (s.channel c).activeSduId
          connection.pduRPduHandleId .notOk).emit
            (.reportRunTimeError .mainFunction .txCom)).setConfirmation
              connection.txConfirmationId b.invalidChannel
      else s

/-- `CanTp_Prv_RxSendFlowControlFrame` from its exclusive area on. -/
def sendFlowControlEntry (s : State) (c : Nat) : Option State :=
  let connection := rxConnection b cfg .rxSendFc s c
  if pendingChannel s (connection.map (·.txConfirmationId)) = b.invalidChannel then
    connection.map fun _ =>
      let ctx := early.fill (rxContext b cfg s c 0)
      let ch := { s.channel c with blockCfsRemaining := 0 }
      let s := s.setChannel c ch
      if ch.flowStatus ≠ .overflow then
        let answer := env.copyRxData s.log ctx.pduRPduHandleId []
        let ctx := { ctx with remBufSize := answer.2 }
        let s := s.emit (.copyRxData c ctx.sduId ctx.pduRPduHandleId [] answer.1 answer.2)
        let granted :=
          if answer.1 ≠ .ok then (false, endWithError ctx .com s)
          else if ch.flowStatus ≠ .cts then
            let ch := setRxBlockInfo b cfg s ch answer.2
            (decide (ch.flowStatus = .cts) || early.isOverflow, s.setChannel c ch)
          else (early.isOverflow, s)
        let waited := fcWaitRound b cfg ctx granted.1 granted.2
        fcTransmit b cfg env ctx waited.1 waited.2
      else fcTransmit b cfg env ctx early.isOverflow s
  else some s

def timeoutEntry (st : SubState) (ticks : Nat) (ended : State) (s : State) (c : Nat) : State :=
  if s.subState c = st ∧ early.elapsedValue > ticks then ended else s

/-- `CanTp_StateFunctions`, each entry from its exclusive area on. -/
def stateFunctions (st : SubState) (s : State) (c : Nat) : Option State :=
  let ch := s.channel c
  let tx := cfg.txSdu ch.activeSduId
  let rx := cfg.rxSdu ch.activeSduId
  let txEnded := endWithError (txContext b cfg s c 0) .txCom s
  let rxEnded := endWithError (rxContext b cfg s c 0) .rxCom s
  match st with
  | .idle => some s
  | .txTransmissionRequestAccepted => requestAcceptedEntry b cfg env early s c
  | .txWaitForTransmitConfirmation =>
    some (timeoutEntry early st (cfg.timeOut tx.timeOutId).asArTicks
      (txEnded.setConfirmation tx.txConfirmationId b.invalidChannel) s c)
  | .txWaitForFlowControlFrame =>
    some (timeoutEntry early st (cfg.timeOut tx.timeOutId).bsBrTicks txEnded s c)
  | .txSendConsecutiveFrame => sendConsecutiveEntry b cfg env early s c
  | .rxReceptionRequestAccepted =>
    some (timeoutEntry early st (cfg.timeOut rx.timeOutId).bsBrTicks rxEnded s c)
  | .rxSendFc => sendFlowControlEntry b cfg env early s c
  | .rxWaitForFcTransmitConfirmation =>
    some (timeoutEntry early st (cfg.timeOut rx.timeOutId).asArTicks
      (rxEnded.setConfirmation rx.txConfirmationId b.invalidChannel) s c)
  | .rxWaitForConsecutiveFrame =>
    some (timeoutEntry early st (cfg.timeOut rx.timeOutId).csCrTicks rxEnded s c)

end Entries

variable {b : Build} {cfg : Config b} {env : Env} {early : EarlyRead} {s : State} {c : Nat}

theorem stateFunctions_undisturbed (b : Build) (cfg : Config b) (env : Env) (s : State) (c : Nat) :
    stateFunctions b cfg env (readEarly b s c) (s.subState c) s c =
      some (executeState b cfg env s c) := by
  cases sub : s.subState c with
  | idle => simp [stateFunctions, executeState, sub]
  | txTransmissionRequestAccepted =>
      simp only [stateFunctions, executeState, sub, requestAcceptedEntry, txConnection, if_true,
        Option.map_some, pendingChannel, txTransmissionRequestAccepted, requestAccepted,
        Option.getD_some]
      split <;> rfl
  | txSendConsecutiveFrame =>
      simp only [stateFunctions, executeState, sub, sendConsecutiveEntry, txConnection, if_true,
        Option.map_some, pendingChannel, txSendConsecutiveFrame, true_and]
      split <;> rfl
  | rxSendFc =>
      simp only [stateFunctions, executeState, sub, sendFlowControlEntry, rxConnection, if_true,
        Option.map_some, pendingChannel, rxSendFlowControlFrame, true_and]
      split <;> rfl
  | txWaitForTransmitConfirmation =>
      simp only [stateFunctions, executeState, sub, timeoutEntry, txWaitForTransmitConfirmation]
      rfl
  | txWaitForFlowControlFrame =>
      simp only [stateFunctions, executeState, sub, timeoutEntry, txWaitForFlowControlFrame]
      rfl
  | rxReceptionRequestAccepted =>
      simp only [stateFunctions, executeState, sub, timeoutEntry, rxReceptionRequestAccepted]
      rfl
  | rxWaitForFcTransmitConfirmation =>
      simp only [stateFunctions, executeState, sub, timeoutEntry, rxWaitForFcTransmitConfirmation]
      rfl
  | rxWaitForConsecutiveFrame =>
      simp only [stateFunctions, executeState, sub, timeoutEntry, rxWaitForConsecutiveFrame]
      rfl

theorem pendingChannel_null (bound : c < cfg.numberOfChannels) :
    pendingChannel s none ≠ b.invalidChannel := by
  have fit := cfg.channels_fit
  simp only [pendingChannel, Build.invalidChannel]
  omega

theorem txConnection_null {st : SubState} (changed : s.subState c ≠ st) :
    txConnection b cfg st s c = none := if_neg changed

theorem rxConnection_null {st : SubState} (changed : s.subState c ≠ st) :
    rxConnection b cfg st s c = none := if_neg changed

/-- An entry that finds its substate gone leaves everything as it is and calls nobody, with the
one exception of the entry for accepted transmission requests. -/
theorem stateFunctions_revalidate_iff (b : Build) (cfg : Config b) (env : Env)
    (early : EarlyRead) (s : State) (c : Nat) (bound : c < cfg.numberOfChannels) (st : SubState)
    (changed : s.subState c ≠ st) :
    stateFunctions b cfg env early st s c = some s ↔ st ≠ .txTransmissionRequestAccepted := by
  have dummy := pendingChannel_null (s := s) bound
  have timeout (ticks : Nat) (ended : State) : timeoutEntry early st ticks ended s c = s :=
    if_neg fun test => changed test.1
  cases st with
  | idle => simp [stateFunctions]
  | txTransmissionRequestAccepted =>
      have null := @txConnection_null b cfg _ _ _ changed
      simp [stateFunctions, requestAcceptedEntry, null]
  | txSendConsecutiveFrame =>
      have null := @txConnection_null b cfg _ _ _ changed
      simp [stateFunctions, sendConsecutiveEntry, null, dummy]
  | rxSendFc =>
      have null := @rxConnection_null b cfg _ _ _ changed
      simp [stateFunctions, sendFlowControlEntry, null, dummy]
  | _ => simp [stateFunctions, timeout]

def requestedNode : State :=
  step nodeBuild nodeConfig nodeEnv (start nodeBuild nodeConfig nodeRam) (.transmit 0 (some 20))

theorem stateFunctions_revalidate_consecutive :
    stateFunctions nodeBuild nodeConfig nodeEnv (readEarly nodeBuild nodeRam 0)
      .txSendConsecutiveFrame requestedNode 0 = some requestedNode :=
  (stateFunctions_revalidate_iff nodeBuild nodeConfig nodeEnv (readEarly nodeBuild nodeRam 0)
    requestedNode 0 (by decide) .txSendConsecutiveFrame (by decide)).mpr (by decide)

/-- The accepted transmission is cancelled after the main function has dispatched it and before
the state function enters its exclusive area: it goes through the NULL connection. -/
theorem cancelled_request_null :
    requestedNode.subState 0 = .txTransmissionRequestAccepted ∧
      let cancelled := step nodeBuild nodeConfig nodeEnv requestedNode (.cancelTransmit 0)
      cancelled.subState 0 = .idle ∧
        (stateFunctions nodeBuild nodeConfig nodeEnv (readEarly nodeBuild requestedNode 0)
          .txTransmissionRequestAccepted cancelled 0).isNone = true := by
  refine ⟨by decide, by decide, ?_⟩
  decide

end AnchorNode.CanTp
