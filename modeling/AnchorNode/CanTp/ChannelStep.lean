import AnchorNode.CanTp.Api
import Mathlib.Logic.Relation

/-! The life of one channel as a transition relation. Every call of the module is a path
of these steps (`Refinement`), so what holds along all paths holds along all runs. -/

namespace AnchorNode.CanTp

open AnchorNode.Lib

/-- Where a call leaves the ordinary course of a transfer. Each invariant of the module
survives all but some of these. -/
inductive Lapse where
  /-- A transmission still waiting for its N-PDU is confirmed as failed but stays accepted. -/
  | blockedTimeout
  /-- A flow control frame for one TX SDU ends the transmission of another. -/
  | foreignConfirmation
  /-- A malformed frame of an RX SDU ends a transmission. -/
  | droppedTransmission
  /-- A malformed frame of one RX SDU ends the reception of another. -/
  | foreignIndication
  /-- The end of a reception is indicated a second time. -/
  | doubleIndication
  /-- A reception is replaced while its flow control frame is still unconfirmed. -/
  | replacedPending
  /-- The confirmation of one N-PDU reaches a channel that waits for another. -/
  | staleConfirmation
  /-- A channel gives up while the table still records an unconfirmed frame. -/
  | abandonedFrame
  /-- A frame passed the length check although it is shorter than its contents. -/
  | missizedFrame
  /-- No lapse but a mark: a confirmation is taken. -/
  | confirmation
  deriving DecidableEq, Repr

/-- The part of the state a step of one channel reads and writes. -/
structure View where
  sub : SubState
  ch : Channel
  table : Nat → Nat

def State.view (s : State) (c : Nat) : View :=
  ⟨s.subState c, s.channel c, s.txConfirmationChannel⟩

def stamp (b : Build) (now : Nat) : Nat := now % 2 ^ b.tickBits

def elapsedSince (b : Build) (now value : Nat) : Nat :=
  (stamp b now + 2 ^ b.tickBits - value % 2 ^ b.tickBits) % 2 ^ b.tickBits

theorem getElapsedValue_eq (b : Build) (s : State) (value : Nat) :
    getElapsedValue b s value = (stamp b s.ticks, elapsedSince b s.ticks value) := rfl

def Event.isNoise : Event → Bool
  | .copyTxData .. => true
  | .copyRxData _ _ _ data _ _ => data.isEmpty
  | .fdCallOut .. => true
  | .activateMainFunction .. => true
  | .reportError .. => true
  | .reportRunTimeError .. => true
  | _ => false

def Event.channel? : Event → Option Nat
  | .transmitOk c .. => some c
  | .startOfReception c .. => some c
  | .copyRxData c .. => some c
  | .rxIndication c .. => some c
  | .copyTxData c .. => some c
  | .txConfirmation c .. => some c
  | .canIfTransmit frame _ => some frame.ch
  | .clearToSend c .. => some c
  | .consecutiveFrame c .. => some c
  | .fdCallOut .. => none
  | .activateMainFunction .. => none
  | .reportError .. => none
  | .reportRunTimeError .. => none

section Steps
variable (b : Build) (cfg : Config b)

def payloadLength (ch : Channel) : Nat :=
  let connection := cfg.txSdu ch.activeSduId
  match ch.pciId.frameType with
  | .single => u8 ch.sduLengthRemaining
  | .first =>
    sub8 (getTxDl b connection) (addressSize connection.addressFormatId + ch.pciId.pciSize)
  | .consecutive =>
    cfLength ch.sduLengthRemaining
      (sub8 (getTxDl b connection) (addressSize connection.addressFormatId + cfPciSize))
  | .flowControl => 0

def SentFrame.sequenceNumber (frame : SentFrame) : Nat :=
  (frame.bytes.getD (pciOffset (cfg.txSdu frame.sdu).addressFormatId) 0).toNat % 16

structure DataFrame (now c : Nat) (ch : Channel) (frame : SentFrame) : Prop where
  channel : frame.ch = c
  sdu : frame.sdu = ch.activeSduId
  confirmation : frame.confirmationId = (cfg.txSdu ch.activeSduId).txConfirmationId
  pci : frame.pciId = ch.pciId
  payload : frame.payload.length = payloadLength b cfg ch
  sequence : ch.pciId = .cf → 0 < ch.sduLengthRemaining →
    frame.sequenceNumber b cfg = ch.sn % 16
  time : frame.ticks = now

structure FlowFrame (now c : Nat) (ch : Channel) (frame : SentFrame) : Prop where
  channel : frame.ch = c
  sdu : frame.sdu = ch.activeSduId
  confirmation : frame.confirmationId = (cfg.rxSdu ch.activeSduId).txConfirmationId
  pci : frame.pciId = .fc
  time : frame.ticks = now

def ReadyToSend (now : Nat) (v : View) (pciId : Npci) : Prop :=
  (v.sub = .txTransmissionRequestAccepted ∧ pciId = v.ch.pciId ∧
      v.ch.sduLengthRemaining = v.ch.sduLength ∧ v.ch.sn = 1 ∧ v.ch.blockCfsRemaining = 0) ∨
    (v.sub = .txSendConsecutiveFrame ∧ pciId = .cf ∧
      (v.ch.stMinTicks ≤ elapsedSince b now v.ch.initialTicks ∨ v.ch.pciId ≠ .cf))

def sentChannel (now : Nat) (ch : Channel) (pciId : Npci) : Channel :=
  { ch with pciId, initialTicks := stamp b now, txBufferStatus := .notAsked }

/-- A single or first frame of SDU `r` is taken: on an idle channel, or in place of the
reception of the same SDU, which `replaced` then ends. -/
def Accepts (lapse : Lapse → Prop) (c r : Nat) (v : View) (replaced : List Event) : Prop :=
  r < cfg.numberOfRxSdus ∧ (cfg.rxSdu r).channelId = c ∧
    ((v.sub = .idle ∧ replaced = []) ∨
      (v.sub.state = .reception ∧ v.ch.activeSduId = r ∧
        replaced = [.rxIndication c r (cfg.rxSdu r).pduRPduHandleId .notOk] ∧
        (v.sub = .rxWaitForFcTransmitConfirmation →
          v.table (cfg.rxSdu r).txConfirmationId = c → lapse .replacedPending)))

def BriefEnd (lapse : Lapse → Prop) (c r id n : Nat) (answer : BufReq) (rest : List Event) :
    Prop :=
  (answer ≠ .ok ∧ answer ≠ .ovfl ∧ rest = []) ∨
    ((answer = .ok ∨ answer = .ovfl) ∧ rest = [.rxIndication c r id .notOk]) ∨
    (answer = .ok ∧ ∃ data copied size result,
      rest = [.copyRxData c r id data copied size, .rxIndication c r id result] ∧
        (result = .ok → data.length = n) ∧ (data.length ≤ n ∨ lapse .missizedFrame))

def releasedTable (waiting : Bool) (table : Nat → Nat) (p : Nat) : Nat → Nat :=
  if waiting then Function.update table p b.invalidChannel else table

inductive ChannelStep (lapse : Lapse → Prop) (now c : Nat) : View → List Event → View → Prop
  /-- `CanTp_Transmit` accepts a request. -/
  | accept {v : View} {x n : Nat} {ch : Channel} (idle : v.sub = .idle)
      (configured : x < cfg.numberOfTxSdus) (own : (cfg.txSdu x).channelId = c)
      (positive : 0 < n) (short : n < 2 ^ 16) (active : ch.activeSduId = x)
      (length : ch.sduLength = n) (pci : ch.pciId = txPciInit b cfg x n)
      (fresh : ch.stMinTicks = b.invalidStMinTicks) :
      ChannelStep lapse now c v [.transmitOk c x n]
        ⟨.txTransmissionRequestAccepted, ch, v.table⟩
  | txPrepare {v : View} (accepted : v.sub = .txTransmissionRequestAccepted) :
      ChannelStep lapse now c v []
        ⟨v.sub, { v.ch with
          blockCfsRemaining := 0, sduLengthRemaining := v.ch.sduLength, sn := 1 }, v.table⟩
  | txBuffer {v : View} (status : TxBufferStatus)
      (waiting : v.sub = .txTransmissionRequestAccepted ∨ v.sub = .txSendConsecutiveFrame) :
      ChannelStep lapse now c v [] ⟨v.sub, { v.ch with txBufferStatus := status }, v.table⟩
  /-- A transmission ends with a negative confirmation. -/
  | txEnd {v : View} (ch : Channel) (active : v.sub.state = .transmission)
      (released : v.sub = .txWaitForTransmitConfirmation →
        v.table (cfg.txSdu v.ch.activeSduId).txConfirmationId ≠ b.invalidChannel →
          lapse .abandonedFrame) :
      ChannelStep lapse now c v
        [.txConfirmation c v.ch.activeSduId (cfg.txSdu v.ch.activeSduId).pduRPduHandleId .notOk]
        ⟨.idle, ch, releasedTable b (v.sub == .txWaitForTransmitConfirmation) v.table
          (cfg.txSdu v.ch.activeSduId).txConfirmationId⟩
  /-- The upper layer withheld the data after all: nothing is sent, but the channel waits. -/
  | txSendFailed {v : View} {pciId : Npci} (ready : ReadyToSend b now v pciId)
      (free : v.table (cfg.txSdu v.ch.activeSduId).txConfirmationId = b.invalidChannel) :
      ChannelStep lapse now c v []
        ⟨.txWaitForTransmitConfirmation, sentChannel b now v.ch pciId, v.table⟩
  | txSent {v : View} {pciId : Npci} {frame : SentFrame} (ready : ReadyToSend b now v pciId)
      (free : v.table (cfg.txSdu v.ch.activeSduId).txConfirmationId = b.invalidChannel)
      (built : DataFrame b cfg now c (sentChannel b now v.ch pciId) frame) :
      ChannelStep lapse now c v [.canIfTransmit frame .ok]
        ⟨.txWaitForTransmitConfirmation, sentChannel b now v.ch pciId,
          Function.update v.table (cfg.txSdu v.ch.activeSduId).txConfirmationId c⟩
  | txRefused {v : View} {pciId : Npci} {frame : SentFrame} (ch : Channel)
      (ready : ReadyToSend b now v pciId)
      (free : v.table (cfg.txSdu v.ch.activeSduId).txConfirmationId = b.invalidChannel)
      (built : DataFrame b cfg now c (sentChannel b now v.ch pciId) frame) :
      ChannelStep lapse now c v
        [.canIfTransmit frame .notOk,
          .txConfirmation c v.ch.activeSduId (cfg.txSdu v.ch.activeSduId).pduRPduHandleId .notOk]
        ⟨.idle, ch, Function.update v.table (cfg.txSdu v.ch.activeSduId).txConfirmationId
          b.invalidChannel⟩
  | txBlockedTimeout {v : View} (accepted : v.sub = .txTransmissionRequestAccepted)
      (blocked : v.table (cfg.txSdu v.ch.activeSduId).txConfirmationId ≠ b.invalidChannel)
      (lapsed : lapse .blockedTimeout) (abandoned : lapse .abandonedFrame) :
      ChannelStep lapse now c v
        [.txConfirmation c v.ch.activeSduId (cfg.txSdu v.ch.activeSduId).pduRPduHandleId .notOk]
        ⟨v.sub, v.ch, Function.update v.table (cfg.txSdu v.ch.activeSduId).txConfirmationId
          b.invalidChannel⟩
  /-- The last frame of a transmission is confirmed. -/
  | txDone {v : View} {p : Nat} (waiting : v.sub = .txWaitForTransmitConfirmation)
      (pending : p < cfg.numberOfTxPdus ∧ v.table p = c)
      (own : p ≠ (cfg.txSdu v.ch.activeSduId).txConfirmationId → lapse .staleConfirmation)
      (complete : (confirmData b cfg v.ch (stamp b now)).sduLengthRemaining = 0)
      (taken : lapse .confirmation) :
      ChannelStep lapse now c v
        [.txConfirmation c v.ch.activeSduId (cfg.txSdu v.ch.activeSduId).pduRPduHandleId .ok]
        ⟨.idle, confirmData b cfg v.ch (stamp b now),
          Function.update v.table p b.invalidChannel⟩
  | txNext {v : View} {p : Nat} (waiting : v.sub = .txWaitForTransmitConfirmation)
      (pending : p < cfg.numberOfTxPdus ∧ v.table p = c)
      (own : p ≠ (cfg.txSdu v.ch.activeSduId).txConfirmationId → lapse .staleConfirmation)
      (more : (confirmData b cfg v.ch (stamp b now)).sduLengthRemaining ≠ 0)
      (block : (confirmData b cfg v.ch (stamp b now)).blockCfsRemaining ≠ 0)
      (taken : lapse .confirmation) :
      ChannelStep lapse now c v []
        ⟨.txSendConsecutiveFrame, confirmData b cfg v.ch (stamp b now),
          Function.update v.table p b.invalidChannel⟩
  | txAwaitFlow {v : View} {p : Nat} (waiting : v.sub = .txWaitForTransmitConfirmation)
      (pending : p < cfg.numberOfTxPdus ∧ v.table p = c)
      (own : p ≠ (cfg.txSdu v.ch.activeSduId).txConfirmationId → lapse .staleConfirmation)
      (more : (confirmData b cfg v.ch (stamp b now)).sduLengthRemaining ≠ 0)
      (block : (confirmData b cfg v.ch (stamp b now)).blockCfsRemaining = 0)
      (taken : lapse .confirmation) :
      ChannelStep lapse now c v []
        ⟨.txWaitForFlowControlFrame, { confirmData b cfg v.ch (stamp b now) with pciId := .fc },
          Function.update v.table p b.invalidChannel⟩
  /-- Flow control is disabled for the connection: the rest goes out as one block. -/
  | txSkipFlow {v : View} {p : Nat} (ch : Channel)
      (waiting : v.sub = .txWaitForTransmitConfirmation)
      (pending : p < cfg.numberOfTxPdus ∧ v.table p = c)
      (own : p ≠ (cfg.txSdu v.ch.activeSduId).txConfirmationId → lapse .staleConfirmation)
      (disabled : b.fcDisableSupport ∧
        getBit (cfg.txSdu v.ch.activeSduId).bitFields fcDisabled)
      (same : ch.activeSduId = v.ch.activeSduId) (length : ch.sduLength = v.ch.sduLength)
      (taken : lapse .confirmation) :
      ChannelStep lapse now c v []
        ⟨.txSendConsecutiveFrame, ch, Function.update v.table p b.invalidChannel⟩
  | txFlowWait {v : View} (waiting : v.sub = .txWaitForFlowControlFrame) :
      ChannelStep lapse now c v []
        ⟨v.sub, { v.ch with initialTicks := stamp b now, flowStatus := .wait }, v.table⟩
  | txFlowClear {v : View} (x : Nat) (bs stMin : UInt8)
      (waiting : v.sub = .txWaitForFlowControlFrame) :
      ChannelStep lapse now c v
        [.clearToSend c x bs.toNat (setTxBlockInfo b cfg
          { v.ch with initialTicks := stamp b now, flowStatus := .cts } bs stMin).stMinTicks]
        ⟨.txSendConsecutiveFrame, setTxBlockInfo b cfg
          { v.ch with initialTicks := stamp b now, flowStatus := .cts } bs stMin, v.table⟩
  | txForeignConfirmation {v : View} (x : Nat) (ch : Channel)
      (waiting : v.sub = .txWaitForFlowControlFrame) (own : (cfg.txSdu x).channelId = c)
      (lapsed : lapse .foreignConfirmation) :
      ChannelStep lapse now c v
        [.txConfirmation c x (cfg.txSdu x).pduRPduHandleId .notOk] ⟨.idle, ch, v.table⟩
  | txDropped {v : View} (r : Nat) (ch : Channel)
      (waiting : v.sub = .txWaitForFlowControlFrame) (own : (cfg.rxSdu r).channelId = c)
      (lapsed : lapse .droppedTransmission) :
      ChannelStep lapse now c v
        [.rxIndication c r (cfg.rxSdu r).pduRPduHandleId .notOk] ⟨.idle, ch, v.table⟩
  | rxForeignIndication {v : View} (r : Nat) (ch : Channel)
      (waiting : v.sub = .rxWaitForConsecutiveFrame) (own : (cfg.rxSdu r).channelId = c)
      (lapsed : lapse .foreignIndication) :
      ChannelStep lapse now c v
        [.rxIndication c r (cfg.rxSdu r).pduRPduHandleId .notOk] ⟨.idle, ch, v.table⟩
  /-- A reception ends with a negative indication. -/
  | rxEnd {v : View} (ch : Channel) (active : v.sub.state = .reception)
      (released : v.sub = .rxWaitForFcTransmitConfirmation →
        v.table (cfg.rxSdu v.ch.activeSduId).txConfirmationId ≠ b.invalidChannel →
          lapse .abandonedFrame) :
      ChannelStep lapse now c v
        [.rxIndication c v.ch.activeSduId (cfg.rxSdu v.ch.activeSduId).pduRPduHandleId .notOk]
        ⟨.idle, ch, releasedTable b (v.sub == .rxWaitForFcTransmitConfirmation) v.table
          (cfg.rxSdu v.ch.activeSduId).txConfirmationId⟩
  | rxDoubleIndication {v : View} (idle : v.sub = .idle) (lapsed : lapse .doubleIndication) :
      ChannelStep lapse now c v
        [.rxIndication c v.ch.activeSduId (cfg.rxSdu v.ch.activeSduId).pduRPduHandleId .notOk] v
  | idleTouch {v : View} (ch : Channel) (idle : v.sub = .idle)
      (remaining : ch.sduLengthRemaining = v.ch.sduLengthRemaining) :
      ChannelStep lapse now c v [] ⟨.idle, ch, v.table⟩
  /-- The block parameters of the next flow control frame are settled. -/
  | fcPrepare {v : View} (ch : Channel) (sending : v.sub = .rxSendFc)
      (active : ch.activeSduId = v.ch.activeSduId) (length : ch.sduLength = v.ch.sduLength)
      (remaining : ch.sduLengthRemaining = v.ch.sduLengthRemaining) (sn : ch.sn = v.ch.sn)
      (rxDl : ch.rxDl = v.ch.rxDl)
      (flow : ch.flowStatus = .overflow ↔ v.ch.flowStatus = .overflow) :
      ChannelStep lapse now c v [] ⟨v.sub, ch, v.table⟩
  | fcSent {v : View} {frame : SentFrame} (sending : v.sub = .rxSendFc)
      (free : v.table (cfg.rxSdu v.ch.activeSduId).txConfirmationId = b.invalidChannel)
      (wait : v.ch.flowStatus = .wait → 0 < v.ch.sduLengthRemaining)
      (built : FlowFrame b cfg now c v.ch frame) :
      ChannelStep lapse now c v [.canIfTransmit frame .ok]
        ⟨.rxWaitForFcTransmitConfirmation,
          { v.ch with initialTicks := stamp b now, pciId := .fc },
          Function.update v.table (cfg.rxSdu v.ch.activeSduId).txConfirmationId c⟩
  | fcRefused {v : View} {frame : SentFrame} (ch : Channel) (sending : v.sub = .rxSendFc)
      (free : v.table (cfg.rxSdu v.ch.activeSduId).txConfirmationId = b.invalidChannel)
      (built : FlowFrame b cfg now c v.ch frame) :
      ChannelStep lapse now c v
        [.canIfTransmit frame .notOk,
          .rxIndication c v.ch.activeSduId (cfg.rxSdu v.ch.activeSduId).pduRPduHandleId .notOk]
        ⟨.idle, ch, Function.update v.table (cfg.rxSdu v.ch.activeSduId).txConfirmationId
          b.invalidChannel⟩
  /-- Flow control is disabled for the connection: consecutive frames may follow at once. -/
  | fcSkipped {v : View} (ch : Channel) (sending : v.sub = .rxSendFc)
      (flow : v.ch.flowStatus ≠ .overflow) (flowSame : ch.flowStatus = v.ch.flowStatus)
      (active : ch.activeSduId = v.ch.activeSduId) (length : ch.sduLength = v.ch.sduLength)
      (remaining : ch.sduLengthRemaining = v.ch.sduLengthRemaining) (sn : ch.sn = v.ch.sn)
      (rxDl : ch.rxDl = v.ch.rxDl) :
      ChannelStep lapse now c v [] ⟨.rxWaitForConsecutiveFrame, ch, v.table⟩
  | fcConfirmedClear {v : View} {p : Nat} (waiting : v.sub = .rxWaitForFcTransmitConfirmation)
      (pending : p < cfg.numberOfTxPdus ∧ v.table p = c)
      (own : p ≠ (cfg.rxSdu v.ch.activeSduId).txConfirmationId → lapse .staleConfirmation)
      (flow : v.ch.flowStatus = .cts) (taken : lapse .confirmation) :
      ChannelStep lapse now c v []
        ⟨.rxWaitForConsecutiveFrame, { v.ch with initialTicks := stamp b now },
          Function.update v.table p b.invalidChannel⟩
  | fcConfirmedWait {v : View} {p : Nat} (waiting : v.sub = .rxWaitForFcTransmitConfirmation)
      (pending : p < cfg.numberOfTxPdus ∧ v.table p = c)
      (own : p ≠ (cfg.rxSdu v.ch.activeSduId).txConfirmationId → lapse .staleConfirmation)
      (flow : v.ch.flowStatus = .wait) (taken : lapse .confirmation) :
      ChannelStep lapse now c v []
        ⟨if v.ch.sduLengthRemaining > 0 then .rxSendFc else .idle,
          { v.ch with initialTicks := stamp b now },
          Function.update v.table p b.invalidChannel⟩
  | fcConfirmedOverflow {v : View} {p : Nat}
      (waiting : v.sub = .rxWaitForFcTransmitConfirmation)
      (pending : p < cfg.numberOfTxPdus ∧ v.table p = c)
      (own : p ≠ (cfg.rxSdu v.ch.activeSduId).txConfirmationId → lapse .staleConfirmation)
      (flow : v.ch.flowStatus = .overflow) (taken : lapse .confirmation) :
      ChannelStep lapse now c v
        [.rxIndication c v.ch.activeSduId (cfg.rxSdu v.ch.activeSduId).pduRPduHandleId .notOk]
        ⟨.idle, { v.ch with initialTicks := stamp b now },
          Function.update v.table p b.invalidChannel⟩
  /-- A single frame, or a first frame whose reception ends in the same call. -/
  | rxBrief {v : View} {r n size : Nat} {answer : BufReq} {replaced rest : List Event}
      (ch : Channel) (accepted : Accepts b cfg lapse c r v replaced)
      (ended : BriefEnd lapse c r (cfg.rxSdu r).pduRPduHandleId n answer rest) :
      ChannelStep lapse now c v
        (replaced ++
          .startOfReception c r (cfg.rxSdu r).pduRPduHandleId n answer size :: rest)
        ⟨.idle, ch, v.table⟩
  | rxFirst {v : View} {r n size room : Nat} {data : List UInt8} {replaced : List Event}
      {ch : Channel} (accepted : Accepts b cfg lapse c r v replaced)
      (active : ch.activeSduId = r) (length : ch.sduLength = n)
      (remaining : ch.sduLengthRemaining = b.subLength n data.length) (sn : ch.sn = 1)
      (flow : ch.flowStatus = .wait)
      (sized : (data.length ≤ n ∧ n < 2 ^ b.lengthBits ∧ 8 ≤ getRxDl b ch ∧
        getRxDl b ch ≤ 64) ∨ lapse .missizedFrame) :
      ChannelStep lapse now c v
        (replaced ++
          [.startOfReception c r (cfg.rxSdu r).pduRPduHandleId n .ok size,
            .copyRxData c r (cfg.rxSdu r).pduRPduHandleId data .ok room])
        ⟨.rxSendFc, ch, v.table⟩
  | rxOverflow {v : View} {r n size : Nat} {replaced : List Event} {ch : Channel}
      (accepted : Accepts b cfg lapse c r v replaced) (active : ch.activeSduId = r)
      (flow : ch.flowStatus = .overflow) :
      ChannelStep lapse now c v
        (replaced ++ [.startOfReception c r (cfg.rxSdu r).pduRPduHandleId n .ovfl size])
        ⟨.rxSendFc, ch, v.table⟩
  | rxConsecutive {v : View} (data : List UInt8) (room : Nat) (sub : SubState) (ch : Channel)
      (waiting : v.sub = .rxWaitForConsecutiveFrame)
      (active : ch.activeSduId = v.ch.activeSduId) (length : ch.sduLength = v.ch.sduLength)
      (remaining : ch.sduLengthRemaining = b.subLength v.ch.sduLengthRemaining data.length)
      (more : ch.sduLengthRemaining ≠ 0) (sn : ch.sn = (v.ch.sn + 1) % 16)
      (rxDl : ch.rxDl = v.ch.rxDl)
      (flow : ch.flowStatus = .wait ∨ ch.flowStatus = v.ch.flowStatus)
      (sized : data.length ≤ v.ch.sduLengthRemaining)
      (next : sub = .rxSendFc ∨ sub = .rxWaitForConsecutiveFrame) :
      ChannelStep lapse now c v
        [.copyRxData c v.ch.activeSduId (cfg.rxSdu v.ch.activeSduId).pduRPduHandleId data .ok room,
          .consecutiveFrame c v.ch.activeSduId v.ch.sn]
        ⟨sub, ch, v.table⟩
  | rxLast {v : View} (data : List UInt8) (room : Nat) (ch : Channel)
      (waiting : v.sub = .rxWaitForConsecutiveFrame)
      (remaining : ch.sduLengthRemaining = b.subLength v.ch.sduLengthRemaining data.length)
      (last : ch.sduLengthRemaining = 0)
      (sized : data.length ≤ v.ch.sduLengthRemaining) :
      ChannelStep lapse now c v
        [.copyRxData c v.ch.activeSduId (cfg.rxSdu v.ch.activeSduId).pduRPduHandleId data .ok room,
          .consecutiveFrame c v.ch.activeSduId v.ch.sn,
          .rxIndication c v.ch.activeSduId (cfg.rxSdu v.ch.activeSduId).pduRPduHandleId .ok]
        ⟨.idle, ch, v.table⟩
  | rxCopyFailed {v : View} {data : List UInt8} {room : Nat} {answer : BufReq} (ch : Channel)
      (waiting : v.sub = .rxWaitForConsecutiveFrame)
      (sized : data.length ≤ v.ch.sduLengthRemaining) :
      ChannelStep lapse now c v
        [.copyRxData c v.ch.activeSduId (cfg.rxSdu v.ch.activeSduId).pduRPduHandleId data
            answer room,
          .rxIndication c v.ch.activeSduId (cfg.rxSdu v.ch.activeSduId).pduRPduHandleId .notOk]
        ⟨.idle, ch, v.table⟩

end Steps

end AnchorNode.CanTp
