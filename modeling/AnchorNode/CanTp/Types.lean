import AnchorNode.Lib.Bytes

/-! Data model of the CAN transport layer: build switches, configuration, channel
records, the interface log and the answers of the neighbouring layers. -/

namespace AnchorNode.CanTp

open AnchorNode.Lib

inductive StdReturn where
  | ok
  | notOk
  deriving DecidableEq, Repr

inductive BufReq where
  | ok
  | notOk
  | busy
  | ovfl
  deriving DecidableEq, Repr

inductive SubState where
  | idle
  | txTransmissionRequestAccepted
  | txWaitForTransmitConfirmation
  | txWaitForFlowControlFrame
  | txSendConsecutiveFrame
  | rxReceptionRequestAccepted
  | rxSendFc
  | rxWaitForFcTransmitConfirmation
  | rxWaitForConsecutiveFrame
  deriving DecidableEq, Repr

inductive MainChannelState where
  | idle
  | transmission
  | reception
  deriving DecidableEq, Repr

/-- `CanTp_State`: the mapping from substates to states. -/
def SubState.state : SubState → MainChannelState
  | .idle => .idle
  | .txTransmissionRequestAccepted => .transmission
  | .txWaitForTransmitConfirmation => .transmission
  | .txWaitForFlowControlFrame => .transmission
  | .txSendConsecutiveFrame => .transmission
  | .rxReceptionRequestAccepted => .reception
  | .rxSendFc => .reception
  | .rxWaitForFcTransmitConfirmation => .reception
  | .rxWaitForConsecutiveFrame => .reception

inductive FrameType where
  | single
  | first
  | consecutive
  | flowControl
  deriving DecidableEq, Repr

/-- The summary of N_PCI bytes, used as `PciId`. -/
inductive Npci where
  | sfCan
  | sfCanFd
  | ffCan
  | ffCanFd
  | cf
  | fc
  deriving DecidableEq, Repr

/-- `CanTp_PciFrameType`. -/
def Npci.frameType : Npci → FrameType
  | .sfCan => .single
  | .sfCanFd => .single
  | .ffCan => .first
  | .ffCanFd => .first
  | .cf => .consecutive
  | .fc => .flowControl

/-- `CanTp_PciSize`. -/
def Npci.pciSize : Npci → Nat
  | .sfCan => 1
  | .sfCanFd => 2
  | .ffCan => 2
  | .ffCanFd => 6
  | .cf => 1
  | .fc => 3

inductive FlowStatus where
  | cts
  | wait
  | overflow
  deriving DecidableEq, Repr

def FlowStatus.code : FlowStatus → Nat
  | .cts => 0
  | .wait => 1
  | .overflow => 2

inductive TxBufferStatus where
  | notAsked
  | asked
  | available
  deriving DecidableEq, Repr

inductive ApiId where
  | shutdown
  | mainFunction
  | changeParameter
  | transmit
  | cancelTransmit
  | cancelReceive
  | txConfirmation
  | rxIndication
  | triggerTransmit
  deriving DecidableEq, Repr

inductive ErrorId where
  | uninit
  | invalidTxId
  | invalidRxId
  | paramId
  | paramConfig
  | paramPointer
  | com
  | txCom
  | rxCom
  | invalidTaType
  | operNotSupported
  | padding
  deriving DecidableEq, Repr

inductive TriggerPoint where
  | txConfirmation
  | rxIndication
  deriving DecidableEq, Repr

inductive TpParameter where
  | stMin
  | bs
  | other
  deriving DecidableEq, Repr

/-- The compile-time switches and constants of `CanTp_Cfg.h` and the widths of the
platform types, which the repository leaves to the integrating project. Development
error detection is on; the trigger-transmit interface, which `CanIf` never calls, is off. -/
structure Build where
  canFdSupport : Bool
  fcDisableSupport : Bool
  dynamicFcSupport : Bool
  strictBsCrTimeoutCheck : Bool
  legacySharedFcSupport : Bool
  changeParameterApi : Bool
  pageConfirmation : Bool
  fdCalloutSupport : Bool
  txBurstMode : Bool
  schMSupport : Bool
  cycleCounter : Bool
  maxChannelSize : Nat
  maxNpduLength : Nat
  burstQueueSize : Nat
  paddingByte : UInt8
  lengthBits : Nat
  tickBits : Nat
  invalidStMinTicks : Nat
  defaultStMinTicks : Nat
  dlcCheck : Nat → Nat → StdReturn
  getUsToTicks : Nat → Nat
  lengthBits_le : 16 ≤ lengthBits

/-- `CANTP_INVALID_CHANNEL`. -/
def Build.invalidChannel (b : Build) : Nat := b.maxChannelSize

def Build.toLength (b : Build) (n : Nat) : Nat := n % 2 ^ b.lengthBits

def Build.subLength (b : Build) (n m : Nat) : Nat :=
  (n + 2 ^ b.lengthBits - m % 2 ^ b.lengthBits) % 2 ^ b.lengthBits

def u8 (n : Nat) : Nat := n % 256

def sub8 (n m : Nat) : Nat := (n + 256 - m % 256) % 256

def u32 (n : Nat) : Nat := n % 2 ^ 32

def sub32 (n m : Nat) : Nat := (n + 2 ^ 32 - m % 2 ^ 32) % 2 ^ 32

/-- The CAN_DL values of ISO 15765-2 a connection can be configured with. -/
abbrev CanDl := { n : Nat // n ∈ [8, 12, 16, 20, 24, 32, 48, 64] }

structure SharedFc where
  rxFcPduId : Nat
  txSduId : Nat

structure RxPdu where
  rxSduId : Nat
  txSduId : Nat
  /-- Maps the address byte and the pair (TxSduId, RxSduId) to the selected pair. -/
  getSduPair : Option (UInt8 → Nat × Nat → Nat × Nat)

structure TxSdu where
  txDl : CanDl
  bitFields : UInt8
  address : UInt8
  addressFormatId : Fin 5
  timeOutId : Nat
  channelId : Nat
  txConfirmationId : Nat
  txPduId : Nat
  pduRPduHandleId : Nat

structure RxSdu where
  bitFields : UInt8
  address : UInt8
  addressFormatId : Fin 5
  timeOutId : Nat
  paramId : Nat
  channelId : Nat
  txConfirmationId : Nat
  txPduId : Nat
  pduRPduHandleId : Nat

structure TimeOut where
  asArTicks : Nat
  bsBrTicks : Nat
  csCrTicks : Nat

structure Param where
  stMin : UInt8
  bs : UInt8
  fcWaitMax : Nat

/-- `CanTp_ConfigType`. The last fields are what the generated tables satisfy: the
channels fit into the arrays of the build, and every index stored in the tables lies
inside the table or array it indexes. -/
structure Config (b : Build) where
  numberOfSharedFc : Nat
  numberOfChannels : Nat
  numberOfRxPdus : Nat
  numberOfTxPdus : Nat
  numberOfRxSdus : Nat
  numberOfTxSdus : Nat
  sharedFc : Nat → SharedFc
  rxPdu : Nat → RxPdu
  txSdu : Nat → TxSdu
  rxSdu : Nat → RxSdu
  timeOut : Nat → TimeOut
  param : Nat → Param
  channels_fit : numberOfChannels ≤ b.maxChannelSize
  sharedFc_txSdu : ∀ i < numberOfSharedFc, (sharedFc i).txSduId < numberOfTxSdus
  txSdu_channel : ∀ x < numberOfTxSdus, (txSdu x).channelId < numberOfChannels
  rxSdu_channel : ∀ r < numberOfRxSdus, (rxSdu r).channelId < numberOfChannels
  txSdu_confirmation : ∀ x < numberOfTxSdus, (txSdu x).txConfirmationId < numberOfTxPdus
  rxSdu_confirmation : ∀ r < numberOfRxSdus, (rxSdu r).txConfirmationId < numberOfTxPdus

/-- `CanTp_ChannelType`. -/
structure Channel where
  txBufferStatus : TxBufferStatus
  rxDl : Nat
  pciId : Npci
  flowStatus : FlowStatus
  sn : Nat
  bs : Nat
  activeSduId : Nat
  fcWait : Nat
  blockCfsRemaining : Nat
  sduLengthRemaining : Nat
  sduLength : Nat
  initialTicks : Nat
  stMinTicks : Nat
  deriving DecidableEq, Repr

/-- `CanTp_QType`. -/
structure BurstQ where
  head : Nat
  tail : Nat
  queue : Nat → Nat

/-- A frame handed to the CAN interface: the connection and N-PDU it is sent for, its
layout and bytes, the payload slice inside it and the time of the call. -/
structure SentFrame where
  ch : Nat
  sdu : Nat
  pduId : Nat
  confirmationId : Nat
  pciId : Npci
  bytes : List UInt8
  payload : List UInt8
  ticks : Nat
  deriving DecidableEq, Repr

/-- What crosses the interface of the module. Calls on behalf of a channel carry its
index, and calls for an SDU the index of the connection whose handle `id` they pass.
`clearToSend` records a flow control frame taken as FC.CTS, with its BS and the STmin now
in force, and `consecutiveFrame` an accepted consecutive frame with its sequence number. -/
inductive Event where
  | transmitOk (ch sdu length : Nat)
  | startOfReception (ch sdu id length : Nat) (answer : BufReq) (bufferSize : Nat)
  | copyRxData (ch sdu id : Nat) (data : List UInt8) (answer : BufReq) (bufferSize : Nat)
  | rxIndication (ch sdu id : Nat) (result : StdReturn)
  | copyTxData (ch sdu id : Nat) (data : List UInt8) (answer : BufReq) (available : Nat)
  | txConfirmation (ch sdu id : Nat) (result : StdReturn)
  | canIfTransmit (frame : SentFrame) (result : StdReturn)
  | clearToSend (ch sdu bs stMinTicks : Nat)
  | consecutiveFrame (ch sdu sn : Nat)
  | fdCallOut (pduId : Nat) (data : List UInt8) (isFdEnabled : Bool) (answer : StdReturn)
  | activateMainFunction (point : TriggerPoint)
  | reportError (api : ApiId) (error : ErrorId)
  | reportRunTimeError (api : ApiId) (error : ErrorId)
  deriving DecidableEq, Repr

/-- The neighbouring layers. Every answer may depend on the whole history of the
interface, so a fixed `Env` is an arbitrary sequence of answers. `sduBuffer` is what the
uninitialised frame buffer on the stack happens to contain. -/
structure Env where
  startOfReception : List Event → (id length : Nat) → BufReq × Nat
  copyRxData : List Event → (id : Nat) → List UInt8 → BufReq × Nat
  copyTxData : List Event → (id length : Nat) → BufReq × Mem × Nat
  canIfTransmit : List Event → (pduId : Nat) → List UInt8 → StdReturn
  fdCallOut : List Event → (pduId : Nat) → List UInt8 → (isFdEnabled : Bool) → StdReturn
  sduBuffer : List Event → Mem

structure State where
  mainState : Bool
  channel : Nat → Channel
  subState : Nat → SubState
  txConfirmationChannel : Nat → Nat
  paramPair : Nat → UInt8 × UInt8
  burstQ : BurstQ
  /-- Time since the start of the run; the tick registers hold it modulo their range. -/
  ticks : Nat
  log : List Event

/-- `PduInfoType` as received: the pointer may be NULL, and `sduLength` says how many
of the bytes behind it belong to the PDU. -/
structure PduInfo where
  sduDataPtr : Option Mem
  sduLength : Nat

namespace State

def setSub (s : State) (c : Nat) (st : SubState) : State :=
  { s with subState := Function.update s.subState c st }

def setChannel (s : State) (c : Nat) (ch : Channel) : State :=
  { s with channel := Function.update s.channel c ch }

def setConfirmation (s : State) (p v : Nat) : State :=
  { s with txConfirmationChannel := Function.update s.txConfirmationChannel p v }

def emit (s : State) (e : Event) : State :=
  { s with log := s.log ++ [e] }

section Fields
variable (s : State) (c p v : Nat) (st : SubState) (ch : Channel) (e : Event)

@[simp] theorem setSub_mainState : (s.setSub c st).mainState = s.mainState := rfl
@[simp] theorem setSub_channel : (s.setSub c st).channel = s.channel := rfl
@[simp] theorem setSub_subState :
    (s.setSub c st).subState = Function.update s.subState c st := rfl
@[simp] theorem setSub_txConfirmationChannel :
    (s.setSub c st).txConfirmationChannel = s.txConfirmationChannel := rfl
@[simp] theorem setSub_paramPair : (s.setSub c st).paramPair = s.paramPair := rfl
@[simp] theorem setSub_burstQ : (s.setSub c st).burstQ = s.burstQ := rfl
@[simp] theorem setSub_ticks : (s.setSub c st).ticks = s.ticks := rfl
@[simp] theorem setSub_log : (s.setSub c st).log = s.log := rfl

@[simp] theorem setChannel_mainState : (s.setChannel c ch).mainState = s.mainState := rfl
@[simp] theorem setChannel_channel :
    (s.setChannel c ch).channel = Function.update s.channel c ch := rfl
@[simp] theorem setChannel_subState : (s.setChannel c ch).subState = s.subState := rfl
@[simp] theorem setChannel_txConfirmationChannel :
    (s.setChannel c ch).txConfirmationChannel = s.txConfirmationChannel := rfl
@[simp] theorem setChannel_paramPair : (s.setChannel c ch).paramPair = s.paramPair := rfl
@[simp] theorem setChannel_burstQ : (s.setChannel c ch).burstQ = s.burstQ := rfl
@[simp] theorem setChannel_ticks : (s.setChannel c ch).ticks = s.ticks := rfl
@[simp] theorem setChannel_log : (s.setChannel c ch).log = s.log := rfl

@[simp] theorem setConfirmation_mainState :
    (s.setConfirmation p v).mainState = s.mainState := rfl
@[simp] theorem setConfirmation_channel : (s.setConfirmation p v).channel = s.channel := rfl
@[simp] theorem setConfirmation_subState : (s.setConfirmation p v).subState = s.subState := rfl
@[simp] theorem setConfirmation_txConfirmationChannel :
    (s.setConfirmation p v).txConfirmationChannel =
      Function.update s.txConfirmationChannel p v := rfl
@[simp] theorem setConfirmation_paramPair :
    (s.setConfirmation p v).paramPair = s.paramPair := rfl
@[simp] theorem setConfirmation_burstQ : (s.setConfirmation p v).burstQ = s.burstQ := rfl
@[simp] theorem setConfirmation_ticks : (s.setConfirmation p v).ticks = s.ticks := rfl
@[simp] theorem setConfirmation_log : (s.setConfirmation p v).log = s.log := rfl

@[simp] theorem emit_mainState : (s.emit e).mainState = s.mainState := rfl
@[simp] theorem emit_channel : (s.emit e).channel = s.channel := rfl
@[simp] theorem emit_subState : (s.emit e).subState = s.subState := rfl
@[simp] theorem emit_txConfirmationChannel :
    (s.emit e).txConfirmationChannel = s.txConfirmationChannel := rfl
@[simp] theorem emit_paramPair : (s.emit e).paramPair = s.paramPair := rfl
@[simp] theorem emit_burstQ : (s.emit e).burstQ = s.burstQ := rfl
@[simp] theorem emit_ticks : (s.emit e).ticks = s.ticks := rfl
@[simp] theorem emit_log : (s.emit e).log = s.log ++ [e] := rfl

@[simp] theorem setChannel_setChannel (ch' : Channel) :
    (s.setChannel c ch).setChannel c ch' = s.setChannel c ch' := by
  simp [setChannel]

theorem setChannel_emit : (s.setChannel c ch).emit e = (s.emit e).setChannel c ch := rfl

end Fields

end State

/-- `CANTP_STANDARD`: no address byte. -/
def standardFormat : Fin 5 := ⟨0, by decide⟩

/-- `CanTp_AddressSize`. -/
def addressSize (addressFormatId : Fin 5) : Nat := [0, 1, 1, 1, 0].get addressFormatId

/-- `CanTp_CanDlTable`. -/
def canDlTable : List Nat :=
  [8,
   8, 8, 8, 8, 8, 8, 8, 8, 12, 12, 12, 12, 16, 16, 16, 16,
   20, 20, 20, 20, 24, 24, 24, 24, 32, 32, 32, 32, 32, 32, 32, 32,
   48, 48, 48, 48, 48, 48, 48, 48, 48, 48, 48, 48, 48, 48, 48, 48,
   64, 64, 64, 64, 64, 64, 64, 64, 64, 64, 64, 64, 64, 64, 64, 64]

def defaultCanDl : Nat := 8

def CanDl.classic : CanDl := ⟨defaultCanDl, by decide⟩

def invalidDl : Nat := 0xFF
def cfPciSize : Nat := 1
def fcPciSize : Nat := 3
def maxFfDl : Nat := 0xFFF
def maxFdFfDl : Nat := 0xFFFFFFFF

def tcDisabled : UInt8 := 0x10
def paddingOn : UInt8 := 0x08
def functional : UInt8 := 0x04
def fcDisabled : UInt8 := 0x02
def fdEnabled : UInt8 := 0x01

def getBit (value mask : UInt8) : Bool := (value &&& mask) == mask

def getTxDl (b : Build) (connection : TxSdu) : Nat :=
  if b.canFdSupport then connection.txDl.val else defaultCanDl

def getCanDl (b : Build) (frameLength : Nat) : Nat :=
  if b.canFdSupport then canDlTable.getD frameLength 0 else defaultCanDl

def getRxDl (b : Build) (ch : Channel) : Nat :=
  if b.canFdSupport then ch.rxDl else defaultCanDl

/-- `CanTp_Prv_SetRxDl`, which is empty without CAN FD support. -/
def setRxDl (b : Build) (ch : Channel) (value : Nat) : Channel :=
  if b.canFdSupport then { ch with rxDl := value } else ch

def isRxDlInValid (b : Build) (rxDl : Nat) : Bool :=
  if b.canFdSupport then !([8, 12, 16, 20, 24, 32, 48, 64].contains rxDl) else rxDl != 8

/-- `CanTp_GetElapsedValue`: the new value of the stamp and the time since the old one. -/
def getElapsedValue (b : Build) (s : State) (value : Nat) : Nat × Nat :=
  let now := s.ticks % 2 ^ b.tickBits
  (now, (now + 2 ^ b.tickBits - value % 2 ^ b.tickBits) % 2 ^ b.tickBits)

end AnchorNode.CanTp
