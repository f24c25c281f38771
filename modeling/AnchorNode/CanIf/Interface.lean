import AnchorNode.Lib.Chronicle

/-! The CAN interface between the CAN driver and its users: frames are handed to the driver,
and confirmed to the user of their PDU once the driver calls back or a reception fakes it. -/

namespace AnchorNode.CanIf

open AnchorNode.Lib

/-- `Can_ReturnType`. -/
inductive CanReturn where
  | ok
  | notOk
  | busy
  deriving DecidableEq, Repr

/-- `CanIf_ControllerModeType`. -/
inductive ControllerMode where
  | uninit
  | sleep
  | started
  | stopped
  | wakeup
  deriving DecidableEq, Repr

/-- `CanIf_PduUserCallbackULType`. -/
inductive User where
  | canTp
  | canTsyn
  | pduR
  | cdd
  deriving DecidableEq, Repr

inductive ApiId where
  | transmit
  | rxIndication
  | txConfirmation
  | ctrlModeInd
  deriving DecidableEq, Repr

inductive ErrorId where
  | paramPointer
  | paramPduId
  | paramCtrlId
  | paramCtrlMode
  | transmitFailed
  | paramVoltage
  deriving DecidableEq, Repr

/-- `CanIf_PduUserCallbackNameType`: whether the two functions are set, and the PDU whose
confirmation a reception fakes. -/
structure UserCallback where
  userRxIndication : Bool
  userTxConfirmation : Bool
  fakeTxConfirmPduId : Nat

/-- `CanIf_Config`, with the build switches `CANIF_DEV_ERROR_DETECT`, `RBD_PK_BLE_TIMESYNC` and
`RBD_PK_CPU_CC26xx` and the constant `CAN_FD_FRAME_MASK`. -/
structure Config where
  devErrorDetect : Bool
  bleTimesync : Bool
  cpuCc26xx : Bool
  canFdFrameMask : UInt32
  pduMax : Nat
  numController : Nat
  ctrlId : Nat
  timestampFrequency : Nat
  loHwHandle : Nat → Nat
  upPduId : Nat → Nat
  canIdMapping : Nat → UInt32
  userCallbackUL : Nat → User
  userCallbackName : Nat → UserCallback

structure TxPdu where
  length : Nat
  data : List UInt8

structure RxPdu where
  data : List UInt8
  timeStamp : Nat
  deriving DecidableEq, Repr

/-- Calls of the driver and of the users, with the PDU they are about. `accepted` is the return
of `CanIf_Transmit` with `E_OK`. -/
inductive Event where
  | canTrcvWrite (handle pdu : Nat) (canId : UInt32) (length : Nat) (data : List UInt8)
      (result : CanReturn)
  | accepted (pdu : Nat)
  | setTxConfirmationLatency (upPduId latency : Nat)
  | txConfirmation (pdu : Nat) (user : User) (upPduId : Nat)
  | rxIndication (pdu : Nat) (user : User) (upPduId : Nat) (frame : RxPdu)
  | reportError (id : Nat) (api : ApiId) (error : ErrorId)
  deriving DecidableEq, Repr

/-- The driver and the voltage monitor; every answer may depend on the whole history. -/
structure Env where
  voltageNormal : List Event → Bool
  canTrcvWrite : List Event → (pdu : Nat) → CanReturn
  currentTimeStamp : List Event → Nat
  currentTxTimeStamp : List Event → Nat

/-- `pendingTxConfirm` and `controllerMode` are the variables of the module; `writing` holds the
calls of `CanIf_Transmit` that are still inside `CanTrcv_Write` although the driver has taken
their frame. -/
structure State where
  pendingTxConfirm : Nat → Bool
  controllerMode : Nat → ControllerMode
  writing : List Nat
  log : List Event

namespace State

def emit (s : State) (e : Event) : State := { s with log := s.log ++ [e] }

def setPending (s : State) (p : Nat) (pending : Bool) : State :=
  { s with pendingTxConfirm := Function.update s.pendingTxConfirm p pending }

section Fields
variable (s : State) (e : Event) (p : Nat) (pending : Bool)

@[simp] theorem emit_pendingTxConfirm : (s.emit e).pendingTxConfirm = s.pendingTxConfirm := rfl
@[simp] theorem emit_writing : (s.emit e).writing = s.writing := rfl
@[simp] theorem emit_log : (s.emit e).log = s.log ++ [e] := rfl
@[simp] theorem setPending_pendingTxConfirm :
    (s.setPending p pending).pendingTxConfirm = Function.update s.pendingTxConfirm p pending := rfl
@[simp] theorem setPending_writing : (s.setPending p pending).writing = s.writing := rfl
@[simp] theorem setPending_log : (s.setPending p pending).log = s.log := rfl

end Fields

end State

section Functions
variable (cfg : Config) (env : Env)

/-- `Det_ReportError`, which is compiled in only with the error detection. -/
def report (id : Nat) (api : ApiId) (error : ErrorId) (s : State) : State :=
  if cfg.devErrorDetect then s.emit (.reportError id api error) else s

/-- `CanIf_Transmit` up to the moment the driver has taken or refused the frame. -/
def transmitWrite (txPduId : Nat) (pduInfo : Option TxPdu) (s : State) : State :=
  if cfg.devErrorDetect = true ∧ cfg.pduMax ≤ txPduId then report cfg 0 .transmit .paramPduId s
  else match pduInfo with
  -- without the error detection a null pointer is not allowed
  | none => report cfg 0 .transmit .paramPointer s
  | some pdu =>
    if env.voltageNormal s.log = false then report cfg 0 .transmit .paramVoltage s
    else if s.controllerMode cfg.ctrlId = .started then
      let answer := env.canTrcvWrite s.log txPduId
      let s := s.emit (.canTrcvWrite (cfg.loHwHandle txPduId) txPduId (cfg.canIdMapping txPduId)
        (pdu.length % 256) pdu.data answer)
      match answer with
      | .busy => s
      | .notOk => report cfg 0 .transmit .transmitFailed s
      | .ok => { s with writing := txPduId :: s.writing }
    else s

/-- The rest of `CanIf_Transmit`, once `CanTrcv_Write` returns from a frame it has taken. -/
def transmitReturn (txPduId : Nat) (s : State) : State :=
  if txPduId ∈ s.writing then
    ({ s with writing := s.writing.erase txPduId }.setPending txPduId true).emit
      (.accepted txPduId)
  else s

def latency (now stamp : Nat) : Nat :=
  (now + (65536 - stamp % 65536)) % 65536 * (1000000000 / cfg.timestampFrequency) % 4294967296

/-- The callback at the end of `CanIf_TxConfirmation`. -/
def confirmUser (pdu : Nat) (s : State) : State :=
  let upPduId := cfg.upPduId pdu
  match cfg.userCallbackUL pdu with
  | .canTp => s.emit (.txConfirmation pdu .canTp upPduId)
  | .canTsyn =>
    if cfg.bleTimesync ∧ cfg.cpuCc26xx then
      let s := if cfg.timestampFrequency ≠ 0 then
          s.emit (.setTxConfirmationLatency upPduId
            (latency cfg (env.currentTimeStamp s.log) (env.currentTxTimeStamp s.log)))
        else s
      s.emit (.txConfirmation pdu .canTsyn upPduId)
    else s
  | .pduR => s.emit (.txConfirmation pdu .pduR upPduId)
  | .cdd =>
    if (cfg.userCallbackName pdu).userTxConfirmation then
      s.emit (.txConfirmation pdu .cdd upPduId)
    else s

/-- `CanIf_TxConfirmation`. -/
def txConfirmation (canTxPduId : Nat) (s : State) : State :=
  if cfg.devErrorDetect = true ∧ cfg.pduMax ≤ canTxPduId then
    report cfg 0 .txConfirmation .paramPduId s
  else if s.pendingTxConfirm canTxPduId then
    confirmUser cfg env canTxPduId (s.setPending canTxPduId false)
  else s

/-- `CanIf_GetPduId`. -/
def getPduId (canId : UInt32) : Option Nat :=
  (List.range cfg.pduMax).find? fun p =>
    ((canId ^^^ cfg.canIdMapping p) &&& ~~~cfg.canFdFrameMask) == 0

/-- The callback at the end of `CanIf_RxIndication`. -/
def indicateUser (pdu : Nat) (frame : RxPdu) (s : State) : State :=
  let upPduId := cfg.upPduId pdu
  match cfg.userCallbackUL pdu with
  | .canTp => s.emit (.rxIndication pdu .canTp upPduId frame)
  | .canTsyn =>
    if cfg.bleTimesync then
      let frame := if cfg.timestampFrequency ≠ 0 then
          { frame with timeStamp := latency cfg (env.currentTimeStamp s.log) frame.timeStamp }
        else frame
      s.emit (.rxIndication pdu .canTsyn upPduId frame)
    else s
  | .pduR => s.emit (.rxIndication pdu .pduR upPduId frame)
  | .cdd =>
    if (cfg.userCallbackName pdu).userRxIndication then
      s.emit (.rxIndication pdu .cdd upPduId frame)
    else s

/-- `CanIf_RxIndication`, with the CAN id in the mailbox. -/
def rxIndication (mailbox : Option UInt32) (pduInfo : Option RxPdu) (s : State) : State :=
  match mailbox, pduInfo with
  | some canId, some frame => match getPduId cfg canId with
    | none => s
    | some pdu =>
      let fake := (cfg.userCallbackName pdu).fakeTxConfirmPduId
      indicateUser cfg env pdu frame
        (if fake < cfg.pduMax then txConfirmation cfg env fake s else s)
  | _, _ => report cfg 0 .rxIndication .paramPointer s

/-- `CanIf_ControllerModeIndication`. -/
def controllerModeIndication (controllerId : Nat) (mode : ControllerMode) (s : State) : State :=
  if cfg.devErrorDetect = true ∧ cfg.numController ≤ controllerId then
    report cfg 0 .ctrlModeInd .paramCtrlId s
  else if cfg.devErrorDetect = true ∧ mode ≠ .sleep ∧ mode ≠ .started ∧ mode ≠ .stopped then
    report cfg controllerId .ctrlModeInd .paramCtrlMode s
  else { s with controllerMode := Function.update s.controllerMode controllerId mode }

end Functions

/-- Calls of the module. The driver, its interrupt included, may call between the two halves of
`CanIf_Transmit`. -/
inductive Op where
  | transmitWrite (txPduId : Nat) (pduInfo : Option TxPdu)
  | transmitReturn (txPduId : Nat)
  | txConfirmation (canTxPduId : Nat)
  | rxIndication (mailbox : Option UInt32) (pduInfo : Option RxPdu)
  | controllerModeIndication (controllerId : Nat) (mode : ControllerMode)

def step (cfg : Config) (env : Env) (s : State) : Op → State
  | .transmitWrite txPduId pduInfo => transmitWrite cfg env txPduId pduInfo s
  | .transmitReturn txPduId => transmitReturn txPduId s
  | .txConfirmation canTxPduId => txConfirmation cfg env canTxPduId s
  | .rxIndication mailbox pduInfo => rxIndication cfg env mailbox pduInfo s
  | .controllerModeIndication controllerId mode => controllerModeIndication cfg controllerId mode s

/-- `CanIf_Init`. -/
def initial : State where
  pendingTxConfirm := fun _ => false
  controllerMode := fun _ => .uninit
  writing := []
  log := []

end AnchorNode.CanIf
