import AnchorNode.Lib.Dialogue

/-! The driver of the TCAN4x5x CAN controller: its configuration, the registers and the message
RAM it reaches over SPI, and what its functions ask of the bus, of its variables and of the layers
above. -/

namespace AnchorNode.CanDrv

open AnchorNode.Lib

abbrev Word := BitVec 32

/-- Registers of `Can_44_TCAN4x5x_MCAN_RegsType`. -/
inductive Register where
  | intr
  | txbrp
  | txbar
  | txefs
  | txefa
  | rxf0s
  | rxf0a
  | rxf1s
  | rxf1a
  | ndat1
  | ndat2
  deriving DecidableEq, Repr

/-- A register, or a place so many bytes into the message RAM. -/
inductive Address where
  | reg (r : Register)
  | ram (offset : Nat)
  deriving DecidableEq, Repr

section Flags

def irRf0n : Word := 0x00000001#32
def irRf0l : Word := 0x00000008#32
def irRf1n : Word := 0x00000010#32
def irRf1l : Word := 0x00000080#32
def irTefn : Word := 0x00001000#32
def irTefl : Word := 0x00008000#32
def irDrx : Word := 0x00080000#32
def irBo : Word := 0x02000000#32

end Flags

/-- The execution contexts, as `Can_44_TCAN4x5x_ExCntxt` names them to select the SPI buffers. -/
inductive Context where
  | task
  | isr
  | mainFunction
  deriving DecidableEq, Repr

theorem Context.mem_all (context : Context) :
    context ∈ ({.task, .isr, .mainFunction} : Finset Context) := by
  cases context <;> decide

instance : Fintype Context := ⟨{.task, .isr, .mainFunction}, Context.mem_all⟩

/-- The interrupt preempts the main functions, and these preempt the tasks. -/
def Context.priority : Context → Nat
  | .task => 0
  | .mainFunction => 1
  | .isr => 2

inductive Processing where
  | polling
  | interrupt
  deriving DecidableEq, Repr

/-- `Can_44_TCAN4x5x_MsgRamConfigType`. -/
structure MsgRamConfig where
  canStandardIdFiltersCount : Nat
  canExtendedIdFiltersCount : Nat
  canFifo0BufferCount : Nat
  canFifo1BufferCount : Nat
  canDedicatedRxBufferCount : Nat
  canTxBufferCount : Nat

/-- `Can_44_TCAN4x5x_TxObjConfigType`. -/
structure TxObjConfig where
  canFdPaddingValue : UInt8
  canHwObjectCount : Nat
  canTxBufferIndex : Nat
  deriving DecidableEq, Repr

/-- The configuration of the driver and of its one controller, with the build switches
`CAN_44_TCAN4x5x_DEV_ERROR_DETECT` and `CAN_44_TCAN4x5x_PUBLIC_ICOM_SUPPORT`, and the revision of
the chip. -/
structure Config where
  devErrorDetect : Bool
  publicIcomSupport : Bool
  majorRevId : Nat
  canFdBaudRateEnabled : Bool
  canDataTxBitRateSwitch : Word
  canFdDataBufSize : Fin 8
  canTxProcessing : Processing
  canRxProcessing : Processing
  canBusoffProcessing : Processing
  canMsgRamConfig : MsgRamConfig
  canHrhObjectsCount : Nat
  canHthObjectsCount : Nat
  canHthIndex : Nat → Nat
  canTxObjConfig : Nat → TxObjConfig
  canFilterIdxToRxObjStandard : Nat → Nat
  canFilterIdxToRxObjExtended : Nat → Nat

/-- `Can_ReturnType`. -/
inductive CanReturn where
  | ok
  | notOk
  | busy
  deriving DecidableEq, Repr

/-- `Can_PduType`; the length is that of the bytes. -/
structure CanPdu where
  swPduHandle : Nat
  id : Word
  sdu : List UInt8
  deriving DecidableEq, Repr

/-- What a transmission request is for: a buffer, the object it belongs to, and the PDU. -/
structure Request where
  buffer : Nat
  txObj : TxObjConfig
  pdu : CanPdu
  deriving DecidableEq, Repr

/-- A call of `Can_44_TCAN4x5x_Write`, with the bytes that earlier transfers have left in the SPI
buffer of the context. -/
structure WriteCall where
  hth : Nat
  pdu : CanPdu
  residue : Nat → UInt8

/-- `Can_HwType`. -/
structure Mailbox where
  hoh : Nat
  canId : Word
  deriving DecidableEq, Repr

structure RxPdu where
  sdu : List UInt8
  sduTimeStamp : BitVec 16
  deriving DecidableEq, Repr

/-- Where the controller keeps the frames it has received. -/
inductive RxStore where
  | fifo0
  | fifo1
  | buffer (index : Nat)
  deriving DecidableEq, Repr

/-- `Can_StateTransitionType`, as `Can_44_TCAN4x5x_ControllerMode` keeps it. -/
inductive ControllerMode where
  | uninit
  | start
  | stop
  | sleep
  | wakeup
  deriving DecidableEq, Repr

/-- `CAN_44_TCAN4x5x_StateType` of the device. -/
inductive DeviceState where
  | uninit
  | idle
  | running
  | sleep
  | wakeup
  deriving DecidableEq, Repr

inductive ErrorId where
  | paramHandle
  | paramDlc
  | paramPointer
  | dataLost
  | txEventFifoElementLost
  deriving DecidableEq, Repr

/-- What the functions of the driver ask for. A write to the controller says what it requests, if it
is a transmission request; a lock says who takes it, and an indication where the frame was stored.
This is for the record only. -/
inductive Query where
  | spiRead (address : Address) (count : Nat)
  | spiWrite (address : Address) (words : List Word) (request : Option Request)
  | swPduHandle (marker : Nat)
  | setSwPduHandle (marker handle : Nat)
  | lockHth (context : Context) (hth : Nat)
  | unlockHth (hth : Nat)
  | gComConfigId
  | exCntxt
  | setExCntxt (context : Context)
  | canIfTxConfirmation (handle : Nat)
  | canIfRxIndication (store : RxStore) (mailbox : Mailbox) (pdu : RxPdu)
  | rwDevState
  | setRwDevState (state : DeviceState)
  | controllerMode
  | setControllerMode (mode : ControllerMode)
  | canIfControllerBusOff
  | detReportError (error : ErrorId)

/-- The layers above answer a notification with the frames they write before they return. -/
abbrev Answer : Query → Type
  | .spiRead _ _ => Bool × List Word
  | .spiWrite _ _ _ => Bool
  | .swPduHandle _ => Nat
  | .lockHth _ _ => Bool
  | .gComConfigId => Nat
  | .exCntxt => Context
  | .canIfTxConfirmation _ => List WriteCall
  | .canIfRxIndication _ _ _ => List WriteCall
  | .rwDevState => DeviceState
  | .controllerMode => ControllerMode
  | _ => Unit

abbrev Driver := Prog Query Answer

end AnchorNode.CanDrv
