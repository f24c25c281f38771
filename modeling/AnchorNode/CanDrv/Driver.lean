import AnchorNode.CanDrv.Frame

/-! The functions of the driver that send, confirm and receive frames. -/

namespace AnchorNode.CanDrv

open AnchorNode.Lib

section Access

def ask (q : Query) : Driver (Answer q) := Prog.question q

def spiRead (address : Address) (count : Nat) : Driver (Bool × List Word) :=
  ask (.spiRead address count)

def spiWrite (address : Address) (words : List Word) : Driver Bool :=
  ask (.spiWrite address words none)

def requestTransmission (request : Request) : Driver Bool :=
  ask (.spiWrite (.reg .txbar) [1#32 <<< request.buffer] (some request))

def swPduHandle (marker : Nat) : Driver Nat := ask (.swPduHandle marker)

def setSwPduHandle (marker handle : Nat) : Driver Unit := ask (.setSwPduHandle marker handle)

def lockHth (context : Context) (hth : Nat) : Driver Bool := ask (.lockHth context hth)

def unlockHth (hth : Nat) : Driver Unit := ask (.unlockHth hth)

def gComConfigId : Driver Nat := ask .gComConfigId

def exCntxt : Driver Context := ask .exCntxt

def setExCntxt (context : Context) : Driver Unit := ask (.setExCntxt context)

def canIfTxConfirmation (handle : Nat) : Driver (List WriteCall) :=
  ask (.canIfTxConfirmation handle)

def canIfRxIndication (store : RxStore) (mailbox : Mailbox) (pdu : RxPdu) :
    Driver (List WriteCall) :=
  ask (.canIfRxIndication store mailbox pdu)

def rwDevState : Driver DeviceState := ask .rwDevState

def setRwDevState (state : DeviceState) : Driver Unit := ask (.setRwDevState state)

def controllerMode : Driver ControllerMode := ask .controllerMode

def setControllerMode (mode : ControllerMode) : Driver Unit := ask (.setControllerMode mode)

def canIfControllerBusOff : Driver Unit := ask .canIfControllerBusOff

def detReportError (error : ErrorId) : Driver Unit := ask (.detReportError error)

end Access

section Functions
variable (cfg : Config) (context : Context)

/-- `Can_44_TCAN4x5x_VerifySpiRead`: some chips are asked again where the answer was zero. -/
def verifySpiRead (address : Address) (words : List Word) : Driver (List Word) :=
  if cfg.majorRevId = 3 ∧ words.getD 0 0#32 = 0#32 then
    if address = .reg .ndat1 then
      if words.getD 1 0#32 = 0#32 then do
        let (_, again) ← spiRead address 2
        return again
      else return words
    else do
      let (_, again) ← spiRead address 1
      return again
  else return words

def readVerified (r : Register) : Driver (Bool × Word) := do
  let (status, words) ← spiRead (.reg r) 1
  let words ← verifySpiRead cfg (.reg r) words
  return (status, words.getD 0 0#32)

section Layout

/-- The start addresses that `Can_44_TCAN4x5x_MCAN_MessageRAM_Init` computes, in bytes. -/
structure RamLayout where
  extndIdFilterStartAddr : Nat
  rxFifo0StartAddr : Nat
  rxFifo1StartAddr : Nat
  rxBufferStartAddr : Nat
  txEventFifoStartAddr : Nat
  txBufferStartAddr : Nat

def elementSize : Nat := bufferSizeFd cfg.canFdDataBufSize + 8

/-- `Can_44_TCAN4x5x_MCAN_MessageRAM_Init`. -/
def messageRamInit : RamLayout :=
  let ram := cfg.canMsgRamConfig
  let extndIdFilter := ram.canStandardIdFiltersCount * 4
  let rxFifo0 := extndIdFilter + ram.canExtendedIdFiltersCount * 8
  let rxFifo1 := rxFifo0 + ram.canFifo0BufferCount * elementSize cfg
  let rxBuffer := rxFifo1 + ram.canFifo1BufferCount * elementSize cfg
  let txEventFifo := rxBuffer + ram.canDedicatedRxBufferCount * elementSize cfg
  let txBuffer := txEventFifo + ram.canTxBufferCount * 8
  ⟨extndIdFilter, rxFifo0, rxFifo1, rxBuffer, txEventFifo, txBuffer⟩

def txBufferElem (buffer : Nat) : Nat :=
  (messageRamInit cfg).txBufferStartAddr + elementSize cfg * buffer

def txEventElem (index : Nat) : Nat := (messageRamInit cfg).txEventFifoStartAddr + 8 * index

def rxElem (store : RxStore) (index : Nat) : Nat :=
  match store with
  | .fifo0 => (messageRamInit cfg).rxFifo0StartAddr + elementSize cfg * index
  | .fifo1 => (messageRamInit cfg).rxFifo1StartAddr + elementSize cfg * index
  | .buffer _ => (messageRamInit cfg).rxBufferStartAddr + elementSize cfg * index

end Layout

section Writing

/-- The loop of `Can_44_TCAN4x5x_MCAN_Write`: the first of `count` buffers from `buffer` on that
no request is pending for. -/
def findFree (txbrp : Word) : Nat → Nat → Option Nat
  | 0, _ => none
  | count + 1, buffer =>
    if txbrp &&& (1#32 <<< buffer) = 0#32 then some buffer else findFree txbrp count (buffer + 1)

/-- `Can_44_TCAN4x5x_MCAN_Write`. -/
def mcanWrite (pdu : CanPdu) (residue : Nat → UInt8) (txObj : TxObjConfig) : Driver CanReturn := do
  let (_, txbrp) ← readVerified cfg .txbrp
  match findFree txbrp txObj.canHwObjectCount txObj.canTxBufferIndex with
  | none => return if txObj.canHwObjectCount = 0 then .ok else .busy
  | some buffer => do
    setSwPduHandle buffer pdu.swPduHandle
    let _ ← spiWrite (.ram (txBufferElem cfg buffer)) (txElement cfg txObj pdu residue buffer)
    -- the request may fail on the bus; the result stays `E_OK`
    let _ ← requestTransmission ⟨buffer, txObj, pdu⟩
    return .ok

/-- `Can_44_TCAN4x5x_WriteDetCheck`, for frames whose data pointer is set. -/
def writeDetCheck (hth : Nat) (pdu : CanPdu) : Option ErrorId :=
  if hth < cfg.canHrhObjectsCount ∨ cfg.canHrhObjectsCount + cfg.canHthObjectsCount ≤ hth then
    some .paramHandle
  else if cfg.canFdBaudRateEnabled then
    if 8 < pdu.sdu.length ∧ pdu.sdu.length ≤ 64 ∧ pdu.id &&& frameTypeMask = 0#32 then
      some .paramDlc
    else if bufferSizeFd cfg.canFdDataBufSize < pdu.sdu.length then some .paramDlc
    else none
  else if 8 < pdu.sdu.length then some .paramDlc
  else none

/-- `Can_44_TCAN4x5x_Write` of an initialised driver. -/
def canWrite (call : WriteCall) : Driver CanReturn :=
  match if cfg.devErrorDetect then writeDetCheck cfg call.hth call.pdu else none with
  | some error => do
    detReportError error
    return .notOk
  | none => do
    let hth := call.hth - cfg.canHrhObjectsCount
    if ← lockHth context hth then
      if cfg.publicIcomSupport then
        if (← gComConfigId) ≠ 0 then
          -- the mutex stays taken
          return .busy
      let result ← mcanWrite cfg call.pdu call.residue (cfg.canTxObjConfig (cfg.canHthIndex hth))
      unlockHth hth
      return result
    else return .busy

def writeAll (calls : List WriteCall) : Driver Unit :=
  .each (fun call => do let _ ← canWrite cfg context call; pure ()) calls

end Writing

section Processing

/-- A FIFO of the controller: its status and acknowledge registers with the masks of the fill level
and of the get index, and what is done with an element. -/
structure FifoPort (ε : Type) where
  status : Register
  acknowledge : Register
  levelMask : Word
  indexMask : Word
  fetch : Nat → Driver ε
  notify : ε → Driver Unit

def processFifo {ε : Type} (port : FifoPort ε) : Nat → Word → Driver Unit
  | 0, _ => pure ()
  | level + 1, status => do
    let index := (status &&& port.indexMask) >>> 8
    let element ← port.fetch index.toNat
    let _ ← spiWrite (.reg port.acknowledge) [index]
    port.notify element
    if level = 0 then pure ()
    else do
      let (_, status) ← readVerified cfg port.status
      processFifo port level status

/-- `Can_44_TCAN4x5x_MCAN_ProcessTx` and `Can_44_TCAN4x5x_MCAN_ProcessRxFIFO`. -/
def processPort {ε : Type} (port : FifoPort ε) : Driver Unit := do
  let (_, status) ← readVerified cfg port.status
  processFifo cfg port (status &&& port.levelMask).toNat status

def txEventPort : FifoPort Nat where
  status := .txefs
  acknowledge := .txefa
  levelMask := 0x0000003F#32
  indexMask := 0x00001F00#32
  fetch index := do
    let (_, words) ← spiRead (.ram (txEventElem cfg index + 4)) 1
    return ((words.getD 0 0#32 &&& 0xFF000000#32) >>> 24).toNat
  notify marker := do
    let handle ← swPduHandle marker
    let calls ← canIfTxConfirmation handle
    writeAll cfg context calls

def fetchRxElement (offset : Nat) : Driver MsgInfo := do
  let (_, head) ← spiRead (.ram offset) 2
  let (_, data) ← spiRead (.ram (offset + 8)) (wordCount (rxLength (head.getD 1 0#32)))
  return rxMessage (head.getD 0 0#32) (head.getD 1 0#32) data

/-- `Can_44_TCAN4x5x_RxNotification` without pretended networking. -/
def rxNotification (store : RxStore) (msg : MsgInfo) : Driver Unit := do
  let calls ← canIfRxIndication store (rxMailbox cfg msg) ⟨msg.canMsgData, msg.canTimeStamp⟩
  writeAll cfg context calls

def rxFifo0Port : FifoPort MsgInfo where
  status := .rxf0s
  acknowledge := .rxf0a
  levelMask := 0x0000007F#32
  indexMask := 0x00003F00#32
  fetch index := fetchRxElement (rxElem cfg .fifo0 index)
  notify := rxNotification cfg context .fifo0

def rxFifo1Port : FifoPort MsgInfo where
  status := .rxf1s
  acknowledge := .rxf1a
  levelMask := 0x0000007F#32
  indexMask := 0x00003F00#32
  fetch index := fetchRxElement (rxElem cfg .fifo1 index)
  notify := rxNotification cfg context .fifo1

/-- `Can_44_TCAN4x5x_MCAN_ProcessCanTx`. -/
def processCanTx : Driver Unit := do
  let (status, word) ← readVerified cfg .intr
  if status then
    let intr := word &&& (irTefn ||| irTefl)
    if intr ≠ 0#32 then
      let _ ← spiWrite (.reg .intr) [intr]
    if intr &&& irTefn ≠ 0#32 then
      if intr &&& irTefl ≠ 0#32 ∧ cfg.devErrorDetect then
        detReportError .txEventFifoElementLost
      processPort cfg (txEventPort cfg context)

end Processing

end Functions

end AnchorNode.CanDrv
