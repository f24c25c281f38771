import AnchorNode.CanDrv.Driver
import AnchorNode.CanDrv.Msb

/-! The functions of the driver that take received frames out of the controller, and the interrupt
handler and main functions that call them. -/

namespace AnchorNode.CanDrv

open AnchorNode.Lib

variable (cfg : Config) (context : Context)

section Reception

def processRxBuffers (ndat : BitVec 64) : Driver Unit :=
  if _ : ndat ≠ 0#64 then do
    let index := (getmsb ndat).toNat
    let msg ← fetchRxElement (rxElem cfg (.buffer index) index)
    let _ ← if index < 32 then spiWrite (.reg .ndat1) [1#32 <<< index]
      else spiWrite (.reg .ndat2) [1#32 <<< (index - 32)]
    rxNotification cfg context (.buffer index) msg
    processRxBuffers (ndat &&& ~~~(1#64 <<< (getmsb ndat).toNat))
  else pure ()
termination_by ndat.toNat
decreasing_by exact clear_getmsb_lt ‹_›

/-- `Can_44_TCAN4x5x_MCAN_ProcessRxBuffer`. -/
def processRxBuffer : Driver Unit := do
  let (_, words) ← spiRead (.reg .ndat1) 2
  let words ← verifySpiRead cfg (.reg .ndat1) words
  processRxBuffers cfg context
    ((words.getD 0 0#32).setWidth 64 ||| (words.getD 1 0#32).setWidth 64 <<< 32)

def reportLost (status : Register) (lost : Bool) : Driver Unit :=
  if cfg.devErrorDetect ∧ lost then do
    let (_, word) ← readVerified cfg status
    if word &&& 0x02000000#32 ≠ 0#32 then detReportError .dataLost
  else pure ()

def serveRxFifo (status : Register) (lost : Bool) (port : FifoPort MsgInfo) : Driver Unit := do
  reportLost cfg status lost
  processPort cfg port

def rxFlags : Word := irRf0n ||| irRf1n ||| irDrx ||| irRf0l ||| irRf1l

/-- `Can_44_TCAN4x5x_MCAN_ProcessCanRx`. -/
def processCanRx : Driver Unit := do
  let (status, word) ← readVerified cfg .intr
  if status then
    let intr := word &&& rxFlags
    if intr ≠ 0#32 then
      let _ ← spiWrite (.reg .intr) [intr]
    if intr &&& irDrx ≠ 0#32 then
      processRxBuffer cfg context
    if intr &&& irRf0n ≠ 0#32 then
      serveRxFifo cfg .rxf0s (intr &&& irRf0l ≠ 0#32) (rxFifo0Port cfg context)
    if intr &&& irRf1n ≠ 0#32 then
      serveRxFifo cfg .rxf1s (intr &&& irRf1l ≠ 0#32) (rxFifo1Port cfg context)

end Reception

/-- `Can_44_TCAN4x5x_MCAN_BusoffProcess`. -/
def busoffProcess : Driver Unit := do
  let (status, word) ← readVerified cfg .intr
  if status then
    let intr := word &&& irBo
    if intr ≠ 0#32 then
      let _ ← spiWrite (.reg .intr) [intr]
      if (← controllerMode) = .start then
        setControllerMode .stop
        setRwDevState .idle
        canIfControllerBusOff

def withContext (body : Driver Unit) : Driver Unit := do
  let execContextBackup ← exCntxt
  setExCntxt context
  body
  setExCntxt execContextBackup

/-- `Can_44_TCAN4x5x_MCAN_ProcessCanIRQLine0` as `Can_44_TCAN4x5x_Irq_Handler` calls it. -/
def irqHandler : Driver Unit :=
  if cfg.canRxProcessing = .interrupt ∨ cfg.canTxProcessing = .interrupt ∨
      cfg.canBusoffProcessing = .interrupt then do
    if (← rwDevState) = .running then
      withContext .isr do
        if cfg.canTxProcessing = .interrupt then processCanTx cfg .isr
        if cfg.canRxProcessing = .interrupt then processCanRx cfg .isr
        if cfg.canBusoffProcessing = .interrupt then busoffProcess cfg
  else pure ()

/-- `Can_44_TCAN4x5x_MainFunction_Write`. -/
def mainFunctionWrite : Driver Unit :=
  if cfg.canTxProcessing = .polling then
    withContext .mainFunction (processCanTx cfg .mainFunction)
  else pure ()

/-- `Can_44_TCAN4x5x_MainFunction_Read`. -/
def mainFunctionRead : Driver Unit :=
  if cfg.canRxProcessing = .polling then
    withContext .mainFunction (processCanRx cfg .mainFunction)
  else pure ()

/-- `Can_44_TCAN4x5x_MainFunction_BusOff`. -/
def mainFunctionBusOff : Driver Unit :=
  if cfg.canBusoffProcessing = .polling then withContext .mainFunction (busoffProcess cfg)
  else pure ()

/-- What a task, the interrupt and the main functions start. -/
inductive Entry where
  | write (call : WriteCall)
  | irq
  | mainWrite
  | mainRead
  | mainBusOff

/-- A program of the entry points; each runs in its own context. -/
def entry : Context → Entry → Driver Unit
  | .task, .write call => do let _ ← canWrite cfg .task call
  | .isr, .irq => irqHandler cfg
  | .mainFunction, .mainWrite => mainFunctionWrite cfg
  | .mainFunction, .mainRead => mainFunctionRead cfg
  | .mainFunction, .mainBusOff => mainFunctionBusOff cfg
  | _, _ => pure ()

end AnchorNode.CanDrv
