import AnchorNode.CanDrv.Controller
import AnchorNode.Lib.Inbox

/-! The driver at work: tasks, the interrupt and the main functions on one controller, with a
record of what is sent, confirmed, received and indicated. -/

namespace AnchorNode.CanDrv

open AnchorNode.Lib

variable {D : Type}

/-- The controller and the variables of the driver. The mutex of a handle remembers who took it.
The record has the requests for transmission, the last one for each buffer, those that were carried
out with the frames sent, the PDUs confirmed, and the frames received and indicated. -/
structure State (D : Type) where
  dev : D
  swPduHandle : Nat → Nat
  hthMutex : Nat → Option Context
  gComConfigId : Nat
  exCntxt : Context
  rwDevState : DeviceState
  controllerMode : ControllerMode
  requests : List Request
  requestedFor : Nat → Request
  completed : List (Request × BusFrame)
  confirmed : List Nat
  arrived : RxStore → List RxFrame
  indicated : RxStore → List (Mailbox × RxPdu)
  busOffs : Nat
  reports : List ErrorId

/-- How an access over SPI ends, with what a failed read leaves in the buffer, and what the layers
above write while they are notified. -/
structure Choice where
  fault : Option (List Word)
  calls : List WriteCall

/-- The controller changes, or functions of the driver that are not part of this switch the device
or pretended networking. -/
inductive Happening where
  | chip (m : Move)
  | switchState (state : DeviceState) (mode : ControllerMode)
  | switchIcom (id : Nat)

section Functions
variable (cfg : Config) (chip : Chip D) (view : D → View)

def perform (s : State D) : (q : Query) → Choice → Answer q × State D
  | .spiRead address count, c => match c.fault with
    | none => ((true, chip.read s.dev address count), s)
    | some junk => ((false, junk), s)
  | .spiWrite address words request, c => match c.fault with
    | some _ => (false, s)
    | none =>
      let s := { s with dev := chip.write s.dev address words }
      match request with
      | none => (true, s)
      | some request =>
        (true, { s with
          requests := s.requests ++ [request]
          requestedFor := Function.update s.requestedFor request.buffer request })
  | .swPduHandle marker, _ => (s.swPduHandle marker, s)
  | .setSwPduHandle marker handle, _ =>
    ((), { s with swPduHandle := Function.update s.swPduHandle marker handle })
  | .lockHth context hth, _ =>
    if s.hthMutex hth = none then
      (true, { s with hthMutex := Function.update s.hthMutex hth (some context) })
    else (false, s)
  | .unlockHth hth, _ => ((), { s with hthMutex := Function.update s.hthMutex hth none })
  | .gComConfigId, _ => (s.gComConfigId, s)
  | .exCntxt, _ => (s.exCntxt, s)
  | .setExCntxt context, _ => ((), { s with exCntxt := context })
  | .canIfTxConfirmation handle, c => (c.calls, { s with confirmed := s.confirmed ++ [handle] })
  | .canIfRxIndication store mailbox pdu, c =>
    (c.calls, { s with
      indicated := Function.update s.indicated store (s.indicated store ++ [(mailbox, pdu)]) })
  | .rwDevState, _ => (s.rwDevState, s)
  | .setRwDevState state, _ => ((), { s with rwDevState := state })
  | .controllerMode, _ => (s.controllerMode, s)
  | .setControllerMode mode, _ => ((), { s with controllerMode := mode })
  | .canIfControllerBusOff, _ => ((), { s with busOffs := s.busOffs + 1 })
  | .detReportError error, _ => ((), { s with reports := s.reports ++ [error] })

def record (s : State D) : Move → State D
  | .sent buffer =>
    { s with
      completed := s.completed ++
        [(s.requestedFor buffer, busFrame ((view s.dev).element buffer))] }
  | .received store frame =>
    if ((view s.dev).received store).length < capacity cfg store then
      { s with arrived := Function.update s.arrived store (s.arrived store ++ [frame]) }
    else s
  | _ => s

def happen (s : State D) : Happening → State D
  | .chip m => { record cfg view s m with dev := chip.move s.dev m }
  | .switchState state mode => { s with rwDevState := state, controllerMode := mode }
  | .switchIcom id => { s with gComConfigId := id }

def unconfirmed (s : State D) : List Nat :=
  (s.completed.drop s.confirmed.length).map fun sent => sent.1.buffer

def Checked (call : WriteCall) : Prop :=
  cfg.devErrorDetect = true ∨ writeDetCheck cfg call.hth call.pdu = none

def CallsChecked : Query → Choice → Prop
  | .canIfTxConfirmation _, c => ∀ call ∈ c.calls, Checked cfg call
  | .canIfRxIndication _ _ _, c => ∀ call ∈ c.calls, Checked cfg call
  | _, _ => True

/-- The accesses over SPI succeed, but for those to the interrupt flags; no buffer is used again
while the event of its last frame waits; and the layers above write checked frames only. -/
def Allowed (s : State D) : Query → Choice → Prop
  | .spiRead address _, c => address = .reg .intr ∨ c.fault = none
  | .spiWrite address _ _, c => address = .reg .intr ∨ c.fault = none
  | .setSwPduHandle marker _, _ => marker ∉ unconfirmed s
  | .canIfTxConfirmation _, c => ∀ call ∈ c.calls, Checked cfg call
  | .canIfRxIndication _ _ _, c => ∀ call ∈ c.calls, Checked cfg call
  | _, _ => True

def setting : Setting Context Query Answer (State D) Choice Happening Entry where
  perform := perform chip
  allowed := Allowed cfg
  moved := happen cfg chip view
  possible s
    | .chip m => (view s.dev).Possible cfg m
    | _ => True
  body := entry cfg
  startable _
    | _, .write call => Checked cfg call
    | _, _ => True

/-- The same where accesses over SPI may fail and buffers may be used at any time. -/
def tolerant : Setting Context Query Answer (State D) Choice Happening Entry :=
  { setting cfg chip view with
    allowed := fun _ => CallsChecked cfg
    possible := fun _ _ => True }

section Decidable
variable {cfg chip view} (s : State D)

instance (call : WriteCall) : Decidable (Checked cfg call) :=
  inferInstanceAs (Decidable (_ ∨ _))

instance : (q : Query) → (c : Choice) → Decidable (CallsChecked cfg q c)
  | .canIfTxConfirmation _, c => inferInstanceAs (Decidable (∀ call ∈ c.calls, Checked cfg call))
  | .canIfRxIndication _ _ _, c => inferInstanceAs (Decidable (∀ call ∈ c.calls, Checked cfg call))
  | .spiRead _ _, _ | .spiWrite _ _ _, _ | .setSwPduHandle _ _, _ | .swPduHandle _, _
  | .lockHth _ _, _ | .unlockHth _, _ | .gComConfigId, _ | .exCntxt, _ | .setExCntxt _, _
  | .rwDevState, _ | .setRwDevState _, _ | .controllerMode, _ | .setControllerMode _, _
  | .canIfControllerBusOff, _ | .detReportError _, _ => inferInstanceAs (Decidable True)

instance : (q : Query) → (c : Choice) → Decidable (Allowed cfg s q c)
  | .spiRead address _, c => inferInstanceAs (Decidable (address = .reg .intr ∨ c.fault = none))
  | .spiWrite address _ _, c => inferInstanceAs (Decidable (address = .reg .intr ∨ c.fault = none))
  | .setSwPduHandle marker _, _ => inferInstanceAs (Decidable (marker ∉ unconfirmed s))
  | .canIfTxConfirmation _, c => inferInstanceAs (Decidable (∀ call ∈ c.calls, Checked cfg call))
  | .canIfRxIndication _ _ _, c => inferInstanceAs (Decidable (∀ call ∈ c.calls, Checked cfg call))
  | .swPduHandle _, _ | .lockHth _ _, _ | .unlockHth _, _ | .gComConfigId, _ | .exCntxt, _
  | .setExCntxt _, _ | .rwDevState, _ | .setRwDevState _, _ | .controllerMode, _
  | .setControllerMode _, _ | .canIfControllerBusOff, _ | .detReportError _, _ =>
    inferInstanceAs (Decidable True)

instance (q : Query) (c : Choice) : Decidable ((setting cfg chip view).allowed s q c) :=
  inferInstanceAs (Decidable (Allowed cfg s q c))

instance : (m : Happening) → Decidable ((setting cfg chip view).possible s m)
  | .chip m => inferInstanceAs (Decidable ((view s.dev).Possible cfg m))
  | .switchState _ _ => inferInstanceAs (Decidable True)
  | .switchIcom _ => inferInstanceAs (Decidable True)

instance (i : Context) : (b : Entry) → Decidable ((setting cfg chip view).startable s i b)
  | .write call => inferInstanceAs (Decidable (Checked cfg call))
  | .irq => inferInstanceAs (Decidable True)
  | .mainWrite => inferInstanceAs (Decidable True)
  | .mainRead => inferInstanceAs (Decidable True)
  | .mainBusOff => inferInstanceAs (Decidable True)

instance (q : Query) (c : Choice) : Decidable ((tolerant cfg chip view).allowed s q c) :=
  inferInstanceAs (Decidable (CallsChecked cfg q c))

instance (m : Happening) : Decidable ((tolerant cfg chip view).possible s m) :=
  inferInstanceAs (Decidable True)

instance (i : Context) (b : Entry) : Decidable ((tolerant cfg chip view).startable s i b) :=
  inferInstanceAs (Decidable ((setting cfg chip view).startable s i b))

end Decidable

theorem Allowed.checked {s : State D} {q : Query} {c : Choice} (allowed : Allowed cfg s q c) :
    CallsChecked cfg q c := by
  cases q <;> first | exact allowed | trivial

def indication (frame : RxFrame) : Mailbox × RxPdu :=
  let msg := rxMessage frame.r0 frame.r1 frame.data
  (rxMailbox cfg msg, ⟨msg.canMsgData, msg.canTimeStamp⟩)

def txInbox : Inbox (State D) (Request × BusFrame) Nat Nat where
  arrived s := s.completed
  reported s := s.confirmed
  queue s := (view s.dev).events
  index s := (view s.dev).eventIndex
  flag s := (view s.dev).intr &&& irTefn ≠ 0#32
  report sent := sent.1.pdu.swPduHandle
  shown sent := sent.1.buffer

def rxInbox (store : RxStore) : Inbox (State D) RxFrame (Mailbox × RxPdu) RxFrame where
  arrived s := s.arrived store
  reported s := s.indicated store
  queue s := (view s.dev).received store
  index s := (view s.dev).rxIndex store
  flag s := (view s.dev).intr &&& newFlag store ≠ 0#32
  report := indication cfg
  shown := id

def Owns (hth buffer : Nat) : Prop :=
  let txObj := cfg.canTxObjConfig (cfg.canHthIndex hth)
  txObj.canTxBufferIndex ≤ buffer ∧ buffer < txObj.canTxBufferIndex + txObj.canHwObjectCount

/-- What the driver expects of its configuration. -/
structure WellConfigured : Prop where
  txBuffers : cfg.canMsgRamConfig.canTxBufferCount ≤ 32
  fifo0 : cfg.canMsgRamConfig.canFifo0BufferCount ≤ 64
  fifo1 : cfg.canMsgRamConfig.canFifo1BufferCount ≤ 64
  rxBuffers : cfg.canMsgRamConfig.canDedicatedRxBufferCount ≤ 64
  bitRateSwitch : cfg.canDataTxBitRateSwitch = 0#32 ∨ cfg.canDataTxBitRateSwitch = 1#32
  inside : ∀ hth buffer, hth < cfg.canHthObjectsCount → Owns cfg hth buffer →
    buffer < cfg.canMsgRamConfig.canTxBufferCount
  apart : ∀ hth hth' buffer, hth < cfg.canHthObjectsCount → hth' < cfg.canHthObjectsCount →
    Owns cfg hth buffer → Owns cfg hth' buffer → hth = hth'

end Functions

section Bench

def benchConfig : Config where
  devErrorDetect := true
  publicIcomSupport := true
  majorRevId := 3
  canFdBaudRateEnabled := true
  canDataTxBitRateSwitch := 1#32
  canFdDataBufSize := Fin.last 7
  canTxProcessing := .interrupt
  canRxProcessing := .polling
  canBusoffProcessing := .interrupt
  canMsgRamConfig := ⟨1, 1, 2, 1, 2, 2⟩
  canHrhObjectsCount := 3
  canHthObjectsCount := 1
  canHthIndex hth := hth
  canTxObjConfig _ := ⟨0xCC, 2, 0⟩
  canFilterIdxToRxObjStandard index := index
  canFilterIdxToRxObjExtended index := index + 1

theorem bench_configured : WellConfigured benchConfig where
  txBuffers := by decide
  fifo0 := by decide
  fifo1 := by decide
  rxBuffers := by decide
  bitRateSwitch := by decide
  inside _ _ _ owns := owns.2
  apart hth hth' _ (known : hth < 1) (known' : hth' < 1) _ _ := by omega

end Bench

end AnchorNode.CanDrv
