import AnchorNode.Lib.Run
import AnchorNode.Lib.Timer

/-! Network management of the CAN bus: a state machine that keeps the node awake while the
network is wanted and brings it to sleep together with its neighbours. -/

namespace AnchorNode.CanNm

open AnchorNode.Lib

/-- `CanNm_StateType` without its last value, which is no state. -/
inductive NmState where
  | busSleep
  | prepareBusSleep
  | readySleep
  | normalOperation
  | repeatMessage
  deriving DecidableEq, Repr

/-- `CanNm_ModeType`. -/
inductive NmMode where
  | busSleep
  | prepareBusSleep
  | network
  deriving DecidableEq, Repr

/-- `CanNm_AdditionalNetworkStateType`. -/
inductive NetworkState where
  | requested
  | released
  deriving DecidableEq, Repr

inductive StdReturn where
  | ok
  | notOk
  deriving DecidableEq, Repr

inductive ApiId where
  | passiveStartUp
  | networkRequest
  | networkRelease
  | txConfirmation
  | rxIndication
  | mainFunction
  | triggerTransmission
  | timeoutHandling
  deriving DecidableEq, Repr

inductive ErrorId where
  | uninit
  | dataInvalid
  | returnInvalid
  | timeout
  deriving DecidableEq, Repr

/-- `CanNm_Frame_st` as it is sent: the bits not listed stay zero. -/
structure Frame where
  nodeId : UInt8
  repeatMessageRequest : Bool
  activeWakeup : Bool
  deriving DecidableEq, Repr

/-- Calls of the neighbouring modules. -/
inductive Event where
  | transmit (frame : Frame) (result : StdReturn)
  | requestCpu
  | releaseCpu
  | sleepIndication
  | reportError (api : ApiId) (error : ErrorId)
  deriving DecidableEq, Repr

/-- The calibration and the table of node ids. -/
structure Config where
  timeoutTime : Nat
  waitBusSleepTime : Nat
  repeatMessageTime : Nat
  msgCycleTime : Nat
  immediateNmCycleTime : Nat
  immediateNmTransmissions : UInt16
  msgReducedTime : UInt8 → Nat
  nodeId : UInt8 → UInt8

/-- What a timer is started with: the instant of the start and the time that has to pass. -/
structure Start where
  instant : Nat
  duration : Nat
  deriving DecidableEq, Repr

/-- `CanNm_Info` and the other variables of the module, with the clock its timers are started
at. -/
structure State where
  now : Nat
  initialized : Bool
  nmState : NmState
  nextState : NmState
  networkState : NetworkState
  txEnabled : Bool
  canIdx : UInt8
  canFitted : Bool
  nmTimeoutTimer : Timer Start
  msgCycleTimer : Timer Start
  msgTimeoutTimer : Timer Start
  immediateTransmissionCount : Nat
  txMsg : Frame
  log : List Event

/-- `CANNM_TXMESSAGE_TIMEOUT`. -/
def txMessageTimeout : Nat := 500

/-- What one call of the main function meets: the answers of the neighbours, and for each
place where a timer is read, whether a running timer is due there. Time passes during a call
too, so the readings of one call need not be of one instant. -/
structure Moment where
  canSmOnline : Bool
  cycleDue : Bool
  nmTimeoutDue : Bool
  repeatDue : Bool
  msgTimeoutDue : Bool
  restartDue : Bool
  cycleAccepted : StdReturn
  entryAccepted : StdReturn
  deriving DecidableEq, Repr

namespace State

def emit (s : State) (e : Event) : State := { s with log := s.log ++ [e] }

/-- `rbd_ElTime_rbTimerStart`: what a timer becomes that is started now. -/
def timerStart (s : State) (duration : Nat) : Timer Start := .running ⟨s.now, duration⟩

section Fields
variable (s : State) (e : Event)

@[simp] theorem emit_initialized : (s.emit e).initialized = s.initialized := rfl
@[simp] theorem emit_nmState : (s.emit e).nmState = s.nmState := rfl
@[simp] theorem emit_nextState : (s.emit e).nextState = s.nextState := rfl
@[simp] theorem emit_networkState : (s.emit e).networkState = s.networkState := rfl
@[simp] theorem emit_canFitted : (s.emit e).canFitted = s.canFitted := rfl
@[simp] theorem emit_nmTimeoutTimer : (s.emit e).nmTimeoutTimer = s.nmTimeoutTimer := rfl
@[simp] theorem emit_msgCycleTimer : (s.emit e).msgCycleTimer = s.msgCycleTimer := rfl
@[simp] theorem emit_immediateTransmissionCount :
    (s.emit e).immediateTransmissionCount = s.immediateTransmissionCount := rfl
@[simp] theorem emit_log : (s.emit e).log = s.log ++ [e] := rfl
@[simp] theorem emit_now : (s.emit e).now = s.now := rfl
@[simp] theorem timerStart_started (duration : Nat) :
    (s.timerStart duration).started = true := rfl

end Fields

end State

/-- The mode `CanNm_GetState` reports with a state. -/
def NmState.mode : NmState → NmMode
  | .busSleep => .busSleep
  | .prepareBusSleep => .prepareBusSleep
  | .readySleep | .normalOperation | .repeatMessage => .network

/-- `CanNm_Init`; `canFitted` says whether the plant data names a CAN load. -/
def init (canFitted : Bool) (s : State) : State :=
  { s with
    nextState := .busSleep
    networkState := .released
    initialized := true
    nmState := .busSleep
    txEnabled := true
    nmTimeoutTimer := .idle
    msgCycleTimer := .idle
    msgTimeoutTimer := .idle
    txMsg := ⟨0, false, false⟩
    canFitted := canFitted
    immediateTransmissionCount := 0 }

/-- `CanNm_PassiveStartUp`. -/
def passiveStartUp (s : State) : State × StdReturn :=
  if s.initialized then
    if s.nmState.mode = .busSleep ∨ s.nmState.mode = .prepareBusSleep then
      ({ s with nextState := .repeatMessage }, .ok)
    else (s, .notOk)
  else (s.emit (.reportError .passiveStartUp .uninit), .notOk)

/-- `CanNm_NetworkRequest`. -/
def networkRequest (s : State) : State × StdReturn :=
  if s.initialized then ({ s with networkState := .requested }, .ok)
  else (s.emit (.reportError .networkRequest .uninit), .notOk)

/-- `CanNm_NetworkRelease`. -/
def networkRelease (s : State) : State × StdReturn :=
  if s.initialized then ({ s with networkState := .released }, .ok)
  else (s.emit (.reportError .networkRelease .uninit), .notOk)

/-- `CanNm_TxConfirmation`. -/
def txConfirmation (s : State) : State :=
  if s.initialized then { s with msgTimeoutTimer := .idle }
  else s.emit (.reportError .txConfirmation .uninit)

/-- `CANNM_FRAME_MIN_LENGTH`. -/
def frameMinLength : Nat := 2

def repeatMessageRequest (sdu : List UInt8) : Bool := sdu.getD 1 0 &&& 1 == 1

/-- `CanNm_RxIndication`. -/
def rxIndication (cfg : Config) (sdu : List UInt8) (s : State) : State :=
  if s.initialized then
    if sdu.length < frameMinLength then s.emit (.reportError .rxIndication .dataInvalid)
    else
      let t := match s.nmState with
        | .busSleep | .prepareBusSleep => { s with nextState := .repeatMessage }
        | .readySleep => { s with nmTimeoutTimer := s.timerStart cfg.timeoutTime }
        | .normalOperation =>
          if cfg.msgReducedTime s.canIdx > 0 then
            { s with msgCycleTimer := s.timerStart (cfg.msgReducedTime s.canIdx) }
          else s
        | .repeatMessage => s
      if repeatMessageRequest sdu ∧ (s.nmState = .normalOperation ∨ s.nmState = .readySleep) then
        { t with nextState := .repeatMessage }
      else t
  else s.emit (.reportError .rxIndication .uninit)

/-- `CanNm_SetCanIdx`. -/
def setCanIdx (cfg : Config) (canIdx : UInt8) (s : State) : State :=
  { s with
    txMsg := { s.txMsg with nodeId := cfg.nodeId canIdx }
    txEnabled := canIdx < 0x0F
    canIdx := canIdx }

/-- `CanNm_TriggerTransmission`. -/
def triggerTransmission (accepted : StdReturn) (s : State) : State :=
  if s.txEnabled then
    let frame := { s.txMsg with activeWakeup := s.networkState = .requested }
    let s := { s with txMsg := frame }.emit (.transmit frame accepted)
    if accepted = .ok then { s with msgTimeoutTimer := s.timerStart txMessageTimeout }
    else s.emit (.reportError .triggerTransmission .returnInvalid)
  else s

/-- `CanNm_SetState`. -/
def setState (cfg : Config) (m : Moment) (nmState : NmState) (s : State) : State :=
  let s := { s with nmState := nmState }
  match nmState with
  | .busSleep =>
    ({ s with nmTimeoutTimer := .idle, msgCycleTimer := .idle }.emit .sleepIndication).emit
      .releaseCpu
  | .prepareBusSleep =>
    { s with nmTimeoutTimer := s.timerStart cfg.waitBusSleepTime, msgCycleTimer := .idle }
  | .readySleep => { s with nmTimeoutTimer := s.timerStart cfg.timeoutTime, msgCycleTimer := .idle }
  | .normalOperation =>
    let s := { s with
      nmTimeoutTimer := .idle, msgCycleTimer := s.msgCycleTimer.update m.restartDue }
    (if s.msgCycleTimer.isRunning then s
      else triggerTransmission m.entryAccepted
        { s with msgCycleTimer := s.timerStart cfg.msgCycleTime }).emit .requestCpu
  | .repeatMessage =>
    let s := { s with nmTimeoutTimer := s.timerStart cfg.repeatMessageTime }
    let s := if 0 < s.immediateTransmissionCount then
        { s with
          msgCycleTimer := s.timerStart cfg.immediateNmCycleTime
          immediateTransmissionCount := s.immediateTransmissionCount - 1 }
      else { s with msgCycleTimer := s.timerStart cfg.msgCycleTime }
    (triggerTransmission m.entryAccepted s).emit .requestCpu

/-- `CanNm_MsgTimeoutTimerHandling`. -/
def msgTimeoutTimerHandling (m : Moment) (s : State) : State :=
  if s.msgTimeoutTimer.update m.msgTimeoutDue = .elapsed then
    { s with msgTimeoutTimer := .idle }.emit (.reportError .timeoutHandling .timeout)
  else s

/-- `CanNm_MsgCycleTimerHandling`. -/
def msgCycleTimerHandling (cfg : Config) (m : Moment) (nmState : NmState) (s : State) : State :=
  let s := { s with msgCycleTimer := s.msgCycleTimer.update m.cycleDue }
  if s.msgCycleTimer = .elapsed then
    let s := triggerTransmission m.cycleAccepted s
    match nmState with
    | .repeatMessage =>
      -- the decrement stops at zero
      let s := { s with immediateTransmissionCount := s.immediateTransmissionCount - 1 }
      if s.immediateTransmissionCount = 0 then
        { s with msgCycleTimer := s.timerStart cfg.msgCycleTime }
      else { s with msgCycleTimer := s.timerStart cfg.immediateNmCycleTime }
    | .normalOperation => { s with msgCycleTimer := s.timerStart cfg.msgCycleTime }
    | .busSleep | .prepareBusSleep | .readySleep => s
  else s

/-- `CanNm_NmTimeoutTimerHandling`. -/
def nmTimeoutTimerHandling (m : Moment) (nmState : NmState) (s : State) : State :=
  let s := { s with nmTimeoutTimer := s.nmTimeoutTimer.update m.nmTimeoutDue }
  if s.nmTimeoutTimer = .elapsed then
    match nmState with
    | .prepareBusSleep => { s with nextState := .busSleep }
    | .readySleep => { s with nextState := .prepareBusSleep }
    | .busSleep | .normalOperation | .repeatMessage => s
  else s

/-- `CanNm_RepeatMessageTimeoutHandling`. -/
def repeatMessageTimeoutHandling (m : Moment) (nmState : NmState) (s : State) : State :=
  if s.immediateTransmissionCount = 0 ∧ nmState = .repeatMessage then
    let s := { s with nmTimeoutTimer := s.nmTimeoutTimer.update m.repeatDue }
    if s.nmTimeoutTimer = .elapsed then
      if s.networkState = .requested then { s with nextState := .normalOperation }
      else { s with nextState := .readySleep }
    else s
  else s

/-- `CanNm_NetworkRequestHandling`. -/
def networkRequestHandling (cfg : Config) (nmState : NmState) (networkState : NetworkState)
    (s : State) : State :=
  match nmState, networkState with
  | .busSleep, .requested | .prepareBusSleep, .requested =>
    { s with
      immediateTransmissionCount := cfg.immediateNmTransmissions.toNat
      nextState := .repeatMessage }
  | .readySleep, .requested => { s with nextState := .normalOperation }
  | .normalOperation, .released => { s with nextState := .readySleep }
  | _, _ => s

def handlers (cfg : Config) (m : Moment) (s : State) : State :=
  let nmState := s.nmState
  let s := msgCycleTimerHandling cfg m nmState s
  let s := nmTimeoutTimerHandling m nmState s
  let s := repeatMessageTimeoutHandling m nmState s
  let s := networkRequestHandling cfg nmState s.networkState s
  msgTimeoutTimerHandling m s

def changeState (cfg : Config) (m : Moment) (nmState : NmState) (s : State) : State :=
  if s.nextState ≠ nmState then
    let s := if nmState = .repeatMessage then
        { s with txMsg := { s.txMsg with repeatMessageRequest := false } }
      else s
    setState cfg m s.nextState s
  else s

/-- Whether the main function does its work, apart from the initialisation. -/
def Runs (m : Moment) (s : State) : Prop := m.canSmOnline = true ∨ s.canFitted = false

instance (m : Moment) (s : State) : Decidable (Runs m s) := inferInstanceAs (Decidable (_ ∨ _))

/-- `CanNm_MainFunction`. -/
def mainFunction (cfg : Config) (m : Moment) (s : State) : State :=
  if Runs m s then
    if s.initialized then changeState cfg m s.nmState (handlers cfg m s)
    else s.emit (.reportError .mainFunction .uninit)
  else s

/-- The calls of the module, and the time that passes between them. -/
inductive Op where
  | networkRequest
  | networkRelease
  | passiveStartUp
  | rxIndication (sdu : List UInt8)
  | setCanIdx (canIdx : UInt8)
  | txConfirmation
  | mainFunction (m : Moment)
  | tick (time : Nat)
  deriving DecidableEq, Repr

def step (cfg : Config) (s : State) : Op → State
  | .networkRequest => (networkRequest s).1
  | .networkRelease => (networkRelease s).1
  | .passiveStartUp => (passiveStartUp s).1
  | .rxIndication sdu => rxIndication cfg sdu s
  | .setCanIdx canIdx => setCanIdx cfg canIdx s
  | .txConfirmation => txConfirmation s
  | .mainFunction m => mainFunction cfg m s
  | .tick time => { s with now := s.now + time }

/-- The variables before `CanNm_Init`. -/
def powerUp : State where
  now := 0
  initialized := false
  nmState := .busSleep
  nextState := .busSleep
  networkState := .requested
  txEnabled := false
  canIdx := 0
  canFitted := true
  nmTimeoutTimer := .idle
  msgCycleTimer := .idle
  msgTimeoutTimer := .idle
  immediateTransmissionCount := 0
  txMsg := ⟨0, false, false⟩
  log := []

/-- The state after a run that starts with `CanNm_Init`. -/
def after (cfg : Config) (canFitted : Bool) (ops : List Op) : State :=
  run (step cfg) (init canFitted powerUp) ops

end AnchorNode.CanNm
