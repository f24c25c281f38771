import AnchorNode.Lib.Protothread

/-! The thread that keeps the CAN chip running: it initialises the chip after power-up and after
every reset, services it, looks at its health, and puts it to sleep for good on request. -/

namespace AnchorNode.CanSpi

open AnchorNode.Lib Thread

/-- `nCANSPIteState`. -/
inductive InitState where
  | pwrOn
  | init
  | fault
  | ready
  deriving DecidableEq, Repr

/-- `nCANSPIteFastSleep`. -/
inductive FastSleep where
  | none
  | request
  | complete
  deriving DecidableEq, Repr

/-- The registers of the chip the module reads or writes. -/
inductive Register where
  | devId0
  | tcanVer
  | irqFlags
  | crel
  | endn
  | dbtp
  deriving DecidableEq, Repr

inductive ControllerMode where
  | started
  | stopped
  | sleep
  deriving DecidableEq, Repr

inductive TrcvMode where
  | normal
  | sleep
  deriving DecidableEq, Repr

inductive TrcvInitState where
  | uninit
  | init
  deriving DecidableEq, Repr

/-- `CAN_44_TCAN4x5x_UNINIT`. -/
def canUninit : UInt8 := 0
/-- `CAN_44_TCAN4x5x_READY`. -/
def canReady : UInt8 := 1

/-- The calls of other modules with what they return, and two marks for what the thread itself
begins: a reset of the chip and the state of fault. -/
inductive Event where
  | resetTcan
  | fault
  | resetPin (high : Bool)
  | voltage (under : Bool)
  | spiSetup (granted : Bool)
  | read (register : Register) (word : UInt32)
  | write (register : Register) (word : UInt32)
  | timerStart
  | timer (expired : Bool)
  | canInit (state : UInt8)
  | trcvInit (state : TrcvInitState)
  | setTrcvMode (mode : TrcvMode) (accepted : Bool)
  | setControllerMode (mode : ControllerMode)
  | busOff
  | canHw (awake : Bool)
  | pendingIsr (pending : Bool)
  | irqHandler
  | requestService
  | releaseService
  | watchdogStop
  | watchdogResume
  | initError
  deriving DecidableEq, Repr

/-- What the other modules answer, given all calls so far, and the build. -/
structure Env where
  detPrintf : Bool
  underVoltage : List Event → Bool
  spiGranted : List Event → Bool
  register : Register → List Event → UInt32
  expired : List Event → Bool
  canInit : List Event → UInt8
  trcvInit : List Event → TrcvInitState
  trcvModeSet : TrcvMode → List Event → Bool
  canAwake : List Event → Bool
  pendingIsr : List Event → Bool

/-- The variables of the module and of the two drivers, whether the processor is requested, and
the calls since `CanSpi_Init`. -/
structure World where
  state : InitState
  fastSleep : FastSleep
  driverState : UInt8
  trcvInitState : TrcvInitState
  cpuRequested : Bool
  log : List Event

namespace World

def emit (e : Event) (w : World) : World := { w with log := w.log ++ [e] }

def ask {A : Type} (answer : List Event → A) (event : A → Event) (w : World) : World × A :=
  (w.emit (event (answer w.log)), answer w.log)

def request (w : World) : World := { w.emit .requestService with cpuRequested := true }

def release (w : World) : World := { w.emit .releaseService with cpuRequested := false }

def setState (state : InitState) (w : World) : World := { w with state := state }

end World

/-- `CANSPI_DEVID_RETRIES_MAX`. -/
def devIdRetriesMax : Nat := 100
/-- `CANSPI_INIT_RETRIES_MAX`. -/
def initRetriesMax : Nat := 2

/-- `nCANSPI_vSetUnavailable`. -/
def setUnavailable (state : InitState) (w : World) : World :=
  ((w.setState state).emit (.setControllerMode .stopped)).emit .busOff

/-- The initialisation functions. -/
inductive InitFunction where
  | initTCAN
  | initTrcv
  | setTrcvNorm
  | startCtrl
  deriving DecidableEq, Repr

/-- `kaf_oInit`. -/
def kafInit : List InitFunction := [.initTCAN, .initTrcv, .setTrcvNorm, .startCtrl]

def internalInit : List InitFunction := kafInit.drop 2

/-! Where each of the threads may be suspended, with the local variables it keeps. -/

inductive VersionPoint where
  | tcan
  | mcan
  deriving DecidableEq, Repr

/-- `lwIdx` is kept as the functions from it on. -/
inductive InitPoint where
  | commsTest (tries : Nat)
  | devIdDelay (tries : Nat)
  | version (p : VersionPoint)
  | initDelay (functions : List InitFunction) (tries : Nat)
  deriving DecidableEq, Repr

inductive FlagsPoint where
  | irqFlags
  | baudRate (irq : UInt32)
  | endian (irq baud : UInt32)
  | clear (pwrOn : Bool)
  deriving DecidableEq, Repr

inductive ResetPoint where
  | supply
  | settle
  deriving DecidableEq, Repr

inductive HealthPoint where
  | wake
  | commsTest
  | faultFlags (p : FlagsPoint)
  | pwrOnInit (p : InitPoint)
  deriving DecidableEq, Repr

inductive SleepPoint where
  | reset (p : ResetPoint)
  | commsTest (tries : Nat)
  | delay (tries : Nat)
  deriving DecidableEq, Repr

inductive Point where
  | pwrOnInit (p : InitPoint)
  | initReset (p : ResetPoint)
  | running
  | health (p : HealthPoint)
  | healthReset (p : ResetPoint)
  | fastSleep (p : SleepPoint)
  | asleep
  deriving DecidableEq, Repr

section Registers
variable (env : Env)

/-- `nCANSPI_cTransceive` for a reading; it is suspended until it gets the bus. -/
def readRegister (register : Register) : Thread World Unit UInt32 :=
  asking (World.ask env.spiGranted .spiSetup) fun granted =>
    if granted then asking (World.ask (env.register register) (.read register)) done
    else suspend ()

/-- `nCANSPI_cTransceive` for a writing. -/
def writeRegister (register : Register) (word : UInt32) : Thread World Unit Unit :=
  asking (World.ask env.spiGranted .spiSetup) fun granted =>
    if granted then doing (World.emit (.write register word)) (done ()) else suspend ()

def kaczTCAN : UInt32 := 0x4E414354

/-- `nCANSPI_cCommsTest`. -/
def commsTest : Thread World Unit Bool :=
  gosub id (readRegister env .devId0) fun devId => done (devId == kaczTCAN)

def kuTxClrErr : UInt32 := 0x00780000

/-- The end of `nCANSPI_cChkFaultFlags`, which clears the flags of a thermal fault. -/
def clearFlags (pwrOn : Bool) : Thread World FlagsPoint (Bool × Bool) :=
  gosub (fun _ => .clear pwrOn) (writeRegister env .irqFlags kuTxClrErr) fun _ =>
    done (pwrOn, true)

def readEndian (irq baud : UInt32) : Thread World FlagsPoint (Bool × Bool) :=
  gosub (fun _ => .endian irq baud) (readRegister env .endn) fun endian =>
    let badReg := baud == 0x00000A33 || endian != 0x87654321
    let thermErr := irq.toNat.testBit 19
    let pwrOn := irq.toNat.testBit 20 || irq.toNat.testBit 22 || irq.toNat.testBit 21
    if thermErr then clearFlags env (pwrOn || badReg) else done (pwrOn || badReg, false)

def readBaudRate (irq : UInt32) : Thread World FlagsPoint (Bool × Bool) :=
  gosub (fun _ => .baudRate irq) (readRegister env .dbtp) (readEndian env irq)

/-- `nCANSPI_cChkFaultFlags`: whether the chip has been reset, and whether it is too hot. -/
def chkFaultFlags : Thread World FlagsPoint (Bool × Bool) :=
  gosub (fun _ => .irqFlags) (readRegister env .irqFlags) (readBaudRate env)

def resumeChkFaultFlags : FlagsPoint → Thread World FlagsPoint (Bool × Bool)
  | .irqFlags => chkFaultFlags env
  | .baudRate irq => readBaudRate env irq
  | .endian irq baud => readEndian env irq baud
  | .clear pwrOn => clearFlags env pwrOn

def readMcanVersion : Thread World VersionPoint Unit :=
  gosub (fun _ => .mcan) (readRegister env .crel) fun _ => done ()

/-- `nCANSPI_cQueryVersion`. -/
def queryVersion : Thread World VersionPoint Unit :=
  if env.detPrintf then
    gosub (fun _ => .tcan) (readRegister env .tcanVer) fun _ => readMcanVersion env
  else done ()

def resumeQueryVersion : VersionPoint → Thread World VersionPoint Unit
  | .tcan => queryVersion env
  | .mcan => readMcanVersion env

end Registers

section Init
variable (env : Env)

/-- A call of an initialisation function: `nCANSPI_oInitTCAN`, `nCANSPI_oInitTrcv`,
`nCANSPI_oSetTrcvNorm` and `nCANSPI_oStartCtrl`. -/
def InitFunction.call : InitFunction → World → World × Bool
  | .initTCAN, w =>
    let (w, state) := w.ask env.canInit .canInit
    ({ w with driverState := state }, state == canReady)
  | .initTrcv, w =>
    let (w, state) := w.ask env.trcvInit .trcvInit
    ({ w with trcvInitState := state }, state == .init)
  | .setTrcvNorm, w => w.ask (env.trcvModeSet .normal) (.setTrcvMode .normal)
  | .startCtrl, w => (w.emit (.setControllerMode .started), true)

def initComplete (w : World) : World := ((w.emit .watchdogResume).setState .ready).release

def callInit : List InitFunction → Nat → Thread World InitPoint Unit
  | [], _ => doing initComplete (done ())
  | f :: rest, tries =>
    if tries = initRetriesMax then doing (World.emit .initError) (done ())
    else asking (f.call env) fun ok =>
      if ok then callInit rest 0
      else doing (World.emit .timerStart) (suspend (.initDelay (f :: rest) tries))

def initialise (functions : List InitFunction) : Thread World InitPoint Unit :=
  doing (World.setState .init) (callInit env functions 0)

def chipFound (functions : List InitFunction) : Thread World InitPoint Unit :=
  asking (fun w => (w, w.state)) fun state =>
    if state = .pwrOn then gosub .version (queryVersion env) fun _ => initialise env functions
    else initialise env functions

def afterCommsTest (functions : List InitFunction) (tries : Nat) (ok : Bool) :
    Thread World InitPoint Unit :=
  if ok then chipFound env functions
  else doing (World.emit .timerStart) (suspend (.devIdDelay tries))

def pollDevId (functions : List InitFunction) (tries : Nat) : Thread World InitPoint Unit :=
  if tries = devIdRetriesMax then done ()
  else asking (World.ask env.underVoltage .voltage) fun under =>
    if under then done ()
    else gosub (fun _ => .commsTest tries) (commsTest env) (afterCommsTest env functions tries)

/-- `nCANSPI_cPwrOnInit`, with the functions it has to call. -/
def pwrOnInit (functions : List InitFunction) : Thread World InitPoint Unit :=
  doing World.request (pollDevId env functions 0)

def resumePwrOnInit (functions : List InitFunction) : InitPoint → Thread World InitPoint Unit
  | .commsTest tries =>
    gosub (fun _ => .commsTest tries) (commsTest env) (afterCommsTest env functions tries)
  | .devIdDelay tries =>
    asking (World.ask env.expired .timer) fun expired =>
      if expired then pollDevId env functions (tries + 1) else suspend (.devIdDelay tries)
  | .version p => gosub .version (resumeQueryVersion env p) fun _ => initialise env functions
  | .initDelay rest tries =>
    asking (World.ask env.expired .timer) fun expired =>
      if expired then callInit env rest (tries + 1) else suspend (.initDelay rest tries)

end Init

section Reset
variable (env : Env)

/-- The first statements of `nCANSPI_cResetTCAN`. -/
def beginReset (w : World) : World :=
  let w := (w.emit .resetTcan).request
  let w := { w with driverState := canUninit, trcvInitState := .uninit }
  (setUnavailable .init w).emit .watchdogStop

def pulseReset (w : World) : World := (w.emit (.resetPin true)).emit (.resetPin false)

def awaitSupply : Thread World ResetPoint Unit :=
  asking (World.ask env.underVoltage .voltage) fun under =>
    if under then doing (World.emit .timerStart) (suspend .supply)
    else doing pulseReset (suspend .settle)

/-- `nCANSPI_cResetTCAN`. -/
def resetTcan : Thread World ResetPoint Unit := doing beginReset (awaitSupply env)

def resumeResetTcan : ResetPoint → Thread World ResetPoint Unit
  | .supply =>
    asking (World.ask env.expired .timer) fun expired =>
      if expired then awaitSupply env else suspend .supply
  | .settle =>
    asking (World.ask env.expired .timer) fun expired =>
      if expired then done () else suspend .settle

end Reset

section Health
variable (env : Env)

def judgeFault (thermErr : Bool) : Thread World HealthPoint Bool :=
  asking (fun w => (w, w.state)) fun state =>
    if thermErr = true ∧ state = .ready then
      doing (fun w => setUnavailable .fault (w.emit .fault)) (done false)
    else if thermErr = false ∧ state ≠ .ready then
      gosub .pwrOnInit (pwrOnInit env internalInit) fun _ => done false
    else done false

def judgeHealth (devIdOk pwrOn thermErr : Bool) : Thread World HealthPoint Bool :=
  if devIdOk = false ∨ pwrOn = true then done true
  else doing World.release (judgeFault env thermErr)

def afterDevId (devIdOk : Bool) : Thread World HealthPoint Bool :=
  if devIdOk then
    gosub .faultFlags (chkFaultFlags env) fun flags => judgeHealth env devIdOk flags.1 flags.2
  else judgeHealth env devIdOk false false

/-- `nCANSPI_cChkHealth`, which returns whether the chip has to be restarted. -/
def chkHealth : Thread World HealthPoint Bool :=
  asking (World.ask env.canAwake .canHw) fun awake =>
    if awake then
      doing World.request (gosub (fun _ => .commsTest) (commsTest env) (afterDevId env))
    else suspend .wake

def resumeChkHealth : HealthPoint → Thread World HealthPoint Bool
  | .wake => chkHealth env
  | .commsTest => gosub (fun _ => .commsTest) (commsTest env) (afterDevId env)
  | .faultFlags p =>
    gosub .faultFlags (resumeChkFaultFlags env p) fun flags => judgeHealth env true flags.1 flags.2
  | .pwrOnInit p => gosub .pwrOnInit (resumePwrOnInit env internalInit p) fun _ => done false

end Health

section Sleep
variable (env : Env)

/-- The end of `nCANSPI_cFastSleep`. -/
def toSleep : Thread World SleepPoint Unit :=
  asking (World.ask (env.trcvModeSet .sleep) (.setTrcvMode .sleep)) fun _ =>
    doing (World.emit (.setControllerMode .sleep)) (doing World.release (done ()))

def afterSleepTest (tries : Nat) (ok : Bool) : Thread World SleepPoint Unit :=
  if ok then toSleep env else doing (World.emit .timerStart) (suspend (.delay tries))

def pollReset (tries : Nat) : Thread World SleepPoint Unit :=
  if tries = devIdRetriesMax then toSleep env
  else gosub (fun _ => .commsTest tries) (commsTest env) (afterSleepTest env tries)

/-- `nCANSPI_cFastSleep`. -/
def fastSleep : Thread World SleepPoint Unit :=
  doing (World.emit (.setControllerMode .stopped))
    (gosub .reset (resetTcan env) fun _ => pollReset env 0)

def resumeFastSleep : SleepPoint → Thread World SleepPoint Unit
  | .reset p => gosub .reset (resumeResetTcan env p) fun _ => pollReset env 0
  | .commsTest tries =>
    gosub (fun _ => .commsTest tries) (commsTest env) (afterSleepTest env tries)
  | .delay tries =>
    asking (World.ask env.expired .timer) fun expired =>
      if expired then pollReset env (tries + 1) else suspend (.delay tries)

end Sleep

section Cyclic
variable (env : Env)

def serveIsr : Thread World Point Unit :=
  asking (World.ask env.pendingIsr .pendingIsr) fun pending =>
    if pending then doing (World.emit .irqHandler) (suspend .running) else suspend .running

def runningLoop : Thread World Point Unit := doing (World.emit .timerStart) (serveIsr env)

def sleepComplete : Thread World Point Unit :=
  doing (fun w => { w with fastSleep := .complete }) (suspend .asleep)

def goFastSleep : Thread World Point Unit :=
  gosub .fastSleep (fastSleep env) fun _ => sleepComplete

def afterHealth (restart : Bool) : Thread World Point Unit :=
  if restart then gosub .healthReset (resetTcan env) fun _ => done () else runningLoop env

def resumeRunning : Thread World Point Unit :=
  asking (World.ask env.expired .timer) fun expired =>
    asking (fun w => (w, w.fastSleep)) fun fast =>
      if fast ≠ .none then goFastSleep env
      else if expired then gosub .health (chkHealth env) (afterHealth env)
      else serveIsr env

def afterInit : Thread World Point Unit :=
  asking (fun w => (w, w.state)) fun state =>
    if state ≠ .ready then gosub .initReset (resetTcan env) fun _ => done () else runningLoop env

/-- `CanSpi_Cyclic` from its start. -/
def startCyclic : Thread World Point Unit :=
  gosub .pwrOnInit (pwrOnInit env kafInit) fun _ => afterInit env

def resumeCyclic : Point → Thread World Point Unit
  | .pwrOnInit p => gosub .pwrOnInit (resumePwrOnInit env kafInit p) fun _ => afterInit env
  | .initReset p => gosub .initReset (resumeResetTcan env p) fun _ => done ()
  | .running => resumeRunning env
  | .health p => gosub .health (resumeChkHealth env p) (afterHealth env)
  | .healthReset p => gosub .healthReset (resumeResetTcan env p) fun _ => done ()
  | .fastSleep p => gosub .fastSleep (resumeFastSleep env p) fun _ => sleepComplete
  | .asleep => suspend .asleep

end Cyclic

/-- The variables, and where the thread is; `none` is before its start. -/
structure State extends World where
  point : Option Point

/-- `CanSpi_Init`. -/
def canSpiInit (w : World) : State where
  state := .pwrOn
  fastSleep := w.fastSleep
  driverState := w.driverState
  trcvInitState := w.trcvInitState
  cpuRequested := true
  log := []
  point := none

/-- `CanSpi_CanHwReady`. -/
def canHwReady (w : World) : Bool := w.state == .ready

/-- `CanSpi_ReqFastSleep`. -/
def reqFastSleep (s : State) : State :=
  { s with toWorld := { s.toWorld with fastSleep := .request }.request }

/-- `CanSpi_QryFastSleep`. -/
def qryFastSleep (w : World) : Bool := w.fastSleep != .request

/-- `CanSpi_Cyclic`. -/
def cyclic (env : Env) (s : State) : State :=
  let after := again (startCyclic env) (resumeCyclic env) s.point s.toWorld
  { after.1 with point := after.2 }

inductive Op where
  | cyclic
  | reqFastSleep
  deriving DecidableEq, Repr

def step (env : Env) (s : State) : Op → State
  | .cyclic => cyclic env s
  | .reqFastSleep => reqFastSleep s

end AnchorNode.CanSpi
