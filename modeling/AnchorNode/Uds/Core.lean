import AnchorNode.Lib.Bytes
import AnchorNode.Lib.Run
import AnchorNode.Lib.Timer

/-! The core of the diagnostic services: one request at a time is filtered, given to its
service and answered, at once or after a series of pending responses. -/

namespace AnchorNode.Uds

open AnchorNode.Lib

def u16 (n : Nat) : Nat := n % 65536

/-- The entries of `serviceCfg_a`, by their handlers. -/
inductive Service where
  | dsc
  | er
  | cdtci
  | rdtci
  | rdbi
  | sa
  | wdbi
  | rc
  | rd
  | td
  | rte
  | tp
  deriving DecidableEq, Repr

/-- The builds: application, boot loader, and neither of them. -/
inductive Product where
  | app
  | fbl
  | other
  deriving DecidableEq, Repr

/-- The build and the session masks, `FUNCTION_ADDRESSING` being a switch of its own. -/
structure Config where
  product : Product
  functionAddressing : Bool
  sessionMaskDs : UInt8
  sessionMaskPrgs : UInt8
  sessionMaskExtds : UInt8
  sessionAny : UInt8

/-! The response codes of ISO 14229 the core uses itself. -/

def positiveResponse : UInt8 := 0x00
def generalReject : UInt8 := 0x10
def serviceNotSupported : UInt8 := 0x11
def subFunctionNotSupported : UInt8 := 0x12
def incorrectMessageLength : UInt8 := 0x13
def responsePending : UInt8 := 0x78
def notInActiveSession : UInt8 := 0x7F

/-- `SID_NR`. -/
def sidNr : UInt8 := 0x7F
/-- `SID_PR`. -/
def sidPr : UInt8 := 0x40

namespace Service

def sid : Service → UInt8
  | .dsc => 0x10
  | .er => 0x11
  | .cdtci => 0x14
  | .rdtci => 0x19
  | .rdbi => 0x22
  | .sa => 0x27
  | .wdbi => 0x2E
  | .rc => 0x31
  | .rd => 0x34
  | .td => 0x36
  | .rte => 0x37
  | .tp => 0x3E

def permittedSession (cfg : Config) : Service → UInt8
  | .dsc | .er | .rdbi | .tp => cfg.sessionAny
  | .cdtci | .wdbi => cfg.sessionMaskExtds
  | .rdtci => cfg.sessionMaskDs ||| cfg.sessionMaskExtds
  | .sa | .rc => cfg.sessionMaskPrgs ||| cfg.sessionMaskExtds
  | .rd | .td | .rte => cfg.sessionMaskPrgs

def minLength : Service → Nat
  | .dsc | .er | .rdtci | .sa | .td | .tp => 2
  | .rdbi => 3
  | .cdtci | .wdbi | .rc => 4
  | .rd => 5
  | .rte => 1

/-- Whether `SidPending_fp` is set. -/
def hasPending : Service → Bool
  | .er | .rdtci | .tp => false
  | _ => true

def hasSubFn : Service → Bool
  | .dsc | .er | .rdtci | .sa | .rc | .tp => true
  | _ => false

end Service

/-- `serviceCfg_a`. -/
def serviceCfg (cfg : Config) : List Service :=
  match cfg.product with
  | .app => [.dsc, .er, .cdtci, .rdtci, .rdbi, .sa, .wdbi, .rc, .tp]
  | .fbl => [.dsc, .er, .rdbi, .sa, .wdbi, .rc, .rd, .td, .rte, .tp]
  | .other => [.dsc, .er, .rdbi, .sa, .wdbi, .rc, .tp]

/-- `UDS_CORE_INVALID_RCRRP_INDEX` as an `uint8`. -/
def invalidIndex : Nat := 255

inductive ErrorId where
  | null
  | value
  | timeout
  deriving DecidableEq, Repr

/-- Calls of the neighbouring modules. A response carries the first byte of its buffer, the
others up to its length, and the suppress flag; `confirmation` is a confirmation or an abort
of a response by the transport protocol. -/
inductive Event where
  | service (svc : Service) (args : List Nat)
  | pendingService (svc : Service) (req reqLen : Nat)
  | response (head : UInt8) (data : List UInt8) (suppress : Bool)
  | confirmation
  | performReset
  | clearStateInfo (svc : Service)
  | sessionExpired
  | reportError (error : ErrorId)
  deriving DecidableEq, Repr

/-- `Uds_ControlBlock_st` without the session timer, and the calls made so far. -/
structure Core where
  isBusy : Bool
  suppressPosResp : Bool
  rcrrpTxConfirm : Bool
  rcrrpSidIndex : Nat
  rcrrpTimer : Timer Nat
  rcrrpPendingTimer : Timer Nat
  req : Nat
  reqLen : Nat
  respLen : Nat
  resp : Mem
  negResp : List UInt8
  log : List Event

/-- The control block and the processor request of the module. -/
structure State extends Core where
  s3Timer : Timer Nat
  cpuHeld : Bool

/-- What a service function of another module answers: a response code, the length of its
data, and the bytes it writes. -/
structure Answer where
  code : UInt8
  respLen : Nat
  written : List UInt8

/-- A request: where it lies, unless the pointer is `NULL`, its bytes and its length. -/
structure Request where
  address : Option Nat
  bytes : Mem
  length : Nat

/-- What the reception of a request meets: the session, the answer of the service, and whether
the response is confirmed before `Uds_CoreCfgSendResponse` has returned. -/
structure Reception where
  session : UInt8
  answer : Answer
  confirmed : Bool

/-- What a call of the cyclic task meets; each timer has its readings. -/
structure Cycle where
  session : UInt8
  answer : Answer
  confirmed : Bool
  rcrrpDue : Bool
  limitDue : Bool
  repeatDue : Bool
  s3Due : Bool

namespace Core

def emit (c : Core) (e : Event) : Core := { c with log := c.log ++ [e] }

def answerLength (c : Core) (n : Nat) : Core := { c with respLen := u16 n }

def store (c : Core) (offset : Nat) (bytes : List UInt8) : Core :=
  { c with resp := c.resp.write offset bytes }

end Core

def State.onCore (s : State) (f : Core → Core) : State := { s with toCore := f s.toCore }

/-- `UDS_S3_SERVER_MAX_MS`. -/
def s3ServerMax : Nat := 5000
/-- `UDS_RCRRP_LIMIT_MS`. -/
def rcrrpLimit : Nat := 10000
/-- Three times `UDS_RCRRP_INTERVAL_MS`. -/
def rcrrpRepeat : Nat := 3000

/-- `rbUds_CoreStartS3`. -/
def coreStartS3 (s : State) : State := { s with s3Timer := .running s3ServerMax, cpuHeld := true }

/-- `Uds_CoreSetIdle`. -/
def setIdle (c : Core) : Core :=
  { c with
    isBusy := false
    rcrrpTxConfirm := false
    rcrrpSidIndex := invalidIndex
    respLen := 0
    suppressPosResp := false
    rcrrpTimer := .idle }

/-- `Uds_CoreReset`. -/
def coreReset (s : State) : State := { s.onCore setIdle with s3Timer := .idle }

section Responses
variable (cfg : Config)

/-- `Uds_CoreTxConfirmation` and `Uds_CoreTxAborted`. -/
def txConfirmation (s : State) : State :=
  if s.rcrrpSidIndex ≥ (serviceCfg cfg).length then coreStartS3 s
  else { s with rcrrpTxConfirm := true }

def confirm (s : State) : State := txConfirmation cfg (s.onCore (·.emit .confirmation))

/-- `Uds_CoreCfgSendResponse`, which may be confirmed before it returns. -/
def sendResponse (confirmed : Bool) (head : UInt8) (data : List UInt8) (suppress : Bool)
    (s : State) : State :=
  let s := s.onCore (·.emit (.response head data suppress))
  if confirmed then confirm cfg s else s

/-- `Uds_CoreSendPositiveResponse`. -/
def sendPositiveResponse (confirmed : Bool) (sid : UInt8) (s : State) : State :=
  let s := s.onCore fun c => (c.store 0 [sid + sidPr]).answerLength (c.respLen + 1)
  let s := sendResponse cfg confirmed (s.resp 0) (s.resp.read 1 (s.respLen - 1)) s.suppressPosResp s
  -- a suppressed response is never confirmed from outside
  let s := if s.suppressPosResp then txConfirmation cfg s else s
  s.onCore setIdle

/-- `Uds_CoreFillNegativeResponse`. -/
def fillNegativeResponse (sid code : UInt8) (c : Core) : Core :=
  { c with negResp := [sidNr, sid, code] }

/-- `Uds_CoreSendPendingResponse`. -/
def sendPendingResponse (confirmed : Bool) (sid : UInt8) (s : State) : State :=
  let s := s.onCore (fillNegativeResponse sid responsePending)
  let s := sendResponse cfg confirmed sidNr [sid, responsePending] false s
  s.onCore fun c =>
    { c with rcrrpTimer := .running rcrrpRepeat, suppressPosResp := false, rcrrpTxConfirm := false }

/-- `Uds_CoreSendNegativeResponse`. -/
def sendNegativeResponse (confirmed : Bool) (sid code : UInt8) (s : State) : State :=
  let s := s.onCore (fillNegativeResponse sid code)
  let s := sendResponse cfg confirmed sidNr [sid, code] false s
  s.onCore setIdle

/-- `UdsResponse_function`; `index` is the place of the service in the table. -/
def udsResponse (confirmed : Bool) (code : UInt8) (svc : Service) (index : Nat) (s : State) :
    State :=
  if code = positiveResponse then sendPositiveResponse cfg confirmed svc.sid s
  else if code = responsePending then
    let s := s.onCore fun c => { c with rcrrpPendingTimer := .running rcrrpLimit }
    if svc.hasPending then
      sendPendingResponse cfg confirmed svc.sid
        (s.onCore fun c => { c with rcrrpSidIndex := index })
    else sendNegativeResponse cfg confirmed svc.sid generalReject s
  else sendNegativeResponse cfg confirmed svc.sid code s

end Responses

-- Each handler gets the bytes behind the service id and their number, and returns the response
-- code.

/-- `Uds_CoreExtractSubFn`. -/
def extractSubFn (byte : UInt8) (c : Core) : Core × UInt8 :=
  ((if byte &&& 0x80 = 0x80 then { c with suppressPosResp := true } else c), byte &&& 0x7F)

/-- `rbUds_Make16Bit`. -/
def make16Bit (msb lsb : UInt8) : Nat := msb.toNat * 256 + lsb.toNat

def settle (c : Core) (accepted : Bool) (header : List UInt8) (respLen : Nat) : Core :=
  if accepted then (c.store 1 header).answerLength (header.length + respLen)
  else c.answerLength 0

def Answer.positive (a : Answer) : Bool := a.code == positiveResponse

def Answer.accepted (a : Answer) : Bool :=
  a.code == positiveResponse || a.code == responsePending

section Handlers
variable (req : Mem) (len : Nat) (a : Answer) (c : Core)

/-- `Uds_CoreRdbi`. -/
def coreRdbi : Core × UInt8 :=
  if len ≠ 2 then (c.answerLength 0, incorrectMessageLength)
  else
    let c := (c.emit (.service .rdbi [make16Bit (req 0) (req 1)])).store 3 a.written
    (settle c a.accepted [req 0, req 1] (if a.code = responsePending then 0 else a.respLen), a.code)

/-- `Uds_CoreWdbi`. -/
def coreWdbi : Core × UInt8 :=
  let c := (c.emit (.service .wdbi [make16Bit (req 0) (req 1), u16 (len - 2)])).store 3 a.written
  (settle c a.accepted [req 0, req 1] a.respLen, a.code)

/-- `Uds_CoreRc`; `address` is that of the bytes. -/
def coreRc (address : Nat) : Core × UInt8 :=
  let sub := extractSubFn (req 0) c
  let c := { sub.1 with req := address + 3, reqLen := u16 (len - 3) }
  let c := (c.emit (.service .rc [make16Bit (req 1) (req 2), sub.2.toNat, u16 (len - 3)])).store 4
    a.written
  (settle c a.accepted [sub.2, req 1, req 2] a.respLen, a.code)

/-- `Uds_CoreRdtci`. -/
def coreRdtci : Core × UInt8 :=
  let sub := extractSubFn (req 0) c
  let c := (sub.1.emit (.service .rdtci [sub.2.toNat, u16 (len - 1)])).store 2 a.written
  (settle c a.positive [sub.2] a.respLen, a.code)

/-- `Uds_CoreCdtci`. -/
def coreCdtci : Core × UInt8 :=
  if len ≠ 3 then (c.answerLength 0, incorrectMessageLength)
  else
    let c := c.emit (.service .cdtci [((req 0).toNat * 256 + (req 1).toNat) * 256 + (req 2).toNat])
    (c.answerLength 0, a.code)

/-- `Uds_CoreDsc`. -/
def coreDsc : Core × UInt8 :=
  if len ≠ 1 then (c.answerLength 0, incorrectMessageLength)
  else
    let sub := extractSubFn (req 0) c
    let c := (sub.1.emit (.service .dsc [sub.2.toNat])).store 2 a.written
    (settle c a.accepted [sub.2] a.respLen, a.code)

/-- `Uds_CoreTp`. -/
def coreTp : Core × UInt8 :=
  let sub := extractSubFn (req 0) c
  if len ≠ 1 then (sub.1.answerLength 0, incorrectMessageLength)
  else if sub.2 ≠ 0 then (sub.1.answerLength 0, subFunctionNotSupported)
  else (settle sub.1 true [sub.2] 0, positiveResponse)

/-- `Uds_CoreSa`. -/
def coreSa : Core × UInt8 :=
  let sub := extractSubFn (req 0) c
  let c := (sub.1.emit (.service .sa [sub.2.toNat, u16 (len - 1)])).store 2 a.written
  (settle c a.accepted [sub.2] a.respLen, a.code)

/-- `Uds_CoreRd`: a request for a download is never answered at once. -/
def coreRd : Core × UInt8 :=
  let c := c.emit (.service .rd [u16 (len - 2), (req 0).toNat, (req 1).toNat])
  (c.answerLength 0, if a.positive then generalReject else a.code)

/-- `Uds_CoreTd`. -/
def coreTd : Core × UInt8 :=
  let c := (c.emit (.service .td [u16 (len - 1), (req 0).toNat])).store 1 a.written
  (if a.positive then c.answerLength a.respLen else c.answerLength 0, a.code)

/-- `Uds_CoreRte`. -/
def coreRte : Core × UInt8 :=
  let c := (c.emit (.service .rte [len])).store 1 a.written
  (if a.positive then c.answerLength a.respLen else c.answerLength 0, a.code)

/-- `Uds_CoreEr`. -/
def coreEr : Core × UInt8 :=
  let sub := extractSubFn (req 0) c
  if len ≠ 1 then (sub.1.answerLength 0, incorrectMessageLength)
  else
    let c := sub.1.emit (.service .er [sub.2.toNat])
    (settle c a.positive [sub.2] 0, a.code)

/-- `Sid_fp` of the entries of the table. -/
def handle (address : Nat) : Service → Core × UInt8
  | .dsc => coreDsc req len a c
  | .er => coreEr req len a c
  | .cdtci => coreCdtci req len a c
  | .rdtci => coreRdtci req len a c
  | .rdbi => coreRdbi req len a c
  | .sa => coreSa req len a c
  | .wdbi => coreWdbi req len a c
  | .rc => coreRc req len a c address
  | .rd => coreRd req len a c
  | .td => coreTd req len a c
  | .rte => coreRte len a c
  | .tp => coreTp req len c

end Handlers

section Calls
variable (cfg : Config)

/-- The search of `Uds_ApiDataIndication` for the service id. -/
def findService (sid : UInt8) : Option (Nat × Service) :=
  ((serviceCfg cfg).findIdx? (·.sid == sid)).bind fun index =>
    (serviceCfg cfg)[index]?.map fun svc => (index, svc)

/-- The part of `Uds_ApiDataIndication` behind its checks. -/
def process (r : Request) (address : Nat) (i : Reception) (s : State) : State :=
  let sid := r.bytes 0
  let s := s.onCore fun c => { c with req := address, reqLen := r.length, respLen := 0 }
  match findService cfg sid with
  | none => sendNegativeResponse cfg i.confirmed sid serviceNotSupported s
  | some (index, svc) =>
    if i.session &&& svc.permittedSession cfg = 0 then
      sendNegativeResponse cfg i.confirmed sid notInActiveSession s
    else if r.length < svc.minLength then
      sendNegativeResponse cfg i.confirmed sid incorrectMessageLength s
    else
      let handled := handle (fun k => r.bytes (k + 1)) (r.length - 1) i.answer
        { s.toCore with isBusy := true } (address + 1) svc
      udsResponse cfg i.confirmed handled.2 svc index { s with toCore := handled.1 }

/-- `Uds_ApiDataIndication`. -/
def apiDataIndication (r : Request) (i : Reception) (s : State) : State :=
  let s := coreStartS3 s
  match r.address with
  | none =>
    sendNegativeResponse cfg i.confirmed 0 generalReject (s.onCore (·.emit (.reportError .null)))
  | some address =>
    if r.length < 1 then
      sendNegativeResponse cfg i.confirmed 0 generalReject (s.onCore (·.emit (.reportError .value)))
    else if cfg.functionAddressing && s.isBusy then s
    else process cfg r address i s

/-- `rbUds_ApiRxStarted`. -/
def apiRxStarted (due : Bool) (s : State) : State :=
  match s.s3Timer.update due with
  | .stopped => { s with s3Timer := .stopped }
  | .idle => { s with s3Timer := .stopped }
  | .running _ | .elapsed => { s with s3Timer := .idle }

/-- `rbUds_ApiRxAborted`. -/
def apiRxAborted (s : State) : State := coreStartS3 s

def pendingOffset (svc : Service) (c : Core) : Nat :=
  if svc = .rdbi then 3 else 1 + c.respLen

/-- `Uds_CoreResponsePendingTask`. -/
def responsePendingTask (m : Cycle) (code : UInt8) (svc : Service) (s : State) : State :=
  let s := s.onCore fun c => { c with rcrrpTimer := c.rcrrpTimer.update m.repeatDue }
  if code = positiveResponse then
    sendPositiveResponse cfg m.confirmed svc.sid
      (s.onCore fun c => c.answerLength (c.respLen + m.answer.respLen))
  else if code = responsePending then
    if s.rcrrpTimer = .elapsed then
      sendPendingResponse cfg m.confirmed svc.sid (coreStartS3 s)
    else s
  else sendNegativeResponse cfg m.confirmed svc.sid code s

def timedOut (svc : Service) (code : UInt8) (c : Core) : Core × UInt8 :=
  match svc with
  | .sa | .dsc | .er => (c.emit .performReset, code)
  | .rc | .rdbi | .wdbi => (c.emit (.clearStateInfo svc), generalReject)
  | _ => (c, generalReject)

/-- `Uds_CoreResponsePendingSubtask`. -/
def responsePendingSubtask (m : Cycle) (s : State) : State :=
  match (serviceCfg cfg)[s.rcrrpSidIndex]? with
  | none => s
  | some svc =>
    if svc.hasPending then
      let s := s.onCore fun c => { c with
        rcrrpTimer := c.rcrrpTimer.update m.rcrrpDue
        rcrrpPendingTimer := c.rcrrpPendingTimer.update m.limitDue }
      if s.rcrrpTxConfirm then
        let s := s.onCore fun c => (c.emit (.pendingService svc c.req c.reqLen)).store
          (pendingOffset svc c) m.answer.written
        let late := if s.rcrrpPendingTimer = .elapsed then timedOut svc m.answer.code s.toCore
          else (s.toCore, m.answer.code)
        responsePendingTask cfg m late.2 svc { s with toCore := late.1 }
      else if s.rcrrpTimer = .elapsed then
        s.onCore fun c => setIdle (c.emit (.reportError .timeout))
      else s
    else s.onCore fun c => setIdle (c.emit (.reportError .null))

/-- `Uds_CoreS3TimerSubtask`. -/
def s3TimerSubtask (m : Cycle) (s : State) : State :=
  let s := { s with s3Timer := s.s3Timer.update m.s3Due }
  if s.s3Timer = .elapsed then
    let s := if m.session ≠ cfg.sessionMaskDs then coreReset (s.onCore (·.emit .sessionExpired))
      else s
    { s with cpuHeld := false }
  else s

/-- `Uds_CoreCyclic`. -/
def coreCyclic (m : Cycle) (s : State) : State :=
  s3TimerSubtask cfg m (responsePendingSubtask cfg m s)

/-- The calls of the module; an abort of a response is treated like its confirmation. -/
inductive Op where
  | dataIndication (r : Request) (i : Reception)
  | cyclic (m : Cycle)
  | txConfirmation
  | rxStarted (due : Bool)
  | rxAborted
  | reset

def step (s : State) : Op → State
  | .dataIndication r i => apiDataIndication cfg r i s
  | .cyclic m => coreCyclic cfg m s
  | .txConfirmation => confirm cfg s
  | .rxStarted due => apiRxStarted due s
  | .rxAborted => apiRxAborted s
  | .reset => coreReset s

end Calls

end AnchorNode.Uds
