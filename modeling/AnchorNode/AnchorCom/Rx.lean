import AnchorNode.AnchorCom.Types
import AnchorNode.Lib.Run

/-! The receive half: the callbacks of the lower layer, which put a message together and
queue it, and the cyclic function that authenticates, decrypts and distributes the head of
each queue. -/

namespace AnchorNode.AnchorCom.Rx

open AnchorNode.Lib

/-- `rbdAnchorComTp_RxQueue_st`. `BufferPtr` is the buffer that `isTempBuf`, `channel` and
`anchorId` name. `ticket` numbers the received messages; the code does not have it. -/
structure Entry where
  channel : Nat
  anchorId : Nat
  isTempBuf : Bool
  queueState : RxQueueState
  errCounter : Nat
  dataLen : Nat
  msgIdx : Nat
  truncFresh : UInt8
  cmacValue : List UInt8
  ticket : Nat
  deriving DecidableEq, Repr

/-- `rbdAnchorComTp_ChRxInfo_st`; the offset is an `uint16`. -/
structure ChRxInfo where
  rxBuffer : Mem
  rxOffset : Nat
  rxOffset_lt : rxOffset < 65536

/-- `rbdAnchorComTp_ChRxDataInfo_st`. -/
structure ChRxDataInfo where
  rxBuffer : Mem
  rxOffset : Nat
  pduId : Nat
  needVerify : Bool

/-- What happens at the interface. `arrived` is a complete message of sufficient length,
`unbuffered` one for which both buffers were busy, `unqueued` one for which the queue was
full, and `removed` the end of a queue entry, with its error counter. -/
inductive Event where
  | arrived (ticket channel peer : Nat) (bytes : List UInt8)
  | unbuffered (ticket : Nat)
  | unqueued (ticket : Nat)
  | verified (ticket peer : Nat) (data cmac : List UInt8) (result : Result)
  | decrypted (ticket peer : Nat) (payload fresh plain : List UInt8) (result : Result)
  | delivered (ticket peer : Nat) (pduId : UInt8) (payload : List UInt8)
  | removed (ticket errCounter : Nat)
  | reportError (id : Nat) (api : ApiId) (error : ErrorId)
  deriving DecidableEq, Repr

/-- The neighbouring modules; every answer may depend on the whole history. -/
structure Env where
  isCryptoFree : List Event → Bool
  /-- The freshness value for a truncated one, or nothing when it is not available. -/
  rxFreshness : List Event → UInt8 → Option Mem
  verify : List Event → (data cmac : List UInt8) → Result
  decrypt : List Event → (payload fresh : List UInt8) → Result × Mem

/-- The variables of the module. `chRxData false` is `rbdAnchorComTp_ChRxBuff` and
`chRxData true` is `rbdAnchorComTp_ChRxTemp`. -/
structure State where
  chRxInfo : Nat → Nat → ChRxInfo
  chRxData : Bool → Nat → Nat → ChRxDataInfo
  queue : Nat → Ring queueSize Entry
  nextTicket : Nat
  log : List Event

namespace State

def emit (s : State) (e : Event) : State := { s with log := s.log ++ [e] }

def setInfo (s : State) (c i : Nat) (info : ChRxInfo) : State :=
  { s with chRxInfo := Function.update s.chRxInfo c (Function.update (s.chRxInfo c) i info) }

def setData (s : State) (temp : Bool) (c i : Nat) (data : ChRxDataInfo) : State :=
  { s with chRxData := Function.update s.chRxData temp (Function.update (s.chRxData temp) c
      (Function.update (s.chRxData temp c) i data)) }

def setQueue (s : State) (i : Nat) (q : Ring queueSize Entry) : State :=
  { s with queue := Function.update s.queue i q }

end State

/-- A queue entry, the buffer its `BufferPtr` points to, and the log. -/
structure Job where
  entry : Entry
  buffer : Mem
  log : List Event

namespace Job

def setEntry (j : Job) (e : Entry) : Job := { j with entry := e }

def emit (j : Job) (e : Event) : Job := { j with log := j.log ++ [e] }

end Job

section Parts
variable (cfg : Config) (env : Env)

/-- `rbdAnchorComTp_RxFormatForCmac`. -/
def rxFormatForCmac (j : Job) : Job × Result :=
  let m := findIdx cfg (j.buffer chanIdLen)
  if m < cfg.numMsg then
    let e := { j.entry with msgIdx := m }
    let e := if e.dataLen > 4 then
        { e with
          truncFresh := j.buffer (e.dataLen - appendLen)
          cmacValue := j.buffer.read (e.dataLen - cmacLen) cmacLen }
      else e
    match env.rxFreshness j.log e.truncFresh with
    | some fresh =>
      let buffer := j.buffer.write 0 [getRxChanId cfg m e.anchorId]
      -- the freshness value takes the place of the trailer
      let buffer := buffer.write (e.dataLen - appendLen) (fresh.read 0 freshLen)
      ({ j with
        entry := { e with dataLen := u16 (e.dataLen + appendLen), queueState := .cmacReady }
        buffer }, .ok)
    | none => (j.setEntry e, .fail)
  else (j, .fatalFail)

/-- `rbdAnchorComTp_RxStartCmac`. -/
def rxStartCmac (j : Job) : Job × Result :=
  let data := j.buffer.read 0 j.entry.dataLen
  let result := env.verify j.log data j.entry.cmacValue
  (j.emit (.verified j.entry.ticket j.entry.anchorId data j.entry.cmacValue result), result)

/-- `rbdAnchorComTp_RxStartDecryption`: the payload is decrypted in place. -/
def rxStartDecryption (j : Job) : Job × Result :=
  let payloadLen := sub16 j.entry.dataLen headerLen
  let payload := j.buffer.read headerLen payloadLen
  let fresh := j.buffer.read (headerLen + payloadLen) freshLen
  let answer := env.decrypt j.log payload fresh
  let plain := answer.2.read 0 payloadLen
  ({ j with buffer := j.buffer.write headerLen plain }.emit
    (.decrypted j.entry.ticket j.entry.anchorId payload fresh plain answer.1), answer.1)

/-- `rbdAnchorComTp_RxDistributeMsg`. -/
def rxDistributeMsg (j : Job) : Job × Result :=
  let msg := cfg.msgCfg j.entry.msgIdx
  if msg.rxIndication then
    let rxPayloadLen := sub16 j.entry.dataLen headerLen
    (j.emit (.delivered j.entry.ticket j.entry.anchorId msg.pduId
      (j.buffer.read headerLen rxPayloadLen)), .ok)
  else (j, .fatalFail)

def failure (running : RxQueueState) (result : Result) (e : Entry) : Entry :=
  match result with
  | .ok => e
  | .pending => { e with queueState := running }
  | .fail => { e with errCounter := e.errCounter + 1 }
  | .fatalFail => { e with errCounter := e.errCounter + cfg.maxRetryCount }

/-- The first half of `rbdAnchorComTp_RxPart1`. -/
def rxPrepare (j : Job) : Job :=
  if j.entry.queueState = .queued then
    let formatted := rxFormatForCmac cfg env j
    if formatted.2 ≠ .ok then
      formatted.1.setEntry
        { formatted.1.entry with errCounter := formatted.1.entry.errCounter + 1 }
    else formatted.1
  else j

/-- `rbdAnchorComTp_RxPart1`. -/
def rxPart1 (j : Job) : Job :=
  let j := rxPrepare cfg env j
  if j.entry.queueState = .cmacReady then
    let started := rxStartCmac env j
    let j := started.1
    if started.2 = .ok then
      j.setEntry { j.entry with
        dataLen := sub16 j.entry.dataLen freshLen
        queueState := if (cfg.msgCfg j.entry.msgIdx).encDecFlag then .decReady
          else .processReady }
    else j.setEntry (failure cfg .cmacRunning started.2 j.entry)
  else j

/-- `rbdAnchorComTp_RxPart2`. -/
def rxPart2 (j : Job) : Job :=
  if j.entry.queueState = .decReady then
    let started := rxStartDecryption env j
    let j := started.1
    if started.2 = .ok then
      let padding := j.buffer 2 &&& 0x0F
      j.setEntry { j.entry with
        dataLen := sub16 j.entry.dataLen padding.toNat
        queueState := .processReady }
    else j.setEntry (failure cfg .decRunning started.2 j.entry)
  else j

/-- `rbdAnchorComTp_RxPart3`. -/
def rxPart3 (j : Job) : Job :=
  if j.entry.queueState = .processReady then
    let started := rxDistributeMsg cfg j
    let j := started.1
    if started.2 = .ok then j.setEntry { j.entry with queueState := .processDone }
    else if started.2 = .fail then
      j.setEntry { j.entry with errCounter := j.entry.errCounter + 1 }
    else j.setEntry { j.entry with errCounter := j.entry.errCounter + cfg.maxRetryCount }
  else j

end Parts

section Queue

/-- `rbdAnchorComTp_GetRxQueueHead`. -/
def getRxQueueHead (s : State) (i : Nat) : Option Nat :=
  if (s.queue i).isEmpty then none else some (s.queue i).head

/-- `rbdAnchorComTp_RemoveRxQueueHead`. -/
def removeRxQueueHead (s : State) (i : Nat) : State :=
  let q := s.queue i
  if q.isEmpty then s
  else s.setQueue i (q.set q.head { q.front with queueState := .idle }).pop

/-- `rbdAnchorComTp_AddRxQueue` for the message `ticket`; `none` when the queue is full. -/
def addRxQueue (s : State) (c i : Nat) (isTempBuf : Bool) (ticket : Nat) : Option State :=
  let q := s.queue i
  if q.isFull then none
  else
    some (s.setQueue i (q.push { q.slots q.tail with
      channel := c
      anchorId := i
      isTempBuf
      queueState := .queued
      errCounter := 0
      dataLen := (s.chRxData isTempBuf c i).rxOffset
      ticket }))

end Queue

section Cyclic
variable (cfg : Config) (env : Env)

def process (j : Job) : Job := rxPart3 cfg (rxPart2 cfg env (rxPart1 cfg env j))

def finish (q : Nat) (s : State) : State :=
  let e := (s.queue q).front
  if e.errCounter ≥ cfg.maxRetryCount ∨ e.queueState = .processDone then
    let s := s.setData e.isTempBuf e.channel e.anchorId
      { s.chRxData e.isTempBuf e.channel e.anchorId with needVerify := false }
    (removeRxQueueHead s e.anchorId).emit (.removed e.ticket e.errCounter)
  else s

def workHead (q : Nat) (s : State) : State :=
  let e := (s.queue q).front
  let data := s.chRxData e.isTempBuf e.channel e.anchorId
  let job := process cfg env ⟨e, data.rxBuffer, s.log⟩
  let s := s.setQueue q ((s.queue q).set (s.queue q).head job.entry)
  { s.setData e.isTempBuf e.channel e.anchorId { data with rxBuffer := job.buffer } with
    log := job.log }

/-- The loop body of `rbdAnchorCom_CyclicRx`. -/
def servePeer (s : State) (q : Nat) : State :=
  match getRxQueueHead s q with
  | none => s
  | some _ => finish cfg q (workHead cfg env q s)

/-- `rbdAnchorCom_CyclicRx`. -/
def cyclicRx (s : State) : State :=
  if cfg.build = .ncj29d5 ∧ env.isCryptoFree s.log = false then s
  else (List.range cfg.numLlRx).foldl (servePeer cfg env) s

end Cyclic

section Callbacks
variable (cfg : Config)

structure StartAnswer where
  result : BufReq
  bufferSize : Option Nat

/-- `rbdAnchorComTp_StartOfReception`. -/
def startOfReception (id tpSduLength : Nat) (s : State) : State × StartAnswer :=
  match findByLLPdu cfg id cfg.lowerRxPdu cfg.numLlRx with
  | none => (s.emit (.reportError id .tpRxStart .pdu), ⟨.notOk, none⟩)
  | some (c, i) =>
    if tpSduLength > cfg.maxRxBufferLen then (s, ⟨.ovfl, none⟩)
    else (s.setInfo c i
        { s.chRxInfo c i with rxOffset := chanIdLen, rxOffset_lt := by decide },
      ⟨.ok, some cfg.maxRxBufferLen⟩)

structure CopyInfo where
  sduLength : Nat
  sduData : Option Mem

structure CopyAnswer where
  result : BufReq
  bufferSize : Option Nat

/-- `rbdAnchorComTp_CopyRxData`; `none` stands for a NULL `info` or `bufferSizePtr`. -/
def copyRxData (id : Nat) (info : Option CopyInfo) (s : State) : State × CopyAnswer :=
  match findByLLPdu cfg id cfg.lowerRxPdu cfg.numLlRx, info with
  | none, _ => (s.emit (.reportError id .tpRxCopy .pdu), ⟨.notOk, none⟩)
  | some _, none => (s.emit (.reportError id .tpRxCopy .null), ⟨.notOk, none⟩)
  | some (c, i), some info =>
    let ch := s.chRxInfo c i
    let newLength := ch.rxOffset + info.sduLength
    if newLength > cfg.maxRxBufferLen then (s, ⟨.ovfl, none⟩)
    else
      let s := match info.sduData with
        | some data => s.setInfo c i
          { rxBuffer := ch.rxBuffer.write ch.rxOffset (data.read 0 info.sduLength)
            rxOffset := u16 newLength
            rxOffset_lt := Nat.mod_lt _ (by decide) }
        | none => s
      (s, ⟨.ok, some (cfg.maxRxBufferLen - newLength)⟩)

def freeBuffer (s : State) (c i : Nat) : Option Bool :=
  if (s.chRxData false c i).needVerify = false then some false
  else if (s.chRxData true c i).needVerify = false then some true
  else none

def takeMessage (id c i : Nat) (temp : Bool) (ticket : Nat) (s : State) : State :=
  let ch := s.chRxInfo c i
  let data := s.chRxData temp c i
  let s := s.setData temp c i
    { rxBuffer := data.rxBuffer.write 0 (ch.rxBuffer.read 0 ch.rxOffset)
      rxOffset := ch.rxOffset
      pduId := id
      needVerify := true }
  match addRxQueue s c i temp ticket with
  | some queued => queued
  | none =>
    (s.setData temp c i { s.chRxData temp c i with needVerify := false }).emit (.unqueued ticket)

/-- `rbdAnchorComTp_TpRxIndication`. -/
def tpRxIndication (id : Nat) (result : StdReturn) (s : State) : State :=
  match findByLLPdu cfg id cfg.lowerRxPdu cfg.numLlRx with
  | none => s.emit (.reportError id .tpRxIndication .pdu)
  | some (c, i) =>
    let ch := s.chRxInfo c i
    if result = .ok ∧ ch.rxOffset ≥ cfg.minRxDataLen then
      let ticket := s.nextTicket
      let s := { s.emit (.arrived ticket c i (ch.rxBuffer.read 0 ch.rxOffset)) with
        nextTicket := ticket + 1 }
      match freeBuffer s c i with
      | some temp => takeMessage id c i temp ticket s
      | none => s.emit (.unbuffered ticket)
    else s

end Callbacks

section Runs
variable (cfg : Config) (env : Env)

/-- `rbdAnchorComTp_Init`, the receive half. -/
def init (s : State) : State :=
  { s with
    chRxData := fun temp c i =>
      if i < cfg.numLlRx ∧ c < cfg.tpChMax then { s.chRxData temp c i with needVerify := false }
      else s.chRxData temp c i
    queue := fun i => if i < cfg.numLlRx then (s.queue i).clear else s.queue i }

inductive Op where
  | startOfReception (id tpSduLength : Nat)
  | copyRxData (id : Nat) (info : Option CopyInfo)
  | tpRxIndication (id : Nat) (result : StdReturn)
  | cyclicRx

def step (s : State) : Op → State
  | .startOfReception id tpSduLength => (startOfReception cfg id tpSduLength s).1
  | .copyRxData id info => (copyRxData cfg id info s).1
  | .tpRxIndication id result => tpRxIndication cfg id result s
  | .cyclicRx => cyclicRx cfg env s

/-- The state after `rbdAnchorComTp_Init`. -/
def start (s : State) : State := init cfg { s with nextTicket := 0, log := [] }

end Runs

end AnchorNode.AnchorCom.Rx
