import AnchorNode.AnchorCom.Types
import AnchorNode.Lib.Run

/-! The transmit half: requests of the application, the cyclic function that formats,
encrypts, authenticates and sends the head of each queue, and the callbacks of the lower
layer, which may come at any time while the cyclic function is at work. -/

namespace AnchorNode.AnchorCom.Tx

open AnchorNode.Lib

/-- `rbdAnchorComTp_Queue_st`. `ticket` numbers the accepted requests; the code does not
have it. -/
structure Entry where
  msgIdx : Nat
  anchorId : Nat
  channel : Nat
  queueState : TxQueueState
  errCounter : Nat
  truncFresh : UInt8
  cmacValue : List UInt8
  ticket : Nat
  deriving DecidableEq, Repr

/-- `rbdAnchorComTp_MsgInfo_st`. -/
structure MsgInfo where
  bufState : BufState
  length : Nat
  deriving DecidableEq, Repr

/-- `rbdAnchorComTp_ChTxInfo_st`. -/
structure ChTxInfo where
  txInProgress : Bool
  txOffset : Nat
  txMsgIdx : Nat
  deriving DecidableEq, Repr

/-- What happens at the interface and in the transmit buffers. `written` is a store of
`count` bytes from `offset` on into the buffer of a message and peer, `formatted` a message
prepared from its stored length, `sealed` the byte string ready to be sent, and `request`
a call of the lower layer's transmit function. `copied` names the offset to which a retry goes
back, and `confirmed` the request whose transmission the lower layer confirms, which the code is
not told. -/
inductive Event where
  | accepted (ticket peer msg : Nat) (payload : List UInt8)
  | written (peer msg offset count : Nat)
  | formatted (ticket length : Nat)
  | encrypted (ticket : Nat) (plain fresh cipher : List UInt8)
  | authenticated (ticket : Nat) (data cmac : List UInt8)
  | sealed (ticket : Nat) (wire : List UInt8)
  | request (ticket channel peer length : Nat)
  | answered (ticket channel peer : Nat) (result : StdReturn)
  | copied (channel peer : Nat) (retry : Option Nat) (bytes : List UInt8)
  | confirmed (ticket channel peer : Nat) (result : StdReturn)
  | retired (ticket : Nat)
  | dropped (ticket : Nat)
  | reportError (id : Nat) (api : ApiId) (error : ErrorId)
  deriving DecidableEq, Repr

/-- The neighbouring modules; every answer may depend on the whole history. -/
structure Env where
  nodeOkToTx : List Event → Nat
  isCryptoFree : List Event → Bool
  /-- The freshness value and its truncation, or nothing when it is not available. -/
  txFreshness : List Event → Option (Mem × UInt8)
  encrypt : List Event → (payload fresh : List UInt8) → Result × Mem
  authenticate : List Event → (data : List UInt8) → Result × Mem
  pduRTransmit : List Event → (pduId : Nat) → StdReturn

/-- The pieces of the loop body of `rbdAnchorComTp_CyclicTx` between which it can be
interrupted. The call of the lower layer lies between `request` and `answer`, and that for
the other MCU between `requestImc` and `answerImc`. -/
inductive Stage where
  | head
  | part1
  | part2
  | request
  | answer
  | requestImc
  | answerImc
  | result
  | drop
  deriving DecidableEq, Repr

def Stage.next : Stage → Option Stage
  | .head => some .part1
  | .part1 => some .part2
  | .part2 => some .request
  | .request => some .answer
  | .answer => some .requestImc
  | .requestImc => some .answerImc
  | .answerImc => some .result
  | .result => some .drop
  | .drop => none

/-- Where a call of the cyclic function is: at a stage for one peer, with others to come. -/
structure Task where
  peer : Nat
  stage : Stage
  todo : List Nat
  deriving DecidableEq, Repr

def Task.begin : List Nat → Option Task
  | [] => none
  | peer :: todo => some ⟨peer, .head, todo⟩

def Task.advance (t : Task) : Option Task :=
  match t.stage.next with
  | some stage => some { t with stage }
  | none => Task.begin t.todo

/-- The variables of the module, with the number of the next accepted request and the log. -/
structure Core where
  msgTxInfo : Nat → Nat → MsgInfo
  buffer : Nat → Nat → Mem
  queue : Nat → Ring queueSize Entry
  chTxInfo : Nat → Nat → ChTxInfo
  nextTicket : Nat
  log : List Event

/-- The variables of the module and those of the cyclic function while it runs: where it
is, `TxHeadPtr`, whether `rbdAnchorComTp_TxPart3` sends the head, and its `ret`. -/
structure State extends Core where
  task : Option Task
  txHeadPtr : Option Nat
  calling : Bool
  ret : Result

namespace State

def emit (s : State) (e : Event) : State := { s with log := s.log ++ [e] }

def setInfo (s : State) (i m : Nat) (info : MsgInfo) : State :=
  { s with msgTxInfo := Function.update s.msgTxInfo i (Function.update (s.msgTxInfo i) m info) }

def setBuffer (s : State) (i m : Nat) (buffer : Mem) : State :=
  { s with buffer := Function.update s.buffer i (Function.update (s.buffer i) m buffer) }

def setQueue (s : State) (i : Nat) (q : Ring queueSize Entry) : State :=
  { s with queue := Function.update s.queue i q }

def setCh (s : State) (c i : Nat) (info : ChTxInfo) : State :=
  { s with chTxInfo := Function.update s.chTxInfo c (Function.update (s.chTxInfo c) i info) }

def entry (s : State) (i h : Nat) : Entry := (s.queue i).slots h

def setEntry (s : State) (i h : Nat) (e : Entry) : State :=
  s.setQueue i ((s.queue i).set h e)

def store (s : State) (i m offset : Nat) (bytes : List UInt8) : State :=
  (s.setBuffer i m ((s.buffer i m).write offset bytes)).emit (.written i m offset bytes.length)

end State

section Queue
variable (cfg : Config)

/-- `rbdAnchorComTp_GetTxQueueHead`. -/
def getTxQueueHead (s : State) (i : Nat) : Option Nat :=
  if (s.queue i).isEmpty then none else some (s.queue i).head

/-- `rbdAnchorComTp_RemoveTxQueueHead`. -/
def removeTxQueueHead (s : State) (i : Nat) : State :=
  if (s.queue i).isEmpty then s else s.setQueue i (s.queue i).pop

/-- `rbdAnchorComTp_AddTxQueue`; `none` when the queue is full. -/
def addTxQueue (s : State) (i msgIdx : Nat) : Option State :=
  let q := s.queue i
  if q.isFull then none
  else
    let e := { q.slots q.tail with
      msgIdx
      anchorId := i
      channel := (cfg.msgCfg msgIdx).channel
      queueState := .queued
      errCounter := 0
      ticket := s.nextTicket }
    some { s.setQueue i (q.push e) with nextTicket := s.nextTicket + 1 }

end Queue

section Transmit
variable (cfg : Config)

structure TransmitArgs where
  otherEndIdx : Nat
  pduId : UInt8
  length : Nat
  buf : Option Mem
  length2 : Nat
  buf2 : Option Mem
  overwriteOldData : Bool

def otherEndIdxToUse (m otherEndIdx : Nat) : Nat :=
  if (cfg.msgCfg m).broadcast then cfg.maxNodes else otherEndIdx

/-- The bytes the two copies of a request put behind the header. -/
def TransmitArgs.payload (args : TransmitArgs) : List UInt8 :=
  (args.buf.getD fun _ => 0).read 0 args.length ++
    if args.length2 > 0 then (args.buf2.getD fun _ => 0).read 0 args.length2 else []

/-- The copies of `rbdAnchorCom_Transmit` and the length and state they leave. -/
def storeData (args : TransmitArgs) (m : Nat) (s : State) : State :=
  let i := otherEndIdxToUse cfg m args.otherEndIdx
  let s := s.store i m headerLen ((args.buf.getD fun _ => 0).read 0 args.length)
  let s := if args.length2 > 0 then
      s.store i m (headerLen + args.length) ((args.buf2.getD fun _ => 0).read 0 args.length2)
    else s
  let s := s.setInfo i m
    { s.msgTxInfo i m with length := u16 (args.length + args.length2) }
  -- the state of the given index is set, not that of the index in use
  s.setInfo args.otherEndIdx m
    { s.msgTxInfo args.otherEndIdx m with bufState := .hasData }

/-- The part of `rbdAnchorCom_Transmit` behind the buffer check. -/
def acceptData (args : TransmitArgs) (m : Nat) (s : State) : State × StdReturn :=
  let i := otherEndIdxToUse cfg m args.otherEndIdx
  let s := storeData cfg args m s
  match addTxQueue cfg s i m with
  | some queued =>
    ((queued.setInfo i m { queued.msgTxInfo i m with bufState := .hasData }).emit
      (.accepted s.nextTicket i m args.payload), .ok)
  | none => (s, .notOk)

/-- The request gets past the parameter checks of `rbdAnchorCom_Transmit`: the message, or
the error to report. -/
def checkTransmit (args : TransmitArgs) : Except Event Nat :=
  let m := findIdx cfg args.pduId
  let totalLength := u16 (args.length + args.length2)
  if m ≥ cfg.numMsg then .error (.reportError args.pduId.toNat .tpTransmit .pdu)
  else if args.otherEndIdx ≥ cfg.numLlTx then
    .error (.reportError args.otherEndIdx .tpGetBuffer .otherEndIdx)
  else if totalLength > (cfg.msgCfg m).length then
    .error (.reportError args.length .tpTransmit .length)
  else if args.buf = none ∨ (args.length2 > 0 ∧ args.buf2 = none) then
    .error (.reportError 0 .tpTransmit .null)
  else .ok m

def bufferUsable (otherEndIdx m : Nat) (overwriteOldData : Bool) (s : State) : Bool :=
  let bufState := (s.msgTxInfo (otherEndIdxToUse cfg m otherEndIdx) m).bufState
  bufState == .idle || (bufState == .hasData && overwriteOldData)

/-- `rbdAnchorCom_IsTxPossible`. -/
def isTxPossible (otherEndIdx : Nat) (pduId : UInt8) (overwriteOldData : Bool) (s : State) :
    State × StdReturn :=
  let m := findIdx cfg pduId
  if m ≥ cfg.numMsg then (s.emit (.reportError pduId.toNat .tpGetBuffer .pdu), .notOk)
  else if otherEndIdx ≥ cfg.numLlTx then
    (s.emit (.reportError otherEndIdx .tpGetBuffer .otherEndIdx), .notOk)
  else if bufferUsable cfg otherEndIdx m overwriteOldData s then (s, .ok)
  else (s, .notOk)

/-- `rbdAnchorCom_Transmit`. -/
def transmit (args : TransmitArgs) (s : State) : State × StdReturn :=
  match checkTransmit cfg args with
  | .error event => (s.emit event, .notOk)
  | .ok m =>
    if bufferUsable cfg args.otherEndIdx m args.overwriteOldData s then acceptData cfg args m s
    else (s, .notOk)

end Transmit

section Parts
variable (cfg : Config) (env : Env)

def paddingLen (payloadLen : Nat) : Nat :=
  if payloadLen % aesKeyLen = 0 then 0 else aesKeyLen - payloadLen % aesKeyLen

def padPayload (i m : Nat) (s : State) : State :=
  let payloadLen := (s.msgTxInfo i m).length
  let padding := paddingLen payloadLen
  let s := s.store i m 2 [0x80]
  if padding ≠ 0 then
    let s := s.store i m (payloadLen + headerLen) (List.replicate padding 0)
    let s := s.setInfo i m { s.msgTxInfo i m with length := u16 (payloadLen + padding) }
    s.store i m 2 [s.buffer i m 2 ||| (UInt8.ofNat padding &&& 0x0F)]
  else s.store i m 2 [0]

/-- `rbdAnchorComTp_TxFormatForCrypto` for the entry in slot `h` of queue `q`. -/
def txFormatForCrypto (q h : Nat) (s : State) : State × Result :=
  match env.txFreshness s.log with
  | none => (s, .fail)
  | some (fresh, truncFresh) =>
    let e := s.entry q h
    let m := e.msgIdx
    let i := e.anchorId
    let msg := cfg.msgCfg m
    let length := (s.msgTxInfo i m).length
    let s := s.store i m 0 [getTxChanId cfg m i]
    let s := s.store i m 1 [msg.pduId]
    let s := if msg.encDecFlag then padPayload i m s else s
    let payloadLen := (s.msgTxInfo i m).length
    let s := s.store i m (payloadLen + headerLen) (fresh.read 0 freshLen)
    let queueState := if msg.encDecFlag then TxQueueState.encReady else .cmacReady
    ((s.setEntry q h { e with truncFresh, queueState }).emit (.formatted e.ticket length), .ok)

/-- `rbdAnchorComTp_TxStartEncryption`: the payload is encrypted in place. -/
def txStartEncryption (q h : Nat) (s : State) : State × Result :=
  let e := s.entry q h
  let m := e.msgIdx
  let i := e.anchorId
  let payloadLen := (s.msgTxInfo i m).length
  let payload := (s.buffer i m).read headerLen payloadLen
  let fresh := (s.buffer i m).read (headerLen + payloadLen) freshLen
  let answer := env.encrypt s.log payload fresh
  let cipher := answer.2.read 0 payloadLen
  ((s.setBuffer i m ((s.buffer i m).write headerLen cipher)).emit
    (.encrypted e.ticket payload fresh cipher), answer.1)

def encryptionResult (result : Result) (e : Entry) : Entry :=
  match result with
  | .ok => { e with queueState := .cmacReady }
  | .fail => { e with errCounter := e.errCounter + 1 }
  | .pending => { e with queueState := .encRunning }
  | .fatalFail => { e with errCounter := e.errCounter + cfg.maxRetryCount }

/-- `rbdAnchorComTp_TxPart1`. -/
def txPart1 (q h : Nat) (s : State) : State :=
  if (s.entry q h).queueState = .queued then
    let formatted := txFormatForCrypto cfg env q h s
    let s := formatted.1
    let s := if formatted.2 ≠ .ok then
        s.setEntry q h { s.entry q h with errCounter := (s.entry q h).errCounter + 1 }
      else s
    if (s.entry q h).queueState = .encReady then
      let encrypted := txStartEncryption env q h s
      encrypted.1.setEntry q h (encryptionResult cfg encrypted.2 (encrypted.1.entry q h))
    else s
  else s

/-- `rbdAnchorComTp_TxStartCmac`. -/
def txStartCmac (q h : Nat) (s : State) : State × Result :=
  let e := s.entry q h
  let dataLen := u16 ((s.msgTxInfo e.anchorId e.msgIdx).length + headerLen + freshLen)
  let data := (s.buffer e.anchorId e.msgIdx).read 0 dataLen
  let answer := env.authenticate s.log data
  let cmacValue := answer.2.read 0 cmacLen
  ((s.setEntry q h { e with cmacValue }).emit (.authenticated e.ticket data cmacValue), answer.1)

def appendTrailer (q h : Nat) (s : State) : State :=
  let e := s.entry q h
  let m := e.msgIdx
  let i := e.anchorId
  let cmacOffset := u16 ((s.msgTxInfo i m).length + headerLen)
  let s := s.store i m cmacOffset [e.truncFresh]
  let s := s.store i m (cmacOffset + 1) e.cmacValue
  let s := s.setInfo i m
    { s.msgTxInfo i m with length := u16 ((s.msgTxInfo i m).length + (appendLen + prefixLen)) }
  (s.setEntry q h { e with queueState := .transReady }).emit
    (.sealed e.ticket ((s.buffer i m).read chanIdLen (s.msgTxInfo i m).length))

/-- `rbdAnchorComTp_TxPart2`. -/
def txPart2 (q h : Nat) (s : State) : State :=
  if (s.entry q h).queueState = .cmacReady then
    let started := txStartCmac env q h s
    let s := started.1
    let e := s.entry q h
    match started.2 with
    | .ok => appendTrailer q h s
    | .pending => s.setEntry q h { e with queueState := .cmacRunning }
    | .fail => s.setEntry q h { e with errCounter := e.errCounter + 1 }
    | .fatalFail => s.setEntry q h { e with errCounter := e.errCounter + cfg.maxRetryCount }
  else s

/-- `rbdAnchorComTp_TxPart3` and `rbdAnchorComTp_TxStartTx` up to the call of the lower
layer. -/
def startRequest (q h : Nat) (s : State) : State :=
  if (s.entry q h).queueState = .transReady then
    let e := { s.entry q h with queueState := .transRunning }
    let s := s.setEntry q h e
    let s := s.setCh e.channel e.anchorId
      { txInProgress := true, txOffset := 0, txMsgIdx := e.msgIdx }
    { s.emit (.request e.ticket e.channel e.anchorId (s.msgTxInfo e.anchorId e.msgIdx).length) with
      calling := true
      ret := .fatalFail }
  else { s with calling := false, ret := .ok }

def takeAnswer (q h c i : Nat) (s : State) : State :=
  let e := s.entry q h
  let result := env.pduRTransmit s.log (cfg.lowerTxCallPdu c i)
  let s := s.emit (.answered e.ticket c i result)
  if result = .ok then { s with ret := .ok } else s

def sendsImc (s : State) (q h : Nat) : Bool :=
  s.calling && cfg.masterHasRf && (cfg.msgCfg (s.entry q h).msgIdx).broadcast

def startImcRequest (q h : Nat) (s : State) : State :=
  if sendsImc cfg s q h then
    let e := s.entry q h
    let s := s.setCh e.channel (e.anchorId + 1)
      { txInProgress := true, txOffset := 0, txMsgIdx := e.msgIdx }
    s.emit (.request e.ticket e.channel (e.anchorId + 1)
      (s.msgTxInfo e.anchorId e.msgIdx).length)
  else s

/-- The rest of `rbdAnchorComTp_TxPart3`. -/
def requestResult (q h : Nat) (s : State) : State :=
  let e := s.entry q h
  if s.calling then
    match s.ret with
    | .ok => s.setEntry q h { e with queueState := .transRunning }
    | .fail => s.setEntry q h { e with errCounter := e.errCounter + 1 }
    | _ => s.setEntry q h { e with errCounter := e.errCounter + cfg.maxRetryCount }
  else s

/-- `rbdAnchorComTp_FinishData`. -/
def finishData (q h : Nat) (s : State) : State :=
  let e := s.entry q h
  let s := s.setInfo e.anchorId e.msgIdx
    { s.msgTxInfo e.anchorId e.msgIdx with bufState := .idle }
  (removeTxQueueHead s e.anchorId).emit (.retired e.ticket)

/-- What `rbdAnchorComTp_CyclicTx` does to a head before it processes it. -/
def lookAtHead (q : Nat) (s : State) : State :=
  match getTxQueueHead s q with
  | none => { s with txHeadPtr := none }
  | some h =>
    let e := s.entry q h
    match e.queueState with
    | .transDone =>
      let s := finishData q h s
      { s with txHeadPtr := getTxQueueHead s q }
    | .transRunning =>
      { s.setEntry q h { e with errCounter := e.errCounter + 1 } with txHeadPtr := some h }
    | _ => { s with txHeadPtr := some h }

def dropHead (q h : Nat) (s : State) : State :=
  let e := s.entry q h
  if e.errCounter ≥ cfg.maxRetryCount then
    let s := s.setInfo e.anchorId e.msgIdx
      { s.msgTxInfo e.anchorId e.msgIdx with bufState := .idle }
    let s := s.setCh e.channel e.anchorId
      { s.chTxInfo e.channel e.anchorId with txInProgress := false }
    (removeTxQueueHead s e.anchorId).emit (.dropped e.ticket)
  else s

def atHead (s : State) (act : Nat → State → State) : State :=
  match s.txHeadPtr with
  | none => s
  | some h => act h s

def execute (q : Nat) (s : State) : Stage → State
  | .head => lookAtHead q s
  | .part1 => atHead s (txPart1 cfg env q)
  | .part2 => atHead s (txPart2 cfg env q)
  | .request => atHead s (startRequest q)
  | .answer => atHead s fun h s =>
    if s.calling then takeAnswer cfg env q h (s.entry q h).channel (s.entry q h).anchorId s else s
  | .requestImc => atHead s (startImcRequest cfg q)
  | .answerImc => atHead s fun h s =>
    if sendsImc cfg s q h then
      takeAnswer cfg env q h (s.entry q h).channel ((s.entry q h).anchorId + 1) s
    else s
  | .result => atHead s (requestResult cfg q)
  | .drop => atHead s (dropHead cfg q)

def stages : List Stage :=
  [.head, .part1, .part2, .request, .answer, .requestImc, .answerImc, .result, .drop]

/-- The loop body of `rbdAnchorComTp_CyclicTx` without interruption. -/
def servePeer (s : State) (q : Nat) : State := stages.foldl (execute cfg env q) s

def served (allowed q : Nat) : Bool := allowed.testBit q || decide (q ≥ cfg.maxNodes)

/-- The peers a call of `rbdAnchorComTp_CyclicTx` serves. -/
def servedPeers (s : State) : List Nat :=
  let allowed := env.nodeOkToTx s.log
  if cfg.build = .ncj29d5 ∧ env.isCryptoFree s.log = false then []
  else (List.range cfg.numLlTx).filter (served cfg allowed)

/-- `rbdAnchorComTp_CyclicTx` without interruption. -/
def cyclicTx (s : State) : State := (servedPeers cfg env s).foldl (servePeer cfg env) s

end Parts

section Callbacks
variable (cfg : Config)

def isImc (id : Nat) : Bool :=
  cfg.build == .masterMcu && cfg.masterHasRf && id == cfg.imcBroadcastPdu

structure CopyArgs where
  sduLength : Nat
  hasBuffer : Bool
  retry : Option Nat

structure CopyAnswer where
  result : BufReq
  bytes : List UInt8
  available : Nat

/-- The part of `rbdAnchorComTp_CopyTxData` behind its checks; `h` is `HeadPtr`. -/
def copyBytes (id : Nat) (args : CopyArgs) (c i : Nat) (h : Option Nat) (s : State) :
    State × CopyAnswer :=
  let ch := s.chTxInfo c i
  let m := ch.txMsgIdx
  let offset := (args.retry.map u16).getD ch.txOffset
  let source := if isImc cfg id then i - 1 else i
  let bytesRemaining := sub16 (s.msgTxInfo source m).length offset
  let bytesToCopy := min (u16 args.sduLength) bytesRemaining
  if args.hasBuffer then
    let bytes := (s.buffer source m).read (offset + chanIdLen) bytesToCopy
    let s := s.setCh c i { ch with txOffset := u16 (offset + bytesToCopy) }
    let s := s.emit (.copied c i (args.retry.map u16) bytes)
    let bytesRemaining := bytesRemaining - bytesToCopy
    let s := if cfg.build = .ncj29d5 ∧ bytesRemaining = 0 then
        let s := s.setCh c i { s.chTxInfo c i with txInProgress := false }
        match h with
        | some h => s.setEntry i h { s.entry i h with queueState := .transDone }
        | none => s
      else s
    (s, ⟨.ok, bytes, bytesRemaining⟩)
  else (s, ⟨.ok, [], bytesRemaining⟩)

/-- `rbdAnchorComTp_CopyTxData`; `none` stands for a NULL `info`. -/
def copyTxData (id : Nat) (args : Option CopyArgs) (s : State) : State × CopyAnswer :=
  match args with
  | none => (s.emit (.reportError id .tpTxCopy .null), ⟨.notOk, [], 0⟩)
  | some args =>
    match findByLLPdu cfg id cfg.lowerTxCbPdu cfg.numLlTx with
    | none => (s.emit (.reportError id .tpTxCopy .pdu), ⟨.notOk, [], 0⟩)
    | some (c, i) =>
      let h := getTxQueueHead s i
      if h = none ∧ isImc cfg id = false then
        (s.emit (.reportError id .tpTxCopy .null), ⟨.notOk, [], 0⟩)
      else copyBytes cfg id args c i h s

/-- `rbdAnchorComTp_TpTxConfirmation`. The lower layer confirms its transmission of the
request `ticket`; nothing but the log depends on it. -/
def tpTxConfirmation (ticket id : Nat) (result : StdReturn) (s : State) : State :=
  match findByLLPdu cfg id cfg.lowerTxCbPdu cfg.numLlTx with
  | none => s.emit (.reportError id .tpTxConfirmation .pdu)
  | some (c, i) =>
    let ch := s.chTxInfo c i
    let s := s.emit (.confirmed ticket c i result)
    match getTxQueueHead s i with
    | none =>
      if isImc cfg id then
        if ch.txInProgress then s.setCh c i { ch with txInProgress := false } else s
      else s.emit (.reportError id .tpTxCopy .null)
    | some h =>
      if ch.txInProgress then
        let s := s.setCh c i { ch with txInProgress := false }
        let e := s.entry i h
        if result = .ok then s.setEntry i h { e with queueState := .transDone }
        else s.setEntry i h { e with queueState := .transReady, errCounter := e.errCounter + 1 }
      else s

end Callbacks

section Runs
variable (cfg : Config) (env : Env)

/-- `rbdAnchorComTp_Init`, the transmit half. -/
def init (s : State) : State :=
  { s with
    msgTxInfo := fun i m =>
      if i < cfg.numLlTx ∧ m < cfg.numMsg then { s.msgTxInfo i m with bufState := .idle }
      else s.msgTxInfo i m
    chTxInfo := fun c i =>
      if i < cfg.numLlTx ∧ c < cfg.tpChMax then { s.chTxInfo c i with txInProgress := false }
      else s.chTxInfo c i
    queue := fun i => if i < cfg.numLlTx then (s.queue i).clear else s.queue i }

/-- What can happen next: a call of the application, a callback of the lower layer, the
start of the cyclic function, or its next stage. -/
inductive Op where
  | transmit (args : TransmitArgs)
  | copyTxData (id : Nat) (args : Option CopyArgs)
  | tpTxConfirmation (ticket id : Nat) (result : StdReturn)
  | cyclicTx
  | resume

def step (s : State) : Op → State
  | .transmit args => (transmit cfg args s).1
  | .copyTxData id args => (copyTxData cfg id args s).1
  | .tpTxConfirmation ticket id result => tpTxConfirmation cfg ticket id result s
  | .cyclicTx =>
    if s.task = none then { s with task := Task.begin (servedPeers cfg env s) } else s
  | .resume =>
    match s.task with
    | none => s
    | some t => { execute cfg env t.peer s t.stage with task := t.advance }

/-- The state after `rbdAnchorComTp_Init`, with the cyclic function not running. -/
def start (s : State) : State :=
  init cfg { s with task := none, txHeadPtr := none, calling := false, nextTicket := 0, log := [] }

end Runs

def blank : State where
  msgTxInfo := fun _ _ => ⟨.idle, 0⟩
  buffer := fun _ _ _ => 0
  queue := fun _ => .vacant queueSize_pos ⟨0, 0, 0, .queued, 0, 0, [], 0⟩
  chTxInfo := fun _ _ => ⟨false, 0, 0⟩
  nextTicket := 0
  log := []
  task := none
  txHeadPtr := none
  calling := false
  ret := .ok

def promptEnv : Env where
  nodeOkToTx := fun _ => 0xFF
  isCryptoFree := fun _ => true
  txFreshness := fun _ => some (fun _ => 7, 7)
  encrypt := fun _ payload _ => (.ok, fun n => 255 - payload.getD n 0)
  authenticate := fun _ _ => (.ok, fun _ => 9)
  pduRTransmit := fun _ _ => .ok

def sampleRequest (otherEndIdx : Nat) (pduId : UInt8) (length : Nat) : TransmitArgs :=
  ⟨otherEndIdx, pduId, length, some fun _ => 5, 0, none, false⟩

end AnchorNode.AnchorCom.Tx
