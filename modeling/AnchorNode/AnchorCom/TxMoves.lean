import AnchorNode.AnchorCom.Tx

/-! What one step of the transmit half can do, and the invariant that ties the cyclic
function to the queue it works on. -/

namespace AnchorNode.AnchorCom.Tx

open AnchorNode.Lib

namespace Core

def entries (s : Core) (i : Nat) : List Entry := (s.queue i).toList

def front (s : Core) (i : Nat) : Entry := (s.queue i).front

end Core

namespace State

def setFront (s : State) (i : Nat) (e : Entry) : State := s.setEntry i (s.queue i).head e

section Fields
variable (s : State) (i m c h offset : Nat) (e : Entry) (event : Event) (info : MsgInfo)
  (mem : Mem) (q : Ring queueSize Entry) (ch : ChTxInfo) (bytes : List UInt8)

@[simp] theorem emit_msgTxInfo : (s.emit event).msgTxInfo = s.msgTxInfo := rfl
@[simp] theorem emit_buffer : (s.emit event).buffer = s.buffer := rfl
@[simp] theorem emit_queue : (s.emit event).queue = s.queue := rfl
@[simp] theorem emit_chTxInfo : (s.emit event).chTxInfo = s.chTxInfo := rfl
@[simp] theorem emit_task : (s.emit event).task = s.task := rfl
@[simp] theorem emit_txHeadPtr : (s.emit event).txHeadPtr = s.txHeadPtr := rfl
@[simp] theorem emit_calling : (s.emit event).calling = s.calling := rfl
@[simp] theorem emit_ret : (s.emit event).ret = s.ret := rfl
@[simp] theorem emit_nextTicket : (s.emit event).nextTicket = s.nextTicket := rfl
@[simp] theorem emit_log : (s.emit event).log = s.log ++ [event] := rfl

@[simp] theorem setInfo_msgTxInfo : (s.setInfo i m info).msgTxInfo =
    Function.update s.msgTxInfo i (Function.update (s.msgTxInfo i) m info) := rfl
@[simp] theorem setInfo_buffer : (s.setInfo i m info).buffer = s.buffer := rfl
@[simp] theorem setInfo_queue : (s.setInfo i m info).queue = s.queue := rfl
@[simp] theorem setInfo_chTxInfo : (s.setInfo i m info).chTxInfo = s.chTxInfo := rfl
@[simp] theorem setInfo_task : (s.setInfo i m info).task = s.task := rfl
@[simp] theorem setInfo_txHeadPtr : (s.setInfo i m info).txHeadPtr = s.txHeadPtr := rfl
@[simp] theorem setInfo_calling : (s.setInfo i m info).calling = s.calling := rfl
@[simp] theorem setInfo_ret : (s.setInfo i m info).ret = s.ret := rfl
@[simp] theorem setInfo_nextTicket : (s.setInfo i m info).nextTicket = s.nextTicket := rfl
@[simp] theorem setInfo_log : (s.setInfo i m info).log = s.log := rfl

@[simp] theorem setBuffer_msgTxInfo : (s.setBuffer i m mem).msgTxInfo = s.msgTxInfo := rfl
@[simp] theorem setBuffer_buffer : (s.setBuffer i m mem).buffer =
    Function.update s.buffer i (Function.update (s.buffer i) m mem) := rfl
@[simp] theorem setBuffer_queue : (s.setBuffer i m mem).queue = s.queue := rfl
@[simp] theorem setBuffer_chTxInfo : (s.setBuffer i m mem).chTxInfo = s.chTxInfo := rfl
@[simp] theorem setBuffer_task : (s.setBuffer i m mem).task = s.task := rfl
@[simp] theorem setBuffer_txHeadPtr : (s.setBuffer i m mem).txHeadPtr = s.txHeadPtr := rfl
@[simp] theorem setBuffer_calling : (s.setBuffer i m mem).calling = s.calling := rfl
@[simp] theorem setBuffer_ret : (s.setBuffer i m mem).ret = s.ret := rfl
@[simp] theorem setBuffer_nextTicket : (s.setBuffer i m mem).nextTicket = s.nextTicket := rfl
@[simp] theorem setBuffer_log : (s.setBuffer i m mem).log = s.log := rfl

@[simp] theorem setQueue_msgTxInfo : (s.setQueue i q).msgTxInfo = s.msgTxInfo := rfl
@[simp] theorem setQueue_buffer : (s.setQueue i q).buffer = s.buffer := rfl
@[simp] theorem setQueue_queue : (s.setQueue i q).queue = Function.update s.queue i q := rfl
@[simp] theorem setQueue_chTxInfo : (s.setQueue i q).chTxInfo = s.chTxInfo := rfl
@[simp] theorem setQueue_task : (s.setQueue i q).task = s.task := rfl
@[simp] theorem setQueue_txHeadPtr : (s.setQueue i q).txHeadPtr = s.txHeadPtr := rfl
@[simp] theorem setQueue_calling : (s.setQueue i q).calling = s.calling := rfl
@[simp] theorem setQueue_ret : (s.setQueue i q).ret = s.ret := rfl
@[simp] theorem setQueue_nextTicket : (s.setQueue i q).nextTicket = s.nextTicket := rfl
@[simp] theorem setQueue_log : (s.setQueue i q).log = s.log := rfl

@[simp] theorem setCh_msgTxInfo : (s.setCh c i ch).msgTxInfo = s.msgTxInfo := rfl
@[simp] theorem setCh_buffer : (s.setCh c i ch).buffer = s.buffer := rfl
@[simp] theorem setCh_queue : (s.setCh c i ch).queue = s.queue := rfl
@[simp] theorem setCh_chTxInfo : (s.setCh c i ch).chTxInfo =
    Function.update s.chTxInfo c (Function.update (s.chTxInfo c) i ch) := rfl
@[simp] theorem setCh_task : (s.setCh c i ch).task = s.task := rfl
@[simp] theorem setCh_txHeadPtr : (s.setCh c i ch).txHeadPtr = s.txHeadPtr := rfl
@[simp] theorem setCh_calling : (s.setCh c i ch).calling = s.calling := rfl
@[simp] theorem setCh_ret : (s.setCh c i ch).ret = s.ret := rfl
@[simp] theorem setCh_nextTicket : (s.setCh c i ch).nextTicket = s.nextTicket := rfl
@[simp] theorem setCh_log : (s.setCh c i ch).log = s.log := rfl

@[simp] theorem setEntry_msgTxInfo : (s.setEntry i h e).msgTxInfo = s.msgTxInfo := rfl
@[simp] theorem setEntry_buffer : (s.setEntry i h e).buffer = s.buffer := rfl
@[simp] theorem setEntry_chTxInfo : (s.setEntry i h e).chTxInfo = s.chTxInfo := rfl
@[simp] theorem setEntry_task : (s.setEntry i h e).task = s.task := rfl
@[simp] theorem setEntry_txHeadPtr : (s.setEntry i h e).txHeadPtr = s.txHeadPtr := rfl
@[simp] theorem setEntry_calling : (s.setEntry i h e).calling = s.calling := rfl
@[simp] theorem setEntry_ret : (s.setEntry i h e).ret = s.ret := rfl
@[simp] theorem setEntry_nextTicket : (s.setEntry i h e).nextTicket = s.nextTicket := rfl
@[simp] theorem setEntry_log : (s.setEntry i h e).log = s.log := rfl
@[simp] theorem setEntry_queue : (s.setEntry i h e).queue =
    Function.update s.queue i ((s.queue i).set h e) := rfl
@[simp] theorem setEntry_entry : (s.setEntry i h e).entry i h = e := by simp [entry]

@[simp] theorem emit_entry : (s.emit event).entry = s.entry := rfl
@[simp] theorem setInfo_entry : (s.setInfo i m info).entry = s.entry := rfl
@[simp] theorem setBuffer_entry : (s.setBuffer i m mem).entry = s.entry := rfl
@[simp] theorem setCh_entry : (s.setCh c i ch).entry = s.entry := rfl
@[simp] theorem store_entry : (s.store i m offset bytes).entry = s.entry := rfl

@[simp] theorem store_msgTxInfo : (s.store i m offset bytes).msgTxInfo = s.msgTxInfo := rfl
@[simp] theorem store_buffer : (s.store i m offset bytes).buffer =
    Function.update s.buffer i
      (Function.update (s.buffer i) m ((s.buffer i m).write offset bytes)) := rfl
@[simp] theorem store_queue : (s.store i m offset bytes).queue = s.queue := rfl
@[simp] theorem store_chTxInfo : (s.store i m offset bytes).chTxInfo = s.chTxInfo := rfl
@[simp] theorem store_task : (s.store i m offset bytes).task = s.task := rfl
@[simp] theorem store_txHeadPtr : (s.store i m offset bytes).txHeadPtr = s.txHeadPtr := rfl
@[simp] theorem store_calling : (s.store i m offset bytes).calling = s.calling := rfl
@[simp] theorem store_ret : (s.store i m offset bytes).ret = s.ret := rfl
@[simp] theorem store_nextTicket : (s.store i m offset bytes).nextTicket = s.nextTicket := rfl
@[simp] theorem store_log : (s.store i m offset bytes).log =
    s.log ++ [.written i m offset bytes.length] := rfl

@[simp] theorem setFront_msgTxInfo : (s.setFront i e).msgTxInfo = s.msgTxInfo := rfl
@[simp] theorem setFront_buffer : (s.setFront i e).buffer = s.buffer := rfl
@[simp] theorem setFront_chTxInfo : (s.setFront i e).chTxInfo = s.chTxInfo := rfl
@[simp] theorem setFront_nextTicket : (s.setFront i e).nextTicket = s.nextTicket := rfl
@[simp] theorem setFront_log : (s.setFront i e).log = s.log := rfl
@[simp] theorem setFront_queue : (s.setFront i e).queue =
    Function.update s.queue i ((s.queue i).set (s.queue i).head e) := rfl

end Fields

end State

section Data
variable (cfg : Config)

def padBuffer (len : Nat) (buf : Mem) : Mem :=
  let buf := buf.write 2 [0x80]
  if paddingLen len ≠ 0 then
    let buf := buf.write (len + headerLen) (List.replicate (paddingLen len) 0)
    buf.write 2 [buf 2 ||| (UInt8.ofNat (paddingLen len) &&& 0x0F)]
  else buf.write 2 [0]

def formatLength (m len : Nat) : Nat :=
  if (cfg.msgCfg m).encDecFlag ∧ paddingLen len ≠ 0 then u16 (len + paddingLen len) else len

def formatBuffer (i m : Nat) (fresh : Mem) (len : Nat) (buf : Mem) : Mem :=
  let buf := (buf.write 0 [getTxChanId cfg m i]).write 1 [(cfg.msgCfg m).pduId]
  let buf := if (cfg.msgCfg m).encDecFlag then padBuffer len buf else buf
  buf.write (formatLength cfg m len + headerLen) (fresh.read 0 freshLen)

def formatEntry (truncFresh : UInt8) (e : Entry) : Entry :=
  { e with
    truncFresh
    queueState := if (cfg.msgCfg e.msgIdx).encDecFlag then .encReady else .cmacReady }

def formatWrites (i m len : Nat) : List Event :=
  [.written i m 0 1, .written i m 1 1] ++
    (if (cfg.msgCfg m).encDecFlag then
      if paddingLen len ≠ 0 then
        [.written i m 2 1, .written i m (len + headerLen) (paddingLen len), .written i m 2 1]
      else [.written i m 2 1, .written i m 2 1]
    else []) ++
    [.written i m (formatLength cfg m len + headerLen) freshLen]

def copySource (id i : Nat) : Nat := if isImc cfg id then i - 1 else i

def copyOffset (args : CopyArgs) (ch : ChTxInfo) : Nat := (args.retry.map u16).getD ch.txOffset

def copyRemaining (s : Core) (id c i : Nat) (args : CopyArgs) : Nat :=
  sub16 (s.msgTxInfo (copySource cfg id i) (s.chTxInfo c i).txMsgIdx).length
    (copyOffset args (s.chTxInfo c i))

def copyCount (s : Core) (id c i : Nat) (args : CopyArgs) : Nat :=
  min (u16 args.sduLength) (copyRemaining cfg s id c i args)

def copiedBytes (s : Core) (id c i : Nat) (args : CopyArgs) : List UInt8 :=
  (s.buffer (copySource cfg id i) (s.chTxInfo c i).txMsgIdx).read
    (copyOffset args (s.chTxInfo c i) + chanIdLen) (copyCount cfg s id c i args)

def copyFinishes (s : Core) (id c i : Nat) (args : CopyArgs) : Bool :=
  cfg.build == .ncj29d5 &&
    copyRemaining cfg s id c i args - copyCount cfg s id c i args == 0

end Data

/-- What the cyclic function makes of the front entry `e` of peer `i`, whose message has
the buffer `buf` and the length `len`: the new entry, buffer and length, and the events. -/
inductive Work (cfg : Config) (env : Env) (log : List Event) (i : Nat) (e : Entry) (buf : Mem)
    (len : Nat) : Entry → Mem → Nat → List Event → Prop
  | unfresh (queued : e.queueState = .queued) (missing : env.txFreshness log = none) :
      Work cfg env log i e buf len { e with errCounter := e.errCounter + 1 } buf len []
  | formatted (fresh : Mem) (truncFresh : UInt8) (queued : e.queueState = .queued)
      (given : env.txFreshness log = some (fresh, truncFresh)) :
      Work cfg env log i e buf len (formatEntry cfg truncFresh e)
        (formatBuffer cfg i e.msgIdx fresh len buf) (formatLength cfg e.msgIdx len)
        (formatWrites cfg i e.msgIdx len ++ [.formatted e.ticket len])
  | encrypted (payload fresh cipher : List UInt8) (answer : Result × Mem)
      (ready : e.queueState = .encReady) (plain : payload = buf.read headerLen len)
      (vector : fresh = buf.read (headerLen + len) freshLen)
      (said : env.encrypt log payload fresh = answer) (read : cipher = answer.2.read 0 len) :
      Work cfg env log i e buf len (encryptionResult cfg answer.1 e) (buf.write headerLen cipher)
        len [.encrypted e.ticket payload fresh cipher]
  | unauthenticated (data cmacValue : List UInt8) (answer : Result × Mem) (e' : Entry)
      (ready : e.queueState = .cmacReady)
      (whole : data = buf.read 0 (u16 (len + headerLen + freshLen)))
      (said : env.authenticate log data = answer) (read : cmacValue = answer.2.read 0 cmacLen)
      (failed : answer.1 = .pending ∧ e' = { e with cmacValue, queueState := .cmacRunning } ∨
        answer.1 = .fail ∧ e' = { e with cmacValue, errCounter := e.errCounter + 1 } ∨
        answer.1 = .fatalFail ∧
          e' = { e with cmacValue, errCounter := e.errCounter + cfg.maxRetryCount }) :
      Work cfg env log i e buf len e' buf len [.authenticated e.ticket data cmacValue]
  | sealed (data cmacValue : List UInt8) (answer : Result × Mem) (offset : Nat) (buf' : Mem)
      (len' : Nat) (ready : e.queueState = .cmacReady)
      (whole : data = buf.read 0 (u16 (len + headerLen + freshLen)))
      (said : env.authenticate log data = answer) (read : cmacValue = answer.2.read 0 cmacLen)
      (taken : answer.1 = .ok) (place : offset = u16 (len + headerLen))
      (trailer : buf' = (buf.write offset [e.truncFresh]).write (offset + 1) cmacValue)
      (grown : len' = u16 (len + (appendLen + prefixLen))) :
      Work cfg env log i e buf len { e with cmacValue, queueState := .transReady } buf' len'
        [.authenticated e.ticket data cmacValue, .written i e.msgIdx offset 1,
          .written i e.msgIdx (offset + 1) cmacLen, .sealed e.ticket (buf'.read chanIdLen len')]

structure Worked (cfg : Config) (env : Env) (s : State) (i : Nat) (t : State) (e' : Entry)
    (buf' : Mem) (len' : Nat) (events : List Event) : Prop where
  work : Work cfg env s.log i (s.front i) (s.buffer i (s.front i).msgIdx)
    (s.msgTxInfo i (s.front i).msgIdx).length e' buf' len' events
  becomes : t.toCore =
    { (((s.setFront i e').setBuffer i (s.front i).msgIdx buf').setInfo i (s.front i).msgIdx
        { s.msgTxInfo i (s.front i).msgIdx with length := len' }).toCore with
      log := s.log ++ events }

structure EntryOk (cfg : Config) (nextTicket i : Nat) (e : Entry) : Prop where
  anchorId : e.anchorId = i
  msgIdx : e.msgIdx < cfg.numMsg
  channel : e.channel = (cfg.msgCfg e.msgIdx).channel
  ticket : e.ticket < nextTicket
  broadcast : (cfg.msgCfg e.msgIdx).broadcast = true → i = cfg.maxNodes

structure AtFront (cfg : Config) (s : State) (i : Nat) : Prop where
  bound : i < cfg.numLlTx
  filled : (s.queue i).isEmpty = false
  own : EntryOk cfg s.nextTicket i (s.front i)

def Stage.inCall : Stage → Bool
  | .answer | .requestImc | .answerImc | .result => true
  | _ => false

/-- The lower layer has been called for the front entry of peer `i`, and the result has not
been taken over yet. -/
def inCall (s : State) (i : Nat) : Bool :=
  s.calling && s.txHeadPtr.isSome && s.task.any fun t => t.peer == i && t.stage.inCall

/-- The request whose data a step writes into a buffer, with its message. -/
def storing (cfg : Config) (s : State) : Op → Option (TransmitArgs × Nat)
  | .transmit args =>
    match checkTransmit cfg args with
    | .ok m =>
      if bufferUsable cfg args.otherEndIdx m args.overwriteOldData s then some (args, m) else none
    | .error _ => none
  | _ => none

theorem storing_transmit {cfg : Config} {s : State} {args : TransmitArgs} {m : Nat}
    (checked : checkTransmit cfg args = .ok m)
    (usable : bufferUsable cfg args.otherEndIdx m args.overwriteOldData s = true) :
    storing cfg s (.transmit args) = some (args, m) := by
  simp [storing, checked, usable]

section Moves
variable (cfg : Config) (env : Env) (ok : State → Op → Prop)

/-- One thing the transmit half can do in a run whose inputs all meet `ok`. -/
inductive Move (s : State) : State → Prop
  | quiet (events : List Event) {t : State}
      (noise : ∀ e ∈ events, ∃ id api error, e = .reportError id api error)
      (becomes : t.toCore = { s.toCore with log := s.log ++ events }) : Move s t
  | work (i : Nat) (e' : Entry) (buf' : Mem) (len' : Nat) (events : List Event) {t : State}
      (atFront : AtFront cfg s i) (worked : Worked cfg env s i t e' buf' len' events) : Move s t
  /-- A cycle passes while the lower layer is sending. -/
  | counted (i : Nat) {t : State} (atFront : AtFront cfg s i)
      (running : (s.front i).queueState = .transRunning)
      (becomes : t.toCore = (s.setFront i
        { s.front i with errCounter := (s.front i).errCounter + 1 }).toCore) : Move s t
  | requested (i : Nat) (todo : List Nat) {t : State} (atFront : AtFront cfg s i)
      (task : s.task = some ⟨i, .request, todo⟩) (pointer : s.txHeadPtr.isSome = true)
      (allowed : ok s .resume) (ready : (s.front i).queueState = .transReady)
      (becomes : t.toCore = (((s.setFront i { s.front i with queueState := .transRunning }).setCh
        (s.front i).channel i ⟨true, 0, (s.front i).msgIdx⟩).emit (.request (s.front i).ticket
          (s.front i).channel i (s.msgTxInfo i (s.front i).msgIdx).length)).toCore) : Move s t
  | requestedImc (i : Nat) (todo : List Nat) {t : State} (atFront : AtFront cfg s i)
      (task : s.task = some ⟨i, .requestImc, todo⟩) (call : inCall s i = true)
      (allowed : ok s .resume) (radio : cfg.masterHasRf = true)
      (broadcast : (cfg.msgCfg (s.front i).msgIdx).broadcast = true)
      (becomes : t.toCore = ((s.setCh (s.front i).channel (i + 1)
        ⟨true, 0, (s.front i).msgIdx⟩).emit (.request (s.front i).ticket (s.front i).channel (i + 1)
          (s.msgTxInfo i (s.front i).msgIdx).length)).toCore) : Move s t
  | answered (i peer : Nat) (result : StdReturn) {t : State} (atFront : AtFront cfg s i)
      (call : inCall s i = true)
      (own : peer = i ∨ cfg.masterHasRf = true ∧
        (cfg.msgCfg (s.front i).msgIdx).broadcast = true ∧ peer = i + 1)
      (becomes : t.toCore =
        (s.emit (.answered (s.front i).ticket (s.front i).channel peer result)).toCore) : Move s t
  /-- The transmit call succeeded: whatever the entry's state is by now, it is running. -/
  | sent (i : Nat) {t : State} (atFront : AtFront cfg s i) (call : inCall s i = true)
      (becomes : t.toCore =
        (s.setFront i { s.front i with queueState := .transRunning }).toCore) : Move s t
  | unsent (i n : Nat) {t : State} (atFront : AtFront cfg s i) (call : inCall s i = true)
      (becomes : t.toCore = (s.setFront i
        { s.front i with errCounter := (s.front i).errCounter + n }).toCore) : Move s t
  | retired (i : Nat) {t : State} (atFront : AtFront cfg s i)
      (done : (s.front i).queueState = .transDone)
      (becomes : t.toCore = (((s.setInfo i (s.front i).msgIdx
        { s.msgTxInfo i (s.front i).msgIdx with bufState := .idle }).setQueue i
          (s.queue i).pop).emit (.retired (s.front i).ticket)).toCore) : Move s t
  | dropped (i : Nat) {t : State} (atFront : AtFront cfg s i)
      (failed : (s.front i).errCounter ≥ cfg.maxRetryCount)
      (becomes : t.toCore = ((((s.setInfo i (s.front i).msgIdx
        { s.msgTxInfo i (s.front i).msgIdx with bufState := .idle }).setCh (s.front i).channel i
          { s.chTxInfo (s.front i).channel i with txInProgress := false }).setQueue i
            (s.queue i).pop).emit (.dropped (s.front i).ticket)).toCore) : Move s t
  | stored (args : TransmitArgs) (m : Nat) {t : State} (allowed : ok s (.transmit args))
      (checked : checkTransmit cfg args = .ok m)
      (usable : bufferUsable cfg args.otherEndIdx m args.overwriteOldData s = true)
      (becomes : t.toCore = (acceptData cfg args m s).1.toCore) : Move s t
  | copied (id c i : Nat) (args : CopyArgs) {t : State}
      (allowed : ok s (.copyTxData id (some args))) (bound : i < cfg.numLlTx)
      (found : findByLLPdu cfg id cfg.lowerTxCbPdu cfg.numLlTx = some (c, i))
      (headed : AtFront cfg s i ∨ (s.queue i).isEmpty = true ∧ isImc cfg id = true)
      (given : args.hasBuffer = true)
      (becomes : t.toCore = (((if copyFinishes cfg s.toCore id c i args then
          s.setFront i { s.front i with queueState := .transDone } else s).setCh c i
        { s.chTxInfo c i with
          txInProgress := (s.chTxInfo c i).txInProgress && !copyFinishes cfg s.toCore id c i args
          txOffset := u16 (copyOffset args (s.chTxInfo c i) +
            copyCount cfg s.toCore id c i args) }).emit
          (.copied c i (args.retry.map u16) (copiedBytes cfg s.toCore id c i args))).toCore) :
      Move s t
  | unheeded (k id c i : Nat) (result : StdReturn) (events : List Event) {t : State}
      (allowed : ok s (.tpTxConfirmation k id result))
      (found : findByLLPdu cfg id cfg.lowerTxCbPdu cfg.numLlTx = some (c, i))
      (idle : (s.queue i).isEmpty = true ∨ (s.chTxInfo c i).txInProgress = false)
      (noise : ∀ e ∈ events, ∃ id api error, e = .reportError id api error)
      (becomes : t.toCore = { s.toCore with log := s.log ++ .confirmed k c i result :: events }) :
      Move s t
  | confirmedImc (k id c i : Nat) (result : StdReturn) {t : State}
      (allowed : ok s (.tpTxConfirmation k id result))
      (found : findByLLPdu cfg id cfg.lowerTxCbPdu cfg.numLlTx = some (c, i))
      (empty : (s.queue i).isEmpty = true)
      (becomes : t.toCore = ((s.emit (.confirmed k c i result)).setCh c i
        { s.chTxInfo c i with txInProgress := false }).toCore) : Move s t
  | confirmed (k id c i : Nat) (result : StdReturn) {t : State}
      (allowed : ok s (.tpTxConfirmation k id result))
      (found : findByLLPdu cfg id cfg.lowerTxCbPdu cfg.numLlTx = some (c, i))
      (atFront : AtFront cfg s i) (progress : (s.chTxInfo c i).txInProgress = true)
      (becomes : t.toCore = (((s.emit (.confirmed k c i result)).setCh c i
        { s.chTxInfo c i with txInProgress := false }).setFront i
          (if result = .ok then { s.front i with queueState := .transDone }
           else { s.front i with
             queueState := .transReady
             errCounter := (s.front i).errCounter + 1 })).toCore) : Move s t

end Moves

/-- A queue holds entries of its own, numbered in the order of their requests. -/
structure Queued (cfg : Config) (s : Core) : Prop where
  own : ∀ i < cfg.numLlTx, ∀ e ∈ s.entries i, EntryOk cfg s.nextTicket i e
  ordered : ∀ i < cfg.numLlTx, (s.entries i).Pairwise fun e f => e.ticket < f.ticket
  apart : ∀ i < cfg.numLlTx, ∀ j < cfg.numLlTx, ∀ e ∈ s.entries i, ∀ f ∈ s.entries j,
    e.ticket = f.ticket → i = j

/-- The cyclic function works on peers that exist, and `TxHeadPtr` points to the front of
the queue of the peer it is at. -/
structure TaskOk (cfg : Config) (s : State) (t : Task) : Prop where
  peer : t.peer < cfg.numLlTx
  todo : ∀ i ∈ t.todo, i < cfg.numLlTx
  pointer : t.stage ≠ .head → ∀ h, s.txHeadPtr = some h →
    (s.queue t.peer).isEmpty = false ∧ h = (s.queue t.peer).head

structure Linked (cfg : Config) (s : State) : Prop where
  queued : Queued cfg s.toCore
  task : ∀ t, s.task = some t → TaskOk cfg s t

end AnchorNode.AnchorCom.Tx
