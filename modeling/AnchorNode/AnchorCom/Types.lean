import AnchorNode.Lib.Bytes
import AnchorNode.Lib.Ring

/-! Data model of the secured anchor messages: configuration, queue entries, channel
records and the answers of the neighbouring modules. -/

namespace AnchorNode.AnchorCom

open AnchorNode.Lib

inductive StdReturn where
  | ok
  | notOk
  deriving DecidableEq, Repr

inductive BufReq where
  | ok
  | notOk
  | ovfl
  deriving DecidableEq, Repr

/-- `rbdAnchorCom_Result_et`. -/
inductive Result where
  | ok
  | fail
  | pending
  | fatalFail
  deriving DecidableEq, Repr

inductive BufState where
  | idle
  | hasData
  deriving DecidableEq, Repr

/-- The `QueueState` of a transmit queue entry. -/
inductive TxQueueState where
  | queued
  | encReady
  | encRunning
  | cmacReady
  | cmacRunning
  | transReady
  | transRunning
  | transDone
  deriving DecidableEq, Repr

def TxQueueState.isSending : TxQueueState → Bool
  | .transReady | .transRunning | .transDone => true
  | _ => false

def TxQueueState.isPending : TxQueueState → Bool
  | .queued | .cmacReady | .transReady => true
  | _ => false

def TxQueueState.isActive (q : TxQueueState) : Bool := q == .transRunning || q.isPending

def TxQueueState.rank : TxQueueState → Nat
  | .queued => 0
  | .encReady => 1
  | .encRunning => 2
  | .cmacReady => 3
  | .cmacRunning => 4
  | .transReady => 5
  | .transRunning => 6
  | .transDone => 7

/-- The `QueueState` of a receive queue entry; a removed entry is set to `idle`. -/
inductive RxQueueState where
  | idle
  | queued
  | cmacReady
  | cmacRunning
  | decReady
  | decRunning
  | processReady
  | processDone
  deriving DecidableEq, Repr

inductive ApiId where
  | tpGetBuffer
  | tpTransmit
  | txFormat
  | tpTxCopy
  | tpTxConfirmation
  | tpRxStart
  | tpRxCopy
  | tpRxIndication
  deriving DecidableEq, Repr

inductive ErrorId where
  | pdu
  | otherEndIdx
  | length
  | null
  deriving DecidableEq, Repr

/-- The three builds the module is compiled for. -/
inductive BuildKind where
  | cc26xx
  | ncj29d5
  | masterMcu
  deriving DecidableEq, Repr

def chanIdLen : Nat := 1
def prefixLen : Nat := 2
def headerLen : Nat := 3
def freshLen : Nat := 8
def cmacLen : Nat := 3
def appendLen : Nat := 4
def aesKeyLen : Nat := 16
/-- `RBDANCHORCOM_TP_QUEUE_SIZE`. -/
def queueSize : Nat := 16

theorem queueSize_pos : 0 < queueSize := by decide
/-- `RBDANCHORCOM_TP_MAX_MSG_TX`. -/
def maxMsgTx : Nat := 4096

def u16 (n : Nat) : Nat := n % 65536

def sub16 (n m : Nat) : Nat := (n + 65536 - m % 65536) % 65536

/-- `rbdAnchorComTp_Cfg_st`. Only a transmit message has buffers, and `rxIndication` says
whether the callback of a receive message is set. -/
structure MsgCfg where
  pduId : UInt8
  channel : Nat
  rxIndication : Bool
  isTx : Bool
  length : Nat
  encDecFlag : Bool
  broadcast : Bool

/-- The generated configuration of one build, with what its static assertions and tables
guarantee. `canIdx` is the CAN index of the node, which the anchor builds read from NvM and
from the UWB information. Test mode is off. -/
structure Config where
  build : BuildKind
  masterHasRf : Bool
  numLlTx : Nat
  numLlRx : Nat
  maxNodes : Nat
  tpChMax : Nat
  bleChannel : Nat
  maxRetryCount : Nat
  reservedLen : Nat
  maxRxBufferLen : Nat
  minRxDataLen : Nat
  canIdx : UInt8
  numMsg : Nat
  msgCfg : Nat → MsgCfg
  lowerTxCallPdu : Nat → Nat → Nat
  lowerTxCbPdu : Nat → Nat → Nat
  lowerRxPdu : Nat → Nat → Nat
  imcBroadcastPdu : Nat
  numMsg_le : numMsg ≤ 256
  length_lt : ∀ m < numMsg, (msgCfg m).length < maxMsgTx
  channel_lt : ∀ m < numMsg, (msgCfg m).channel < tpChMax
  pduId_distinct : ∀ m < numMsg, ∀ k < numMsg, (msgCfg m).pduId = (msgCfg k).pduId → m = k

/-- `rbdAnchorComTp_FindIdx`: the number of messages when there is no such PDU. -/
def findIdx (cfg : Config) (pduId : UInt8) : Nat :=
  ((List.range cfg.numMsg).find? fun m => (cfg.msgCfg m).pduId == pduId).getD cfg.numMsg

/-- `rbdAnchorComTp_FindByLLPdu`: the channel and the index of the other end. -/
def findByLLPdu (cfg : Config) (pduId : Nat) (pduList : Nat → Nat → Nat) (tpPduNum : Nat) :
    Option (Nat × Nat) :=
  (List.range cfg.tpChMax).findSome? fun ch =>
    ((List.range tpPduNum).find? fun i => pduList ch i == pduId).map fun i => (ch, i)

theorem findByLLPdu_bounds {cfg : Config} {id tpPduNum c i : Nat} {pduList : Nat → Nat → Nat}
    (found : findByLLPdu cfg id pduList tpPduNum = some (c, i)) :
    c < cfg.tpChMax ∧ i < tpPduNum ∧ pduList c i = id := by
  obtain ⟨ch, member, inner⟩ := List.exists_of_findSome?_eq_some found
  obtain ⟨j, hit, pair⟩ := Option.map_eq_some_iff.mp inner
  obtain ⟨rfl, rfl⟩ := Prod.mk.inj pair
  have place := List.mem_range.mp (List.mem_of_find?_eq_some hit)
  have same := List.find?_some hit
  exact ⟨List.mem_range.mp member, place, by simpa using same⟩

/-- `rbdAnchorComTp_GetChanId`. -/
def getChanId (canIdx : UInt8) (isBroadcast isBleChannel fromMaster : Bool) : UInt8 :=
  let chanId := canIdx &&& 0x0F
  let chanId := if isBroadcast then chanId ||| 0x80 else chanId
  let chanId := if isBleChannel then chanId ||| 0x40 else chanId ||| 0x10
  if fromMaster then chanId ||| 0x20 else chanId

/-- `rbdAnchorComTp_GetTxChanId` of the three builds. -/
def getTxChanId (cfg : Config) (msgIdx anchorId : Nat) : UInt8 :=
  let msg := cfg.msgCfg msgIdx
  match cfg.build with
  | .cc26xx => getChanId cfg.canIdx msg.broadcast true false
  | .ncj29d5 => getChanId cfg.canIdx msg.broadcast false false
  | .masterMcu =>
    getChanId (if msg.broadcast then 0 else UInt8.ofNat (anchorId + 1)) msg.broadcast
      (msg.channel == cfg.bleChannel) true

/-- `rbdAnchorComTp_GetRxChanId` of the three builds. -/
def getRxChanId (cfg : Config) (msgIdx anchorId : Nat) : UInt8 :=
  let msg := cfg.msgCfg msgIdx
  match cfg.build with
  | .cc26xx => getChanId cfg.canIdx msg.broadcast true true
  | .ncj29d5 => getChanId (if msg.broadcast then 0 else cfg.canIdx) msg.broadcast false true
  | .masterMcu =>
    getChanId (UInt8.ofNat (anchorId + 1)) msg.broadcast (msg.channel == cfg.bleChannel) false

def sampleMsg : Nat → MsgCfg
  | 0 => ⟨0x10, 0, false, true, 8, true, false⟩
  | 1 => ⟨0x11, 1, false, true, 8, false, false⟩
  | _ => ⟨0x12, 0, false, true, 8, false, true⟩

def sampleConfig (build : BuildKind) : Config where
  build := build
  masterHasRf := false
  numLlTx := 3
  numLlRx := 2
  maxNodes := 2
  tpChMax := 2
  bleChannel := 0
  maxRetryCount := 3
  reservedLen := 26
  maxRxBufferLen := 64
  minRxDataLen := 7
  canIdx := 1
  numMsg := 3
  msgCfg := sampleMsg
  lowerTxCallPdu := fun c i => 8 * c + i
  lowerTxCbPdu := fun c i => 8 * c + i
  lowerRxPdu := fun c i => 8 * c + i
  imcBroadcastPdu := 100
  numMsg_le := by decide
  length_lt := by decide
  channel_lt := by decide
  pduId_distinct := by decide

end AnchorNode.AnchorCom
