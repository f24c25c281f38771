import AnchorNode.Lib.Bytes
import AnchorNode.Lib.Run

/-! The transport protocol between the two MCUs: a message goes out as a first frame with
its length and consecutive frames with a sequence number, and is put together again by the
peer. -/

namespace AnchorNode.Imc

open AnchorNode.Lib

inductive StdReturn where
  | ok
  | notOk
  deriving DecidableEq, Repr

inductive BufReq where
  | ok
  | notOk
  | busy
  | ovfl
  deriving DecidableEq, Repr

inductive ApiId where
  | tpTx
  | tpRx
  | tpCancel
  deriving DecidableEq, Repr

inductive ErrorId where
  | null
  | pdu
  | length
  | sequence
  | result
  deriving DecidableEq, Repr

def u16 (n : Nat) : Nat := n % 65536

/-- `rbdImc_TpMsgCfg_st`. -/
structure MsgCfg where
  upperTxFromPduR : Nat
  upperTxToPduR : Nat
  upperRxPduId : Nat
  imcPduId : Nat

/-- `rbdImc_TpCfg` and the frame size `IMCIF_MSG_MAX_LEN`. -/
structure Config where
  numMsg : Nat
  msgCfg : Nat → MsgCfg
  msgMaxLen : Nat

/-- `rbdImc_TpTxInfo_st`. -/
structure TxInfo where
  bytesRemaining : Nat
  offset : Nat
  sequence : UInt8
  numPktsPending : UInt8
  deriving DecidableEq, Repr

/-- `rbdImc_TpRxInfo_st`. -/
structure RxInfo where
  bytesRemaining : Nat
  active : Bool
  sequence : UInt8
  deriving DecidableEq, Repr

/-- Calls of the neighbouring modules on a channel, with the id they are made with and the
answer. `transmit` is an accepted request of the upper layer and `queueAdd` a frame handed
to the link. -/
inductive Event where
  | transmit (ch length : Nat)
  | copyTxData (ch pdu : Nat) (bytes : List UInt8) (result : BufReq)
  | queueAdd (ch imcPduId : Nat) (frame : List UInt8)
  | txConfirmation (ch pdu : Nat) (result : StdReturn)
  | startOfReception (ch pdu length : Nat) (result : BufReq)
  | copyRxData (ch pdu : Nat) (bytes : List UInt8) (result : BufReq)
  | rxIndication (ch pdu : Nat) (result : StdReturn)
  | reportError (id : Nat) (api : ApiId) (error : ErrorId)
  | reportRuntimeError (id : Nat) (api : ApiId) (error : ErrorId)
  deriving DecidableEq, Repr

/-- The neighbouring modules; every answer may depend on the whole history. -/
structure Env where
  /-- Whether `ImcIf_GetBuffer` finds a buffer. -/
  getBuffer : List Event → (ch : Nat) → Bool
  copyTxData : List Event → (ch length : Nat) → BufReq × Mem
  startOfReception : List Event → (ch length : Nat) → BufReq
  copyRxData : List Event → (ch : Nat) → (bytes : List UInt8) → BufReq

structure State where
  txInfo : Nat → TxInfo
  rxInfo : Nat → RxInfo
  log : List Event

namespace State

def emit (s : State) (e : Event) : State := { s with log := s.log ++ [e] }

def setTx (s : State) (ch : Nat) (tx : TxInfo) : State :=
  { s with txInfo := Function.update s.txInfo ch tx }

def setRx (s : State) (ch : Nat) (rx : RxInfo) : State :=
  { s with rxInfo := Function.update s.rxInfo ch rx }

section Fields
variable (s : State) (ch : Nat) (e : Event) (tx : TxInfo) (rx : RxInfo)

@[simp] theorem emit_txInfo : (s.emit e).txInfo = s.txInfo := rfl
@[simp] theorem emit_rxInfo : (s.emit e).rxInfo = s.rxInfo := rfl
@[simp] theorem emit_log : (s.emit e).log = s.log ++ [e] := rfl
@[simp] theorem setTx_txInfo : (s.setTx ch tx).txInfo = Function.update s.txInfo ch tx := rfl
@[simp] theorem setTx_rxInfo : (s.setTx ch tx).rxInfo = s.rxInfo := rfl
@[simp] theorem setTx_log : (s.setTx ch tx).log = s.log := rfl
@[simp] theorem setRx_txInfo : (s.setRx ch rx).txInfo = s.txInfo := rfl
@[simp] theorem setRx_rxInfo : (s.setRx ch rx).rxInfo = Function.update s.rxInfo ch rx := rfl
@[simp] theorem setRx_log : (s.setRx ch rx).log = s.log := rfl

end Fields

end State

section Lookup
variable (cfg : Config)

/-- `rbdImc_TpFindByImcId`; `none` stands for the number of messages. -/
def tpFindByImcId (id : Nat) : Option Nat :=
  (List.range cfg.numMsg).find? fun ch => (cfg.msgCfg ch).imcPduId == id

/-- `rbdImc_TpFindByPdurTxId`; `none` stands for the number of messages. -/
def tpFindByPdurTxId (id : Nat) : Option Nat :=
  (List.range cfg.numMsg).find? fun ch => (cfg.msgCfg ch).upperTxFromPduR == id

end Lookup

section Transmission
variable (cfg : Config) (env : Env)

/-- `rbdImcTp_Transmit`; the length is that of `PduInfoPtr`, if it is set. -/
def transmit (txPduId : Nat) (sduLength : Option Nat) (s : State) : State × StdReturn :=
  match sduLength, tpFindByPdurTxId cfg txPduId with
  | none, _ => (s.emit (.reportError 0 .tpTx .null), .notOk)
  | some _, none => (s.emit (.reportError (txPduId % 256) .tpTx .pdu), .notOk)
  | some length, some ch =>
    ((s.setTx ch { s.txInfo ch with sequence := 0, bytesRemaining := u16 length, offset := 0 }).emit
      (.transmit ch length), .ok)

/-- `rbdImcTp_CancelTransmit`. -/
def cancelTransmit (txPduId : Nat) (s : State) : State × StdReturn :=
  match tpFindByPdurTxId cfg txPduId with
  | none => (s.emit (.reportError (txPduId % 256) .tpCancel .pdu), .notOk)
  | some ch =>
    if (s.txInfo ch).bytesRemaining = 0 then (s, .notOk)
    else (s.setTx ch { s.txInfo ch with bytesRemaining := 0 }, .ok)

def packetHeader (sequence : UInt8) (bytesRemaining : Nat) : List UInt8 :=
  if sequence = 0 then
    [sequence &&& 0x0F, UInt8.ofNat (bytesRemaining / 256), UInt8.ofNat (bytesRemaining % 256)]
  else [(sequence &&& 0x0F) ||| 0x20]

def bytesThisPacket (sequence : UInt8) (bytesRemaining : Nat) : Nat :=
  min (cfg.msgMaxLen - (packetHeader sequence bytesRemaining).length) bytesRemaining

/-- The loop body of `rbdImc_TpCyclic`. -/
def cyclicChannel (s : State) (ch : Nat) : State :=
  let tx := s.txInfo ch
  if tx.bytesRemaining > 0 ∧ env.getBuffer s.log ch then
    let header := packetHeader tx.sequence tx.bytesRemaining
    let count := bytesThisPacket cfg tx.sequence tx.bytesRemaining
    let answer := env.copyTxData s.log ch (u16 count)
    let data := answer.2.read 0 count
    let s := s.emit (.copyTxData ch (cfg.msgCfg ch).upperTxToPduR data answer.1)
    if answer.1 = .ok then
      let s := s.setTx ch { tx with
        sequence := tx.sequence + 1
        bytesRemaining := tx.bytesRemaining - u16 count
        numPktsPending := tx.numPktsPending + 1 }
      -- the length of the frame is an `uint16`
      s.emit (.queueAdd ch (cfg.msgCfg ch).imcPduId
        ((header ++ data).take (u16 (header.length + count))))
    else s
  else s

/-- `rbdImc_TpCyclic`. -/
def tpCyclic (s : State) : State := (List.range cfg.numMsg).foldl (cyclicChannel cfg env) s

/-- `rbdImc_TpTxConfirmation`. -/
def tpTxConfirmation (msgId : Nat) (s : State) : State :=
  match tpFindByImcId cfg msgId with
  | none => s.emit (.reportError (msgId % 256) .tpRx .pdu)
  | some ch =>
    let tx := s.txInfo ch
    let s := if tx.numPktsPending > 0 then
        s.setTx ch { tx with numPktsPending := tx.numPktsPending - 1 }
      else s
    if (s.txInfo ch).numPktsPending = 0 ∧ (s.txInfo ch).bytesRemaining = 0 then
      s.emit (.txConfirmation ch (cfg.msgCfg ch).upperTxToPduR .ok)
    else s

end Transmission

section Reception
variable (cfg : Config) (env : Env)

/-- `rbdImc_TpReportRxError`. -/
def tpReportRxError (ch id : Nat) (error : ErrorId) (s : State) : State :=
  let s := s.emit (.reportRuntimeError id .tpRx error)
  if (s.rxInfo ch).active then
    (s.setRx ch { s.rxInfo ch with active := false }).emit
      (.rxIndication ch (cfg.msgCfg ch).upperRxPduId .notOk)
  else s

def totalMsgLen (frame : List UInt8) : Nat :=
  (frame.getD 1 0).toNat * 256 + (frame.getD 2 0).toNat

/-- `rbdImc_TpRxFirstFrame`. -/
def tpRxFirstFrame (ch : Nat) (frame : List UInt8) (s : State) : State :=
  let pdu := (cfg.msgCfg ch).upperRxPduId
  let bytesThisFrame := u16 (frame.length - 3)
  if bytesThisFrame > totalMsgLen frame then
    tpReportRxError cfg ch (bytesThisFrame % 256) .length s
  else
    let started := env.startOfReception s.log ch (totalMsgLen frame)
    let s := s.emit (.startOfReception ch pdu (totalMsgLen frame) started)
    if started = .ok then
      let data := (frame.drop 3).take bytesThisFrame
      let copied := env.copyRxData s.log ch data
      let s := s.emit (.copyRxData ch pdu data copied)
      if copied = .ok then
        s.setRx ch
          { bytesRemaining := totalMsgLen frame - bytesThisFrame, sequence := 1, active := true }
      else s.setRx ch { s.rxInfo ch with active := false }
    else s.setRx ch { s.rxInfo ch with active := false }

/-- `rbdImc_TpRxConsecutiveFrame`. -/
def tpRxConsecutiveFrame (ch : Nat) (frame : List UInt8) (s : State) : State :=
  let bytesThisFrame := u16 (frame.length - 1)
  if frame.getD 0 0 &&& 0x0F ≠ (s.rxInfo ch).sequence &&& 0x0F then
    tpReportRxError cfg ch (frame.getD 0 0).toNat .sequence s
  else if bytesThisFrame > (s.rxInfo ch).bytesRemaining then
    tpReportRxError cfg ch (bytesThisFrame % 256) .length s
  else
    let data := (frame.drop 1).take bytesThisFrame
    let copied := env.copyRxData s.log ch data
    let s := s.emit (.copyRxData ch (cfg.msgCfg ch).upperRxPduId data copied)
    if copied = .ok then
      s.setRx ch { s.rxInfo ch with
        bytesRemaining := (s.rxInfo ch).bytesRemaining - bytesThisFrame
        sequence := (s.rxInfo ch).sequence + 1 }
    else tpReportRxError cfg ch (bytesThisFrame % 256) .result s

def tooShort (frame : List UInt8) : Bool :=
  frame.length < 1 || (frame.getD 0 0 == 0 && frame.length < 3)

/-- The end of `rbdImc_TpRxIndication`: the last byte has come. -/
def endTransfer (ch : Nat) (s : State) : State :=
  if (s.rxInfo ch).bytesRemaining = 0 ∧ (s.rxInfo ch).active then
    (s.setRx ch { s.rxInfo ch with active := false, sequence := 0 }).emit
      (.rxIndication ch (cfg.msgCfg ch).upperRxPduId .ok)
  else s

/-- The part of `rbdImc_TpRxIndication` behind its checks. -/
def processFrame (ch : Nat) (frame : List UInt8) (s : State) : State :=
  endTransfer cfg ch (if frame.getD 0 0 = 0 then tpRxFirstFrame cfg env ch frame s
    else tpRxConsecutiveFrame cfg env ch frame s)

/-- `rbdImc_TpRxIndication`; the frame holds the `Length` bytes behind `Msg`, if that is
set. -/
def tpRxIndication (msgId : Nat) (msg : Option (List UInt8)) (s : State) : State :=
  match tpFindByImcId cfg msgId, msg with
  | none, _ => s.emit (.reportError (msgId % 256) .tpRx .pdu)
  | some _, none => s.emit (.reportError (msgId % 256) .tpRx .null)
  | some ch, some frame =>
    if tooShort frame then tpReportRxError cfg ch (msgId % 256) .length s
    else processFrame cfg env ch frame s

end Reception

section Runs
variable (cfg : Config) (env : Env)

inductive Op where
  | transmit (txPduId : Nat) (sduLength : Option Nat)
  | cancelTransmit (txPduId : Nat)
  | cyclic
  | txConfirmation (msgId : Nat)
  | rxIndication (msgId : Nat) (msg : Option (List UInt8))

def step (s : State) : Op → State
  | .transmit txPduId sduLength => (transmit cfg txPduId sduLength s).1
  | .cancelTransmit txPduId => (cancelTransmit cfg txPduId s).1
  | .cyclic => tpCyclic cfg env s
  | .txConfirmation msgId => tpTxConfirmation cfg msgId s
  | .rxIndication msgId msg => tpRxIndication cfg env msgId msg s

def initial : State where
  txInfo := fun _ => ⟨0, 0, 0, 0⟩
  rxInfo := fun _ => ⟨0, false, 0⟩
  log := []

end Runs

def sampleConfig (msgMaxLen : Nat) : Config :=
  ⟨1, fun _ => ⟨11, 12, 13, 14⟩, msgMaxLen⟩

end AnchorNode.Imc
