import AnchorNode.CanDrv.Types

/-! Frames as the elements of the message RAM hold them. -/

namespace AnchorNode.CanDrv

def convertToDlc (msgLength : Nat) : Nat :=
  if msgLength ≤ 8 then msgLength
  else if msgLength ≤ 12 then 9
  else if msgLength ≤ 16 then 10
  else if msgLength ≤ 20 then 11
  else if msgLength ≤ 24 then 12
  else if msgLength ≤ 32 then 13
  else if msgLength ≤ 48 then 14
  else 15

def convertCanDlc (canDlc : Nat) : Nat :=
  match canDlc with
  | 9 => 12
  | 10 => 16
  | 11 => 20
  | 12 => 24
  | 13 => 32
  | 14 => 48
  | 15 => 64
  | n => n

/-- `Can_44_TCAN4x5x_MCAN_ROBufferSizeFD`. -/
def bufferSizeFd : Fin 8 → Nat
  | 0 => 8
  | 1 => 12
  | 2 => 16
  | 3 => 20
  | 4 => 24
  | 5 => 32
  | 6 => 48
  | 7 => 64

def packWord (bytes : Nat → UInt8) (i : Nat) : Word :=
  let byte (j : Nat) : Word := (bytes (4 * i + j)).toBitVec.setWidth 32
  byte 0 ||| byte 1 <<< 8 ||| byte 2 <<< 16 ||| byte 3 <<< 24

def unpackByte (words : Nat → Word) (i : Nat) : UInt8 :=
  UInt8.ofBitVec ((words (i / 4) >>> (i % 4 * 8)).setWidth 8)

def wordCount (msgLength : Nat) : Nat :=
  if msgLength % 4 ≠ 0 then msgLength / 4 + 1 else msgLength / 4

section Transmit
variable (cfg : Config)

def idTypeMask : Word := 0x80000000#32
def frameTypeMask : Word := 0x40000000#32

def dlcCode (sduLength : Nat) : Nat :=
  if cfg.canFdBaudRateEnabled then convertToDlc sduLength else sduLength

def messageLength (sduLength : Nat) : Nat :=
  if cfg.canFdBaudRateEnabled then convertCanDlc (convertToDlc sduLength) else sduLength

def txIdWord (id : Word) : Word :=
  if id &&& idTypeMask = 0#32 then id <<< 18 else (1#32 <<< 30) ||| id

def fdfConfig (id : Word) : Word :=
  if cfg.canFdBaudRateEnabled ∧ id &&& frameTypeMask ≠ 0#32 then 1#32 else 0#32

def brsConfig : Word :=
  if cfg.canFdBaudRateEnabled then cfg.canDataTxBitRateSwitch else 0#32

def txControlWord (pdu : CanPdu) (marker : Nat) : Word :=
  (BitVec.ofNat 32 marker <<< 24) ||| (1#32 <<< 23) ||| (fdfConfig cfg pdu.id <<< 21) |||
    (brsConfig cfg <<< 20) ||| (BitVec.ofNat 32 (dlcCode cfg pdu.sdu.length) <<< 16)

def txByte (txObj : TxObjConfig) (pdu : CanPdu) (residue : Nat → UInt8) (i : Nat) : UInt8 :=
  if i < messageLength cfg pdu.sdu.length then
    if cfg.canFdBaudRateEnabled ∧ pdu.sdu.length ≤ i then txObj.canFdPaddingValue
    else pdu.sdu.getD i 0
  else residue i

/-- The TX element that `Can_44_TCAN4x5x_MCAN_Write` builds. -/
def txElement (txObj : TxObjConfig) (pdu : CanPdu) (residue : Nat → UInt8) (marker : Nat) :
    List Word :=
  [txIdWord pdu.id, txControlWord cfg pdu marker] ++
    (List.range (wordCount (messageLength cfg pdu.sdu.length))).map
      (packWord (txByte cfg txObj pdu residue))

end Transmit

section Receive
variable (cfg : Config)

/-- `Can_44_TCAN4x5x_MsgInfoType`. -/
structure MsgInfo where
  canId : Word
  extended : Bool
  canMsgData : List UInt8
  canMessageFormat : Word
  canFilterIndex : Nat
  canTimeStamp : BitVec 16
  deriving DecidableEq, Repr

def rxLength (r1 : Word) : Nat :=
  convertCanDlc ((r1 &&& 0x000F0000#32) >>> 16).toNat

def rxMessage (r0 r1 : Word) (data : List Word) : MsgInfo where
  canId :=
    if r0 &&& 0x40000000#32 = 0#32 then (r0 &&& 0x1FFFFFFF#32) >>> 18 else r0 &&& 0x1FFFFFFF#32
  extended := r0 &&& 0x40000000#32 ≠ 0#32
  canMsgData := (List.range (rxLength r1)).map (unpackByte fun i => data.getD i 0#32)
  canMessageFormat := (r1 &&& 0x00200000#32) >>> 21
  canFilterIndex := ((r1 &&& 0x7F000000#32) >>> 24).toNat
  canTimeStamp := r1.setWidth 16

/-- The mailbox that `Can_44_TCAN4x5x_RxNotification` fills. -/
def rxMailbox (msg : MsgInfo) : Mailbox :=
  let mailbox : Mailbox :=
    if msg.extended then
      ⟨cfg.canFilterIdxToRxObjExtended msg.canFilterIndex, msg.canId ||| idTypeMask⟩
    else ⟨cfg.canFilterIdxToRxObjStandard msg.canFilterIndex, msg.canId⟩
  if cfg.canFdBaudRateEnabled ∧ msg.canMessageFormat = 1#32 then
    { mailbox with canId := mailbox.canId ||| frameTypeMask }
  else mailbox

end Receive

end AnchorNode.CanDrv
