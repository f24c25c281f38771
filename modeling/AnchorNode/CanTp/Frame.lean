import AnchorNode.CanTp.Types

/-! Assembly of transmitted frames and analysis of received ones. -/

namespace AnchorNode.CanTp

open AnchorNode.Lib

section Assembly
variable (b : Build) (cfg : Config b) (env : Env)

/-- `CanTp_Prv_TxPciInit`: the layout a transmission of `sduLength` bytes starts with. -/
def txPciInit (x sduLength : Nat) : Npci :=
  let connection := cfg.txSdu x
  let txDl := getTxDl b connection
  let addressLength := addressSize connection.addressFormatId
  if u32 (sduLength + addressLength + 1) ≤ defaultCanDl then .sfCan
  else if b.canFdSupport ∧ txDl > defaultCanDl ∧ u32 (sduLength + addressLength + 2) ≤ txDl then
    .sfCanFd
  else if b.canFdSupport ∧ txDl > defaultCanDl ∧ sduLength > maxFfDl then .ffCanFd
  else .ffCan

def prependAddress (addressFormatId : Fin 5) (address : UInt8) (buffer : Mem) : Mem :=
  if addressFormatId ≠ 0 then buffer.write 0 [address] else buffer

/-- Where the PCI bytes go: behind the address byte if one was prepended. -/
def pciOffset (addressFormatId : Fin 5) : Nat := if addressFormatId ≠ 0 then 1 else 0

def singleFramePci (pciId : Npci) (sduLength : Nat) : List UInt8 :=
  match pciId with
  | .sfCan => [UInt8.ofNat sduLength]
  | .sfCanFd => if b.canFdSupport then [0x00, UInt8.ofNat sduLength] else []
  | _ => []

def firstFramePci (pciId : Npci) (sduLength : Nat) : List UInt8 :=
  match pciId with
  | .ffCan => [UInt8.ofNat (0x10 + u8 (sduLength >>> 8)), UInt8.ofNat sduLength]
  | .ffCanFd =>
    if b.canFdSupport then
      [0x10, 0x00, UInt8.ofNat (sduLength >>> 0x18), UInt8.ofNat (sduLength >>> 0x10),
        UInt8.ofNat (sduLength >>> 0x08), UInt8.ofNat sduLength]
    else []
  | _ => []

def padFrame (connection : TxSdu) (dataOffset length : Nat) (buffer : Mem) : Nat × Mem :=
  let paddingOffset := u8 (dataOffset + length)
  if getBit connection.bitFields paddingOn then
    let canDl := getCanDl b (dataOffset + length)
    (canDl, buffer.write paddingOffset
      (List.replicate (sub32 canDl paddingOffset) b.paddingByte))
  else (paddingOffset, buffer)

/-- The bytes of an assembled frame and the payload slice inside it. -/
structure Frame where
  bytes : List UInt8
  payload : List UInt8

def createTxSingleFrame (s : State) (c : Nat) : State × Option Frame :=
  let ch := s.channel c
  if s.subState c = .txWaitForTransmitConfirmation then
    let connection := cfg.txSdu ch.activeSduId
    let id := connection.pduRPduHandleId
    let dataOffset := addressSize connection.addressFormatId + ch.pciId.pciSize
    let length := u8 ch.sduLengthRemaining
    let answer := env.copyTxData s.log id length
    let bytes := answer.2.1.read 0 length
    let s := s.emit (.copyTxData c ch.activeSduId id bytes answer.1 answer.2.2)
    if answer.1 ≠ .ok then (s.emit (.reportRunTimeError .triggerTransmit .com), none)
    else
      let buffer := (env.sduBuffer s.log).write dataOffset bytes
      let padded := padFrame b connection dataOffset length buffer
      let buffer := prependAddress connection.addressFormatId connection.address padded.2
      let buffer := buffer.write (pciOffset connection.addressFormatId)
        (singleFramePci b ch.pciId ch.sduLength)
      (s, some ⟨buffer.read 0 padded.1, bytes⟩)
  else (s, none)

def createTxFirstFrame (s : State) (c : Nat) : State × Option Frame :=
  let ch := s.channel c
  if s.subState c = .txWaitForTransmitConfirmation then
    let connection := cfg.txSdu ch.activeSduId
    let id := connection.pduRPduHandleId
    let dataOffset := addressSize connection.addressFormatId + ch.pciId.pciSize
    let canDl := getTxDl b connection
    let length := sub8 canDl dataOffset
    let answer := env.copyTxData s.log id length
    let bytes := answer.2.1.read 0 length
    let s := s.emit (.copyTxData c ch.activeSduId id bytes answer.1 answer.2.2)
    if answer.1 ≠ .ok then (s.emit (.reportRunTimeError .triggerTransmit .com), none)
    else
      let buffer := (env.sduBuffer s.log).write dataOffset bytes
      let buffer := prependAddress connection.addressFormatId connection.address buffer
      let buffer := buffer.write (pciOffset connection.addressFormatId)
        (firstFramePci b ch.pciId ch.sduLength)
      (s, some ⟨buffer.read 0 canDl, bytes⟩)
  else (s, none)

def cfLength (remaining maxLength : Nat) : Nat :=
  if remaining > maxLength then maxLength else u8 remaining

def createTxConsecutiveFrame (s : State) (c : Nat) : State × Option Frame :=
  let ch := s.channel c
  if s.subState c = .txWaitForTransmitConfirmation then
    let connection := cfg.txSdu ch.activeSduId
    let id := connection.pduRPduHandleId
    let dataOffset := addressSize connection.addressFormatId + cfPciSize
    let txDl := getTxDl b connection
    let maxCopyLength := sub8 txDl dataOffset
    let length := cfLength ch.sduLengthRemaining maxCopyLength
    let answer := env.copyTxData s.log id length
    let bytes := answer.2.1.read 0 length
    let s := s.emit (.copyTxData c ch.activeSduId id bytes answer.1 answer.2.2)
    if answer.1 ≠ .ok then (s.emit (.reportRunTimeError .triggerTransmit .com), none)
    else
      let buffer := (env.sduBuffer s.log).write dataOffset bytes
      -- only a last frame shorter than the link is padded or cut
      let padded :=
        if ch.sduLengthRemaining < maxCopyLength then
          padFrame b connection dataOffset length buffer
        else (txDl, buffer)
      let buffer := prependAddress connection.addressFormatId connection.address padded.2
      let buffer := buffer.write (pciOffset connection.addressFormatId)
        [UInt8.ofNat (0x20 ||| ch.sn)]
      (s, some ⟨buffer.read 0 padded.1, bytes⟩)
  else (s, none)

/-- `CanTp_Prv_GetRxParam`. -/
def getRxParam (s : State) (r : Nat) (parameter : TpParameter) : UInt8 :=
  let stMin := parameter = .stMin
  if b.changeParameterApi then
    if stMin then (s.paramPair r).1 else (s.paramPair r).2
  else
    let param := cfg.param (cfg.rxSdu r).paramId
    if stMin then param.stMin else param.bs

def createTxFlowControlFrame (s : State) (c : Nat) : State × Option Frame :=
  let ch := s.channel c
  if s.subState c = .rxWaitForFcTransmitConfirmation then
    let connection := cfg.rxSdu ch.activeSduId
    let stMin := getRxParam b cfg s ch.activeSduId .stMin
    let buffer := prependAddress connection.addressFormatId connection.address
      (env.sduBuffer s.log)
    let offset := pciOffset connection.addressFormatId
    let buffer := buffer.write offset
      [UInt8.ofNat (0x30 ||| ch.flowStatus.code), UInt8.ofNat ch.bs, stMin]
    if getBit connection.bitFields paddingOn then
      let paddingOffset := addressSize connection.addressFormatId + fcPciSize
      let buffer := buffer.write (offset + fcPciSize)
        (List.replicate (sub32 defaultCanDl paddingOffset) b.paddingByte)
      (s, some ⟨buffer.read 0 defaultCanDl, []⟩)
    else (s, some ⟨buffer.read 0 (offset + fcPciSize), []⟩)
  else (s, none)

/-- `CanTp_Prv_CreateFrame`. -/
def createFrame (s : State) (c : Nat) : State × Option Frame :=
  match (s.channel c).pciId.frameType with
  | .single => createTxSingleFrame b cfg env s c
  | .first => createTxFirstFrame b cfg env s c
  | .consecutive => createTxConsecutiveFrame b cfg env s c
  | .flowControl => createTxFlowControlFrame b cfg env s c

end Assembly

/-- `CanTp_RxContextType`. -/
structure RxContext where
  isFunctional : Bool
  isPaddingOn : Bool
  isFdEnabled : Bool
  address : UInt8
  frameType : FrameType
  flowStatus : Nat
  sn : Nat
  dataOffset : Nat
  addressSize : Nat
  canDl : Nat
  channelId : Nat
  sduId : Nat
  pduId : Nat
  pduRPduHandleId : Nat
  sduLength : Nat

section Analysis
variable (b : Build) (cfg : Config b)

def sharedFcApplies (s : State) (pduId sduId i : Nat) : Bool :=
  let entry := cfg.sharedFc i
  let channelId := (cfg.txSdu entry.txSduId).channelId
  entry.rxFcPduId == pduId && entry.txSduId != sduId &&
    s.subState channelId == .txWaitForFlowControlFrame &&
    entry.txSduId == (s.channel channelId).activeSduId

/-- `CanTp_Prv_GetFcActiveChannel`: the channel and TX SDU a flow control frame is for. -/
def getFcActiveChannel (s : State) (pduId sduId : Nat) : Option (Nat × Nat) :=
  let connection := cfg.txSdu sduId
  if sduId < cfg.numberOfTxSdus ∧
      s.subState connection.channelId = .txWaitForFlowControlFrame then
    some (connection.channelId, sduId)
  else if b.legacySharedFcSupport then
    ((List.range cfg.numberOfSharedFc).find? (sharedFcApplies b cfg s pduId sduId)).map fun i =>
      ((cfg.txSdu (cfg.sharedFc i).txSduId).channelId, (cfg.sharedFc i).txSduId)
  else none

def frameTypeOf (pci : UInt8) : Option FrameType :=
  match pci.toNat >>> 4 with
  | 0 => some .single
  | 1 => some .first
  | 2 => some .consecutive
  | 3 => some .flowControl
  | _ => none

structure SduPair where
  txSduId : Nat
  rxSduId : Nat
  pciOffset : Nat

def selectSduPair (rxPdu : RxPdu) (data : Mem) : SduPair :=
  match rxPdu.getSduPair with
  | some getSduPair =>
    let pair := getSduPair (data 0) (rxPdu.txSduId, rxPdu.rxSduId)
    ⟨pair.1, pair.2, 1⟩
  | none => ⟨rxPdu.txSduId, rxPdu.rxSduId, 0⟩

/-- `CanTp_Prv_GetRxContext`. -/
def getRxContext (s : State) (pduId : Nat) (info : PduInfo) : Except ErrorId RxContext :=
  match info.sduDataPtr with
  | none => .error .paramPointer
  | some data =>
    let rxPdu := cfg.rxPdu pduId
    let address := if rxPdu.getSduPair.isSome then data 0 else 0
    let selected := selectSduPair rxPdu data
    match frameTypeOf (data selected.pciOffset) with
    | none => .error .paramConfig
    | some .flowControl =>
      match getFcActiveChannel b cfg s pduId selected.txSduId with
      | none => .error .paramConfig
      | some (channelId, sduId) =>
        let connection := cfg.txSdu sduId
        .ok {
          isFunctional := false
          isPaddingOn := getBit connection.bitFields paddingOn
          isFdEnabled := false
          address
          frameType := .flowControl
          flowStatus := 0
          sn := 0
          dataOffset := 0
          addressSize := addressSize connection.addressFormatId
          canDl := 0
          channelId
          sduId
          pduId
          pduRPduHandleId := connection.pduRPduHandleId
          sduLength := 0 }
    | some frameType =>
      if selected.rxSduId < cfg.numberOfRxSdus then
        let connection := cfg.rxSdu selected.rxSduId
        let isFunctional := getBit connection.bitFields functional
        if isFunctional ∧ frameType ≠ .single then .error .invalidTaType
        else .ok {
          isFunctional
          isPaddingOn := getBit connection.bitFields paddingOn
          isFdEnabled := getBit connection.bitFields fdEnabled
          address
          frameType
          flowStatus := 0
          sn := 0
          dataOffset := 0
          addressSize := addressSize connection.addressFormatId
          canDl := 0
          channelId := connection.channelId
          sduId := selected.rxSduId
          pduId
          pduRPduHandleId := connection.pduRPduHandleId
          sduLength := 0 }
      else .error .paramConfig

/-- What the length check reads from the PCI bytes: the CAN_DL the frame must have, the
offset of its data and SF_DL or FF_DL. -/
structure FrameDl where
  canDl : Nat
  dataOffset : Nat
  dl : Nat

def singleFrameDl (ctx : RxContext) (data : Mem) (sduLength : Nat) : FrameDl :=
  let pciLowerNibble := (data ctx.addressSize).toNat % 16
  if sduLength ≤ defaultCanDl then
    let dataOffset := ctx.addressSize + Npci.sfCan.pciSize
    let canDl :=
      if pciLowerNibble ≠ 0 ∧ pciLowerNibble ≤ defaultCanDl - dataOffset then
        if ctx.isPaddingOn then defaultCanDl else u8 (dataOffset + pciLowerNibble)
      else invalidDl
    ⟨canDl, dataOffset, pciLowerNibble⟩
  else if b.canFdSupport then
    let dataOffset := ctx.addressSize + Npci.sfCanFd.pciSize
    let sfDl := (data (ctx.addressSize + 1)).toNat
    let canDl :=
      if pciLowerNibble = 0 ∧ sfDl > 7 - ctx.addressSize ∧ sfDl ≤ sduLength - dataOffset ∧
          ctx.addressSize + 2 + sfDl ≤ b.maxNpduLength then
        if ctx.isPaddingOn then getCanDl b (dataOffset + sfDl) else u8 (dataOffset + sfDl)
      else invalidDl
    ⟨canDl, dataOffset, sfDl⟩
  else ⟨invalidDl, 0, 0⟩

def ffDlValue12bit (data : Mem) (offset : Nat) : Nat :=
  ((data offset).toNat % 16) * 0x100 + (data (offset + 1)).toNat

def ffDlValue32bit (data : Mem) (offset : Nat) : Nat :=
  (data (offset + 2)).toNat * 0x1000000 + (data (offset + 3)).toNat * 0x10000 +
    (data (offset + 4)).toNat * 0x100 + (data (offset + 5)).toNat

/-- FF_DL as encoded in the frame: twelve bits, or 32 bits behind the escape 0. -/
def encodedFfDl (data : Mem) (offset : Nat) : Nat :=
  if ffDlValue12bit data offset = 0 then ffDlValue32bit data offset
  else ffDlValue12bit data offset

def firstFrameDl (ctx : RxContext) (data : Mem) (sduLength : Nat) : FrameDl :=
  let canDl := u8 sduLength
  let rxDl := if isRxDlInValid b canDl then invalidDl else canDl
  let ffDlMin := b.toLength (rxDl - ctx.addressSize - (if canDl > defaultCanDl then 1 else 0))
  let escape := ffDlValue12bit data ctx.addressSize = 0
  let ffDl :=
    if escape then ffDlValue32bit data ctx.addressSize else ffDlValue12bit data ctx.addressSize
  let dataOffset :=
    ctx.addressSize + (if escape then Npci.ffCanFd.pciSize else Npci.ffCan.pciSize)
  let rxDl :=
    if escape ∧ (ffDl > maxFdFfDl ∨ ffDl ≤ maxFfDl) then invalidDl else rxDl
  ⟨if ctx.isFunctional ∨ ffDl < ffDlMin then invalidDl else rxDl, dataOffset, ffDl⟩

def consecutiveFrameDl (ctx : RxContext) (ch : Channel) : FrameDl :=
  let rxDl := getRxDl b ch
  let dataOffset := ctx.addressSize + cfPciSize
  let maxCfSduLength := sub8 rxDl dataOffset
  let canDl :=
    if ch.sduLengthRemaining < maxCfSduLength then u8 (ch.sduLengthRemaining + dataOffset)
    else rxDl
  ⟨if ctx.isPaddingOn then getCanDl b canDl else canDl, dataOffset, 0⟩

/-- `CanTp_Prv_RxSduLengthCheck`: the completed context and the verdict. -/
def rxSduLengthCheck (s : State) (ctx : RxContext) (data : Mem) (sduLength : Nat) :
    RxContext × StdReturn :=
  let pciLowerNibble := (data ctx.addressSize).toNat % 16
  let ctx := match ctx.frameType with
    | .single =>
      let dl := singleFrameDl b ctx data sduLength
      { ctx with canDl := dl.canDl, dataOffset := dl.dataOffset, sduLength := dl.dl }
    | .first =>
      let dl := firstFrameDl b ctx data sduLength
      { ctx with canDl := dl.canDl, dataOffset := dl.dataOffset, sduLength := b.toLength dl.dl }
    | .consecutive =>
      let dl := consecutiveFrameDl b ctx (s.channel ctx.channelId)
      { ctx with
        canDl := dl.canDl, dataOffset := dl.dataOffset, sn := pciLowerNibble, sduLength := 0 }
    | .flowControl =>
      { ctx with
        canDl := if ctx.isPaddingOn then defaultCanDl else fcPciSize + ctx.addressSize
        dataOffset := ctx.addressSize + 1
        flowStatus := pciLowerNibble
        sduLength := 0 }
  (ctx, b.dlcCheck sduLength ctx.canDl)

end Analysis

section Blocks
variable (b : Build) (cfg : Config b)

def blockCfs (length payLoadLength : Nat) : Nat :=
  if length % payLoadLength = 0 then length / payLoadLength else length / payLoadLength + 1

def getTxBlockCfs (ch : Channel) : Nat :=
  let connection := cfg.txSdu ch.activeSduId
  blockCfs ch.sduLengthRemaining
    (sub8 (getTxDl b connection) (cfPciSize + addressSize connection.addressFormatId))

def getRxBlockCfs (ch : Channel) : Nat :=
  let connection := cfg.rxSdu ch.activeSduId
  blockCfs ch.sduLengthRemaining
    (sub8 (getRxDl b ch) (cfPciSize + addressSize connection.addressFormatId))

/-- The STmin byte of a flow control frame in local ticks. -/
def stMinToTicks (stMin : UInt8) : Nat :=
  let us :=
    if stMin.toNat ≤ 0x7F then stMin.toNat * 1000
    else if stMin.toNat < 0xF1 ∨ stMin.toNat > 0xF9 then 127000
    else (stMin.toNat % 16) * 100
  b.getUsToTicks us % 2 ^ b.tickBits

/-- `CanTp_Prv_SetTxBlockInfo`. -/
def setTxBlockInfo (ch : Channel) (bs stMin : UInt8) : Channel :=
  let ch :=
    if b.dynamicFcSupport ∨ ch.stMinTicks = b.invalidStMinTicks then
      { ch with bs := bs.toNat, stMinTicks := stMinToTicks b stMin }
    else ch
  let blockCfsRemaining := getTxBlockCfs b cfg ch
  if ch.bs = 0 ∨ ch.bs > blockCfsRemaining then
    { ch with blockCfsRemaining }
  else { ch with blockCfsRemaining := ch.bs }

def oneFramePayloadLength (ch : Channel) : Nat :=
  b.subLength (getRxDl b ch)
    (addressSize (cfg.rxSdu ch.activeSduId).addressFormatId + cfPciSize)

def rxBlockSize (s : State) (ch : Channel) (remBufSize : Nat) : Nat :=
  if b.dynamicFcSupport ∨ ch.stMinTicks = b.invalidStMinTicks then
    let bsMax := (getRxParam b cfg s ch.activeSduId .bs).toNat
    if remBufSize ≥ ch.sduLengthRemaining then bsMax
    else
      let bs := u8 (remBufSize / oneFramePayloadLength b cfg ch)
      if bsMax ≠ 0 ∧ bs > bsMax then bsMax else bs
  else ch.bs

/-- `CanTp_Prv_SetRxBlockInfo`. -/
def setRxBlockInfo (s : State) (ch : Channel) (remBufSize : Nat) : Channel :=
  let bs := rxBlockSize b cfg s ch remBufSize
  if (bs = 0 ∧ remBufSize < ch.sduLengthRemaining) ∨
      (bs ≠ 0 ∧ remBufSize < u32 (bs * oneFramePayloadLength b cfg ch) ∧
        remBufSize < ch.sduLengthRemaining) then
    { ch with flowStatus := .wait, bs }
  else
    { ch with
      blockCfsRemaining := if bs ≠ 0 then bs else getRxBlockCfs b cfg ch
      flowStatus := .cts
      stMinTicks := if b.dynamicFcSupport then ch.stMinTicks else 0
      bs }

end Blocks

end AnchorNode.CanTp
