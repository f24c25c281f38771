import AnchorNode.CanTp.Pieces

/-! The two ends of one connection, and how each end reads the frames of the other. -/

namespace AnchorNode.CanTp

open AnchorNode.Lib

variable {b b' : Build} {cfg : Config b} {cfg' : Config b'}

section Ends

def Routes (rxPdu : RxPdu) (format : Fin 5) (address : UInt8) (picks : SduPair → Prop) : Prop :=
  ∀ data : Mem, (format.val ≠ 0 → data 0 = address) →
    picks (selectSduPair rxPdu data) ∧ (selectSduPair rxPdu data).pciOffset = addressSize format

/-- TX SDU `x` of one node and RX SDU `r` of another are the ends of one physical connection
with flow control. -/
structure Pairing (cfg : Config b) (cfg' : Config b') where
  x : Nat
  r : Nat
  /-- The N-PDU of the receiver the data frames arrive on. -/
  dataPdu : Nat
  /-- The N-PDU of the sender the flow control frames arrive on. -/
  flowPdu : Nat
  x_lt : x < cfg.numberOfTxSdus
  r_lt : r < cfg'.numberOfRxSdus
  dataPdu_lt : dataPdu < cfg'.numberOfRxPdus
  flowPdu_lt : flowPdu < cfg.numberOfRxPdus
  fd : b'.canFdSupport = b.canFdSupport
  format : (cfg.txSdu x).addressFormatId ≠ 4
  sameFormat : (cfg'.rxSdu r).addressFormatId = (cfg.txSdu x).addressFormatId
  samePadding : getBit (cfg'.rxSdu r).bitFields paddingOn =
    getBit (cfg.txSdu x).bitFields paddingOn
  physical : getBit (cfg'.rxSdu r).bitFields functional = false
  waitsForFc : ¬ (b.fcDisableSupport = true ∧ getBit (cfg.txSdu x).bitFields fcDisabled = true)
  sendsFc : ¬ (b'.fcDisableSupport = true ∧ getBit (cfg'.rxSdu r).bitFields fcDisabled = true)
  room : getTxDl b (cfg.txSdu x) ≤ b'.maxNpduLength
  dataDlc : ∀ length, b'.dlcCheck length length = .ok
  flowDlc : ∀ length, b.dlcCheck length length = .ok
  dataRoute : Routes (cfg'.rxPdu dataPdu) (cfg.txSdu x).addressFormatId (cfg.txSdu x).address
    fun pair => pair.rxSduId = r
  flowRoute : Routes (cfg.rxPdu flowPdu) (cfg.txSdu x).addressFormatId (cfg'.rxSdu r).address
    fun pair => pair.txSduId = x

end Ends

variable {e : Pairing cfg cfg'} {n i : Nat} {payload bytes : List UInt8} {data : Mem}

section Content
variable {fit : Sendable b cfg e.x n}

inductive HeaderReads (fit : Sendable b cfg e.x n) (data : Mem) (a : Nat) : Nat → Prop
  | sfCan (layout : txPciInit b cfg e.x n = .sfCan) (length : (data a).toNat = n)
      (fits : n + a + 1 ≤ 8) : HeaderReads fit data a 0
  | sfCanFd (layout : txPciInit b cfg e.x n = .sfCanFd) (fd : b.canFdSupport = true)
      (escape : (data a).toNat = 0) (length : (data (a + 1)).toNat = n)
      (long : 8 < n + a + 1) (fits : n + a + 2 ≤ getTxDl b (cfg.txSdu e.x)) :
      HeaderReads fit data a 0
  | ffCan (layout : txPciInit b cfg e.x n = .ffCan) (length : ffDlValue12bit data a = n)
      (long : 8 < n + a + 1) (exceeds : getTxDl b (cfg.txSdu e.x) < n + a + 2) :
      HeaderReads fit data a 0
  | ffCanFd (layout : txPciInit b cfg e.x n = .ffCanFd) (escape : ffDlValue12bit data a = 0)
      (length : ffDlValue32bit data a = n) (exceeds : maxFfDl < n) : HeaderReads fit data a 0
  | cf {i : Nat} (later : 0 < i) (sn : (data a).toNat = 0x20 + i % 16) : HeaderReads fit data a i

theorem Carries.headerReads (carries : Carries fit payload i bytes)
    (holds : data.read 0 bytes.length = bytes) :
    frameTypeOf (data (addressSize (cfg.txSdu e.x).addressFormatId)) =
        some (pciOf b cfg e.x n i).frameType ∧
      HeaderReads fit data (addressSize (cfg.txSdu e.x).addressFormatId) i := by
  have header := carries.header data holds
  have positive := fit.positive
  have small := fit.small
  have txDl := getTxDl_bounds (b := b) (cfg.txSdu e.x)
  by_cases later : 0 < i
  · simp only [headerOf, pciOf_later later, Npci.frameType] at header
    have first : (data (addressSize (cfg.txSdu e.x).addressFormatId)).toNat = 0x20 + i % 16 := by
      rw [← Nat.add_zero (addressSize _), header 0 (by simp), List.getD_cons_zero]
      exact sequence_pci _ (Nat.mod_lt _ (by decide))
    rw [frameTypeOf_nibble first, show (0x20 + i % 16) / 16 = 2 by omega, pciOf_later later]
    exact ⟨rfl, .cf later first⟩
  · obtain rfl := Nat.eq_zero_of_not_pos later
    have layouts := fit.layout
    have limit := fit.limit
    simp only [headerOf, pciOf_zero] at header ⊢
    generalize layout : txPciInit b cfg e.x n = pciId at layouts header limit ⊢
    cases layouts with
    | sfCan fits =>
        obtain ⟨type, value, -⟩ := singleFramePci_read positive (Or.inl ⟨rfl, by omega⟩) header
        exact ⟨type, .sfCan layout (value rfl) fits⟩
    | sfCanFd fd long fits =>
        obtain ⟨type, -, value⟩ := singleFramePci_read positive
          (Or.inr ⟨rfl, fd, by omega⟩) header
        exact ⟨type, .sfCanFd layout fd (value rfl).1 (value rfl).2 long fits⟩
    | ffCan long exceeds plain =>
        obtain ⟨type, ⟨value, -⟩ | ⟨-, -, other⟩⟩ := firstFramePci_read positive small
          (Or.inl ⟨rfl, ffCan_limit limit plain⟩) header
        · exact ⟨type, .ffCan layout value long exceeds⟩
        · cases other
    | ffCanFd fd wide exceeds =>
        obtain ⟨type, ⟨-, other⟩ | ⟨escape, value, -⟩⟩ := firstFramePci_read positive small
          (Or.inr ⟨rfl, fd, exceeds⟩) header
        · cases other
        · exact ⟨type, .ffCanFd layout escape value exceeds⟩

def Expects (b' : Build) {cfg' : Config b'} {e : Pairing cfg cfg'} (fit : Sendable b cfg e.x n)
    (i : Nat) (ch : Channel) : Prop :=
  0 < i → ch.sduLengthRemaining = n - fit.cut.start i ∧
    getRxDl b' ch = getTxDl b (cfg.txSdu e.x)

structure Framed (e : Pairing cfg cfg') (frameType : FrameType) (ctx : RxContext) : Prop where
  frameType : ctx.frameType = frameType
  physical : ctx.isFunctional = false
  padding : ctx.isPaddingOn = getBit (cfg.txSdu e.x).bitFields paddingOn
  addressSize : ctx.addressSize = addressSize (cfg.txSdu e.x).addressFormatId

theorem getCanDl_same (e : Pairing cfg cfg') (length : Nat) :
    getCanDl b' length = getCanDl b length := by
  rw [getCanDl, getCanDl, e.fd]

theorem isRxDlInValid_txDl (e : Pairing cfg cfg') :
    isRxDlInValid b' (getTxDl b (cfg.txSdu e.x)) = false := by
  have member := (cfg.txSdu e.x).txDl.property
  simp only [isRxDlInValid, getTxDl, e.fd]
  split
  · simp [member]
  · rfl

def completed (e : Pairing cfg cfg') (n i length : Nat) (ctx : RxContext) : RxContext :=
  { ctx with
    canDl := length
    dataOffset := addressSize (cfg.txSdu e.x).addressFormatId + (pciOf b cfg e.x n i).pciSize
    sn := if i = 0 then ctx.sn else i % 16
    sduLength := if i = 0 then n else 0 }

theorem getCanDl_short (b : Build) {length : Nat} (short : length ≤ 8) :
    getCanDl b length = 8 := by
  unfold getCanDl
  split
  · exact canDlTable_short _ short
  · rfl

theorem singleFrameDl_carried (carries : Carries fit payload 0 bytes)
    (single : (txPciInit b cfg e.x n).frameType = .single)
    (reads : HeaderReads fit data (addressSize (cfg.txSdu e.x).addressFormatId) 0)
    {ctx : RxContext} (own : Framed e .single ctx) :
    singleFrameDl b' ctx data bytes.length = ⟨bytes.length,
      addressSize (cfg.txSdu e.x).addressFormatId + (txPciInit b cfg e.x n).pciSize, n⟩ := by
  have positive := fit.positive
  have txDl := getTxDl_bounds (b := b) (cfg.txSdu e.x)
  have address := addressSize_le (cfg.txSdu e.x).addressFormatId
  have classic : defaultCanDl = 8 := rfl
  have room := e.room
  have length := carries.length
  rw [contentLength_single fit single, wireLength] at length
  cases reads with
  | sfCan layout value fits =>
      simp only [layout, Npci.pciSize] at length
      rw [getCanDl_short b (by omega)] at length
      have short : bytes.length ≤ defaultCanDl := by
        rw [length]
        split <;> omega
      have announced : n ≠ 0 ∧
          n ≤ defaultCanDl - (addressSize (cfg.txSdu e.x).addressFormatId + 1) := by omega
      have offset := u8_small
        (show addressSize (cfg.txSdu e.x).addressFormatId + 1 + n < 256 by omega)
      simp only [singleFrameDl, own.addressSize, own.padding, if_pos short, Npci.pciSize, layout,
        value, Nat.mod_eq_of_lt (show n < 16 by omega), if_pos announced, offset]
      rw [length, classic]
  | sfCanFd layout fd escape value long fits =>
      simp only [layout, Npci.pciSize] at length
      have longer : addressSize (cfg.txSdu e.x).addressFormatId + 2 + n ≤ bytes.length := by
        rw [length]
        split
        · rw [getCanDl, if_pos fd]
          exact (canDlTable_bounds _ (by omega)).1
        · exact Nat.le_refl _
      have announced : True ∧ n > 7 - addressSize (cfg.txSdu e.x).addressFormatId ∧
          n ≤ bytes.length - (addressSize (cfg.txSdu e.x).addressFormatId + 2) ∧
          addressSize (cfg.txSdu e.x).addressFormatId + 2 + n ≤ b'.maxNpduLength :=
        ⟨trivial, by omega, by omega, by omega⟩
      have offset := u8_small
        (show addressSize (cfg.txSdu e.x).addressFormatId + 2 + n < 256 by omega)
      have fd' : b'.canFdSupport = true := e.fd.trans fd
      simp only [singleFrameDl, own.addressSize, own.padding, if_neg
        (show ¬ bytes.length ≤ defaultCanDl by omega), if_pos fd', Npci.pciSize, layout, escape,
        value, if_pos announced, getCanDl_same e, offset]
      rw [← length]
  | ffCan layout => simp [layout, Npci.frameType] at single
  | ffCanFd layout => simp [layout, Npci.frameType] at single
  | cf later => exact absurd later (lt_irrefl 0)

theorem firstFrameDl_carried (carries : Carries fit payload 0 bytes)
    (first : (txPciInit b cfg e.x n).frameType = .first)
    (reads : HeaderReads fit data (addressSize (cfg.txSdu e.x).addressFormatId) 0)
    {ctx : RxContext} (own : Framed e .first ctx) :
    firstFrameDl b' ctx data bytes.length = ⟨bytes.length,
      addressSize (cfg.txSdu e.x).addressFormatId + (txPciInit b cfg e.x n).pciSize, n⟩ := by
  have positive := fit.positive
  have small := fit.small
  have txDl := getTxDl_bounds (b := b) (cfg.txSdu e.x)
  have address := addressSize_le (cfg.txSdu e.x).addressFormatId
  have classic : defaultCanDl = 8 := rfl
  have large : maxFfDl = 4095 := rfl
  have largest : maxFdFfDl = 2 ^ 32 - 1 := rfl
  have wide : 2 ^ 16 ≤ 2 ^ b'.lengthBits := Nat.pow_le_pow_right (by decide) b'.lengthBits_le
  have length := carries.length
  rw [contentLength_first fit first, wireLength_full] at length
  have valid := isRxDlInValid_txDl e
  have frame : u8 (getTxDl b (cfg.txSdu e.x)) = getTxDl b (cfg.txSdu e.x) := u8_small (by omega)
  -- the shortest SDU that needs a first frame
  obtain ⟨least, shortest⟩ : ∃ least, least = getTxDl b (cfg.txSdu e.x) -
      addressSize (cfg.txSdu e.x).addressFormatId -
        (if getTxDl b (cfg.txSdu e.x) > defaultCanDl then 1 else 0) := ⟨_, rfl⟩
  have enough : least ≤ n := by
    rw [shortest]
    cases reads with
    | sfCan layout => simp [layout, Npci.frameType] at first
    | sfCanFd layout => simp [layout, Npci.frameType] at first
    | ffCan layout value long exceeds => split <;> omega
    | ffCanFd layout escape value exceeds => split <;> omega
    | cf later => exact absurd later (lt_irrefl 0)
  have kept : b'.toLength least = least := Nat.mod_eq_of_lt (by omega)
  simp only [firstFrameDl, own.addressSize, own.physical, length, frame, valid, Bool.false_eq_true,
    if_false, ← shortest, kept, false_or]
  cases reads with
  | sfCan layout => simp [layout, Npci.frameType] at first
  | sfCanFd layout => simp [layout, Npci.frameType] at first
  | ffCan layout value long exceeds =>
      simp only [value, layout, Npci.pciSize,
        show ¬ n = 0 by omega, false_and, if_false, if_neg (Nat.not_lt.mpr enough)]
  | ffCanFd layout escape value exceeds =>
      simp only [escape, value, layout, Npci.pciSize, if_true, true_and,
        if_neg (show ¬ (n > maxFdFfDl ∨ n ≤ maxFfDl) by omega), if_neg (Nat.not_lt.mpr enough)]
  | cf later => exact absurd later (lt_irrefl 0)

theorem consecutiveFrameDl_carried (carries : Carries fit payload i bytes) (later : 0 < i)
    {ch : Channel} (expects : Expects b' fit i ch) {ctx : RxContext}
    (own : Framed e .consecutive ctx) :
    consecutiveFrameDl b' ctx ch = ⟨bytes.length,
      addressSize (cfg.txSdu e.x).addressFormatId + cfPciSize, 0⟩ := by
  have txDl := getTxDl_bounds (b := b) (cfg.txSdu e.x)
  have address := addressSize_le (cfg.txSdu e.x).addressFormatId
  have room := roomLength_bounds b (cfg.txSdu e.x)
  have one : cfPciSize = 1 := rfl
  have length := carries.length
  have content := contentLength_later fit later
  have most : sub8 (getTxDl b (cfg.txSdu e.x))
      (addressSize (cfg.txSdu e.x).addressFormatId + cfPciSize) = roomLength b (cfg.txSdu e.x) := by
    rw [sub8_le _ _ (by omega) (by omega)]
    rfl
  have share : (if n - fit.cut.start i < roomLength b (cfg.txSdu e.x) then
      u8 (n - fit.cut.start i + (addressSize (cfg.txSdu e.x).addressFormatId + cfPciSize))
        else getTxDl b (cfg.txSdu e.x)) = contentLength fit i := by
    rw [content]
    split
    · rw [u8_small (by omega)]
      omega
    · omega
  obtain ⟨remaining, rxDl⟩ := expects later
  simp only [consecutiveFrameDl, own.addressSize, own.padding, remaining, rxDl, most, share,
    getCanDl_same e, length, wireLength]

theorem Carries.checked (carries : Carries fit payload i bytes)
    (holds : data.read 0 bytes.length = bytes) {s : State} {ctx : RxContext}
    (own : Framed e (pciOf b cfg e.x n i).frameType ctx)
    (expects : Expects b' fit i (s.channel ctx.channelId)) :
    rxSduLengthCheck b' s ctx data bytes.length = (completed e n i bytes.length ctx, .ok) := by
  obtain ⟨-, reads⟩ := carries.headerReads holds
  by_cases later : 0 < i
  · have type : ctx.frameType = .consecutive := by
      rw [own.frameType, pciOf_later later]
      rfl
    have dl := consecutiveFrameDl_carried carries later expects ⟨type, own.2, own.3, own.4⟩
    have sn : (data (addressSize (cfg.txSdu e.x).addressFormatId)).toNat % 16 = i % 16 := by
      cases reads with
      | cf _ sn => omega
      | _ => exact absurd later (lt_irrefl 0)
    simp only [rxSduLengthCheck, type, dl, own.addressSize, sn, completed, pciOf_later later,
      if_neg (Nat.ne_of_gt later), e.dataDlc]
    rfl
  · obtain rfl := Nat.eq_zero_of_not_pos later
    have wide : 2 ^ 16 ≤ 2 ^ b'.lengthBits := Nat.pow_le_pow_right (by decide) b'.lengthBits_le
    have kept : b'.toLength n = n := Nat.mod_eq_of_lt (Nat.lt_of_lt_of_le fit.small wide)
    have type := own.frameType
    rw [pciOf_zero] at type
    rcases fit.frameType with single | first
    · rw [single] at type
      have dl := singleFrameDl_carried carries single reads ⟨type, own.2, own.3, own.4⟩
      simp only [rxSduLengthCheck, type, dl, completed, pciOf_zero, if_true, e.dataDlc]
    · rw [first] at type
      have dl := firstFrameDl_carried carries first reads ⟨type, own.2, own.3, own.4⟩
      simp only [rxSduLengthCheck, type, dl, completed, pciOf_zero, if_true, e.dataDlc, kept]

end Content

section Contexts
variable {fit : Sendable b cfg e.x n}

def dataContext (e : Pairing cfg cfg') (frameType : FrameType) (address : UInt8) : RxContext :=
  let connection := cfg'.rxSdu e.r
  { isFunctional := false
    isPaddingOn := getBit connection.bitFields paddingOn
    isFdEnabled := getBit connection.bitFields fdEnabled
    address
    frameType
    flowStatus := 0
    sn := 0
    dataOffset := 0
    addressSize := addressSize connection.addressFormatId
    canDl := 0
    channelId := connection.channelId
    sduId := e.r
    pduId := e.dataPdu
    pduRPduHandleId := connection.pduRPduHandleId
    sduLength := 0 }

def flowContext (e : Pairing cfg cfg') (address : UInt8) : RxContext :=
  let connection := cfg.txSdu e.x
  { isFunctional := false
    isPaddingOn := getBit connection.bitFields paddingOn
    isFdEnabled := false
    address
    frameType := .flowControl
    flowStatus := 0
    sn := 0
    dataOffset := 0
    addressSize := addressSize connection.addressFormatId
    canDl := 0
    channelId := connection.channelId
    sduId := e.x
    pduId := e.flowPdu
    pduRPduHandleId := connection.pduRPduHandleId
    sduLength := 0 }

theorem dataContext_framed (e : Pairing cfg cfg') (frameType : FrameType) (address : UInt8) :
    Framed e frameType (dataContext e frameType address) :=
  ⟨rfl, rfl, e.samePadding, congrArg addressSize e.sameFormat⟩

theorem first_byte {format : Fin 5} {address : UInt8}
    (front : format ≠ 0 → bytes.getD 0 0 = address) (positive : 0 < bytes.length)
    (holds : data.read 0 bytes.length = bytes) : format.val ≠ 0 → data 0 = address := by
  intro prepended
  exact (read_getD holds positive).trans (front fun zero => prepended (congrArg Fin.val zero))

theorem Carries.length_pos (carries : Carries fit payload i bytes) : 0 < bytes.length := by
  have inside := contentLength_le fit i
  have txDl := getTxDl_bounds (b := b) (cfg.txSdu e.x)
  have pciSize : 0 < (pciOf b cfg e.x n i).pciSize := by
    cases pciOf b cfg e.x n i <;> simp [Npci.pciSize]
  have positive : 0 < contentLength fit i := by
    rw [contentLength]
    omega
  rw [carries.length, wireLength]
  split
  · exact Nat.lt_of_lt_of_le (by decide) (getCanDl_lower (by omega : contentLength fit i ≤ 64))
  · exact positive

theorem Carries.context (carries : Carries fit payload i bytes)
    (holds : data.read 0 bytes.length = bytes) (s : State) :
    ∃ address, getRxContext b' cfg' s e.dataPdu ⟨some data, bytes.length⟩ =
      .ok (dataContext e (pciOf b cfg e.x n i).frameType address) := by
  obtain ⟨picked, offset⟩ := e.dataRoute data
    (first_byte carries.address carries.length_pos holds)
  obtain ⟨type, -⟩ := carries.headerReads holds
  have notFlow : (pciOf b cfg e.x n i).frameType ≠ .flowControl := by
    unfold pciOf
    split
    · rcases fit.frameType with single | first
      · simp [single]
      · simp [first]
    · simp [Npci.frameType]
  refine ⟨if (cfg'.rxPdu e.dataPdu).getSduPair.isSome then data 0 else 0, ?_⟩
  simp only [getRxContext, offset, type, picked]
  generalize (pciOf b cfg e.x n i).frameType = frameType at notFlow ⊢
  cases frameType with
  | flowControl => exact absurd rfl notFlow
  | _ => simp only [if_pos e.r_lt, e.physical, Bool.false_eq_true, false_and, if_false, dataContext]

theorem receive_carried (env : Env) (carries : Carries fit payload i bytes)
    (holds : data.read 0 bytes.length = bytes) {s : State}
    (expects : Expects b' fit i (s.channel (cfg'.rxSdu e.r).channelId)) :
    ∃ ctx address, ctx = completed e n i bytes.length
        (dataContext e (pciOf b cfg e.x n i).frameType address) ∧
      receiveFrame b' cfg' env e.dataPdu ⟨some data, bytes.length⟩ s =
        burstMainFunction b' cfg' env (cfg'.rxSdu e.r).channelId .rxIndication
          (processFrame b' cfg' env ctx data bytes.length s) := by
  obtain ⟨address, context⟩ := carries.context holds s
  have checked := carries.checked holds (dataContext_framed e _ address) expects
  refine ⟨_, address, rfl, ?_⟩
  simp only [receiveFrame, context, Option.getD_some, checked, ne_eq, not_true_eq_false, if_false]
  rfl

theorem receive_clear (env : Env) {bs : Nat} (clears : Clears (cfg'.rxSdu e.r) bs bytes)
    (holds : data.read 0 bytes.length = bytes) {s : State}
    (waiting : s.subState (cfg.txSdu e.x).channelId = .txWaitForFlowControlFrame) :
    ∃ ctx, ctx.channelId = (cfg.txSdu e.x).channelId ∧ ctx.sduId = e.x ∧
      ctx.flowStatus = FlowStatus.cts.code ∧ (data ctx.dataOffset).toNat = bs ∧
      receiveFrame b cfg env e.flowPdu ⟨some data, bytes.length⟩ s =
        burstMainFunction b cfg env (cfg.txSdu e.x).channelId .rxIndication
          (processRxFlowControlFrame b cfg ctx data s) := by
  have extent := addressSize_le (cfg.txSdu e.x).addressFormatId
  have length := clears.length
  have front := clears.address
  have header := clears.header data holds
  rw [e.samePadding, e.sameFormat] at length
  rw [e.sameFormat] at front header
  have positive : 0 < bytes.length := by
    rw [length]
    split
    · decide
    · exact Nat.lt_of_lt_of_le (by decide) (Nat.le_add_right _ _)
  obtain ⟨picked, offset⟩ := e.flowRoute data (first_byte front positive holds)
  obtain ⟨first, second⟩ := header
  have type : frameTypeOf (data (addressSize (cfg.txSdu e.x).addressFormatId)) =
      some .flowControl := by
    rw [frameTypeOf_nibble first]
    rfl
  have active : getFcActiveChannel b cfg s e.flowPdu e.x =
      some ((cfg.txSdu e.x).channelId, e.x) := if_pos ⟨e.x_lt, waiting⟩
  have context : getRxContext b cfg s e.flowPdu ⟨some data, bytes.length⟩ =
      .ok (flowContext e (if (cfg.rxPdu e.flowPdu).getSduPair.isSome then data 0 else 0)) := by
    simp only [getRxContext, offset, type, picked, active, flowContext]
  refine ⟨(rxSduLengthCheck b s (flowContext e (if (cfg.rxPdu e.flowPdu).getSduPair.isSome then
    data 0 else 0)) data bytes.length).1, rfl, rfl, ?_, second, ?_⟩
  · simp only [rxSduLengthCheck, flowContext, first, FlowStatus.code]
  · have verdict : (rxSduLengthCheck b s (flowContext e
        (if (cfg.rxPdu e.flowPdu).getSduPair.isSome then data 0 else 0)) data
          bytes.length).2 = .ok := by
      have verdict := e.flowDlc bytes.length
      simp only [rxSduLengthCheck, flowContext]
      rwa [length] at verdict ⊢
    simp only [receiveFrame, context, Option.getD_some, verdict, ne_eq, not_true_eq_false,
      if_false]
    rfl

end Contexts

end AnchorNode.CanTp
