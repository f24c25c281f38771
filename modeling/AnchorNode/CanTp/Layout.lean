import AnchorNode.CanTp.FramePaths
import AnchorNode.CanTp.Sender

/-! The layout of transmitted frames against the size tables, and reading them back. -/

namespace AnchorNode.CanTp

open AnchorNode.Lib

variable {b : Build} {cfg : Config b} {env : Env} {s : State} {c : Nat}

def addressFormat (cfg : Config b) (ch : Channel) : Fin 5 :=
  if ch.pciId = .fc then (cfg.rxSdu ch.activeSduId).addressFormatId
  else (cfg.txSdu ch.activeSduId).addressFormatId

def pciBytes (b : Build) (cfg : Config b) (s : State) (ch : Channel) : List UInt8 :=
  match ch.pciId.frameType with
  | .single => singleFramePci b ch.pciId ch.sduLength
  | .first => firstFramePci b ch.pciId ch.sduLength
  | .consecutive => [UInt8.ofNat (0x20 ||| ch.sn)]
  | .flowControl =>
    [UInt8.ofNat (0x30 ||| ch.flowStatus.code), UInt8.ofNat ch.bs,
      getRxParam b cfg s ch.activeSduId .stMin]

/-- What the module has set a channel to when a frame is built for it: the layout chosen for an
accepted length that is still to be sent, a sequence number of four bits, a block size of
eight. -/
def Transmittable (b : Build) (cfg : Config b) (ch : Channel) : Prop :=
  match ch.pciId.frameType with
  | .single | .first =>
    ch.pciId = txPciInit b cfg ch.activeSduId ch.sduLength ∧
      ch.sduLengthRemaining = ch.sduLength ∧ 0 < ch.sduLength ∧
      ch.sduLength ≤ maxTransmitLength b (cfg.txSdu ch.activeSduId) ch.pciId
  | .consecutive => ch.sn < 16
  | .flowControl => ch.bs < 256

/-- Address, PCI and payload stand where the size tables say, and the rest is padding. -/
structure LaidOut (b : Build) (f : Fin 5) (ch : Channel) (pci : List UInt8) (frame : Frame) :
    Prop where
  header : pci.length = ch.pciId.pciSize
  bytes : ∃ address count, address.length = addressSize f ∧
    frame.bytes = address ++ pci ++ frame.payload ++ List.replicate count b.paddingByte

def SameFields (b : Build) (cfg : Config b) (s : State) (ch : Channel) (data : Mem)
    (ctx : RxContext) : Prop :=
  match ch.pciId.frameType with
  | .single | .first => ctx.sduLength = ch.sduLength
  | .consecutive => ctx.sn = ch.sn
  | .flowControl =>
    ctx.flowStatus = ch.flowStatus.code ∧ (data ctx.dataOffset).toNat = ch.bs ∧
      data (ctx.dataOffset + 1) = getRxParam b cfg s ch.activeSduId .stMin

/-- A receiver with address size `size` finds the type, the fields and the payload again. -/
def ReadsBack (b : Build) (cfg : Config b) (s : State) (ch : Channel) (size : Nat)
    (frame : Frame) : Prop :=
  ∀ (data : Mem) (s' : State) (ctx : RxContext), data.read 0 frame.bytes.length = frame.bytes →
    ctx.addressSize = size → ctx.frameType = ch.pciId.frameType →
    let checked := (rxSduLengthCheck b s' ctx data frame.bytes.length).1
    frameTypeOf (data size) = some ch.pciId.frameType ∧ SameFields b cfg s ch data checked ∧
      data.read checked.dataOffset frame.payload.length = frame.payload

/-- The payload of a data frame is the slice the upper layer handed over for it. -/
def Copied (cfg : Config b) (s s' : State) (c : Nat) (payload : List UInt8) : Prop :=
  ∃ available, s'.log = s.log ++ [.copyTxData c (s.channel c).activeSduId
    (cfg.txSdu (s.channel c).activeSduId).pduRPduHandleId payload .ok available]

def addressBytes (f : Fin 5) (address : UInt8) : List UInt8 :=
  if addressSize f = 0 then [] else [address]

theorem addressBytes_length (f : Fin 5) (address : UInt8) :
    (addressBytes f address).length = addressSize f := by
  have size := addressSize_le f
  unfold addressBytes
  split
  · simp_all
  · simp only [List.length_singleton]
    omega

theorem prependAddress_agrees {f : Fin 5} (agrees : f ≠ 4) (address : UInt8) (buffer : Mem) :
    prependAddress f address buffer = buffer.write 0 (addressBytes f address) ∧
      pciOffset f = (addressBytes f address).length := by
  rw [addressBytes_length]
  fin_cases f
  · refine ⟨?_, by decide⟩
    simp only [prependAddress, addressBytes, addressSize]
    funext i
    simp [Mem.write]
  · exact ⟨rfl, by decide⟩
  · exact ⟨rfl, by decide⟩
  · exact ⟨rfl, by decide⟩
  · exact absurd rfl agrees

theorem assembled_bytes {f : Fin 5} (agrees : f ≠ 4) (address : UInt8) (buffer : Mem)
    (pci : List UInt8) (length : Nat) :
    ((prependAddress f address buffer).write (pciOffset f) pci).read 0
        (addressSize f + pci.length + length) =
      addressBytes f address ++ pci ++ buffer.read (addressSize f + pci.length) length := by
  obtain ⟨prepended, offset⟩ := prependAddress_agrees agrees address buffer
  have framed := read_framed buffer (addressBytes f address) pci length
  rw [addressBytes_length] at framed offset
  rw [prepended, offset]
  exact framed

theorem canDlTable_short : ∀ n ≤ 8, canDlTable.getD n 0 = 8 := by
  decide

theorem padFrame_spec (b : Build) (connection : TxSdu) (dataOffset : Nat) (payload : List UInt8)
    (buffer : Mem) (fits : dataOffset + payload.length ≤ 64)
    (classic : b.canFdSupport = false → dataOffset + payload.length ≤ 8) :
    ∃ count,
      (padFrame b connection dataOffset payload.length (buffer.write dataOffset payload)).1 =
          dataOffset + (payload.length + count) ∧
        (padFrame b connection dataOffset payload.length
            (buffer.write dataOffset payload)).2.read dataOffset (payload.length + count) =
          payload ++ List.replicate count b.paddingByte ∧
        (dataOffset + payload.length ≤ 8 → dataOffset + (payload.length + count) ≤ 8) := by
  have offset : u8 (dataOffset + payload.length) = dataOffset + payload.length :=
    u8_small (by omega)
  simp only [padFrame, offset]
  split
  · have lower : dataOffset + payload.length ≤ getCanDl b (dataOffset + payload.length) ∧
        getCanDl b (dataOffset + payload.length) ≤ 64 := by
      unfold getCanDl
      split
      · exact ⟨(canDlTable_bounds _ fits).1, (canDlTable_bounds _ fits).2.2⟩
      · rename_i plain
        exact ⟨classic (by simpa using plain), by decide⟩
    have short : dataOffset + payload.length ≤ 8 →
        getCanDl b (dataOffset + payload.length) = 8 := by
      intro short
      unfold getCanDl
      split
      · exact canDlTable_short _ short
      · rfl
    refine ⟨getCanDl b (dataOffset + payload.length) - (dataOffset + payload.length),
      by simp only; omega, ?_, by omega⟩
    have count : sub32 (getCanDl b (dataOffset + payload.length)) (dataOffset + payload.length) =
        getCanDl b (dataOffset + payload.length) - (dataOffset + payload.length) := by
      simp only [sub32]
      omega
    have padded := read_padded buffer dataOffset payload (List.replicate
      (getCanDl b (dataOffset + payload.length) - (dataOffset + payload.length)) b.paddingByte)
    rw [List.length_replicate] at padded
    simpa only [count] using padded
  · refine ⟨0, by simp, ?_, by omega⟩
    simpa using read_write_same buffer dataOffset payload

theorem Transmittable.single {ch : Channel} (ready : Transmittable b cfg ch)
    (single : ch.pciId.frameType = .single) :
    ch.sduLengthRemaining = ch.sduLength ∧ 0 < ch.sduLength ∧
      ((ch.pciId = .sfCan ∧
          ch.sduLength + addressSize (cfg.txSdu ch.activeSduId).addressFormatId + 1 ≤ 8) ∨
        (ch.pciId = .sfCanFd ∧ b.canFdSupport = true ∧
          8 < ch.sduLength + addressSize (cfg.txSdu ch.activeSduId).addressFormatId + 1 ∧
          ch.sduLength + addressSize (cfg.txSdu ch.activeSduId).addressFormatId + 2 ≤ 64)) := by
  simp only [Transmittable, single] at ready
  obtain ⟨layout, remaining, positive, limit⟩ := ready
  have small := Nat.lt_of_le_of_lt limit (maxTransmitLength_lt (b := b) _ _)
  have txDl := getTxDl_bounds (b := b) (cfg.txSdu ch.activeSduId)
  refine ⟨remaining, positive, ?_⟩
  have layouts := txPciInit_layout cfg ch.activeSduId small
  rw [← layout] at layouts
  generalize ch.pciId = pciId at single layouts ⊢
  cases layouts with
  | sfCan fits => exact Or.inl ⟨rfl, fits⟩
  | sfCanFd fd long fits => exact Or.inr ⟨rfl, fd, long, by omega⟩
  | ffCan => cases single
  | ffCanFd => cases single

theorem ffCan_limit {connection : TxSdu} {n : Nat}
    (limit : n ≤ maxTransmitLength b connection .ffCan)
    (plain : b.canFdSupport = true → 8 < getTxDl b connection → n ≤ maxFfDl) : n ≤ maxFfDl := by
  have address := addressSize_le connection.addressFormatId
  have txDl := getTxDl_bounds (b := b) connection
  have payload := sub8_le (getTxDl b connection) (1 + addressSize connection.addressFormatId)
    (by omega) (by omega)
  have large : maxFfDl = 4095 := rfl
  have classic : defaultCanDl = 8 := rfl
  simp only [maxTransmitLength, payload, reduceCtorEq, if_false] at limit
  split at limit
  · simp only [sub32] at limit
    omega
  · split at limit
    · rename_i fd
      split at limit
      · rename_i wide
        exact plain fd wide
      · omega
    · omega

theorem Transmittable.first {ch : Channel} (ready : Transmittable b cfg ch)
    (first : ch.pciId.frameType = .first) :
    0 < ch.sduLength ∧ ch.sduLength < 2 ^ 16 ∧
      ((ch.pciId = .ffCan ∧ ch.sduLength ≤ maxFfDl) ∨
        (ch.pciId = .ffCanFd ∧ b.canFdSupport = true ∧ maxFfDl < ch.sduLength)) := by
  simp only [Transmittable, first] at ready
  obtain ⟨layout, remaining, positive, limit⟩ := ready
  have small := Nat.lt_of_le_of_lt limit (maxTransmitLength_lt (b := b) _ _)
  refine ⟨positive, small, ?_⟩
  have layouts := txPciInit_layout cfg ch.activeSduId small
  rw [← layout] at layouts
  generalize ch.pciId = pciId at first layouts limit ⊢
  cases layouts with
  | sfCan => cases first
  | sfCanFd => cases first
  | ffCan long exceeds plain => exact Or.inl ⟨rfl, ffCan_limit limit plain⟩
  | ffCanFd fd wide exceeds => exact Or.inr ⟨rfl, fd, exceeds⟩

section Assembled
variable {frame : Frame}

theorem laidOut_frame {f : Fin 5} {ch : Channel} {pci payload : List UInt8} (agrees : f ≠ 4)
    (address : UInt8) (body : Mem) (count : Nat) (header : pci.length = ch.pciId.pciSize)
    (holds : body.read (addressSize f + ch.pciId.pciSize) (payload.length + count) =
      payload ++ List.replicate count b.paddingByte) :
    LaidOut b f ch pci ⟨((prependAddress f address body).write (pciOffset f) pci).read 0
      (addressSize f + ch.pciId.pciSize + (payload.length + count)), payload⟩ := by
  refine ⟨header, addressBytes f address, count, addressBytes_length f address, ?_⟩
  have assembled := assembled_bytes agrees address body pci (payload.length + count)
  rw [header, holds] at assembled
  simpa using assembled

theorem built_taken {answer : BufReq} {refused taken : State} {frame frame' : Frame}
    (built : (if answer ≠ .ok then (refused, none) else (taken, some frame')).2 = some frame) :
    answer = .ok ∧ frame' = frame := by
  by_cases handed : answer = .ok
  · simp only [handed, ne_eq, not_true_eq_false, if_false, Option.some.injEq] at built
    exact ⟨handed, built⟩
  · simp [handed] at built

theorem createTxSingleFrame_laidOut
    (agrees : (cfg.txSdu (s.channel c).activeSduId).addressFormatId ≠ 4)
    (ready : Transmittable b cfg (s.channel c))
    (single : (s.channel c).pciId.frameType = .single)
    (built : (createTxSingleFrame b cfg env s c).2 = some frame) :
    LaidOut b (cfg.txSdu (s.channel c).activeSduId).addressFormatId (s.channel c)
        (pciBytes b cfg s (s.channel c)) frame ∧
      Copied cfg s (createTxSingleFrame b cfg env s c).1 c frame.payload ∧
      frame.payload.length = (s.channel c).sduLength ∧
      ((s.channel c).pciId = .sfCan → frame.bytes.length ≤ 8) := by
  obtain ⟨remaining, positive, layouts⟩ := ready.single single
  have address := addressSize_le (cfg.txSdu (s.channel c).activeSduId).addressFormatId
  have sizes : addressSize (cfg.txSdu (s.channel c).activeSduId).addressFormatId +
        (s.channel c).pciId.pciSize + (s.channel c).sduLength ≤ 64 ∧
      (b.canFdSupport = false → addressSize (cfg.txSdu (s.channel c).activeSduId).addressFormatId +
        (s.channel c).pciId.pciSize + (s.channel c).sduLength ≤ 8) ∧
      (pciBytes b cfg s (s.channel c)).length = (s.channel c).pciId.pciSize := by
    rcases layouts with ⟨pci, short⟩ | ⟨pci, fd, -, short⟩
    · simp only [pciBytes, pci, Npci.pciSize, Npci.frameType, singleFramePci]
      exact ⟨by omega, by omega, rfl⟩
    · simp only [pciBytes, pci, Npci.pciSize, Npci.frameType, singleFramePci, fd]
      exact ⟨by omega, by simp, rfl⟩
  obtain ⟨fits, classic, header⟩ := sizes
  have length : u8 (s.channel c).sduLengthRemaining = (s.channel c).sduLength := by
    rw [remaining, u8_small (by omega)]
  have pci : singleFramePci b (s.channel c).pciId (s.channel c).sduLength =
      pciBytes b cfg s (s.channel c) := by
    simp only [pciBytes, single]
  by_cases waiting : s.subState c = .txWaitForTransmitConfirmation
  · simp only [createTxSingleFrame, if_pos waiting, length, pci] at built ⊢
    obtain ⟨taken, rfl⟩ := built_taken built
    simp only [taken, ne_eq, not_true_eq_false, if_false]
    generalize env.copyTxData _ _ _ = answer
    obtain ⟨count, total, holds, short⟩ := padFrame_spec b (cfg.txSdu (s.channel c).activeSduId)
      (addressSize (cfg.txSdu (s.channel c).activeSduId).addressFormatId +
        (s.channel c).pciId.pciSize) (answer.2.1.read 0 (s.channel c).sduLength)
      (env.sduBuffer (s.log ++ [.copyTxData c (s.channel c).activeSduId
        (cfg.txSdu (s.channel c).activeSduId).pduRPduHandleId
        (answer.2.1.read 0 (s.channel c).sduLength) .ok answer.2.2]))
      (by rw [read_length]; exact fits) (by rw [read_length]; exact classic)
    rw [read_length] at total holds short
    have laid := @laidOut_frame b _ (s.channel c) _ (answer.2.1.read 0 (s.channel c).sduLength)
      agrees (cfg.txSdu (s.channel c).activeSduId).address _ count header
      (by rw [read_length]; exact holds)
    rw [read_length, ← total] at laid
    refine ⟨laid, ⟨answer.2.2, rfl⟩, read_length _ _ _, fun pci => ?_⟩
    rw [read_length]
    refine Nat.le_trans (Nat.le_of_eq total) (short ?_)
    rcases layouts with ⟨-, fits⟩ | ⟨pci', -⟩
    · simp only [pci, Npci.pciSize]
      omega
    · rw [pci] at pci'
      cases pci'
  · simp [createTxSingleFrame, waiting] at built

theorem createTxFirstFrame_laidOut
    (agrees : (cfg.txSdu (s.channel c).activeSduId).addressFormatId ≠ 4)
    (ready : Transmittable b cfg (s.channel c))
    (first : (s.channel c).pciId.frameType = .first)
    (built : (createTxFirstFrame b cfg env s c).2 = some frame) :
    LaidOut b (cfg.txSdu (s.channel c).activeSduId).addressFormatId (s.channel c)
        (pciBytes b cfg s (s.channel c)) frame ∧
      Copied cfg s (createTxFirstFrame b cfg env s c).1 c frame.payload := by
  obtain ⟨positive, small, layouts⟩ := ready.first first
  have address := addressSize_le (cfg.txSdu (s.channel c).activeSduId).addressFormatId
  have txDl := getTxDl_bounds (b := b) (cfg.txSdu (s.channel c).activeSduId)
  have sizes : (s.channel c).pciId.pciSize ≤ 6 ∧
      (pciBytes b cfg s (s.channel c)).length = (s.channel c).pciId.pciSize := by
    rcases layouts with ⟨pci, short⟩ | ⟨pci, fd, -⟩
    · simp only [pciBytes, pci, Npci.pciSize, Npci.frameType, firstFramePci]
      exact ⟨by decide, rfl⟩
    · simp only [pciBytes, pci, Npci.pciSize, Npci.frameType, firstFramePci, fd]
      exact ⟨by decide, rfl⟩
  obtain ⟨size, header⟩ := sizes
  have room := payload_room (b := b) (cfg.txSdu (s.channel c).activeSduId) size
  have pci : firstFramePci b (s.channel c).pciId (s.channel c).sduLength =
      pciBytes b cfg s (s.channel c) := by
    simp only [pciBytes, first]
  by_cases waiting : s.subState c = .txWaitForTransmitConfirmation
  · simp only [createTxFirstFrame, if_pos waiting, pci, room] at built ⊢
    obtain ⟨taken, rfl⟩ := built_taken built
    simp only [taken, ne_eq, not_true_eq_false, if_false]
    generalize env.copyTxData _ _ _ = answer
    refine ⟨?_, answer.2.2, rfl⟩
    generalize (env.sduBuffer _) = buffer
    generalize payload : answer.2.1.read 0 _ = data
    have full : getTxDl b (cfg.txSdu (s.channel c).activeSduId) =
        addressSize (cfg.txSdu (s.channel c).activeSduId).addressFormatId +
          (s.channel c).pciId.pciSize + (data.length + 0) := by
      rw [← payload, read_length]
      omega
    have laid := @laidOut_frame b _ (s.channel c) _ data agrees
      (cfg.txSdu (s.channel c).activeSduId).address (buffer.write _ data) 0 header
      (by rw [Nat.add_zero, read_write_same]; simp)
    rw [← full] at laid
    exact laid
  · simp [createTxFirstFrame, waiting] at built

theorem createTxConsecutiveFrame_laidOut
    (agrees : (cfg.txSdu (s.channel c).activeSduId).addressFormatId ≠ 4)
    (consecutive : (s.channel c).pciId.frameType = .consecutive)
    (built : (createTxConsecutiveFrame b cfg env s c).2 = some frame) :
    LaidOut b (cfg.txSdu (s.channel c).activeSduId).addressFormatId (s.channel c)
        (pciBytes b cfg s (s.channel c)) frame ∧
      Copied cfg s (createTxConsecutiveFrame b cfg env s c).1 c frame.payload := by
  have size : (s.channel c).pciId.pciSize = cfPciSize := by
    revert consecutive
    cases (s.channel c).pciId <;> simp [Npci.frameType, Npci.pciSize, cfPciSize]
  have address := addressSize_le (cfg.txSdu (s.channel c).activeSduId).addressFormatId
  have txDl := getTxDl_bounds (b := b) (cfg.txSdu (s.channel c).activeSduId)
  have room := payload_room (b := b) (cfg.txSdu (s.channel c).activeSduId)
    (show cfPciSize ≤ 6 by decide)
  have classic (plain : b.canFdSupport = false) :
      getTxDl b (cfg.txSdu (s.channel c).activeSduId) = 8 := by
    simp [getTxDl, plain, defaultCanDl]
  have pci : [UInt8.ofNat (0x20 ||| (s.channel c).sn)] = pciBytes b cfg s (s.channel c) := by
    simp only [pciBytes, consecutive]
  have header : (pciBytes b cfg s (s.channel c)).length = (s.channel c).pciId.pciSize := by
    rw [← pci, size]
    rfl
  have one : cfPciSize = 1 := rfl
  by_cases waiting : s.subState c = .txWaitForTransmitConfirmation
  · simp only [createTxConsecutiveFrame, if_pos waiting, pci, room] at built ⊢
    obtain ⟨taken, rfl⟩ := built_taken built
    simp only [taken, ne_eq, not_true_eq_false, if_false]
    generalize env.copyTxData _ _ _ = answer
    refine ⟨?_, answer.2.2, rfl⟩
    generalize (env.sduBuffer _) = buffer
    rw [one] at room ⊢
    split
    · -- a last frame shorter than the link is padded or cut
      rename_i short
      rw [cfLength, if_neg (by omega), u8_small (by omega)]
      generalize payload : answer.2.1.read 0 _ = data
      have length : data.length = (s.channel c).sduLengthRemaining := by
        rw [← payload, read_length]
      obtain ⟨count, total, holds, -⟩ := padFrame_spec b (cfg.txSdu (s.channel c).activeSduId)
        (addressSize (cfg.txSdu (s.channel c).activeSduId).addressFormatId + 1) data buffer
        (by omega) (fun plain => by have := classic plain; omega)
      have laid := @laidOut_frame b _ (s.channel c) _ data agrees
        (cfg.txSdu (s.channel c).activeSduId).address _ count header
        (by rw [size, one]; exact holds)
      rw [size, one, ← total, length] at laid
      exact laid
    · rename_i full
      have whole : cfLength (s.channel c).sduLengthRemaining
          (getTxDl b (cfg.txSdu (s.channel c).activeSduId) -
            (addressSize (cfg.txSdu (s.channel c).activeSduId).addressFormatId + 1)) =
          getTxDl b (cfg.txSdu (s.channel c).activeSduId) -
            (addressSize (cfg.txSdu (s.channel c).activeSduId).addressFormatId + 1) := by
        unfold cfLength
        split
        · rfl
        · rw [u8_small (by omega)]
          omega
      rw [whole]
      generalize payload : answer.2.1.read 0 _ = data
      have length : getTxDl b (cfg.txSdu (s.channel c).activeSduId) =
          addressSize (cfg.txSdu (s.channel c).activeSduId).addressFormatId + 1 +
            (data.length + 0) := by
        rw [← payload, read_length]
        omega
      have laid := @laidOut_frame b _ (s.channel c) _ data agrees
        (cfg.txSdu (s.channel c).activeSduId).address (buffer.write _ data) 0 header
        (by rw [Nat.add_zero, read_write_same]; simp)
      rw [size, one, ← length] at laid
      exact laid
  · simp [createTxConsecutiveFrame, waiting] at built

theorem createTxFlowControlFrame_laidOut
    (agrees : (cfg.rxSdu (s.channel c).activeSduId).addressFormatId ≠ 4)
    (flow : (s.channel c).pciId.frameType = .flowControl)
    (built : (createTxFlowControlFrame b cfg env s c).2 = some frame) :
    LaidOut b (cfg.rxSdu (s.channel c).activeSduId).addressFormatId (s.channel c)
      (pciBytes b cfg s (s.channel c)) frame ∧ frame.payload = [] := by
  have address := addressSize_le (cfg.rxSdu (s.channel c).activeSduId).addressFormatId
  have header : (pciBytes b cfg s (s.channel c)).length = (s.channel c).pciId.pciSize := by
    revert flow
    simp only [pciBytes]
    cases (s.channel c).pciId <;> simp [Npci.frameType, Npci.pciSize]
  have size : (pciBytes b cfg s (s.channel c)).length = fcPciSize := by
    simp only [pciBytes, flow]
    rfl
  have pci : [UInt8.ofNat (0x30 ||| (s.channel c).flowStatus.code), UInt8.ofNat (s.channel c).bs,
      getRxParam b cfg s (s.channel c).activeSduId .stMin] = pciBytes b cfg s (s.channel c) := by
    simp only [pciBytes, flow]
  obtain ⟨-, offset⟩ := prependAddress_agrees agrees
    (cfg.rxSdu (s.channel c).activeSduId).address (fun _ => 0)
  rw [addressBytes_length] at offset
  have three : fcPciSize = 3 := rfl
  by_cases waiting : s.subState c = .rxWaitForFcTransmitConfirmation
  · simp only [createTxFlowControlFrame, if_pos waiting, pci] at built
    have assembled := assembled_bytes agrees (cfg.rxSdu (s.channel c).activeSduId).address
      (env.sduBuffer s.log) (pciBytes b cfg s (s.channel c)) 0
    rw [Nat.add_zero, read_zero, List.append_nil, size] at assembled
    split at built
    · obtain rfl := Option.some.inj built
      refine ⟨⟨header, addressBytes _ (cfg.rxSdu (s.channel c).activeSduId).address,
        8 - (addressSize (cfg.rxSdu (s.channel c).activeSduId).addressFormatId + 3),
        addressBytes_length _ _, ?_⟩, rfl⟩
      have count : sub32 defaultCanDl
          (addressSize (cfg.rxSdu (s.channel c).activeSduId).addressFormatId + 3) =
          8 - (addressSize (cfg.rxSdu (s.channel c).activeSduId).addressFormatId + 3) := by
        simp only [sub32, defaultCanDl]
        omega
      have whole : defaultCanDl =
          addressSize (cfg.rxSdu (s.channel c).activeSduId).addressFormatId + 3 +
            (List.replicate (8 - (addressSize (cfg.rxSdu
              (s.channel c).activeSduId).addressFormatId + 3)) b.paddingByte).length := by
        rw [List.length_replicate, defaultCanDl]
        omega
      simp only [three, count]
      rw [three, offset] at assembled
      rw [whole, read_add, offset, read_write_before _ _ _ _ _ (by omega), Nat.zero_add,
        read_write_same, assembled]
      simp
    · obtain rfl := Option.some.inj built
      refine ⟨⟨header, addressBytes _ (cfg.rxSdu (s.channel c).activeSduId).address, 0,
        addressBytes_length _ _, ?_⟩, rfl⟩
      simp only [List.replicate_zero, List.append_nil]
      rw [← assembled, offset]
  · simp [createTxFlowControlFrame, waiting] at built

end Assembled

section Reading
variable {f : Fin 5} {ch : Channel} {pci : List UInt8} {frame : Frame} {data : Mem}

theorem LaidOut.read (laid : LaidOut b f ch pci frame)
    (holds : data.read 0 frame.bytes.length = frame.bytes) :
    (∀ i < pci.length, data (addressSize f + i) = pci.getD i 0) ∧
      data.read (addressSize f + ch.pciId.pciSize) frame.payload.length = frame.payload := by
  obtain ⟨header, address, count, size, bytes⟩ := laid
  have total := congrArg List.length bytes
  simp only [List.length_append, List.length_replicate] at total
  constructor
  · intro i inside
    rw [read_getD holds (by omega), bytes, ← size]
    simp only [List.append_assoc, List.getD_eq_getElem?_getD]
    rw [List.getElem?_append_right (Nat.le_add_right _ _), Nat.add_sub_cancel_left,
      List.getElem?_append_left inside]
  · have slice := read_slice holds (addressSize f + ch.pciId.pciSize) frame.payload.length
      (by omega)
    rw [Nat.zero_add] at slice
    rw [slice, bytes, ← size, ← header, List.append_assoc, ← List.length_append,
      List.drop_left, List.take_left]

theorem LaidOut.length_le (laid : LaidOut b f ch pci frame) :
    addressSize f + ch.pciId.pciSize + frame.payload.length ≤ frame.bytes.length := by
  obtain ⟨header, address, count, size, bytes⟩ := laid
  have total := congrArg List.length bytes
  simp only [List.length_append, List.length_replicate] at total
  omega

theorem frameTypeOf_nibble {byte : UInt8} {n : Nat} (value : byte.toNat = n) :
    frameTypeOf byte = match n / 16 with
      | 0 => some .single
      | 1 => some .first
      | 2 => some .consecutive
      | 3 => some .flowControl
      | _ => none := by
  have nibble : byte.toNat >>> 4 = n / 16 := by rw [value, Nat.shiftRight_eq_div_pow]
  rw [← nibble]
  rfl

theorem singleFramePci_read {pciId : Npci} {a n : Nat} (positive : 0 < n)
    (layouts : (pciId = .sfCan ∧ n < 8) ∨ (pciId = .sfCanFd ∧ b.canFdSupport = true ∧ n < 64))
    (pci : ∀ i < (singleFramePci b pciId n).length,
      data (a + i) = (singleFramePci b pciId n).getD i 0) :
    frameTypeOf (data a) = some .single ∧ (pciId = .sfCan → (data a).toNat = n) ∧
      (pciId = .sfCanFd → (data a).toNat = 0 ∧ (data (a + 1)).toNat = n) := by
  rcases layouts with ⟨rfl, short⟩ | ⟨rfl, fd, short⟩
  · have first : (data a).toNat = n := by
      rw [← Nat.add_zero a, pci 0 (by simp [singleFramePci])]
      simp only [singleFramePci, List.getD_cons_zero]
      rw [UInt8.toNat_ofNat']
      omega
    have type : frameTypeOf (data a) = some .single := by
      rw [frameTypeOf_nibble first, show n / 16 = 0 by omega]
      rfl
    exact ⟨type, fun _ => first, nofun⟩
  · have first : (data a).toNat = 0 := by
      rw [← Nat.add_zero a, pci 0 (by simp [singleFramePci, fd])]
      simp [singleFramePci, fd]
    have second : (data (a + 1)).toNat = n := by
      rw [pci 1 (by simp [singleFramePci, fd])]
      simp only [singleFramePci, fd, if_true, List.getD_cons_succ, List.getD_cons_zero]
      rw [UInt8.toNat_ofNat']
      omega
    exact ⟨frameTypeOf_nibble first, nofun, fun _ => ⟨first, second⟩⟩

theorem firstFramePci_read {pciId : Npci} {a n : Nat} (positive : 0 < n) (small : n < 2 ^ 16)
    (layouts : (pciId = .ffCan ∧ n ≤ maxFfDl) ∨
      (pciId = .ffCanFd ∧ b.canFdSupport = true ∧ maxFfDl < n))
    (pci : ∀ i < (firstFramePci b pciId n).length,
      data (a + i) = (firstFramePci b pciId n).getD i 0) :
    frameTypeOf (data a) = some .first ∧
      ((ffDlValue12bit data a = n ∧ pciId = .ffCan) ∨
        (ffDlValue12bit data a = 0 ∧ ffDlValue32bit data a = n ∧ pciId = .ffCanFd)) := by
  have large : maxFfDl = 4095 := rfl
  rcases layouts with ⟨rfl, limit⟩ | ⟨rfl, fd, limit⟩
  · simp only [firstFramePci] at pci
    have first : (data a).toNat = 0x10 + n / 256 := by
      rw [← Nat.add_zero a, pci 0 (by simp), List.getD_cons_zero, UInt8.toNat_ofNat', u8,
        Nat.shiftRight_eq_div_pow]
      omega
    have second : (data (a + 1)).toNat = n % 256 := by
      rw [pci 1 (by simp), List.getD_cons_succ, List.getD_cons_zero, UInt8.toNat_ofNat']
    have announced : ffDlValue12bit data a = n := by
      simp only [ffDlValue12bit, first, second]
      omega
    have type : frameTypeOf (data a) = some .first := by
      rw [frameTypeOf_nibble first, show (0x10 + n / 256) / 16 = 1 by omega]
      rfl
    exact ⟨type, Or.inl ⟨announced, rfl⟩⟩
  · -- the escape: twelve bits of 0, and the length in the four bytes behind
    simp only [firstFramePci, fd, if_true] at pci
    have first : (data a).toNat = 0x10 := by
      rw [← Nat.add_zero a, pci 0 (by simp)]
      rfl
    have second : (data (a + 1)).toNat = 0 := by
      rw [pci 1 (by simp)]
      rfl
    have third : (data (a + 2)).toNat = 0 := by
      rw [pci 2 (by simp)]
      simp only [List.getD_cons_succ, List.getD_cons_zero, Nat.shiftRight_eq_div_pow]
      rw [UInt8.toNat_ofNat']
      omega
    have fourth : (data (a + 3)).toNat = 0 := by
      rw [pci 3 (by simp)]
      simp only [List.getD_cons_succ, List.getD_cons_zero, Nat.shiftRight_eq_div_pow]
      rw [UInt8.toNat_ofNat']
      omega
    have fifth : (data (a + 4)).toNat = n / 256 := by
      rw [pci 4 (by simp)]
      simp only [List.getD_cons_succ, List.getD_cons_zero, Nat.shiftRight_eq_div_pow]
      rw [UInt8.toNat_ofNat']
      omega
    have sixth : (data (a + 5)).toNat = n % 256 := by
      rw [pci 5 (by simp)]
      simp only [List.getD_cons_succ, List.getD_cons_zero]
      rw [UInt8.toNat_ofNat']
    have escape : ffDlValue12bit data a = 0 := by
      simp only [ffDlValue12bit, first, second]
    have announced : ffDlValue32bit data a = n := by
      simp only [ffDlValue32bit, third, fourth, fifth, sixth]
      omega
    exact ⟨frameTypeOf_nibble first, Or.inr ⟨escape, announced, rfl⟩⟩

theorem single_readsBack (ready : Transmittable b cfg ch) (single : ch.pciId.frameType = .single)
    (laid : LaidOut b (cfg.txSdu ch.activeSduId).addressFormatId ch (pciBytes b cfg s ch) frame)
    (whole : frame.payload.length = ch.sduLength)
    (short : ch.pciId = .sfCan → frame.bytes.length ≤ 8) :
    ReadsBack b cfg s ch (addressSize (cfg.txSdu ch.activeSduId).addressFormatId) frame := by
  intro data s' ctx holds size type
  obtain ⟨pci, payload⟩ := laid.read holds
  obtain ⟨-, positive, layouts⟩ := ready.single single
  have address := addressSize_le (cfg.txSdu ch.activeSduId).addressFormatId
  have lengths : (ch.pciId = .sfCan ∧ ch.sduLength < 8) ∨
      (ch.pciId = .sfCanFd ∧ b.canFdSupport = true ∧ ch.sduLength < 64) := by
    rcases layouts with ⟨layout, fits⟩ | ⟨layout, fd, -, fits⟩
    · exact Or.inl ⟨layout, by omega⟩
    · exact Or.inr ⟨layout, fd, by omega⟩
  simp only [pciBytes, single] at pci
  obtain ⟨frameType, classic, escape⟩ := singleFramePci_read positive lengths pci
  simp only [rxSduLengthCheck, type, single, SameFields, singleFrameDl, size]
  refine ⟨frameType, ?_⟩
  rcases layouts with ⟨layout, fits⟩ | ⟨layout, fd, long, fits⟩
  · simp only [layout, Npci.pciSize] at payload
    rw [if_pos (show frame.bytes.length ≤ defaultCanDl from short layout), classic layout]
    exact ⟨by simp only; omega, payload⟩
  · have longer := laid.length_le
    simp only [layout, Npci.pciSize] at payload longer
    rw [if_neg (show ¬ frame.bytes.length ≤ defaultCanDl by simp only [defaultCanDl]; omega),
      if_pos fd]
    exact ⟨(escape layout).2, payload⟩

theorem first_readsBack (ready : Transmittable b cfg ch) (first : ch.pciId.frameType = .first)
    (laid : LaidOut b (cfg.txSdu ch.activeSduId).addressFormatId ch (pciBytes b cfg s ch) frame) :
    ReadsBack b cfg s ch (addressSize (cfg.txSdu ch.activeSduId).addressFormatId) frame := by
  intro data s' ctx holds size type
  obtain ⟨pci, payload⟩ := laid.read holds
  obtain ⟨positive, small, layouts⟩ := ready.first first
  have wide : 2 ^ 16 ≤ 2 ^ b.lengthBits := Nat.pow_le_pow_right (by decide) b.lengthBits_le
  have kept : b.toLength ch.sduLength = ch.sduLength := Nat.mod_eq_of_lt (by omega)
  generalize addressSize (cfg.txSdu ch.activeSduId).addressFormatId = a at *
  simp only [pciBytes, first] at pci
  obtain ⟨frameType, announced⟩ := firstFramePci_read positive small layouts pci
  simp only [rxSduLengthCheck, type, first, SameFields, firstFrameDl, size]
  refine ⟨frameType, ?_⟩
  rcases announced with ⟨length, layout⟩ | ⟨escape, length, layout⟩
  · simp only [layout, Npci.pciSize] at payload
    rw [length, if_neg (by omega), if_neg (by omega)]
    exact ⟨kept, payload⟩
  · simp only [layout, Npci.pciSize] at payload
    rw [if_pos escape, if_pos escape, length]
    exact ⟨kept, payload⟩

theorem sequence_pci : ∀ sn < 16, (UInt8.ofNat (0x20 ||| sn)).toNat = 0x20 + sn := by
  decide

theorem consecutive_readsBack (ready : Transmittable b cfg ch)
    (consecutive : ch.pciId.frameType = .consecutive)
    (laid : LaidOut b (cfg.txSdu ch.activeSduId).addressFormatId ch (pciBytes b cfg s ch) frame) :
    ReadsBack b cfg s ch (addressSize (cfg.txSdu ch.activeSduId).addressFormatId) frame := by
  intro data s' ctx holds size type
  obtain ⟨pci, payload⟩ := laid.read holds
  simp only [Transmittable, consecutive] at ready
  have layout : ch.pciId.pciSize = cfPciSize := by
    revert consecutive
    cases ch.pciId <;> simp [Npci.frameType, Npci.pciSize, cfPciSize]
  have first : (data (addressSize (cfg.txSdu ch.activeSduId).addressFormatId)).toNat =
      0x20 + ch.sn := by
    rw [← Nat.add_zero (addressSize _), pci 0 (by simp [pciBytes, consecutive])]
    simp only [pciBytes, consecutive, List.getD_cons_zero]
    exact sequence_pci _ ready
  simp only [rxSduLengthCheck, type, consecutive, SameFields, consecutiveFrameDl, size]
  rw [layout] at payload
  rw [frameTypeOf_nibble first, first, show (0x20 + ch.sn) / 16 = 2 by omega]
  exact ⟨rfl, by omega, payload⟩

theorem flowControl_readsBack (ready : Transmittable b cfg ch)
    (flow : ch.pciId.frameType = .flowControl)
    (laid : LaidOut b (cfg.rxSdu ch.activeSduId).addressFormatId ch (pciBytes b cfg s ch) frame)
    (empty : frame.payload = []) :
    ReadsBack b cfg s ch (addressSize (cfg.rxSdu ch.activeSduId).addressFormatId) frame := by
  intro data s' ctx holds size type
  obtain ⟨pci, -⟩ := laid.read holds
  simp only [Transmittable, flow] at ready
  simp only [pciBytes, flow] at pci
  have first : (data (addressSize (cfg.rxSdu ch.activeSduId).addressFormatId)).toNat =
      0x30 + ch.flowStatus.code := by
    rw [← Nat.add_zero (addressSize _), pci 0 (by simp), List.getD_cons_zero]
    cases ch.flowStatus <;> rfl
  have code : ch.flowStatus.code < 3 := by
    cases ch.flowStatus <;> decide
  simp only [rxSduLengthCheck, type, flow, SameFields, size, empty]
  rw [frameTypeOf_nibble first, first, show (0x30 + ch.flowStatus.code) / 16 = 3 by omega,
    pci 1 (by simp), Nat.add_assoc, pci 2 (by simp)]
  simp only [List.getD_cons_succ, List.getD_cons_zero, true_and]
  refine ⟨⟨by omega, ?_, trivial⟩, rfl⟩
  rw [UInt8.toNat_ofNat']
  omega

end Reading

/-- A frame built for channel `c` has the layout of the size tables, can be read back, and
carries what the upper layer handed over. -/
structure FrameAgrees (b : Build) (cfg : Config b) (env : Env) (s : State) (c : Nat)
    (frame : Frame) : Prop where
  laidOut : LaidOut b (addressFormat cfg (s.channel c)) (s.channel c)
    (pciBytes b cfg s (s.channel c)) frame
  readsBack : ReadsBack b cfg s (s.channel c) (addressSize (addressFormat cfg (s.channel c))) frame
  copied : (s.channel c).pciId ≠ .fc → Copied cfg s (createFrame b cfg env s c).1 c frame.payload

theorem createFrame_agrees {frame : Frame} (agrees : addressFormat cfg (s.channel c) ≠ 4)
    (ready : Transmittable b cfg (s.channel c))
    (built : (createFrame b cfg env s c).2 = some frame) : FrameAgrees b cfg env s c frame := by
  have format (data : (s.channel c).pciId ≠ .fc) : addressFormat cfg (s.channel c) =
      (cfg.txSdu (s.channel c).activeSduId).addressFormatId := if_neg data
  have notFlow (type : (s.channel c).pciId.frameType ≠ .flowControl) :
      (s.channel c).pciId ≠ .fc := fun flow => type (by rw [flow]; rfl)
  cases type : (s.channel c).pciId.frameType with
  | single =>
      have created : createFrame b cfg env s c = createTxSingleFrame b cfg env s c := by
        simp only [createFrame, type]
      have same := format (notFlow (by simp [type]))
      rw [same] at agrees
      rw [created] at built
      obtain ⟨laid, copied, whole, short⟩ := createTxSingleFrame_laidOut agrees ready type built
      exact ⟨same ▸ laid, same ▸ single_readsBack ready type laid whole short,
        fun _ => created ▸ copied⟩
  | first =>
      have created : createFrame b cfg env s c = createTxFirstFrame b cfg env s c := by
        simp only [createFrame, type]
      have same := format (notFlow (by simp [type]))
      rw [same] at agrees
      rw [created] at built
      obtain ⟨laid, copied⟩ := createTxFirstFrame_laidOut agrees ready type built
      exact ⟨same ▸ laid, same ▸ first_readsBack ready type laid, fun _ => created ▸ copied⟩
  | consecutive =>
      have created : createFrame b cfg env s c = createTxConsecutiveFrame b cfg env s c := by
        simp only [createFrame, type]
      have same := format (notFlow (by simp [type]))
      rw [same] at agrees
      rw [created] at built
      obtain ⟨laid, copied⟩ := createTxConsecutiveFrame_laidOut agrees type built
      exact ⟨same ▸ laid, same ▸ consecutive_readsBack ready type laid, fun _ => created ▸ copied⟩
  | flowControl =>
      have created : createFrame b cfg env s c = createTxFlowControlFrame b cfg env s c := by
        simp only [createFrame, type]
      have flow : (s.channel c).pciId = .fc := by
        revert type
        cases (s.channel c).pciId <;> simp [Npci.frameType]
      have same : addressFormat cfg (s.channel c) =
          (cfg.rxSdu (s.channel c).activeSduId).addressFormatId := if_pos flow
      rw [same] at agrees
      rw [created] at built
      obtain ⟨laid, empty⟩ := createTxFlowControlFrame_laidOut agrees type built
      exact ⟨same ▸ laid, same ▸ flowControl_readsBack ready type laid empty,
        fun data => absurd flow data⟩

def lastFormatConfig (b : Build) : Config b where
  numberOfSharedFc := 0
  numberOfChannels := 0
  numberOfRxPdus := 0
  numberOfTxPdus := 0
  numberOfRxSdus := 0
  numberOfTxSdus := 0
  sharedFc := fun _ => ⟨0, 0⟩
  rxPdu := fun p => ⟨p, p, none⟩
  txSdu := fun x =>
    { txDl := .classic
      bitFields := 0
      address := 0xFF
      addressFormatId := Fin.last 4
      timeOutId := 0
      channelId := 0
      txConfirmationId := 0
      txPduId := 0
      pduRPduHandleId := x }
  rxSdu := fun r =>
    { bitFields := 0
      address := 0xFF
      addressFormatId := Fin.last 4
      timeOutId := 0
      paramId := 0
      channelId := 0
      txConfirmationId := 0
      txPduId := 0
      pduRPduHandleId := r }
  timeOut := fun _ => ⟨10, 10, 10⟩
  param := fun _ => ⟨0, 0, 1⟩
  channels_fit := Nat.zero_le _
  sharedFc_txSdu := by simp
  txSdu_channel := by simp
  rxSdu_channel := by simp
  txSdu_confirmation := by simp
  rxSdu_confirmation := by simp

def oneByteNode : State :=
  { nodeRam with
    channel := fun _ => { nodeRam.channel 0 with sduLength := 1, sduLengthRemaining := 1, sn := 1 }
    subState := fun _ => .txWaitForTransmitConfirmation }

theorem lastFormat_disagrees (b : Build) :
    Transmittable b (lastFormatConfig b) (oneByteNode.channel 0) ∧
      (createFrame b (lastFormatConfig b) nodeEnv oneByteNode 0).2 = some ⟨[0xFF, 1], [0]⟩ ∧
        ¬ FrameAgrees b (lastFormatConfig b) nodeEnv oneByteNode 0 ⟨[0xFF, 1], [0]⟩ := by
  have layout : txPciInit b (lastFormatConfig b) 0 1 = .sfCan := rfl
  have limit : 1 ≤ maxTransmitLength b ((lastFormatConfig b).txSdu 0) .sfCan := by
    cases fd : b.canFdSupport <;>
      simp [maxTransmitLength, lastFormatConfig, CanDl.classic, getBit, functional, getTxDl, fd,
        defaultCanDl, maxFfDl]
  have built : (createFrame b (lastFormatConfig b) nodeEnv oneByteNode 0).2 =
      some ⟨[0xFF, 1], [0]⟩ := by
    have unpadded : getBit 0 paddingOn = false := by decide
    simp [createFrame, createTxSingleFrame, oneByteNode, nodeRam, lastFormatConfig,
      Npci.frameType, nodeEnv, padFrame, unpadded, addressSize, Npci.pciSize, prependAddress,
      pciOffset, singleFramePci, u8]
    exact ⟨by decide, by decide⟩
  refine ⟨⟨layout.symm, rfl, Nat.one_pos, limit⟩, built, ?_⟩
  intro agrees
  let ctx : RxContext := ⟨false, false, false, 0, .single, 0, 0, 0, 0, 0, 0, 0, 0, 0, 0⟩
  have read := agrees.readsBack (fun i => [0xFF, 1].getD i 0) nodeRam ctx (by decide) rfl rfl
  have type : frameTypeOf 0xFF = some .single := read.1
  simp [frameTypeOf] at type

/-- Frames agree with the size tables for an addressing format exactly when it is not the last
one. -/
theorem layout_agrees_iff (b : Build) (f : Fin 5) :
    (∀ (cfg : Config b) (env : Env) (s : State) (c : Nat) (frame : Frame),
      addressFormat cfg (s.channel c) = f → Transmittable b cfg (s.channel c) →
      (createFrame b cfg env s c).2 = some frame → FrameAgrees b cfg env s c frame) ↔ f ≠ 4 := by
  constructor
  · rintro agrees rfl
    obtain ⟨ready, built, disagrees⟩ := lastFormat_disagrees b
    exact disagrees (agrees _ _ _ _ _ rfl ready built)
  · intro other cfg env s c frame format ready built
    exact createFrame_agrees (format ▸ other) ready built

theorem last_format_overwrites :
    addressFormat (lastFormatConfig nodeBuild) (oneByteNode.channel 0) = 4 ∧
      Transmittable nodeBuild (lastFormatConfig nodeBuild) (oneByteNode.channel 0) ∧
      (createFrame nodeBuild (lastFormatConfig nodeBuild) nodeEnv oneByteNode 0).2 =
        some ⟨[0xFF, 1], [0]⟩ ∧
      ¬ FrameAgrees nodeBuild (lastFormatConfig nodeBuild) nodeEnv oneByteNode 0
        ⟨[0xFF, 1], [0]⟩ :=
  ⟨rfl, lastFormat_disagrees nodeBuild⟩

end AnchorNode.CanTp
