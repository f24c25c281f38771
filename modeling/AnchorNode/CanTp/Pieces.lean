import AnchorNode.Lib.Cut
import AnchorNode.CanTp.Layout

/-! The pieces an SDU is cut into, the frames that carry them, and how those are read. -/

namespace AnchorNode.CanTp

open AnchorNode.Lib

variable {b : Build} {cfg : Config b} {env : Env} {x n : Nat}

section Outline

def headLength (b : Build) (cfg : Config b) (x n : Nat) : Nat :=
  match (txPciInit b cfg x n).frameType with
  | .single => n
  | _ => getTxDl b (cfg.txSdu x) -
    (addressSize (cfg.txSdu x).addressFormatId + (txPciInit b cfg x n).pciSize)

def roomLength (b : Build) (connection : TxSdu) : Nat :=
  getTxDl b connection - (addressSize connection.addressFormatId + cfPciSize)

/-- A length `CanTp_Transmit` takes for TX SDU `x`. -/
structure Sendable (b : Build) (cfg : Config b) (x n : Nat) : Prop where
  positive : 0 < n
  limit : n ≤ maxTransmitLength b (cfg.txSdu x) (txPciInit b cfg x n)

theorem Sendable.small (fit : Sendable b cfg x n) : n < 2 ^ 16 :=
  Nat.lt_of_le_of_lt fit.limit (maxTransmitLength_lt _ _)

theorem Sendable.layout (fit : Sendable b cfg x n) :
    StartLayout b (cfg.txSdu x) n (txPciInit b cfg x n) := txPciInit_layout cfg x fit.small

theorem roomLength_bounds (b : Build) (connection : TxSdu) :
    6 ≤ roomLength b connection ∧ roomLength b connection ≤ 63 ∧
      roomLength b connection + (addressSize connection.addressFormatId + 1) =
        getTxDl b connection := by
  have txDl := getTxDl_bounds (b := b) connection
  have address := addressSize_le connection.addressFormatId
  simp only [roomLength, cfPciSize]
  omega

theorem headLength_single (single : (txPciInit b cfg x n).frameType = .single) :
    headLength b cfg x n = n := by
  simp only [headLength, single]

theorem Sendable.headLength_first (fit : Sendable b cfg x n)
    (first : (txPciInit b cfg x n).frameType = .first) :
    0 < headLength b cfg x n ∧ headLength b cfg x n < n ∧
      addressSize (cfg.txSdu x).addressFormatId + (txPciInit b cfg x n).pciSize +
        headLength b cfg x n = getTxDl b (cfg.txSdu x) := by
  have txDl := getTxDl_bounds (b := b) (cfg.txSdu x)
  have address := addressSize_le (cfg.txSdu x).addressFormatId
  have large : maxFfDl = 4095 := rfl
  have layouts := fit.layout
  simp only [headLength, first]
  generalize txPciInit b cfg x n = pciId at first layouts ⊢
  cases layouts with
  | sfCan => cases first
  | sfCanFd => cases first
  | ffCan long exceeds =>
      simp only [Npci.pciSize]
      omega
  | ffCanFd fd wide exceeds =>
      simp only [Npci.pciSize]
      omega

theorem Sendable.frameType (fit : Sendable b cfg x n) :
    (txPciInit b cfg x n).frameType = .single ∨ (txPciInit b cfg x n).frameType = .first := by
  have layouts := fit.layout
  generalize txPciInit b cfg x n = pciId at layouts ⊢
  cases layouts <;> simp [Npci.frameType]

def Sendable.cut (fit : Sendable b cfg x n) : Cut where
  total := n
  head := headLength b cfg x n
  room := roomLength b (cfg.txSdu x)
  head_pos := by
    rcases fit.frameType with single | first
    · rw [headLength_single single]
      exact fit.positive
    · exact (fit.headLength_first first).1
  head_le := by
    rcases fit.frameType with single | first
    · rw [headLength_single single]
    · exact (fit.headLength_first first).2.1.le
  room_pos := by
    have room := roomLength_bounds b (cfg.txSdu x)
    omega

theorem Sendable.pieces_single (fit : Sendable b cfg x n)
    (single : (txPciInit b cfg x n).frameType = .single) : fit.cut.pieces = 1 := by
  have whole : ¬ fit.cut.start 1 < fit.cut.total := by
    rw [Cut.start_one]
    show ¬ headLength b cfg x n < n
    rw [headLength_single single]
    exact lt_irrefl n
  have upper := mt (fit.cut.start_lt_iff 1).mpr whole
  have lower := fit.cut.pieces_pos
  omega

theorem Sendable.pieces_first (fit : Sendable b cfg x n)
    (first : (txPciInit b cfg x n).frameType = .first) : 1 < fit.cut.pieces := by
  rw [← Cut.start_lt_iff, Cut.start_one]
  exact (fit.headLength_first first).2.1

end Outline

section Frames

def pciOf (b : Build) (cfg : Config b) (x n i : Nat) : Npci :=
  if i = 0 then txPciInit b cfg x n else .cf

def headerOf (b : Build) (cfg : Config b) (x n i : Nat) : List UInt8 :=
  match (pciOf b cfg x n i).frameType with
  | .single => singleFramePci b (txPciInit b cfg x n) n
  | .first => firstFramePci b (txPciInit b cfg x n) n
  | _ => [UInt8.ofNat (0x20 ||| i % 16)]

def wireLength (b : Build) (bitFields : UInt8) (length : Nat) : Nat :=
  if getBit bitFields paddingOn then getCanDl b length else length

def contentLength (fit : Sendable b cfg x n) (i : Nat) : Nat :=
  addressSize (cfg.txSdu x).addressFormatId + (pciOf b cfg x n i).pciSize +
    (fit.cut.start (i + 1) - fit.cut.start i)

/-- A frame carries piece `i` of the payload. -/
structure Carries (fit : Sendable b cfg x n) (payload : List UInt8) (i : Nat)
    (bytes : List UInt8) : Prop where
  address : (cfg.txSdu x).addressFormatId ≠ 0 → bytes.getD 0 0 = (cfg.txSdu x).address
  length : bytes.length = wireLength b (cfg.txSdu x).bitFields (contentLength fit i)
  header : ∀ data : Mem, data.read 0 bytes.length = bytes →
    ∀ k < (headerOf b cfg x n i).length,
      data (addressSize (cfg.txSdu x).addressFormatId + k) = (headerOf b cfg x n i).getD k 0
  payload : ∀ data : Mem, data.read 0 bytes.length = bytes →
    data.read (addressSize (cfg.txSdu x).addressFormatId + (pciOf b cfg x n i).pciSize)
      (fit.cut.start (i + 1) - fit.cut.start i) = fit.cut.piece payload i

structure Loaded (fit : Sendable b cfg x n) (i : Nat) (ch : Channel) : Prop where
  active : ch.activeSduId = x
  pciId : ch.pciId = pciOf b cfg x n i
  remaining : ch.sduLengthRemaining = n - fit.cut.start i
  sduLength : i = 0 → ch.sduLength = n
  sn : 0 < i → ch.sn = i % 16

theorem getCanDl_full (b : Build) (connection : TxSdu) :
    getCanDl b (getTxDl b connection) = getTxDl b connection := by
  have table : ∀ dl ∈ [8, 12, 16, 20, 24, 32, 48, 64], canDlTable.getD dl 0 = dl := by decide
  unfold getCanDl getTxDl
  split
  · exact table _ connection.txDl.property
  · rfl

theorem wireLength_full (b : Build) (bitFields : UInt8) (connection : TxSdu) :
    wireLength b bitFields (getTxDl b connection) = getTxDl b connection := by
  unfold wireLength
  split
  · exact getCanDl_full b connection
  · rfl

theorem wireLength_bounds (b : Build) (bitFields : UInt8) {connection : TxSdu} {length : Nat}
    (inside : length ≤ getTxDl b connection) :
    length ≤ wireLength b bitFields length ∧ wireLength b bitFields length ≤ 64 := by
  have txDl := getTxDl_bounds (b := b) connection
  unfold wireLength
  split
  · unfold getCanDl
    split
    · have bounds := canDlTable_bounds length (by omega)
      exact ⟨bounds.1, bounds.2.2⟩
    · rename_i classic
      simp only [getTxDl, if_neg classic] at inside
      exact ⟨inside, by decide⟩
  · exact ⟨Nat.le_refl _, by omega⟩

theorem assembled_address {f : Fin 5} (prepended : f ≠ 0) (address : UInt8) (body : Mem)
    (pci : List UInt8) {total : Nat} (positive : 0 < total) :
    (((prependAddress f address body).write (pciOffset f) pci).read 0 total).getD 0 0 =
      address := by
  have offset : pciOffset f = 1 := if_pos prepended
  rw [getD_read _ _ _ positive, offset, write_outside _ _ _ _ (Or.inl Nat.one_pos),
    prependAddress, if_pos prepended]
  exact write_inside body 0 [address] 0 Nat.one_pos

end Frames

section Lengths

theorem pciOf_zero (b : Build) (cfg : Config b) (x n : Nat) :
    pciOf b cfg x n 0 = txPciInit b cfg x n := if_pos rfl

theorem pciOf_later {i : Nat} (later : 0 < i) : pciOf b cfg x n i = .cf :=
  if_neg (Nat.ne_of_gt later)

theorem Sendable.first_length (fit : Sendable b cfg x n) :
    fit.cut.start (0 + 1) - fit.cut.start 0 = headLength b cfg x n := by
  rw [Nat.zero_add, Cut.start_one, Cut.start_zero]
  exact Nat.sub_zero _

theorem Sendable.later_length (fit : Sendable b cfg x n) {i : Nat} (later : 0 < i) :
    fit.cut.start (i + 1) - fit.cut.start i =
      min (roomLength b (cfg.txSdu x)) (n - fit.cut.start i) := by
  rw [Cut.start_succ _ later, Nat.add_sub_cancel_left]
  rfl

theorem contentLength_single (fit : Sendable b cfg x n)
    (single : (txPciInit b cfg x n).frameType = .single) :
    contentLength fit 0 = addressSize (cfg.txSdu x).addressFormatId +
      (txPciInit b cfg x n).pciSize + n := by
  rw [contentLength, fit.first_length, headLength_single single, pciOf_zero]

theorem contentLength_first (fit : Sendable b cfg x n)
    (first : (txPciInit b cfg x n).frameType = .first) :
    contentLength fit 0 = getTxDl b (cfg.txSdu x) := by
  rw [contentLength, fit.first_length, pciOf_zero]
  exact (fit.headLength_first first).2.2

theorem contentLength_later (fit : Sendable b cfg x n) {i : Nat} (later : 0 < i) :
    contentLength fit i = addressSize (cfg.txSdu x).addressFormatId + 1 +
      min (roomLength b (cfg.txSdu x)) (n - fit.cut.start i) := by
  rw [contentLength, fit.later_length later, pciOf_later later]
  rfl

theorem contentLength_le (fit : Sendable b cfg x n) (i : Nat) :
    contentLength fit i ≤ getTxDl b (cfg.txSdu x) := by
  have room := roomLength_bounds b (cfg.txSdu x)
  by_cases later : 0 < i
  · rw [contentLength_later fit later]
    omega
  · obtain rfl := Nat.eq_zero_of_not_pos later
    rcases fit.frameType with single | first
    · have layouts := fit.layout
      have txDl := getTxDl_bounds (b := b) (cfg.txSdu x)
      rw [contentLength_single fit single]
      generalize txPciInit b cfg x n = pciId at single layouts
      cases layouts with
      | sfCan fits =>
          simp only [Npci.pciSize]
          omega
      | sfCanFd fd long fits =>
          simp only [Npci.pciSize]
          omega
      | ffCan => cases single
      | ffCanFd => cases single
    · exact (contentLength_first fit first).le

end Lengths

section Assembly
variable {s : State} {c i : Nat} {payload : List UInt8}

def handOver (cfg : Config b) (env : Env) (fit : Sendable b cfg x n) (payload : List UInt8)
    (c i : Nat) (s : State) : State :=
  let id := (cfg.txSdu x).pduRPduHandleId
  let length := fit.cut.start (i + 1) - fit.cut.start i
  s.emit (.copyTxData c x id (fit.cut.piece payload i) .ok (env.copyTxData s.log id length).2.2)

structure Supplied (env : Env) (fit : Sendable b cfg x n) (payload : List UInt8) (i : Nat)
    (s : State) : Prop where
  taken : (env.copyTxData s.log (cfg.txSdu x).pduRPduHandleId
    (fit.cut.start (i + 1) - fit.cut.start i)).1 = .ok
  given : (env.copyTxData s.log (cfg.txSdu x).pduRPduHandleId
    (fit.cut.start (i + 1) - fit.cut.start i)).2.1.read 0
      (fit.cut.start (i + 1) - fit.cut.start i) = fit.cut.piece payload i

def framed (connection : TxSdu) (body : Mem) (pci : List UInt8) (total : Nat) : List UInt8 :=
  ((prependAddress connection.addressFormatId connection.address body).write
    (pciOffset connection.addressFormatId) pci).read 0 total

theorem createTxSingleFrame_framed {fit : Sendable b cfg x n}
    (single : (txPciInit b cfg x n).frameType = .single)
    (waiting : s.subState c = .txWaitForTransmitConfirmation)
    (loaded : Loaded fit 0 (s.channel c)) (supplied : Supplied env fit payload 0 s) :
    ∃ body, createTxSingleFrame b cfg env s c = (handOver cfg env fit payload c 0 s,
      some ⟨framed (cfg.txSdu x) body (singleFramePci b (txPciInit b cfg x n) n)
        (wireLength b (cfg.txSdu x).bitFields (contentLength fit 0)),
        fit.cut.piece payload 0⟩) := by
  have inside := contentLength_le fit 0
  have txDl := getTxDl_bounds (b := b) (cfg.txSdu x)
  have whole := contentLength_single fit single
  have length : u8 (s.channel c).sduLengthRemaining = fit.cut.start (0 + 1) - fit.cut.start 0 := by
    rw [loaded.remaining, fit.first_length, headLength_single single, Cut.start_zero,
      Nat.sub_zero, u8_small (by omega)]
  have offset : u8 (contentLength fit 0) = contentLength fit 0 := u8_small (by omega)
  simp only [createTxSingleFrame, if_pos waiting, length, loaded.active, supplied.taken,
    supplied.given, ne_eq, not_true_eq_false, if_false, loaded.pciId, loaded.sduLength rfl,
    pciOf_zero]
  have content : addressSize (cfg.txSdu x).addressFormatId + (txPciInit b cfg x n).pciSize +
      (fit.cut.start (0 + 1) - fit.cut.start 0) = contentLength fit 0 := by
    rw [contentLength, pciOf_zero]
  simp only [padFrame, content, offset, wireLength]
  split
  · exact ⟨_, rfl⟩
  · exact ⟨_, rfl⟩

theorem createTxFirstFrame_framed {fit : Sendable b cfg x n}
    (first : (txPciInit b cfg x n).frameType = .first)
    (waiting : s.subState c = .txWaitForTransmitConfirmation)
    (loaded : Loaded fit 0 (s.channel c)) (supplied : Supplied env fit payload 0 s) :
    ∃ body, createTxFirstFrame b cfg env s c = (handOver cfg env fit payload c 0 s,
      some ⟨framed (cfg.txSdu x) body (firstFramePci b (txPciInit b cfg x n) n)
        (wireLength b (cfg.txSdu x).bitFields (contentLength fit 0)),
        fit.cut.piece payload 0⟩) := by
  have txDl := getTxDl_bounds (b := b) (cfg.txSdu x)
  have head := (fit.headLength_first first).2.2
  have length : sub8 (getTxDl b (cfg.txSdu x)) (addressSize (cfg.txSdu x).addressFormatId +
      (txPciInit b cfg x n).pciSize) = fit.cut.start (0 + 1) - fit.cut.start 0 := by
    rw [fit.first_length, sub8_le _ _ (by omega) (by omega)]
    omega
  simp only [createTxFirstFrame, if_pos waiting, loaded.active, loaded.pciId, pciOf_zero,
    length, supplied.taken, supplied.given, ne_eq, not_true_eq_false, if_false,
    loaded.sduLength rfl, contentLength_first fit first, wireLength_full]
  exact ⟨_, rfl⟩

theorem createTxConsecutiveFrame_framed {fit : Sendable b cfg x n} (later : 0 < i)
    (waiting : s.subState c = .txWaitForTransmitConfirmation)
    (loaded : Loaded fit i (s.channel c)) (supplied : Supplied env fit payload i s) :
    ∃ body, createTxConsecutiveFrame b cfg env s c = (handOver cfg env fit payload c i s,
      some ⟨framed (cfg.txSdu x) body [UInt8.ofNat (0x20 ||| i % 16)]
        (wireLength b (cfg.txSdu x).bitFields (contentLength fit i)),
        fit.cut.piece payload i⟩) := by
  have txDl := getTxDl_bounds (b := b) (cfg.txSdu x)
  have room := roomLength_bounds b (cfg.txSdu x)
  have one : cfPciSize = 1 := rfl
  have most : sub8 (getTxDl b (cfg.txSdu x))
      (addressSize (cfg.txSdu x).addressFormatId + cfPciSize) = roomLength b (cfg.txSdu x) := by
    rw [sub8_le _ _ (by omega) (by omega)]
    rfl
  have length : cfLength (n - fit.cut.start i) (roomLength b (cfg.txSdu x)) =
      fit.cut.start (i + 1) - fit.cut.start i := by
    rw [fit.later_length later]
    unfold cfLength
    split
    · omega
    · rw [u8_small (by omega)]
      omega
  simp only [createTxConsecutiveFrame, if_pos waiting, loaded.active, loaded.remaining, most,
    length, supplied.taken, supplied.given, ne_eq, not_true_eq_false, if_false,
    loaded.sn later]
  have content := contentLength_later fit later
  split
  · rename_i short
    have sum : addressSize (cfg.txSdu x).addressFormatId + cfPciSize +
        (fit.cut.start (i + 1) - fit.cut.start i) = contentLength fit i := by
      rw [fit.later_length later, content, one]
    have offset : u8 (contentLength fit i) = contentLength fit i := u8_small (by omega)
    simp only [padFrame, sum, offset, wireLength]
    split
    · exact ⟨_, rfl⟩
    · exact ⟨_, rfl⟩
  · rename_i full
    have whole : contentLength fit i = getTxDl b (cfg.txSdu x) := by omega
    rw [whole, wireLength_full]
    exact ⟨_, rfl⟩

theorem Loaded.transmittable {fit : Sendable b cfg x n} {ch : Channel}
    (loaded : Loaded fit i ch) : Transmittable b cfg ch := by
  by_cases later : 0 < i
  · simp only [Transmittable, loaded.pciId, pciOf_later later, Npci.frameType, loaded.sn later]
    exact Nat.mod_lt _ (by decide)
  · obtain rfl := Nat.eq_zero_of_not_pos later
    have layout := loaded.pciId
    have remaining := loaded.remaining
    rw [pciOf_zero] at layout
    rw [Cut.start_zero, Nat.sub_zero] at remaining
    have fresh : ch.pciId = txPciInit b cfg ch.activeSduId ch.sduLength ∧
        ch.sduLengthRemaining = ch.sduLength ∧ 0 < ch.sduLength ∧
        ch.sduLength ≤ maxTransmitLength b (cfg.txSdu ch.activeSduId) ch.pciId := by
      rw [loaded.active, loaded.sduLength rfl, layout]
      exact ⟨rfl, remaining, fit.positive, fit.limit⟩
    rcases fit.frameType with single | first
    · simpa only [Transmittable, layout, single] using fresh
    · simpa only [Transmittable, layout, first] using fresh

theorem Loaded.pciBytes {fit : Sendable b cfg x n} (loaded : Loaded fit i (s.channel c)) :
    pciBytes b cfg s (s.channel c) = headerOf b cfg x n i := by
  by_cases later : 0 < i
  · simp only [CanTp.pciBytes, headerOf, loaded.pciId, pciOf_later later, Npci.frameType,
      loaded.sn later]
  · obtain rfl := Nat.eq_zero_of_not_pos later
    simp only [CanTp.pciBytes, headerOf, loaded.pciId, pciOf_zero, loaded.sduLength rfl]
    rcases fit.frameType with single | first
    · simp only [single]
    · simp only [first]

theorem carries_framed {fit : Sendable b cfg x n} (whole : payload.length = n)
    (format : (cfg.txSdu x).addressFormatId ≠ 4) (loaded : Loaded fit i (s.channel c))
    {body : Mem} {pci : List UInt8} {frame : Frame}
    (bytes : frame.bytes = framed (cfg.txSdu x) body pci
      (wireLength b (cfg.txSdu x).bitFields (contentLength fit i)))
    (piece : frame.payload = fit.cut.piece payload i)
    (built : (createFrame b cfg env s c).2 = some frame) :
    Carries fit payload i frame.bytes := by
  have data : (s.channel c).pciId ≠ .fc := by
    rw [loaded.pciId, pciOf]
    split
    · rcases fit.frameType with single | first
      · rintro flow
        rw [flow] at single
        cases single
      · rintro flow
        rw [flow] at first
        cases first
    · exact nofun
  have same : addressFormat cfg (s.channel c) = (cfg.txSdu x).addressFormatId := by
    rw [addressFormat, if_neg data, loaded.active]
  have laid := (createFrame_agrees (same ▸ format) loaded.transmittable built).laidOut
  rw [same, loaded.pciBytes] at laid
  have size : frame.payload.length = fit.cut.start (i + 1) - fit.cut.start i := by
    rw [piece]
    exact fit.cut.piece_length whole i
  have length : frame.bytes.length =
      wireLength b (cfg.txSdu x).bitFields (contentLength fit i) := by
    rw [bytes, framed, read_length]
  refine ⟨fun prepended => ?_, length, fun data holds => (laid.read holds).1, fun data holds => ?_⟩
  · have positive : 0 < wireLength b (cfg.txSdu x).bitFields (contentLength fit i) := by
      have longer := laid.length_le
      have pciSize : 0 < (s.channel c).pciId.pciSize := by
        cases (s.channel c).pciId <;> simp [Npci.pciSize]
      omega
    rw [bytes, framed]
    exact assembled_address prepended _ body pci positive
  · have read := (laid.read holds).2
    rw [size, piece, loaded.pciId] at read
    exact read

theorem createFrame_carries {fit : Sendable b cfg x n} (whole : payload.length = n)
    (format : (cfg.txSdu x).addressFormatId ≠ 4)
    (waiting : s.subState c = .txWaitForTransmitConfirmation)
    (loaded : Loaded fit i (s.channel c)) (supplied : Supplied env fit payload i s) :
    ∃ frame, createFrame b cfg env s c = (handOver cfg env fit payload c i s, some frame) ∧
      frame.payload = fit.cut.piece payload i ∧ Carries fit payload i frame.bytes := by
  have framed : ∃ body pci, createFrame b cfg env s c = (handOver cfg env fit payload c i s,
      some ⟨framed (cfg.txSdu x) body pci
        (wireLength b (cfg.txSdu x).bitFields (contentLength fit i)),
        fit.cut.piece payload i⟩) := by
    by_cases later : 0 < i
    · obtain ⟨body, created⟩ := createTxConsecutiveFrame_framed later waiting loaded supplied
      refine ⟨body, _, Eq.trans ?_ created⟩
      simp only [createFrame, loaded.pciId, pciOf_later later, Npci.frameType]
    · obtain rfl := Nat.eq_zero_of_not_pos later
      have layout := loaded.pciId
      rw [pciOf_zero] at layout
      rcases fit.frameType with single | first
      · obtain ⟨body, created⟩ := createTxSingleFrame_framed single waiting loaded supplied
        refine ⟨body, _, Eq.trans ?_ created⟩
        simp only [createFrame, layout, single]
      · obtain ⟨body, created⟩ := createTxFirstFrame_framed first waiting loaded supplied
        refine ⟨body, _, Eq.trans ?_ created⟩
        simp only [createFrame, layout, first]
  obtain ⟨body, pci, created⟩ := framed
  exact ⟨_, created, rfl, carries_framed whole format loaded rfl rfl (congrArg Prod.snd created)⟩

end Assembly

section Blocks

theorem blockCfs_ceil (length : Nat) {payLoadLength : Nat} (room : 0 < payLoadLength) :
    blockCfs length payLoadLength = (length + payLoadLength - 1) / payLoadLength := by
  have factor := Nat.div_add_mod length payLoadLength
  have rest := Nat.mod_lt length room
  unfold blockCfs
  generalize length / payLoadLength = q at factor ⊢
  generalize length % payLoadLength = r at factor rest ⊢
  split
  · rename_i whole
    rw [show length + payLoadLength - 1 = payLoadLength - 1 + payLoadLength * q by omega,
      Nat.add_mul_div_left _ _ room, Nat.div_eq_of_lt (by omega), Nat.zero_add]
  · rename_i part
    rw [show length + payLoadLength - 1 = r - 1 + payLoadLength * (q + 1) by
        rw [Nat.mul_add]; omega,
      Nat.add_mul_div_left _ _ room, Nat.div_eq_of_lt (by omega), Nat.zero_add]

theorem Sendable.blockCfs_rest (fit : Sendable b cfg x n) {i : Nat} (later : 0 < i)
    (inside : i ≤ fit.cut.pieces) :
    blockCfs (n - fit.cut.start i) (roomLength b (cfg.txSdu x)) = fit.cut.pieces - i := by
  have room : 0 < roomLength b (cfg.txSdu x) := fit.cut.room_pos
  rw [blockCfs_ceil _ room]
  exact fit.cut.rest_pieces later inside

def Sendable.blockEnd (fit : Sendable b cfg x n) (bs i : Nat) : Nat :=
  if bs = 0 then fit.cut.pieces else min fit.cut.pieces (i + bs)

theorem Sendable.blockEnd_bounds (fit : Sendable b cfg x n) (bs : Nat) {i : Nat}
    (inside : i < fit.cut.pieces) :
    i < fit.blockEnd bs i ∧ fit.blockEnd bs i ≤ fit.cut.pieces := by
  unfold Sendable.blockEnd
  split <;> omega

end Blocks

section FlowControl
variable {s : State} {c : Nat}

/-- A flow control frame of RX SDU `r` that clears the sender to send. -/
structure Clears (connection : RxSdu) (bs : Nat) (bytes : List UInt8) : Prop where
  address : connection.addressFormatId ≠ 0 → bytes.getD 0 0 = connection.address
  length : bytes.length = if getBit connection.bitFields paddingOn then defaultCanDl
    else fcPciSize + addressSize connection.addressFormatId
  header : ∀ data : Mem, data.read 0 bytes.length = bytes →
    (data (addressSize connection.addressFormatId)).toNat = 0x30 ∧
      (data (addressSize connection.addressFormatId + 1)).toNat = bs

theorem clears_read {connection : RxSdu} {buffer : Mem} {bs total : Nat} (small : bs < 256)
    (size : total = if getBit connection.bitFields paddingOn then defaultCanDl
      else fcPciSize + addressSize connection.addressFormatId)
    (address : connection.addressFormatId ≠ 0 → buffer 0 = connection.address)
    (first : buffer (addressSize connection.addressFormatId) = 0x30)
    (second : buffer (addressSize connection.addressFormatId + 1) = UInt8.ofNat bs) :
    Clears connection bs (buffer.read 0 total) := by
  have extent := addressSize_le connection.addressFormatId
  have long : addressSize connection.addressFormatId + 2 < total + 1 := by
    rw [size]
    split
    · simp only [defaultCanDl]
      omega
    · simp only [fcPciSize]
      omega
  refine ⟨fun prepended => ?_, ?_, fun data holds => ?_⟩
  · rw [getD_read _ _ _ (by omega)]
    exact address prepended
  · rw [read_length]
    exact size
  · have byte {k : Nat} (inside : k < total) : data k = buffer k := by
      rw [read_getD holds (by rw [read_length]; exact inside), getD_read _ _ _ inside]
    rw [byte (by omega), byte (by omega), first, second]
    refine ⟨rfl, ?_⟩
    rw [UInt8.toNat_ofNat']
    exact Nat.mod_eq_of_lt small

theorem createTxFlowControlFrame_clears {r bs : Nat}
    (format : (cfg.rxSdu r).addressFormatId ≠ 4)
    (waiting : s.subState c = .rxWaitForFcTransmitConfirmation)
    (active : (s.channel c).activeSduId = r) (clear : (s.channel c).flowStatus = .cts)
    (block : (s.channel c).bs = bs) (small : bs < 256) :
    ∃ frame, createTxFlowControlFrame b cfg env s c = (s, some frame) ∧ frame.payload = [] ∧
      Clears (cfg.rxSdu r) bs frame.bytes := by
  obtain ⟨-, offset⟩ := prependAddress_agrees format (cfg.rxSdu r).address (fun _ => 0)
  rw [addressBytes_length] at offset
  have front (pci : List UInt8) (prepended : (cfg.rxSdu r).addressFormatId ≠ 0) :
      (prependAddress (cfg.rxSdu r).addressFormatId (cfg.rxSdu r).address
        (env.sduBuffer s.log)).write (pciOffset (cfg.rxSdu r).addressFormatId) pci 0 =
          (cfg.rxSdu r).address := by
    rw [pciOffset, if_pos prepended, write_outside _ _ _ _ (Or.inl Nat.one_pos), prependAddress,
      if_pos prepended]
    exact write_inside _ 0 [_] 0 Nat.one_pos
  have header (buffer : Mem) (k : Nat) (pci : List UInt8) (inside : k < pci.length) :
      buffer.write (pciOffset (cfg.rxSdu r).addressFormatId) pci
        (addressSize (cfg.rxSdu r).addressFormatId + k) = pci[k] := by
    rw [← offset]
    exact write_inside _ _ _ _ inside
  simp only [createTxFlowControlFrame, if_pos waiting, active, clear, block]
  generalize getRxParam b cfg s r .stMin = stMin
  have three : fcPciSize = 3 := rfl
  split
  · rename_i padded
    -- the padding goes behind the three PCI bytes
    have kept (buffer : Mem) (padding : List UInt8) {k : Nat}
        (before : k < pciOffset (cfg.rxSdu r).addressFormatId + 3) :
        buffer.write (pciOffset (cfg.rxSdu r).addressFormatId + fcPciSize) padding k =
          buffer k := write_outside _ _ _ _ (Or.inl (by omega))
    refine ⟨_, rfl, rfl, clears_read small (if_pos padded).symm (fun prepended => ?_) ?_ ?_⟩
    · rw [kept _ _ (by omega)]
      exact front _ prepended
    · rw [kept _ _ (by omega)]
      exact header _ 0 _ (by simp)
    · rw [kept _ _ (by omega)]
      exact header _ 1 _ (by simp)
  · rename_i plain
    refine ⟨_, rfl, rfl, clears_read small ?_ (front _) (header _ 0 _ (by simp))
      (header _ 1 _ (by simp))⟩
    rw [if_neg plain, offset, Nat.add_comm]

end FlowControl

end AnchorNode.CanTp
