import AnchorNode.CanDrv.Delivery

/-! A frame that one driver writes is the one that another driver indicates, on its own and in the
runs of both. -/

namespace AnchorNode.CanDrv

open AnchorNode.Lib

section Storing

def rxStatusWord (frame : BusFrame) (filter : Nat) (timeStamp : BitVec 16) : Word :=
  (BitVec.ofNat 32 filter <<< 24) ||| (frame.fdf <<< 21) ||| (frame.brs <<< 20) |||
    (frame.dlc <<< 16) ||| timeStamp.setWidth 32

def BusFrame.stored (frame : BusFrame) (filter : Nat) (timeStamp : BitVec 16) : RxFrame where
  r0 := frame.identifier
  r1 := rxStatusWord frame filter timeStamp
  data := (List.range (wordCount frame.data.length)).map (packWord fun i => frame.data.getD i 0)

/-- An identifier as the layers above give it: a standard one of 11 bits or an extended one of 29,
with the flags of its type and its format. -/
def Identifies (id : Word) : Prop :=
  if id &&& idTypeMask = 0#32 then field id 11 19 = 0#32 else field id 29 1 = 0#32

/-- An identifier that the drivers at both ends understand alike. -/
structure Understood (cfg cfg' : Config) (id : Word) : Prop where
  identifies : Identifies id
  formats : id &&& frameTypeMask ≠ 0#32 →
    cfg.canFdBaudRateEnabled = true ∧ cfg'.canFdBaudRateEnabled = true

/-- What the driver at the other end reports of a request: the identifier of the PDU, the object of
the filter, and the bytes, padded up to the length of a frame. -/
def delivered (cfg cfg' : Config) (request : Request) (filter : Nat) (timeStamp : BitVec 16) :
    Mailbox × RxPdu :=
  (⟨if request.pdu.id &&& idTypeMask = 0#32 then cfg'.canFilterIdxToRxObjStandard filter
      else cfg'.canFilterIdxToRxObjExtended filter, request.pdu.id⟩,
    ⟨request.pdu.sdu ++ List.replicate
      (messageLength cfg request.pdu.sdu.length - request.pdu.sdu.length)
      request.txObj.canFdPaddingValue, timeStamp⟩)

end Storing

variable {cfg cfg' : Config} {pdu : CanPdu} {txObj : TxObjConfig} {residue : Nat → UInt8}
  {frame : BusFrame} {filter : Nat} {timeStamp : BitVec 16} {id : Word}

section Status

structure StatusFields (frame : BusFrame) (filter : Nat) (timeStamp : BitVec 16) (w : Word) :
    Prop where
  filter : field w 24 7 = BitVec.ofNat 32 filter
  fdf : field w 21 1 = frame.fdf
  dlc : field w 16 4 = frame.dlc
  stamp : field w 0 16 = timeStamp.setWidth 32

theorem rxStatusWord_fields (known : filter < 128) (fdf : frame.fdf.toNat < 2)
    (brs : frame.brs.toNat < 2) (dlc : frame.dlc.toNat < 16) :
    StatusFields frame filter timeStamp (rxStatusWord frame filter timeStamp) := by
  have i : (BitVec.ofNat 32 filter).toNat < 2 ^ 7 := ofNat_small known
  have f : frame.fdf.toNat < 2 ^ 1 := fdf
  have b : frame.brs.toNat < 2 ^ 1 := brs
  have d : frame.dlc.toNat < 2 ^ 4 := dlc
  have t : (timeStamp.setWidth 32).toNat < 2 ^ 16 := by
    rw [BitVec.toNat_setWidth]
    exact Nat.lt_of_le_of_lt (Nat.mod_le _ _) timeStamp.isLt
  constructor <;> simp only [rxStatusWord, field_or]
  · rw [field_shiftLeft_self i (by omega), field_shiftLeft_below f (by omega),
      field_shiftLeft_below b (by omega), field_shiftLeft_below d (by omega),
      field_small t (by omega)]
    simp
  · rw [field_shiftLeft_above (by omega), field_shiftLeft_self f (by omega),
      field_shiftLeft_below b (by omega), field_shiftLeft_below d (by omega),
      field_small t (by omega)]
    simp
  · rw [field_shiftLeft_above (by omega), field_shiftLeft_above (by omega),
      field_shiftLeft_above (by omega), field_shiftLeft_self d (by omega),
      field_small t (by omega)]
    simp
  · rw [field_shiftLeft_above (by omega), field_shiftLeft_above (by omega),
      field_shiftLeft_above (by omega), field_shiftLeft_above (by omega), field_self t]
    simp

end Status

section Identifiers

theorem clear_in_field {n off len i : Nat} {w : BitVec n} (none : field w off len = 0#n)
    (low : off ≤ i) (high : i < off + len) : w.getLsbD i = false := by
  have bit := congrArg (BitVec.getLsbD · (i - off)) none
  simpa [getLsbD_field, show i - off < len by omega, Nat.add_sub_cancel' low] using bit

theorem idType_clear : id &&& idTypeMask = 0#32 ↔ id.getLsbD 31 = false :=
  and_bit_eq_zero (b := 31) id (by decide)

theorem frameType_clear : id &&& frameTypeMask = 0#32 ↔ id.getLsbD 30 = false :=
  and_bit_eq_zero (b := 30) id (by decide)

theorem getLsbD_frameType (i : Nat) :
    (id &&& frameTypeMask).getLsbD i = (id.getLsbD i && decide (i = 30)) := by
  rw [BitVec.getLsbD_and, show frameTypeMask = 1#32 <<< 30 from rfl, getLsbD_bit (by decide)]

theorem format_back (formats : id &&& frameTypeMask ≠ 0#32 →
      cfg.canFdBaudRateEnabled = true ∧ cfg'.canFdBaudRateEnabled = true) (canId : Word) :
    (if cfg'.canFdBaudRateEnabled = true ∧ fdfConfig cfg id = 1#32 then canId ||| frameTypeMask
      else canId) = canId ||| (id &&& frameTypeMask) := by
  by_cases plain : id &&& frameTypeMask = 0#32
  · have classic : fdfConfig cfg id = 0#32 := if_neg fun fd => fd.2 plain
    rw [classic, if_neg (by simp), plain, BitVec.or_zero]
  · obtain ⟨sender, receiver⟩ := formats plain
    have fd : fdfConfig cfg id = 1#32 := if_pos ⟨sender, plain⟩
    have flag : id.getLsbD 30 = true := by
      by_contra off
      exact plain (frameType_clear.mpr (Bool.not_eq_true _ ▸ off))
    rw [fd, if_pos ⟨receiver, rfl⟩]
    congr 1
    refine BitVec.eq_of_getLsbD_eq fun i _ => ?_
    rw [getLsbD_frameType, show frameTypeMask = 1#32 <<< 30 from rfl, getLsbD_bit (by decide)]
    by_cases here : i = 30
    · simp [here, flag]
    · simp [here]

theorem standard_back (standard : id.getLsbD 31 = false) (short : field id 11 19 = 0#32) :
    ((id <<< 18 &&& 0x1FFFFFFF#32) >>> 18) ||| (id &&& frameTypeMask) = id := by
  refine BitVec.eq_of_getLsbD_eq fun i inside => ?_
  rw [show (0x1FFFFFFF#32) = BitVec.ofNat 32 (2 ^ 29 - 1) from rfl, masked_low, BitVec.getLsbD_or,
    getLsbD_frameType, BitVec.getLsbD_ushiftRight, getLsbD_field, BitVec.getLsbD_shiftLeft]
  by_cases low : i < 11
  · simp [show 18 + i < 29 by omega, show 18 + i < 32 by omega, show i ≠ 30 by omega]
  · by_cases middle : i < 30
    · simp [clear_in_field short (Nat.le_of_not_lt low) middle]
    · obtain rfl | rfl : i = 30 ∨ i = 31 := by omega
      · simp
      · rw [standard]
        simp

theorem extended_back (extended : id.getLsbD 31 = true) (short : field id 29 1 = 0#32) :
    (((1#32 <<< 30) ||| id) &&& 0x1FFFFFFF#32) ||| idTypeMask ||| (id &&& frameTypeMask) = id := by
  refine BitVec.eq_of_getLsbD_eq fun i inside => ?_
  rw [show (0x1FFFFFFF#32) = BitVec.ofNat 32 (2 ^ 29 - 1) from rfl, masked_low, BitVec.getLsbD_or,
    BitVec.getLsbD_or, getLsbD_frameType, getLsbD_field, BitVec.getLsbD_or,
    show idTypeMask = 1#32 <<< 31 from rfl, getLsbD_bit (by decide), getLsbD_bit (by decide)]
  by_cases low : i < 29
  · simp [low, show i ≠ 30 by omega, show i ≠ 31 by omega]
  · obtain rfl | rfl | rfl : i = 29 ∨ i = 30 ∨ i = 31 := by omega
    · have clear : id.getLsbD 29 = false := clear_in_field short (Nat.le_refl _) (by decide)
      rw [clear]
      simp
    · simp
    · rw [extended]
      simp

end Identifiers

section Mailbox

theorem rxMailbox_eq (msg : MsgInfo) (format : msg.canMessageFormat = fdfConfig cfg id)
    (formats : id &&& frameTypeMask ≠ 0#32 →
      cfg.canFdBaudRateEnabled = true ∧ cfg'.canFdBaudRateEnabled = true) :
    rxMailbox cfg' msg =
      if msg.extended = true then ⟨cfg'.canFilterIdxToRxObjExtended msg.canFilterIndex,
        msg.canId ||| idTypeMask ||| (id &&& frameTypeMask)⟩
      else ⟨cfg'.canFilterIdxToRxObjStandard msg.canFilterIndex,
        msg.canId ||| (id &&& frameTypeMask)⟩ := by
  have flagged (mailbox : Mailbox) :
      (if cfg'.canFdBaudRateEnabled = true ∧ fdfConfig cfg id = 1#32 then
        { mailbox with canId := mailbox.canId ||| frameTypeMask } else mailbox) =
      ⟨mailbox.hoh, mailbox.canId ||| (id &&& frameTypeMask)⟩ := by
    rw [← format_back formats]
    split <;> rfl
  unfold rxMailbox
  rw [format]
  dsimp only
  by_cases kind : msg.extended = true
  · rw [if_pos kind, if_pos kind]
    exact flagged ⟨_, _⟩
  · rw [if_neg kind, if_neg kind]
    exact flagged ⟨_, _⟩

theorem rxMessage_standard (r1 : Word) (data : List Word) (standard : id &&& idTypeMask = 0#32)
    (short : field id 11 19 = 0#32) :
    (rxMessage (txIdWord id) r1 data).extended = false ∧
      (rxMessage (txIdWord id) r1 data).canId = (id <<< 18 &&& 0x1FFFFFFF#32) >>> 18 := by
  have plain : id <<< 18 &&& 0x40000000#32 = 0#32 := by
    refine (and_bit_eq_zero (b := 30) (id <<< 18) (by decide)).mpr ?_
    have clear : id.getLsbD 12 = false := clear_in_field short (by decide) (by decide)
    rw [BitVec.getLsbD_shiftLeft, show 30 - 18 = 12 from rfl, clear, Bool.and_false]
  have word : txIdWord id = id <<< 18 := if_pos standard
  rw [word]
  exact ⟨decide_eq_false (not_not.mpr plain), if_pos plain⟩

theorem rxMessage_extended (r1 : Word) (data : List Word) (extended : id &&& idTypeMask ≠ 0#32) :
    (rxMessage (txIdWord id) r1 data).extended = true ∧
      (rxMessage (txIdWord id) r1 data).canId = ((1#32 <<< 30) ||| id) &&& 0x1FFFFFFF#32 := by
  have marked : ((1#32 <<< 30) ||| id) &&& 0x40000000#32 ≠ 0#32 := by
    rw [BitVec.or_comm]
    exact raised_self (by decide) id
  have word : txIdWord id = (1#32 <<< 30) ||| id := if_neg extended
  rw [word]
  exact ⟨decide_eq_true marked, if_neg marked⟩

end Mailbox

section Data

theorem stored_byte {i : Nat} (inside : i < frame.data.length) :
    unpackByte (fun j => (frame.stored filter timeStamp).data.getD j 0#32) i =
      frame.data.getD i 0 := by
  rw [← unpack_packWord (fun i => frame.data.getD i 0) i]
  refine unpackByte_congr ?_
  simp [BusFrame.stored, List.getD_eq_getElem?_getD, lt_wordCount inside]

theorem stored_data {r1 : Word} (length : rxLength r1 = frame.data.length) :
    (List.range (rxLength r1)).map
      (unpackByte fun j => (frame.stored filter timeStamp).data.getD j 0#32) = frame.data := by
  rw [length]
  refine List.ext_getElem (by simp) fun i inside within => ?_
  rw [List.getElem_map, List.getElem_range, stored_byte within, List.getD_eq_getElem?_getD,
    List.getElem?_eq_getElem within, Option.getD_some]

theorem stored_message (known : filter < 128)
    (fields : StatusFields frame filter timeStamp (rxStatusWord frame filter timeStamp))
    (length : rxLength (rxStatusWord frame filter timeStamp) = frame.data.length) :
    let element := frame.stored filter timeStamp
    let msg := rxMessage element.r0 element.r1 element.data
    msg.canMsgData = frame.data ∧ msg.canMessageFormat = frame.fdf ∧
      msg.canFilterIndex = filter ∧ msg.canTimeStamp = timeStamp := by
  refine ⟨stored_data length, (masked_field _ 21 1).trans fields.fdf, ?_, ?_⟩
  · show ((rxStatusWord frame filter timeStamp &&& 0x7F000000#32) >>> 24).toNat = filter
    have index : (rxStatusWord frame filter timeStamp &&& 0x7F000000#32) >>> 24 =
        field (rxStatusWord frame filter timeStamp) 24 7 := masked_field _ 24 7
    rw [index, fields.filter, BitVec.toNat_ofNat, Nat.mod_eq_of_lt (by omega)]
  · refine BitVec.eq_of_getLsbD_eq fun i inside => ?_
    have bit := congrArg (BitVec.getLsbD · i) fields.stamp
    simp only [getLsbD_field, inside, decide_true, Bool.true_and, Nat.zero_add,
      BitVec.getLsbD_setWidth, show i < 32 by omega] at bit
    show ((rxStatusWord frame filter timeStamp).setWidth 16).getLsbD i = _
    rw [BitVec.getLsbD_setWidth, bit]
    simp [inside]

end Data

section Requests
variable {request : Request} (configured : WellConfigured cfg)
  (sendable : Sendable cfg request.pdu) (known : filter < 128)
include configured sendable known

theorem frameOf_stored :
    let frame := frameOf cfg request
    StatusFields frame filter timeStamp (rxStatusWord frame filter timeStamp) ∧
      rxLength (rxStatusWord frame filter timeStamp) = frame.data.length := by
  intro frame
  obtain ⟨hth, checked⟩ := sendable
  obtain ⟨least, -, short, rounded⟩ := checked_length checked
  have dlc : frame.dlc.toNat = dlcCode cfg request.pdu.sdu.length := by
    show (BitVec.ofNat 32 (dlcCode cfg request.pdu.sdu.length)).toNat = _
    rw [BitVec.toNat_ofNat, Nat.mod_eq_of_lt (by omega)]
  have fields : StatusFields frame filter timeStamp (rxStatusWord frame filter timeStamp) :=
    rxStatusWord_fields known (fdfConfig_bit _) (brsConfig_bit configured)
      (lt_of_eq_of_lt dlc short)
  refine ⟨fields, ?_⟩
  have length : frame.data.length = messageLength cfg request.pdu.sdu.length := by
    show (request.pdu.sdu ++ List.replicate _ _).length = _
    rw [List.length_append, List.length_replicate]
    exact Nat.add_sub_of_le least
  rw [rxLength_field, fields.dlc, dlc, rounded, length]

theorem frameOf_delivered (understood : Understood cfg cfg' request.pdu.id) :
    indication cfg' ((frameOf cfg request).stored filter timeStamp) =
      delivered cfg cfg' request filter timeStamp := by
  have stored : StatusFields (frameOf cfg request) filter timeStamp _ ∧ _ :=
    frameOf_stored configured sendable known
  obtain ⟨data, format, index, stamp⟩ := stored_message known stored.1 stored.2
  have mailbox := rxMailbox_eq _ format understood.formats
  refine Prod.ext (mailbox.trans ?_) (congrArg₂ RxPdu.mk data stamp)
  rw [index]
  have identifies := understood.identifies
  unfold Identifies at identifies
  show _ = Mailbox.mk (if _ then _ else _) _
  split at identifies
  · next standard =>
      obtain ⟨plain, canId⟩ := rxMessage_standard
        (rxStatusWord (frameOf cfg request) filter timeStamp)
        ((frameOf cfg request).stored filter timeStamp).data standard identifies
      rw [if_pos standard]
      refine (if_neg (Bool.eq_false_iff.mp plain)).trans (congrArg (Mailbox.mk _) ?_)
      calc
        _ = ((request.pdu.id <<< 18 &&& 0x1FFFFFFF#32) >>> 18) |||
            (request.pdu.id &&& frameTypeMask) :=
          congrArg (· ||| (request.pdu.id &&& frameTypeMask)) canId
        _ = request.pdu.id := standard_back (idType_clear.mp standard) identifies
  · next extended =>
      obtain ⟨marked, canId⟩ := rxMessage_extended
        (rxStatusWord (frameOf cfg request) filter timeStamp)
        ((frameOf cfg request).stored filter timeStamp).data extended
      have flag : request.pdu.id.getLsbD 31 = true := by
        by_contra off
        exact extended (idType_clear.mpr (Bool.not_eq_true _ ▸ off))
      rw [if_neg extended]
      refine (if_pos marked).trans (congrArg (Mailbox.mk _) ?_)
      calc
        _ = (((1#32 <<< 30) ||| request.pdu.id) &&& 0x1FFFFFFF#32) ||| idTypeMask |||
            (request.pdu.id &&& frameTypeMask) :=
          congrArg (· ||| idTypeMask ||| (request.pdu.id &&& frameTypeMask)) canId
        _ = request.pdu.id := extended_back flag identifies

end Requests

section Bench

def benchRequest : Request := ⟨0, benchConfig.canTxObjConfig 0, benchCall.pdu⟩

theorem bench_understood : Understood benchConfig benchConfig benchRequest.pdu.id where
  identifies := by unfold Identifies; decide
  formats _ := ⟨rfl, rfl⟩

end Bench

section Runs

/-- A frame on its way: what was sent, the filter that lets it pass at the other end, and the time
stamp it is given there. -/
structure Passage where
  sent : Request × BusFrame
  filter : Nat
  timeStamp : BitVec 16

variable {D D' : Type} {chip : Chip D} {chip' : Chip D'} {view : D → View} {view' : D' → View}
  {s : State D} {s' : State D'} {turns turns' : List (Turn Context Choice Happening Entry)}

def benchReceiving : List (Turn Context Choice Happening Entry) :=
  [.move (.chip (.received .fifo1 ((frameOf benchConfig benchRequest).stored 1 7#16))),
    .start .mainFunction .mainRead] ++ benchSteps .mainFunction 20

theorem receiving_permitted : Permitted benchConfig (tcan benchConfig) Tcan.view benchStart
    benchReceiving := by decide +kernel

end Runs

end AnchorNode.CanDrv
