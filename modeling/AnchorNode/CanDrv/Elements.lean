import AnchorNode.CanDrv.System
import AnchorNode.Lib.Fields

/-! The TX elements that the driver builds: their marker, their request for an event, and their
size. -/

namespace AnchorNode.CanDrv

open AnchorNode.Lib

section Specification
variable (cfg : Config)

/-- The frame that a request stands for; the data is padded up to the next length of a frame. -/
def frameOf (request : Request) : BusFrame where
  identifier := txIdWord request.pdu.id
  fdf := fdfConfig cfg request.pdu.id
  brs := brsConfig cfg
  dlc := BitVec.ofNat 32 (dlcCode cfg request.pdu.sdu.length)
  data := request.pdu.sdu ++ List.replicate
    (messageLength cfg request.pdu.sdu.length - request.pdu.sdu.length)
    request.txObj.canFdPaddingValue

/-- A PDU that `Can_44_TCAN4x5x_WriteDetCheck` lets pass, for some handle. -/
def Sendable (pdu : CanPdu) : Prop := ∃ hth, writeDetCheck cfg hth pdu = none

end Specification

variable {cfg : Config} {pdu : CanPdu} {txObj : TxObjConfig} {residue : Nat → UInt8} {marker : Nat}

section Lengths

theorem bufferSizeFd_whole (size : Fin 8) :
    bufferSizeFd size % 4 = 0 ∧ 8 ≤ bufferSizeFd size ∧ bufferSizeFd size ≤ 64 := by
  revert size
  decide

theorem convertToDlc_le (n : Nat) : convertToDlc n ≤ 15 := by
  unfold convertToDlc
  split_ifs <;> omega

theorem roundedLength_le (size : Fin 8) {n : Nat} (fits : n ≤ bufferSizeFd size) :
    n ≤ convertCanDlc (convertToDlc n) ∧ convertCanDlc (convertToDlc n) ≤ bufferSizeFd size := by
  have most := fits.trans (bufferSizeFd_whole size).2.2
  have all : ∀ n ≤ 64, ∀ size, n ≤ bufferSizeFd size →
      n ≤ convertCanDlc (convertToDlc n) ∧
        convertCanDlc (convertToDlc n) ≤ bufferSizeFd size := by decide +kernel
  exact all n most size fits

theorem wordCount_le {n size : Nat} (whole : size % 4 = 0) (fits : n ≤ size) :
    wordCount n * 4 ≤ size := by
  unfold wordCount
  split <;> omega

theorem lt_wordCount {n i : Nat} (inside : i < n) : i / 4 < wordCount n := by
  unfold wordCount
  split <;> omega

theorem checked_length {hth : Nat} (checked : writeDetCheck cfg hth pdu = none) :
    pdu.sdu.length ≤ messageLength cfg pdu.sdu.length ∧
      messageLength cfg pdu.sdu.length ≤ bufferSizeFd cfg.canFdDataBufSize ∧
      dlcCode cfg pdu.sdu.length < 16 ∧
      convertCanDlc (dlcCode cfg pdu.sdu.length) = messageLength cfg pdu.sdu.length := by
  unfold writeDetCheck at checked
  by_cases fd : cfg.canFdBaudRateEnabled
  · have fits : pdu.sdu.length ≤ bufferSizeFd cfg.canFdDataBufSize := by
      by_contra beyond
      split_ifs at checked
      exact beyond (by omega)
    obtain ⟨least, most⟩ := roundedLength_le _ fits
    simp only [messageLength, dlcCode, if_pos fd]
    exact ⟨least, most, Nat.lt_succ_of_le (convertToDlc_le _), trivial⟩
  · have fits : pdu.sdu.length ≤ 8 := by
      by_contra beyond
      split_ifs at checked
      exact beyond (by omega)
    simp only [messageLength, dlcCode, if_neg fd]
    refine ⟨le_refl _, fits.trans (bufferSizeFd_whole _).2.1, by omega, ?_⟩
    interval_cases pdu.sdu.length <;> rfl

theorem checked_hth {hth : Nat} (checked : writeDetCheck cfg hth pdu = none) :
    hth - cfg.canHrhObjectsCount < cfg.canHthObjectsCount := by
  unfold writeDetCheck at checked
  split_ifs at checked <;> omega

end Lengths

section Control

theorem fdfConfig_bit (id : Word) : (fdfConfig cfg id).toNat < 2 := by
  unfold fdfConfig
  split_ifs <;> decide

theorem brsConfig_bit (configured : WellConfigured cfg) : (brsConfig cfg).toNat < 2 := by
  unfold brsConfig
  split_ifs
  · rcases configured.bitRateSwitch with zero | one
    · rw [zero]; decide
    · rw [one]; decide
  · decide

theorem ofNat_small {n k : Nat} (small : n < 2 ^ k) : (BitVec.ofNat 32 n).toNat < 2 ^ k := by
  rw [BitVec.toNat_ofNat]
  exact Nat.lt_of_le_of_lt (Nat.mod_le _ _) small

structure ControlFields (cfg : Config) (pdu : CanPdu) (marker : Nat) (w : Word) : Prop where
  marker : field w 24 8 = BitVec.ofNat 32 marker
  efc : field w 23 1 = 1#32
  fdf : field w 21 1 = fdfConfig cfg pdu.id
  brs : field w 20 1 = brsConfig cfg
  dlc : field w 16 4 = BitVec.ofNat 32 (dlcCode cfg pdu.sdu.length)

theorem txControlWord_fields (configured : WellConfigured cfg)
    (short : dlcCode cfg pdu.sdu.length < 16) (few : marker < 256) :
    ControlFields cfg pdu marker (txControlWord cfg pdu marker) := by
  have m : (BitVec.ofNat 32 marker).toNat < 2 ^ 8 := ofNat_small few
  have d : (BitVec.ofNat 32 (dlcCode cfg pdu.sdu.length)).toNat < 2 ^ 4 :=
    ofNat_small short
  have f : (fdfConfig cfg pdu.id).toNat < 2 ^ 1 := fdfConfig_bit _
  have b : (brsConfig cfg).toNat < 2 ^ 1 := brsConfig_bit configured
  have e : (1#32).toNat < 2 ^ 1 := by decide
  constructor <;> simp only [txControlWord, field_or]
  · rw [field_shiftLeft_self m (by omega), field_shiftLeft_below e (by omega),
      field_shiftLeft_below f (by omega), field_shiftLeft_below b (by omega),
      field_shiftLeft_below d (by omega)]
    simp
  · rw [field_shiftLeft_above (by omega), field_shiftLeft_self e (by omega),
      field_shiftLeft_below f (by omega), field_shiftLeft_below b (by omega),
      field_shiftLeft_below d (by omega)]
    simp
  · rw [field_shiftLeft_above (by omega), field_shiftLeft_above (by omega),
      field_shiftLeft_self f (by omega), field_shiftLeft_below b (by omega),
      field_shiftLeft_below d (by omega)]
    simp
  · rw [field_shiftLeft_above (by omega), field_shiftLeft_above (by omega),
      field_shiftLeft_above (by omega), field_shiftLeft_self b (by omega),
      field_shiftLeft_below d (by omega)]
    simp
  · rw [field_shiftLeft_above (by omega), field_shiftLeft_above (by omega),
      field_shiftLeft_above (by omega), field_shiftLeft_above (by omega),
      field_shiftLeft_self d (by omega)]
    simp

end Control

section Data

theorem byte_small (b : UInt8) : (b.toBitVec.setWidth 32).toNat < 2 ^ 8 := by
  rw [BitVec.toNat_setWidth]
  exact Nat.lt_of_le_of_lt (Nat.mod_le _ _) b.toBitVec.isLt

theorem packWord_fields (bytes : Nat → UInt8) (i : Nat) {k : Nat} (inside : k < 4) :
    field (packWord bytes i) (k * 8) 8 = (bytes (4 * i + k)).toBitVec.setWidth 32 := by
  have small (j : Nat) := byte_small (bytes (4 * i + j))
  have first : (bytes (4 * i)).toBitVec.setWidth 32 =
      (bytes (4 * i + 0)).toBitVec.setWidth 32 <<< 0 := by simp
  simp only [packWord, field_or]
  interval_cases k
  · rw [field_self (small 0), field_shiftLeft_above (by omega), field_shiftLeft_above (by omega),
      field_shiftLeft_above (by omega)]
    simp
  · rw [field_small (small 0) (by omega), field_shiftLeft_self (small 1) (by omega),
      field_shiftLeft_above (by omega), field_shiftLeft_above (by omega)]
    simp
  · rw [field_small (small 0) (by omega), field_shiftLeft_below (small 1) (by omega),
      field_shiftLeft_self (small 2) (by omega), field_shiftLeft_above (by omega)]
    simp
  · rw [field_small (small 0) (by omega), field_shiftLeft_below (small 1) (by omega),
      field_shiftLeft_below (small 2) (by omega), field_shiftLeft_self (small 3) (by omega)]
    simp

theorem shifted_byte (w : Word) (off : Nat) :
    (w >>> off).setWidth 8 = (field w off 8).setWidth 8 := by
  refine BitVec.eq_of_getLsbD_eq fun i inside => ?_
  simp [getLsbD_field, inside]

theorem unpack_packWord (bytes : Nat → UInt8) (i : Nat) :
    unpackByte (packWord bytes) i = bytes i := by
  have place : 4 * (i / 4) + i % 4 = i := Nat.div_add_mod i 4
  rw [unpackByte, shifted_byte, packWord_fields _ _ (Nat.mod_lt i (by decide)), place]
  refine UInt8.eq_of_toBitVec_eq ?_
  simp

theorem unpackByte_congr {v w : Nat → Word} {i : Nat} (same : v (i / 4) = w (i / 4)) :
    unpackByte v i = unpackByte w i := by
  rw [unpackByte, unpackByte, same]

end Data

section Filled
variable {old : Nat → Word}

theorem txElement_getD (i : Nat) (inside : i < wordCount (messageLength cfg pdu.sdu.length)) :
    (txElement cfg txObj pdu residue marker).getD (i + 2) (old (i + 2)) =
      packWord (txByte cfg txObj pdu residue) i := by
  simp [txElement, List.getD_eq_getElem?_getD, inside]

theorem txElement_length (checked : messageLength cfg pdu.sdu.length ≤
    bufferSizeFd cfg.canFdDataBufSize) :
    (txElement cfg txObj pdu residue marker).length * 4 ≤ elementSize cfg := by
  have whole := wordCount_le (bufferSizeFd_whole cfg.canFdDataBufSize).1 checked
  rw [txElement, elementSize, List.length_append, List.length_map, List.length_range]
  simp only [List.length_cons, List.length_nil]
  omega

theorem mask_marker (w : Word) : (w &&& 0xFF000000#32) >>> 24 = field w 24 8 := masked_field w 24 8

theorem rxLength_field (w : Word) : rxLength w = convertCanDlc (field w 16 4).toNat := by
  rw [rxLength, ← masked_field]
  rfl

theorem txByte_data (residue : Nat → UInt8) {i : Nat}
    (inside : i < messageLength cfg pdu.sdu.length)
    (least : pdu.sdu.length ≤ messageLength cfg pdu.sdu.length)
    (plain : cfg.canFdBaudRateEnabled = false → messageLength cfg pdu.sdu.length = pdu.sdu.length) :
    some (txByte cfg txObj pdu residue i) = (pdu.sdu ++ List.replicate
      (messageLength cfg pdu.sdu.length - pdu.sdu.length) txObj.canFdPaddingValue)[i]? := by
  rw [txByte, if_pos inside]
  by_cases beyond : pdu.sdu.length ≤ i
  · have fd : cfg.canFdBaudRateEnabled = true := by
      by_contra off
      rw [Bool.not_eq_true] at off
      have := plain off
      omega
    rw [if_pos ⟨fd, beyond⟩, List.getElem?_append_right beyond, List.getElem?_replicate,
      if_pos (by omega)]
  · rw [if_neg (by tauto), List.getElem?_append_left (Nat.lt_of_not_le beyond),
      List.getD_eq_getElem?_getD, List.getElem?_eq_getElem (Nat.lt_of_not_le beyond)]
    rfl

/-- A buffer that `Can_44_TCAN4x5x_MCAN_Write` has filled for a request. -/
structure Built (cfg : Config) (request : Request) (element : Nat → Word) : Prop where
  marker : txMarker element = request.buffer
  event : storesEvent element = true
  frame : busFrame element = frameOf cfg request
  sendable : Sendable cfg request.pdu

theorem Built.congr {request request' : Request} {element element' : Nat → Word}
    (built : Built cfg request element) (asked : request' = request)
    (words : element' = element) : Built cfg request' element' := by
  rw [asked, words]
  exact built

theorem txElement_built (configured : WellConfigured cfg) {hth buffer : Nat}
    (checked : writeDetCheck cfg hth pdu = none) (few : buffer < 256) :
    Built cfg ⟨buffer, txObj, pdu⟩
      fun i => (txElement cfg txObj pdu residue buffer).getD i (old i) := by
  obtain ⟨least, -, short, rounded⟩ := checked_length checked
  have fields := txControlWord_fields configured short few
  constructor
  · show ((txControlWord cfg pdu buffer &&& 0xFF000000#32) >>> 24).toNat = buffer
    rw [mask_marker, fields.marker, BitVec.toNat_ofNat, Nat.mod_eq_of_lt (by omega)]
  · show (txControlWord cfg pdu buffer).getLsbD 23 = true
    have bit := getLsbD_field (txControlWord cfg pdu buffer) 23 1 0
    rw [fields.efc] at bit
    exact bit.symm
  · have length : rxLength (txControlWord cfg pdu buffer) =
        messageLength cfg pdu.sdu.length := by
      rw [rxLength_field, fields.dlc, BitVec.toNat_ofNat, Nat.mod_eq_of_lt (by omega), rounded]
    have data : (List.range (rxLength (txControlWord cfg pdu buffer))).map
        (unpackByte fun i => (txElement cfg txObj pdu residue buffer).getD (i + 2) (old (i + 2))) =
        (frameOf cfg ⟨buffer, txObj, pdu⟩).data := by
      refine List.ext_getElem? fun i => ?_
      rw [length, List.getElem?_map]
      by_cases inside : i < messageLength cfg pdu.sdu.length
      · rw [List.getElem?_range inside, Option.map_some]
        refine Eq.trans (congrArg some ?_) (txByte_data residue inside least ?_)
        · rw [← unpack_packWord (txByte cfg txObj pdu residue) i]
          exact unpackByte_congr (txElement_getD (i / 4) (lt_wordCount inside))
        · intro off
          simp [messageLength, off]
      · rw [List.getElem?_eq_none (by simpa using inside), Option.map_none,
          List.getElem?_eq_none (by simp [frameOf]; omega)]
    exact BusFrame.ext rfl fields.fdf fields.brs fields.dlc data
  · exact ⟨hth, checked⟩

end Filled

end AnchorNode.CanDrv
