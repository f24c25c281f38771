import AnchorNode.CanTp.Carried
import AnchorNode.CanTp.Observation

/-! Block discipline of the sender: flow control, block sizes, sequence numbers, separation
times and the bytes handed over. -/

namespace AnchorNode.CanTp

open AnchorNode.Lib

/-- The clearance in force: its block size (0 for no limit), the separation time, and what
was sent under it so far. -/
structure Clearance where
  bs : Nat
  stMinTicks : Nat
  sent : Nat
  last : Option Nat
  deriving DecidableEq, Repr

/-- What the interface log shows of a transmission. -/
structure Transfer where
  sdu : Nat
  length : Nat
  payload : Nat
  cfs : Nat
  clearance : Option Clearance
  deriving DecidableEq, Repr

def Transfer.hand (tr : Transfer) (frame : SentFrame) : Transfer :=
  let payload := tr.payload + frame.payload.length
  if frame.pciId = .cf then
    { tr with
      payload
      cfs := tr.cfs + 1
      clearance := tr.clearance.map fun clearance =>
        { clearance with sent := clearance.sent + 1, last := some frame.ticks } }
  else { tr with payload }

/-- The block size after another clearance. Without dynamic flow control that of the first
one stays in force. -/
def Transfer.blockSize (b : Build) (tr : Transfer) (bs : Nat) : Nat :=
  match tr.clearance with
  | some clearance => if b.dynamicFcSupport then bs else clearance.bs
  | none => bs

def Transfer.clear (b : Build) (tr : Transfer) (bs stMinTicks : Nat) : Transfer :=
  { tr with clearance := some ⟨tr.blockSize b bs, stMinTicks, 0, none⟩ }

/-- A transmission runs from its acceptance until the channel is used again. -/
def trackTransfer (b : Build) (c : Nat) (t : Option Transfer) : Event → Option Transfer
  | .transmitOk d x n => if d = c then some ⟨x, n, 0, 0, none⟩ else t
  | .clearToSend d _ bs stMinTicks => if d = c then t.map (·.clear b bs stMinTicks) else t
  | .canIfTransmit frame _ => if frame.ch = c then t.map (·.hand frame) else t
  | .startOfReception d .. => if d = c then none else t
  | _ => t

def transferSeen (b : Build) (c : Nat) (log : List Event) : Option Transfer :=
  log.foldl (trackTransfer b c) none

def FlowEnabled (b : Build) (cfg : Config b) (x : Nat) : Prop :=
  ¬ (b.fcDisableSupport = true ∧ getBit (cfg.txSdu x).bitFields fcDisabled = true)

/-- A consecutive frame is cleared, within the block, in sequence and not too early. -/
structure InTurn (b : Build) (cfg : Config b) (tr : Transfer) (frame : SentFrame) : Prop where
  cleared : ∃ clearance, tr.clearance = some clearance ∧
    (clearance.bs = 0 ∨ clearance.sent < clearance.bs) ∧
    ∀ last, clearance.last = some last → last + clearance.stMinTicks ≤ frame.ticks
  sequence : frame.sequenceNumber b cfg = (tr.cfs + 1) % 16

/-- Consecutive frames keep to the flow control frames, and success is only reported once
all bytes were handed over. -/
def AllowedTransfer (b : Build) (cfg : Config b) (c : Nat) (t : Option Transfer) : Event → Prop
  | .canIfTransmit frame _ =>
    frame.ch = c → frame.pciId = .cf → ∃ tr, t = some tr ∧ frame.sdu = tr.sdu ∧
      (FlowEnabled b cfg tr.sdu → InTurn b cfg tr frame)
  | .txConfirmation d x _ .ok =>
    d = c → ∃ tr, t = some tr ∧ tr.sdu = x ∧
      (FlowEnabled b cfg tr.sdu → tr.payload = tr.length)
  | _ => True

section Stages
variable (b : Build) (cfg : Config b)

structure Opening (tr : Transfer) (ch : Channel) : Prop where
  layout : ch.pciId = txPciInit b cfg tr.sdu tr.length
  positive : 0 < tr.length
  small : tr.length < 2 ^ 16
  cfs : tr.cfs = 0
  clearance : tr.clearance = none
  stMinTicks : ch.stMinTicks = b.invalidStMinTicks

structure First (tr : Transfer) (ch : Channel) (sent : Bool) : Prop extends
    Opening b cfg tr ch where
  payload : tr.payload = sent.toNat * payloadLength b cfg ch
  remaining : ch.sduLengthRemaining = tr.length
  sn : ch.sn = 1
  block : ch.blockCfsRemaining = 0

/-- What is sent and what remains add up, up to the frame not yet confirmed. -/
structure Balanced (tr : Transfer) (ch : Channel) (sent : Bool) : Prop where
  account : tr.payload + ch.sduLengthRemaining =
    tr.length + sent.toNat * payloadLength b cfg ch
  left : 0 < ch.sduLengthRemaining
  small : ch.sduLengthRemaining < 2 ^ 16
  sn : (ch.sn + sent.toNat) % 16 = (tr.cfs + 1) % 16

structure InForce (ch : Channel) (clearance : Clearance) : Prop where
  stMinTicks : ch.stMinTicks = clearance.stMinTicks
  valid : ch.stMinTicks ≠ b.invalidStMinTicks
  bs : ch.bs = clearance.bs

structure Sending (now : Nat) (tr : Transfer) (ch : Channel) (sent : Bool) : Prop extends
    Balanced b cfg tr ch sent where
  clearance : ∃ clearance, tr.clearance = some clearance ∧ InForce b ch clearance ∧
    (clearance.bs ≠ 0 → clearance.sent + ch.blockCfsRemaining ≤ clearance.bs + sent.toNat) ∧
    ∀ last, clearance.last = some last →
      ch.pciId = .cf ∧ ∃ since, ch.initialTicks = stamp b since ∧ last ≤ since ∧ since ≤ now
  block : 0 < ch.blockCfsRemaining
  blockSmall : ch.blockCfsRemaining < 2 ^ 16

structure Awaiting (tr : Transfer) (ch : Channel) : Prop extends
    Balanced b cfg tr ch false where
  clearance : (tr.clearance = none ∧ ch.stMinTicks = b.invalidStMinTicks) ∨
    ∃ clearance, tr.clearance = some clearance ∧ InForce b ch clearance
  pci : ch.pciId = .fc

/-- Where a transmission stands, by its substate. A frame the table records was sent. -/
def Stage (c now : Nat) (tr : Transfer) (v : View) : Prop :=
  match v.sub with
  | .txTransmissionRequestAccepted => Opening b cfg tr v.ch ∧ tr.payload = 0
  | .txWaitForTransmitConfirmation => ∃ sent : Bool,
    (v.table (cfg.txSdu v.ch.activeSduId).txConfirmationId = c → sent = true) ∧
      (First b cfg tr v.ch sent ∨ v.ch.pciId = .cf ∧ Sending b cfg now tr v.ch sent)
  | .txWaitForFlowControlFrame => Awaiting b cfg tr v.ch
  | .txSendConsecutiveFrame => Sending b cfg now tr v.ch false
  | _ => True

def TransferRel (c now : Nat) (t : Option Transfer) (v : View) : Prop :=
  v.sub.state = .transmission → ∃ tr, t = some tr ∧ tr.sdu = v.ch.activeSduId ∧
    tr.length = v.ch.sduLength ∧ (FlowEnabled b cfg tr.sdu → Stage b cfg c now tr v)

end Stages

variable {b : Build} {cfg : Config b} {env : Env} {lapse : Lapse → Prop}

theorem Sending.later {now now' : Nat} {tr : Transfer} {ch : Channel} {sent : Bool}
    (le : now ≤ now') (sending : Sending b cfg now tr ch sent) :
    Sending b cfg now' tr ch sent := by
  obtain ⟨balanced, ⟨clearance, same, inForce, block, last⟩, positive, small⟩ := sending
  refine ⟨balanced, ⟨clearance, same, inForce, block, ?_⟩, positive, small⟩
  intro u seen
  obtain ⟨cf, since, stamped, after, before⟩ := last u seen
  exact ⟨cf, since, stamped, after, Nat.le_trans before le⟩

theorem Stage.later {c now now' : Nat} {tr : Transfer} {v : View} (le : now ≤ now')
    (stage : Stage b cfg c now tr v) : Stage b cfg c now' tr v := by
  obtain ⟨sub, ch, table⟩ := v
  cases sub with
  | txWaitForTransmitConfirmation =>
      obtain ⟨sent, recorded, first | ⟨cf, sending⟩⟩ := stage
      · exact ⟨sent, recorded, Or.inl first⟩
      · exact ⟨sent, recorded, Or.inr ⟨cf, sending.later le⟩⟩
  | txSendConsecutiveFrame => exact Sending.later le stage
  | _ => exact stage

theorem Stage.others {c now : Nat} {tr : Transfer} {v : View} (table : Nat → Nat)
    (entries : ∀ p, table p = c → v.table p = c) (stage : Stage b cfg c now tr v) :
    Stage b cfg c now tr { v with table } := by
  obtain ⟨sub, ch, old⟩ := v
  cases sub with
  | txWaitForTransmitConfirmation =>
      obtain ⟨sent, recorded, stage⟩ := stage
      exact ⟨sent, fun entry => recorded (entries _ entry), stage⟩
  | _ => exact stage

section Arithmetic

theorem payload_room (connection : TxSdu) {pciSize : Nat} (size : pciSize ≤ 6) :
    sub8 (getTxDl b connection) (addressSize connection.addressFormatId + pciSize) =
      getTxDl b connection - (addressSize connection.addressFormatId + pciSize) := by
  have txDl := getTxDl_bounds (b := b) connection
  have address := addressSize_le connection.addressFormatId
  exact sub8_le _ _ (by omega) (by omega)

inductive StartLayout (b : Build) (connection : TxSdu) (n : Nat) : Npci → Prop
  | sfCan (fits : n + addressSize connection.addressFormatId + 1 ≤ 8) :
      StartLayout b connection n .sfCan
  | sfCanFd (fd : b.canFdSupport = true)
      (long : 8 < n + addressSize connection.addressFormatId + 1)
      (fits : n + addressSize connection.addressFormatId + 2 ≤ getTxDl b connection) :
      StartLayout b connection n .sfCanFd
  | ffCan (long : 8 < n + addressSize connection.addressFormatId + 1)
      (exceeds : getTxDl b connection < n + addressSize connection.addressFormatId + 2)
      (plain : b.canFdSupport = true → 8 < getTxDl b connection → n ≤ maxFfDl) :
      StartLayout b connection n .ffCan
  | ffCanFd (fd : b.canFdSupport = true) (wide : 8 < getTxDl b connection)
      (exceeds : maxFfDl < n) : StartLayout b connection n .ffCanFd

theorem txPciInit_layout (cfg : Config b) (x : Nat) {n : Nat} (small : n < 2 ^ 16) :
    StartLayout b (cfg.txSdu x) n (txPciInit b cfg x n) := by
  have txDl := getTxDl_bounds (b := b) (cfg.txSdu x)
  have address := addressSize_le (cfg.txSdu x).addressFormatId
  have cut (m : Nat) (le : m ≤ 3) : u32 (n + addressSize (cfg.txSdu x).addressFormatId + m) =
      n + addressSize (cfg.txSdu x).addressFormatId + m := Nat.mod_eq_of_lt (by omega)
  have classic : defaultCanDl = 8 := rfl
  have plain (fd : ¬ b.canFdSupport = true) : getTxDl b (cfg.txSdu x) = 8 := by
    simp [getTxDl, fd, defaultCanDl]
  simp only [txPciInit]
  rw [cut 1 (by omega), cut 2 (by omega), classic]
  split
  · rename_i short
    exact .sfCan short
  · rename_i long
    split
    · rename_i fd
      exact .sfCanFd fd.1 (by omega) fd.2.2
    · rename_i notFd
      split
      · rename_i escape
        exact .ffCanFd escape.1 escape.2.1 escape.2.2
      · rename_i notEscape
        refine .ffCan (by omega) ?_ fun fd wide => ?_
        · by_contra fits
          by_cases fd : b.canFdSupport = true
          · exact notFd ⟨fd, by omega, by omega⟩
          · have := plain fd
            omega
        · exact not_lt.mp fun exceeds => notEscape ⟨fd, wide, exceeds⟩

theorem confirmData_account (cfg : Config b) (ch : Channel) (value : Nat)
    (layout : ch.pciId = .cf ∨
      ch.pciId = txPciInit b cfg ch.activeSduId ch.sduLengthRemaining)
    (small : ch.sduLengthRemaining < 2 ^ 16) :
    (confirmData b cfg ch value).sduLengthRemaining + payloadLength b cfg ch =
      ch.sduLengthRemaining := by
  have wide : 2 ^ 16 ≤ 2 ^ b.lengthBits := Nat.pow_le_pow_right (by decide) b.lengthBits_le
  have remaining : (confirmData b cfg ch value).sduLengthRemaining =
      let room := sub8 (getTxDl b (cfg.txSdu ch.activeSduId))
        (addressSize (cfg.txSdu ch.activeSduId).addressFormatId + ch.pciId.pciSize)
      if ch.sduLengthRemaining < room then 0
      else b.subLength ch.sduLengthRemaining room := by
    simp only [confirmData]
    split <;> rfl
  rw [remaining]
  generalize connect : cfg.txSdu ch.activeSduId = connection at *
  have txDl := getTxDl_bounds (b := b) connection
  have address := addressSize_le connection.addressFormatId
  have room (size : Nat) (bound : size ≤ 6) := payload_room (b := b) connection bound
  rcases layout with cf | start
  · simp only [payloadLength, cf, Npci.frameType, Npci.pciSize, connect, cfLength, cfPciSize]
    rw [room 1 (by omega)]
    split
    · rw [if_neg (by omega), u8_small (by omega), Nat.zero_add]
    · split
      · rw [subLength_le (by omega) (by omega)]
        omega
      · rw [subLength_le (by omega) (by omega), u8_small (by omega)]
        omega
  · -- a single frame carries everything, a first frame fills the link
    have layouts := txPciInit_layout cfg ch.activeSduId small
    rw [← start, connect] at layouts
    have limit : maxFfDl = 4095 := rfl
    generalize pci : ch.pciId = pciId at layouts
    cases layouts with
    | sfCan fits =>
        have small : u8 ch.sduLengthRemaining = ch.sduLengthRemaining := u8_small (by omega)
        simp only [payloadLength, pci, Npci.frameType, Npci.pciSize, room 1 (by omega), small]
        split
        · omega
        · rw [subLength_le (by omega) (by omega)]
          omega
    | sfCanFd fd long fits =>
        have small : u8 ch.sduLengthRemaining = ch.sduLengthRemaining := u8_small (by omega)
        simp only [payloadLength, pci, Npci.frameType, Npci.pciSize, room 2 (by omega), small]
        split
        · omega
        · rw [subLength_le (by omega) (by omega)]
          omega
    | ffCan long exceeds =>
        simp only [payloadLength, pci, Npci.frameType, Npci.pciSize, connect, room 2 (by omega)]
        rw [if_neg (by omega), subLength_le (by omega) (by omega)]
        omega
    | ffCanFd fd wide exceeds =>
        simp only [payloadLength, pci, Npci.frameType, Npci.pciSize, connect, room 6 (by omega)]
        rw [if_neg (by omega), subLength_le (by omega) (by omega)]
        omega

theorem blockCfs_bounds {length payLoadLength : Nat} (positive : 0 < length)
    (room : 0 < payLoadLength) :
    0 < blockCfs length payLoadLength ∧ blockCfs length payLoadLength ≤ length := by
  unfold blockCfs
  split
  · rename_i whole
    have factor := Nat.div_add_mod length payLoadLength
    refine ⟨?_, Nat.div_le_self _ _⟩
    by_contra none
    rw [Nat.eq_zero_of_not_pos none] at factor
    omega
  · rename_i part
    refine ⟨Nat.succ_pos _, Nat.succ_le_of_lt ?_⟩
    by_cases single : payLoadLength = 1
    · simp [single, Nat.mod_one] at part
    · exact Nat.div_lt_self positive (by omega)

theorem getTxBlockCfs_bounds (cfg : Config b) (ch : Channel) (left : 0 < ch.sduLengthRemaining) :
    0 < getTxBlockCfs b cfg ch ∧ getTxBlockCfs b cfg ch ≤ ch.sduLengthRemaining := by
  have txDl := getTxDl_bounds (b := b) (cfg.txSdu ch.activeSduId)
  have address := addressSize_le (cfg.txSdu ch.activeSduId).addressFormatId
  apply blockCfs_bounds left
  rw [Nat.add_comm cfPciSize, payload_room _ (by decide)]
  simp only [cfPciSize]
  omega

theorem setTxBlockInfo_spec (cfg : Config b) (ch : Channel) (bs stMin : UInt8)
    (left : 0 < ch.sduLengthRemaining) (small : ch.sduLengthRemaining < 2 ^ 16) :
    ∃ inForce ticks count, setTxBlockInfo b cfg ch bs stMin =
        { ch with bs := inForce, stMinTicks := ticks, blockCfsRemaining := count } ∧
      (if b.dynamicFcSupport ∨ ch.stMinTicks = b.invalidStMinTicks then
        inForce = bs.toNat ∧ ticks = stMinToTicks b stMin
        else inForce = ch.bs ∧ ticks = ch.stMinTicks) ∧
      0 < count ∧ count < 2 ^ 16 ∧ (inForce ≠ 0 → count ≤ inForce) := by
  simp only [setTxBlockInfo]
  by_cases taken : b.dynamicFcSupport = true ∨ ch.stMinTicks = b.invalidStMinTicks
  · have bounds := getTxBlockCfs_bounds cfg
      { ch with bs := bs.toNat, stMinTicks := stMinToTicks b stMin } left
    have byte := UInt8.toNat_lt bs
    simp only [if_pos taken]
    split
    · exact ⟨_, _, _, rfl, ⟨rfl, rfl⟩, bounds.1, Nat.lt_of_le_of_lt bounds.2 small, by omega⟩
    · exact ⟨_, _, _, rfl, ⟨rfl, rfl⟩, by omega, by omega, by omega⟩
  · have bounds := getTxBlockCfs_bounds cfg ch left
    simp only [if_neg taken]
    split
    · exact ⟨_, _, _, rfl, ⟨rfl, rfl⟩, bounds.1, Nat.lt_of_le_of_lt bounds.2 small, by omega⟩
    · exact ⟨_, _, _, rfl, ⟨rfl, rfl⟩, by omega, by omega, by omega⟩

end Arithmetic

section Confirmation
variable {now c : Nat} {tr : Transfer}

theorem First.pci_ne {ch : Channel} {sent : Bool} (first : First b cfg tr ch sent) :
    ch.pciId ≠ .cf ∧ ch.pciId ≠ .fc := by
  rw [first.layout]
  have layouts := txPciInit_layout cfg tr.sdu first.small
  generalize txPciInit b cfg tr.sdu tr.length = pciId at layouts
  cases layouts <;> exact ⟨nofun, nofun⟩

theorem confirmData_first (cfg : Config b) {ch : Channel} (value : Nat) (other : ch.pciId ≠ .cf) :
    (confirmData b cfg ch value).sn = ch.sn ∧
      (confirmData b cfg ch value).blockCfsRemaining = ch.blockCfsRemaining ∧
      (confirmData b cfg ch value).stMinTicks = ch.stMinTicks := by
  simp [confirmData, other]

theorem confirmData_consecutive (cfg : Config b) {ch : Channel} (value : Nat)
    (cf : ch.pciId = .cf) :
    (confirmData b cfg ch value).sn = (ch.sn + 1) % 16 ∧
      (confirmData b cfg ch value).blockCfsRemaining = b.subLength ch.blockCfsRemaining 1 ∧
      (confirmData b cfg ch value).stMinTicks = ch.stMinTicks ∧
      (confirmData b cfg ch value).bs = ch.bs ∧ (confirmData b cfg ch value).pciId = .cf ∧
      (confirmData b cfg ch value).initialTicks = value := by
  simp [confirmData, cf]

theorem First.settled {ch : Channel} (first : First b cfg tr ch true) (value : Nat)
    (active : tr.sdu = ch.activeSduId) :
    tr.payload + (confirmData b cfg ch value).sduLengthRemaining = tr.length := by
  have layout : ch.pciId = txPciInit b cfg ch.activeSduId ch.sduLengthRemaining := by
    rw [first.remaining, ← active]
    exact first.layout
  have account := confirmData_account cfg ch value (Or.inr layout)
    (by rw [first.remaining]; exact first.small)
  have payload := first.payload
  have remaining := first.remaining
  simp only [Bool.toNat_true, Nat.one_mul] at payload
  omega

theorem Sending.settled {ch : Channel} (sending : Sending b cfg now tr ch true)
    (cf : ch.pciId = .cf) (value : Nat) :
    tr.payload + (confirmData b cfg ch value).sduLengthRemaining = tr.length := by
  have account := confirmData_account cfg ch value (Or.inl cf) sending.small
  have before := sending.account
  simp only [Bool.toNat_true, Nat.one_mul] at before
  omega

theorem Sending.next {ch : Channel} (sending : Sending b cfg now tr ch true)
    (cf : ch.pciId = .cf)
    (more : (confirmData b cfg ch (stamp b now)).sduLengthRemaining ≠ 0)
    (block : (confirmData b cfg ch (stamp b now)).blockCfsRemaining ≠ 0) :
    Sending b cfg now tr (confirmData b cfg ch (stamp b now)) false := by
  have wide : 2 ^ 16 ≤ 2 ^ b.lengthBits := Nat.pow_le_pow_right (by decide) b.lengthBits_le
  have settled := sending.settled cf (stamp b now)
  have account := confirmData_account cfg ch (stamp b now) (Or.inl cf) sending.small
  have positive := sending.block
  have small := sending.small
  have blockSmall := sending.blockSmall
  obtain ⟨sn, count, ticks, bs, pci, since⟩ := confirmData_consecutive cfg (stamp b now) cf
  rw [subLength_le (by omega) positive] at count
  obtain ⟨clearance, same, inForce, limit, last⟩ := sending.clearance
  have number := sending.sn
  simp only [Bool.toNat_true] at number limit
  refine ⟨⟨by simpa using settled, by omega, by omega, ?_⟩, ⟨clearance, same, ?_, ?_, ?_⟩,
    by omega, by omega⟩
  · rw [sn]
    simpa using number
  · exact ⟨ticks.trans inForce.stMinTicks, by rw [ticks]; exact inForce.valid,
      bs.trans inForce.bs⟩
  · intro bounded
    have := limit bounded
    simp only [Bool.toNat_false]
    omega
  · intro u seen
    obtain ⟨-, before, -, after, notLater⟩ := last u seen
    exact ⟨pci, now, since, Nat.le_trans after notLater, Nat.le_refl _⟩

theorem First.await {ch : Channel} (first : First b cfg tr ch true) (value : Nat)
    (active : tr.sdu = ch.activeSduId)
    (more : (confirmData b cfg ch value).sduLengthRemaining ≠ 0) :
    Awaiting b cfg tr { confirmData b cfg ch value with pciId := .fc } := by
  have settled := first.settled value active
  have small := first.small
  obtain ⟨sn, -, ticks⟩ := confirmData_first cfg value first.pci_ne.1
  refine ⟨⟨by simpa using settled, by simp only; omega, by simp only; omega, ?_⟩, ?_, rfl⟩
  · simp [sn, first.sn, first.cfs]
  · exact Or.inl ⟨first.clearance, ticks.trans first.stMinTicks⟩

theorem Sending.await {ch : Channel} (sending : Sending b cfg now tr ch true)
    (cf : ch.pciId = .cf) (value : Nat)
    (more : (confirmData b cfg ch value).sduLengthRemaining ≠ 0) :
    Awaiting b cfg tr { confirmData b cfg ch value with pciId := .fc } := by
  have settled := sending.settled cf value
  have account := confirmData_account cfg ch value (Or.inl cf) sending.small
  have small := sending.small
  obtain ⟨sn, -, ticks, bs, -, -⟩ := confirmData_consecutive cfg value cf
  obtain ⟨clearance, same, inForce, -, -⟩ := sending.clearance
  have number := sending.sn
  refine ⟨⟨by simpa using settled, by simp only; omega, by simp only; omega, ?_⟩, ?_, rfl⟩
  · simpa [sn] using number
  · refine Or.inr ⟨clearance, same, ?_⟩
    exact ⟨ticks.trans inForce.stMinTicks, by simp only [ticks]; exact inForce.valid,
      bs.trans inForce.bs⟩

end Confirmation

section Handover
variable {now c : Nat} {tr : Transfer}

theorem elapsedSince_stamp_le {since : Nat} (le : since ≤ now) :
    elapsedSince b now (stamp b since) ≤ now - since := by
  have positive : 0 < 2 ^ b.tickBits := Nat.two_pow_pos _
  have residue : (stamp b now + 2 ^ b.tickBits - stamp b since % 2 ^ b.tickBits) %
      2 ^ b.tickBits = (now - since) % 2 ^ b.tickBits := by
    simp only [stamp, Nat.mod_mod]
    have bound := Nat.mod_lt since positive
    have split : now = (now - since) + since := by omega
    rw [Nat.add_sub_assoc (Nat.le_of_lt bound)]
    conv_lhs => rw [split]
    rw [Nat.add_mod, Nat.mod_mod, ← Nat.add_mod]
    have whole : (now - since + since) + (2 ^ b.tickBits - since % 2 ^ b.tickBits) =
        (now - since) + 2 ^ b.tickBits * (since / 2 ^ b.tickBits + 1) := by
      have factor := Nat.div_add_mod since (2 ^ b.tickBits)
      rw [Nat.mul_add, Nat.mul_one]
      omega
    rw [whole, Nat.add_mul_mod_self_left]
  rw [elapsedSince, residue]
  exact Nat.mod_le _ _

theorem Opening.handed {ch : Channel} {frame : SentFrame} (opening : Opening b cfg tr ch)
    (nothing : tr.payload = 0) (length : tr.length = ch.sduLength)
    (remaining : ch.sduLengthRemaining = ch.sduLength) (sn : ch.sn = 1)
    (block : ch.blockCfsRemaining = 0)
    (built : DataFrame b cfg now c (sentChannel b now ch ch.pciId) frame) :
    First b cfg (tr.hand frame) (sentChannel b now ch ch.pciId) true := by
  have other : frame.pciId ≠ .cf := by
    have before : First b cfg tr (sentChannel b now ch ch.pciId) false :=
      ⟨⟨opening.layout, opening.positive, opening.small, opening.cfs, opening.clearance,
        opening.stMinTicks⟩, by simpa using nothing, remaining.trans length.symm, sn, block⟩
    rw [built.pci]
    exact before.pci_ne.1
  simp only [Transfer.hand, other, if_false]
  refine ⟨⟨opening.layout, opening.positive, opening.small, opening.cfs, opening.clearance,
    opening.stMinTicks⟩, ?_, remaining.trans length.symm, sn, block⟩
  simp [nothing, built.payload]

theorem Opening.unsent {ch : Channel} (now : Nat) (opening : Opening b cfg tr ch)
    (nothing : tr.payload = 0) (length : tr.length = ch.sduLength)
    (remaining : ch.sduLengthRemaining = ch.sduLength) (sn : ch.sn = 1)
    (block : ch.blockCfsRemaining = 0) :
    First b cfg tr (sentChannel b now ch ch.pciId) false :=
  ⟨⟨opening.layout, opening.positive, opening.small, opening.cfs, opening.clearance,
    opening.stMinTicks⟩, by simpa using nothing, remaining.trans length.symm, sn, block⟩

theorem Sending.inTurn {ch : Channel} {frame : SentFrame}
    (sending : Sending b cfg now tr ch false)
    (spaced : ch.stMinTicks ≤ elapsedSince b now ch.initialTicks ∨ ch.pciId ≠ .cf)
    (built : DataFrame b cfg now c (sentChannel b now ch .cf) frame) :
    InTurn b cfg tr frame := by
  obtain ⟨clearance, same, inForce, limit, last⟩ := sending.clearance
  have positive := sending.block
  simp only [Bool.toNat_false, Nat.add_zero] at limit
  refine ⟨⟨clearance, same, ?_, ?_⟩, ?_⟩
  · by_cases free : clearance.bs = 0
    · exact Or.inl free
    · have := limit free
      exact Or.inr (by omega)
  · intro u seen
    obtain ⟨cf, since, stamped, after, notLater⟩ := last u seen
    have enough := spaced.resolve_right (not_not.mpr cf)
    rw [stamped, inForce.stMinTicks] at enough
    have passed := elapsedSince_stamp_le (b := b) notLater
    rw [built.time]
    omega
  · rw [built.sequence rfl sending.left]
    simpa [sentChannel] using sending.sn

theorem Sending.handed {ch : Channel} {frame : SentFrame}
    (sending : Sending b cfg now tr ch false)
    (built : DataFrame b cfg now c (sentChannel b now ch .cf) frame) :
    Sending b cfg now (tr.hand frame) (sentChannel b now ch .cf) true := by
  obtain ⟨clearance, same, inForce, limit, -⟩ := sending.clearance
  have pci : frame.pciId = .cf := built.pci
  have account := sending.account
  have number := sending.sn
  simp only [Bool.toNat_false, Nat.zero_mul, Nat.add_zero] at account limit number
  simp only [Transfer.hand, pci, if_true, built.payload]
  refine ⟨⟨?_, sending.left, sending.small, ?_⟩, ⟨_, by rw [same]; rfl, ?_, ?_, ?_⟩,
    sending.block, sending.blockSmall⟩
  · simp only [sentChannel, Bool.toNat_true, Nat.one_mul] at account ⊢
    omega
  · simp only [sentChannel, Bool.toNat_true]
    omega
  · exact ⟨inForce.stMinTicks, inForce.valid, inForce.bs⟩
  · intro bounded
    have := limit bounded
    simp only [sentChannel, Bool.toNat_true]
    omega
  · intro u seen
    obtain rfl : frame.ticks = u := Option.some.inj seen
    exact ⟨rfl, now, rfl, Nat.le_of_eq built.time, Nat.le_refl _⟩

theorem Sending.unsent {ch : Channel} (sending : Sending b cfg now tr ch false) :
    Sending b cfg now tr (sentChannel b now ch .cf) false := by
  obtain ⟨clearance, same, inForce, limit, last⟩ := sending.clearance
  refine ⟨⟨by simpa [sentChannel] using sending.account, sending.left, sending.small,
    sending.sn⟩, ⟨clearance, same, ⟨inForce.stMinTicks, inForce.valid, inForce.bs⟩, limit, ?_⟩,
    sending.block, sending.blockSmall⟩
  intro u seen
  obtain ⟨-, since, -, after, notLater⟩ := last u seen
  exact ⟨rfl, now, rfl, Nat.le_trans after notLater, Nat.le_refl _⟩

theorem Awaiting.cleared {ch : Channel} (bs stMin : UInt8) (awaiting : Awaiting b cfg tr ch)
    (sentinel : ∀ stMin, stMinToTicks b stMin ≠ b.invalidStMinTicks) :
    Sending b cfg now (tr.clear b bs.toNat (setTxBlockInfo b cfg ch bs stMin).stMinTicks)
      (setTxBlockInfo b cfg ch bs stMin) false := by
  obtain ⟨inForce, ticks, count, result, taken, positive, blockSmall, limit⟩ :=
    setTxBlockInfo_spec cfg ch bs stMin awaiting.left awaiting.small
  have force : InForce b { ch with bs := inForce, stMinTicks := ticks, blockCfsRemaining := count }
      ⟨tr.blockSize b bs.toNat, ticks, 0, none⟩ := by
    rcases awaiting.clearance with ⟨first, invalid⟩ | ⟨clearance, same, before⟩
    · rw [if_pos (Or.inr invalid)] at taken
      obtain ⟨rfl, rfl⟩ := taken
      exact ⟨rfl, sentinel stMin, by simp [Transfer.blockSize, first]⟩
    · by_cases dynamic : b.dynamicFcSupport = true
      · rw [if_pos (Or.inl dynamic)] at taken
        obtain ⟨rfl, rfl⟩ := taken
        exact ⟨rfl, sentinel stMin, by simp [Transfer.blockSize, same, dynamic]⟩
      · rw [if_neg (by simp [dynamic, before.valid])] at taken
        obtain ⟨rfl, rfl⟩ := taken
        exact ⟨rfl, before.valid, by simp [Transfer.blockSize, same, dynamic, before.bs]⟩
  have account := awaiting.account
  have bs' : inForce = tr.blockSize b bs.toNat := force.bs
  rw [result]
  refine ⟨⟨by simpa [Transfer.clear] using account, awaiting.left, awaiting.small,
    awaiting.sn⟩, ⟨_, rfl, force, ?_, by simp⟩, positive, blockSmall⟩
  simpa [← bs'] using limit

end Handover

section Steps
variable {now c : Nat} {t : Option Transfer} {v v' : View} {events : List Event}

theorem transferRel_off (off : v.sub.state ≠ .transmission) : TransferRel b cfg c now t v :=
  fun busy => absurd busy off

theorem transfer_over (off : v'.sub.state ≠ .transmission)
    (always : ∀ e ∈ events, ∀ t, AllowedTransfer b cfg c t e) :
    Traces (trackTransfer b c) (AllowedTransfer b cfg c) t events ∧
      TransferRel b cfg c now (events.foldl (trackTransfer b c) t) v' :=
  ⟨traces_always always t, transferRel_off off⟩

theorem TransferRel.keep (related : TransferRel b cfg c now t v)
    (busy : v.sub.state = .transmission) (active : v'.ch.activeSduId = v.ch.activeSduId)
    (length : v'.ch.sduLength = v.ch.sduLength)
    (next : ∀ tr, tr.sdu = v.ch.activeSduId → tr.length = v.ch.sduLength →
      FlowEnabled b cfg tr.sdu → Stage b cfg c now tr v → Stage b cfg c now tr v') :
    TransferRel b cfg c now t v' := by
  intro _
  obtain ⟨tr, rfl, sdu, total, stage⟩ := related busy
  exact ⟨tr, rfl, sdu.trans active.symm, total.trans length.symm,
    fun enabled => next tr sdu total enabled (stage enabled)⟩

theorem setTxBlockInfo_length (ch : Channel) (bs stMin : UInt8) :
    (setTxBlockInfo b cfg ch bs stMin).sduLength = ch.sduLength := by
  simp only [setTxBlockInfo]
  split <;> split <;> rfl

theorem TransferRel.handed {pciId : Npci} {frame : SentFrame}
    (related : TransferRel b cfg c now t v) (ready : ReadyToSend b now v pciId)
    (built : DataFrame b cfg now c (sentChannel b now v.ch pciId) frame) :
    (∀ result, AllowedTransfer b cfg c t (.canIfTransmit frame result)) ∧
      TransferRel b cfg c now (t.map (·.hand frame))
        ⟨.txWaitForTransmitConfirmation, sentChannel b now v.ch pciId,
          Function.update v.table (cfg.txSdu v.ch.activeSduId).txConfirmationId c⟩ := by
  obtain ⟨tr, rfl, sdu, total, stage⟩ := related ready.transmission
  have sdu' : (tr.hand frame).sdu = tr.sdu := by
    simp only [Transfer.hand]
    split <;> rfl
  have total' : (tr.hand frame).length = tr.length := by
    simp only [Transfer.hand]
    split <;> rfl
  rcases ready with ⟨accepted, rfl, remaining, sn, block⟩ | ⟨sending, rfl, spaced⟩
  · constructor
    · intro result here cf
      refine ⟨tr, rfl, built.sdu.trans sdu.symm, fun enabled => ?_⟩
      have opening := stage enabled
      simp only [Stage, accepted] at opening
      have first := opening.1.unsent now opening.2 total remaining sn block
      exact absurd (built.pci.symm.trans cf) first.pci_ne.1
    · intro _
      refine ⟨_, rfl, sdu'.trans sdu, total'.trans total, fun enabled => ?_⟩
      have opening := stage (sdu' ▸ enabled)
      simp only [Stage, accepted] at opening
      exact ⟨true, fun _ => rfl,
        Or.inl (opening.1.handed opening.2 total remaining sn block built)⟩
  · constructor
    · intro result here cf
      refine ⟨tr, rfl, built.sdu.trans sdu.symm, fun enabled => ?_⟩
      have underway := stage enabled
      simp only [Stage, sending] at underway
      exact underway.inTurn spaced built
    · intro _
      refine ⟨_, rfl, sdu'.trans sdu, total'.trans total, fun enabled => ?_⟩
      have underway := stage (sdu' ▸ enabled)
      simp only [Stage, sending] at underway
      exact ⟨true, fun _ => rfl, Or.inr ⟨rfl, underway.handed built⟩⟩

theorem Stage.confirmed {tr : Transfer} {p : Nat} (stage : Stage b cfg c now tr v)
    (waiting : v.sub = .txWaitForTransmitConfirmation)
    (pending : v.table p = c) (own : p = (cfg.txSdu v.ch.activeSduId).txConfirmationId) :
    First b cfg tr v.ch true ∨ v.ch.pciId = .cf ∧ Sending b cfg now tr v.ch true := by
  simp only [Stage, waiting] at stage
  obtain ⟨sent, recorded, stage⟩ := stage
  obtain rfl : sent = true := recorded (own ▸ pending)
  exact stage

theorem Accepts.transferAllowed {r : Nat} {replaced : List Event}
    (accepts : Accepts b cfg lapse c r v replaced) :
    ∀ e ∈ replaced, ∀ t, AllowedTransfer b cfg c t e := by
  obtain ⟨-, -, ⟨-, rfl⟩ | ⟨-, -, rfl, -⟩⟩ := accepts
  · simp
  · simp [AllowedTransfer]

theorem BriefEnd.transferAllowed (cfg : Config b) {r id n : Nat} {answer : BufReq}
    {rest : List Event}
    (ended : BriefEnd lapse c r id n answer rest) :
    ∀ e ∈ rest, ∀ t, AllowedTransfer b cfg c t e := by
  obtain ⟨-, -, rfl⟩ | ⟨-, rfl⟩ | ⟨-, _, _, _, _, rfl, -⟩ := ended
  · simp
  · simp [AllowedTransfer]
  · simp [AllowedTransfer]

theorem ChannelStep.transfer (step : ChannelStep b cfg lapse now c v events v')
    (stale : ¬ lapse .staleConfirmation)
    (sentinel : ∀ stMin, stMinToTicks b stMin ≠ b.invalidStMinTicks)
    (owned : OwnedView b cfg c v) (related : TransferRel b cfg c now t v) :
    Traces (trackTransfer b c) (AllowedTransfer b cfg c) t events ∧
      TransferRel b cfg c now (events.foldl (trackTransfer b c) t) v' := by
  cases step with
  | accept idle configured own positive short active length pci fresh =>
      refine ⟨⟨trivial, trivial⟩, fun _ => ⟨_, if_pos rfl, active.symm, length.symm, ?_⟩⟩
      exact fun _ => ⟨⟨pci, positive, short, rfl, rfl, fresh⟩, rfl⟩
  | txPrepare accepted =>
      have busy : v.sub.state = .transmission := by simp [accepted, SubState.state]
      refine ⟨trivial, related.keep busy rfl rfl fun tr _ _ _ stage => ?_⟩
      simp only [Stage, accepted] at stage ⊢
      exact ⟨⟨stage.1.layout, stage.1.positive, stage.1.small, stage.1.cfs, stage.1.clearance,
        stage.1.stMinTicks⟩, stage.2⟩
  | txBuffer status waiting =>
      have busy : v.sub.state = .transmission := by
        rcases waiting with sub | sub <;> simp [sub, SubState.state]
      refine ⟨trivial, related.keep busy rfl rfl fun tr _ _ _ stage => ?_⟩
      rcases waiting with accepted | sending
      · simp only [Stage, accepted] at stage ⊢
        exact ⟨⟨stage.1.layout, stage.1.positive, stage.1.small, stage.1.cfs,
          stage.1.clearance, stage.1.stMinTicks⟩, stage.2⟩
      · simp only [Stage, sending] at stage ⊢
        obtain ⟨clearance, same, inForce, limit, last⟩ := stage.clearance
        exact ⟨⟨by simpa using stage.account, stage.left, stage.small, stage.sn⟩,
          ⟨clearance, same, ⟨inForce.stMinTicks, inForce.valid, inForce.bs⟩, limit, last⟩,
          stage.block, stage.blockSmall⟩
  | txEnd ch busy =>
      exact transfer_over (by simp [SubState.state]) (by simp [AllowedTransfer])
  | txSendFailed ready free =>
      rename_i pciId
      have busy := ready.transmission
      have valid : c ≠ b.invalidChannel := by
        have bound := cfg.txSdu_channel _ (owned.transmission busy).1
        rw [(owned.transmission busy).2] at bound
        have := cfg.channels_fit
        simp only [Build.invalidChannel]
        omega
      refine ⟨trivial, related.keep busy rfl rfl fun tr sdu total _ stage => ?_⟩
      refine ⟨false, fun entry => absurd (entry.symm.trans free) valid, ?_⟩
      rcases ready with ⟨accepted, rfl, remaining, sn, block⟩ | ⟨sending, rfl, -⟩
      · simp only [Stage, accepted] at stage
        exact Or.inl (stage.1.unsent _ stage.2 total remaining sn block)
      · simp only [Stage, sending] at stage
        exact Or.inr ⟨rfl, stage.unsent⟩
  | txSent ready free built =>
      have handed := related.handed ready built
      simp only [Traces, List.foldl, trackTransfer, built.channel, if_true]
      exact ⟨⟨handed.1 .ok, trivial⟩, handed.2⟩
  | txRefused ch ready free built =>
      have handed := related.handed ready built
      exact ⟨⟨handed.1 .notOk, trivial, trivial⟩, transferRel_off (by simp [SubState.state])⟩
  | txBlockedTimeout accepted =>
      have busy : v.sub.state = .transmission := by simp [accepted, SubState.state]
      refine ⟨⟨trivial, trivial⟩, related.keep busy rfl rfl fun tr _ _ _ stage => ?_⟩
      simpa only [Stage, accepted] using stage
  | txDone waiting pending own complete =>
      have busy : v.sub.state = .transmission := by simp [waiting, SubState.state]
      have settled := not_imp_comm.mp own stale
      refine ⟨⟨?_, trivial⟩, transferRel_off (by simp [SubState.state])⟩
      intro _
      obtain ⟨tr, rfl, sdu, total, stage⟩ := related busy
      refine ⟨tr, rfl, sdu, fun enabled => ?_⟩
      rcases (stage enabled).confirmed waiting pending.2 settled with first | ⟨cf, sending⟩
      · simpa [complete] using first.settled (stamp b now) sdu
      · simpa [complete] using sending.settled cf (stamp b now)
  | txNext waiting pending own more block =>
      have busy : v.sub.state = .transmission := by simp [waiting, SubState.state]
      have settled := not_imp_comm.mp own stale
      refine ⟨trivial, related.keep busy (by simp) (confirmData_length _ _)
        fun tr sdu _ _ stage => ?_⟩
      rcases stage.confirmed waiting pending.2 settled with first | ⟨cf, sending⟩
      · -- no block is open before the first flow control frame
        rw [(confirmData_first cfg _ first.pci_ne.1).2.1, first.block] at block
        exact absurd rfl block
      · exact sending.next cf more block
  | txAwaitFlow waiting pending own more block =>
      have busy : v.sub.state = .transmission := by simp [waiting, SubState.state]
      have settled := not_imp_comm.mp own stale
      refine ⟨trivial, related.keep busy (by simp) (confirmData_length _ _)
        fun tr sdu _ _ stage => ?_⟩
      rcases stage.confirmed waiting pending.2 settled with first | ⟨cf, sending⟩
      · exact first.await _ sdu more
      · exact sending.await cf _ more
  | txSkipFlow ch waiting pending own disabled same length =>
      have busy : v.sub.state = .transmission := by simp [waiting, SubState.state]
      refine ⟨trivial, related.keep busy same length fun tr sdu _ enabled _ => ?_⟩
      rw [FlowEnabled, sdu] at enabled
      exact absurd disabled enabled
  | txFlowWait waiting =>
      have busy : v.sub.state = .transmission := by simp [waiting, SubState.state]
      refine ⟨trivial, related.keep busy rfl rfl fun tr _ _ _ stage => ?_⟩
      simp only [Stage, waiting] at stage ⊢
      refine ⟨⟨by simpa using stage.account, stage.left, stage.small, stage.sn⟩,
        stage.clearance.imp id ?_, stage.pci⟩
      rintro ⟨clearance, same, inForce⟩
      exact ⟨clearance, same, ⟨inForce.stMinTicks, inForce.valid, inForce.bs⟩⟩
  | txFlowClear x bs stMin waiting =>
      have busy : v.sub.state = .transmission := by simp [waiting, SubState.state]
      simp only [Traces, List.foldl, trackTransfer, if_true]
      refine ⟨⟨trivial, trivial⟩, fun _ => ?_⟩
      obtain ⟨tr, rfl, sdu, total, stage⟩ := related busy
      refine ⟨_, rfl, by simpa [Transfer.clear] using sdu,
        by simpa [Transfer.clear, setTxBlockInfo_length] using total, fun enabled => ?_⟩
      have awaiting := stage enabled
      simp only [Stage, waiting] at awaiting
      refine Awaiting.cleared bs stMin ?_ sentinel
      refine ⟨⟨by simpa using awaiting.account, awaiting.left, awaiting.small, awaiting.sn⟩,
        awaiting.clearance.imp id ?_, awaiting.pci⟩
      rintro ⟨clearance, same, inForce⟩
      exact ⟨clearance, same, ⟨inForce.stMinTicks, inForce.valid, inForce.bs⟩⟩
  | rxDoubleIndication idle =>
      exact transfer_over (by simp [idle, SubState.state]) (by simp [AllowedTransfer])
  | fcPrepare ch sending =>
      exact transfer_over (by simp [sending, SubState.state]) (by simp)
  | fcSent sending free wait built =>
      exact transfer_over (by simp [SubState.state]) (by simp [AllowedTransfer, built.pci])
  | fcRefused ch sending free built =>
      exact transfer_over (by simp [SubState.state]) (by simp [AllowedTransfer, built.pci])
  | fcConfirmedWait waiting =>
      refine transfer_over ?_ (by simp)
      simp only
      split <;> simp [SubState.state]
  | rxBrief ch accepted ended =>
      refine transfer_over (by simp [SubState.state]) ?_
      have first := accepted.transferAllowed
      have last := ended.transferAllowed cfg
      simp only [List.mem_append, List.mem_cons]
      rintro e (member | rfl | member)
      · exact first e member
      · exact fun _ => trivial
      · exact last e member
  | rxFirst accepted =>
      refine transfer_over (by simp [SubState.state]) ?_
      have first := accepted.transferAllowed
      simp only [List.mem_append]
      rintro e (member | member)
      · exact first e member
      · revert e
        simp [AllowedTransfer]
  | rxOverflow accepted =>
      refine transfer_over (by simp [SubState.state]) ?_
      have first := accepted.transferAllowed
      simp only [List.mem_append]
      rintro e (member | member)
      · exact first e member
      · revert e
        simp [AllowedTransfer]
  | rxConsecutive data room sub ch waiting active length remaining more sn rxDl flow sized next =>
      refine transfer_over ?_ (by simp [AllowedTransfer])
      rcases next with rfl | rfl <;> simp [SubState.state]
  | _ => exact transfer_over (by simp [SubState.state]) (by simp [AllowedTransfer])

end Steps

def transferObserver (b : Build) (cfg : Config b) {lapse : Lapse → Prop} (c : Nat)
    (stale : ¬ lapse .staleConfirmation)
    (sentinel : ∀ stMin, stMinToTicks b stMin ≠ b.invalidStMinTicks) :
    ChannelObserver b cfg lapse c (Option Transfer) where
  start := none
  track := trackTransfer b c
  allowed := AllowedTransfer b cfg c
  Rel := fun now t v => TransferRel b cfg c now t v
  elsewhere := by
    intro t e other
    cases e with
    | txConfirmation d x id result =>
        have away : d ≠ c := by simpa [Event.channel?] using other
        cases result <;> simp [trackTransfer, AllowedTransfer, away]
    | _ => simp_all [trackTransfer, AllowedTransfer, Event.channel?]
  noise := by
    intro t e quiet
    cases e <;> simp_all [trackTransfer, AllowedTransfer, Event.isNoise]
  later := by
    intro now now' t v le related busy
    obtain ⟨tr, seen, sdu, total, stage⟩ := related busy
    exact ⟨tr, seen, sdu, total, fun enabled => (stage enabled).later le⟩
  others := by
    intro now t v table entries related busy
    obtain ⟨tr, seen, sdu, total, stage⟩ := related busy
    exact ⟨tr, seen, sdu, total, fun enabled => (stage enabled).others table entries⟩
  step := fun step owned related => step.transfer stale sentinel owned related

/-- Channel `c` kept to its flow control frames so far, its fields agree with what was sent,
and the count of frames left in an open block is positive. -/
structure SenderDisciplined (b : Build) (cfg : Config b) (c : Nat) (s : State) : Prop where
  allowed : Traces (trackTransfer b c) (AllowedTransfer b cfg c) none s.log
  fields : TransferRel b cfg c s.ticks (transferSeen b c s.log) (s.view c)
  block : s.subState c = .txSendConsecutiveFrame →
    FlowEnabled b cfg (s.channel c).activeSduId → 0 < (s.channel c).blockCfsRemaining

theorem nodeBuild_sentinel :
    ∀ stMin, stMinToTicks nodeBuild stMin ≠ nodeBuild.invalidStMinTicks := by
  intro stMin
  have bound : nodeBuild.getUsToTicks (if stMin.toNat ≤ 0x7F then stMin.toNat * 1000
      else if stMin.toNat < 0xF1 ∨ stMin.toNat > 0xF9 then 127000
      else (stMin.toNat % 16) * 100) ≤ 127 := by
    simp only [nodeBuild]
    split
    · omega
    · split
      · decide
      · omega
  have small := Nat.mod_le (nodeBuild.getUsToTicks (if stMin.toNat ≤ 0x7F then stMin.toNat * 1000
      else if stMin.toNat < 0xF1 ∨ stMin.toNat > 0xF9 then 127000
      else (stMin.toNat % 16) * 100)) (2 ^ nodeBuild.tickBits)
  have sentinel : nodeBuild.invalidStMinTicks = 0xFFFFFFFF := rfl
  simp only [stMinToTicks]
  omega

def segmentedTransmission : List Op :=
  [.transmit 0 (some 20), .mainFunction, .txConfirmation 0,
    .rxIndication 0 (nodeFrame [0x30, 1, 0]), .mainFunction, .txConfirmation 0]

def hesitantEnv : Env :=
  { nodeEnv with
    copyTxData := fun log _ length =>
      (if length ≠ 0 ∧ log.all (fun e => match e with
          | .copyTxData _ _ _ data _ _ => data.isEmpty
          | _ => true) then .busy else .ok,
        fun i => UInt8.ofNat i, 100) }

def misledRun : List Op :=
  [.rxIndication 0 (nodeFrame [0x10, 20, 1, 2, 3, 4, 5, 6]), .mainFunction,
    .rxIndication 0 (nodeFrame [0x03, 1, 2, 3]), .transmit 0 (some 20), .mainFunction,
    .txConfirmation 2, .rxIndication 0 (nodeFrame [0x30, 0, 0]), .mainFunction,
    .txConfirmation 0, .mainFunction, .txConfirmation 0]

end AnchorNode.CanTp
