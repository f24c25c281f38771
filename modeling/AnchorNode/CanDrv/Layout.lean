import AnchorNode.CanDrv.System

/-! The elements of the message RAM as `Can_44_TCAN4x5x_MCAN_MessageRAM_Init` lays them out: each
has its own bytes. -/

namespace AnchorNode.CanDrv

open AnchorNode.Lib

/-- The places of the message RAM that hold an element. -/
inductive Slot where
  | standardFilter (index : Nat)
  | extendedFilter (index : Nat)
  | rx (store : RxStore) (place : Nat)
  | event (place : Nat)
  | tx (buffer : Nat)

/-- A dedicated buffer has a place of its own among all of them. -/
def RxStore.index : RxStore → Nat → Nat
  | .buffer index, _ => index
  | _, place => place

namespace Slot

/-- The regions of the message RAM in the order in which they are laid out, and the place of an
element in its region. -/
def region : Slot → Nat
  | .standardFilter _ => 0
  | .extendedFilter _ => 1
  | .rx .fifo0 _ => 2
  | .rx .fifo1 _ => 3
  | .rx (.buffer _) _ => 4
  | .event _ => 5
  | .tx _ => 6

def position : Slot → Nat
  | .standardFilter index => index
  | .extendedFilter index => index
  | .rx store place => store.index place
  | .event place => place
  | .tx buffer => buffer

section Places
variable (cfg : Config)

def address : Slot → Nat
  | .standardFilter index => 4 * index
  | .extendedFilter index => (messageRamInit cfg).extndIdFilterStartAddr + 8 * index
  | .rx store place => rxElem cfg store (store.index place)
  | .event place => txEventElem cfg place
  | .tx buffer => txBufferElem cfg buffer

def Valid : Slot → Prop
  | .standardFilter index => index < cfg.canMsgRamConfig.canStandardIdFiltersCount
  | .extendedFilter index => index < cfg.canMsgRamConfig.canExtendedIdFiltersCount
  | .rx store place => place < capacity cfg store
  | .event place => place < cfg.canMsgRamConfig.canTxBufferCount
  | .tx buffer => buffer < cfg.canMsgRamConfig.canTxBufferCount

end Places

end Slot

section Regions
variable (cfg : Config)

/-- `MSG_RAM_SIZE`. -/
def msgRamSize : Nat := 0x2000

/-- Where a region starts, and at last where the layout ends. -/
def regionStart : Nat → Nat
  | 0 => 0
  | 1 => (messageRamInit cfg).extndIdFilterStartAddr
  | 2 => (messageRamInit cfg).rxFifo0StartAddr
  | 3 => (messageRamInit cfg).rxFifo1StartAddr
  | 4 => (messageRamInit cfg).rxBufferStartAddr
  | 5 => (messageRamInit cfg).txEventFifoStartAddr
  | 6 => (messageRamInit cfg).txBufferStartAddr
  | _ => (messageRamInit cfg).txBufferStartAddr +
      cfg.canMsgRamConfig.canTxBufferCount * elementSize cfg

/-- The bytes of an element of a region, and how many it has. -/
def regionUnit : Nat → Nat
  | 0 => 4
  | 1 => 8
  | 5 => 8
  | _ => elementSize cfg

def regionCount : Nat → Nat
  | 0 => cfg.canMsgRamConfig.canStandardIdFiltersCount
  | 1 => cfg.canMsgRamConfig.canExtendedIdFiltersCount
  | 2 => cfg.canMsgRamConfig.canFifo0BufferCount
  | 3 => cfg.canMsgRamConfig.canFifo1BufferCount
  | 4 => cfg.canMsgRamConfig.canDedicatedRxBufferCount
  | _ => cfg.canMsgRamConfig.canTxBufferCount

variable {cfg} {a b : Slot}

theorem Slot.region_lt (a : Slot) : a.region < 7 := by
  rcases a with _ | _ | ⟨_ | _ | _, _⟩ | _ | _ <;> simp [region]

theorem regionStart_succ {r : Nat} (inside : r < 7) :
    regionStart cfg (r + 1) = regionStart cfg r + regionUnit cfg r * regionCount cfg r := by
  interval_cases r <;>
    simp only [regionStart, regionUnit, regionCount, messageRamInit, Nat.mul_comm, Nat.zero_add]

theorem regionStart_mono : Monotone (regionStart cfg) := by
  refine monotone_nat_of_le_succ fun r => ?_
  by_cases inside : r < 7
  · rw [regionStart_succ inside]
    exact Nat.le_add_right _ _
  · obtain ⟨k, rfl⟩ := Nat.exists_eq_add_of_le (Nat.le_of_not_lt inside)
    rw [Nat.add_comm]
    exact le_refl _

theorem regionUnit_whole (cfg : Config) (r : Nat) : regionUnit cfg r % 4 = 0 := by
  have := (show ∀ size, bufferSizeFd size % 4 = 0 by decide) cfg.canFdDataBufSize
  unfold regionUnit elementSize
  split <;> omega

theorem regionStart_whole {r : Nat} (inside : r ≤ 7) : regionStart cfg r % 4 = 0 := by
  induction r with
  | zero => rfl
  | succ r ih =>
      rw [regionStart_succ inside, Nat.add_mod, ih (Nat.le_of_succ_le inside), Nat.mul_mod,
        regionUnit_whole, Nat.zero_mul]

theorem Slot.address_eq (a : Slot) :
    a.address cfg = regionStart cfg a.region + regionUnit cfg a.region * a.position := by
  rcases a with _ | _ | ⟨_ | _ | _, _⟩ | _ | _
  · exact (Nat.zero_add _).symm
  all_goals rfl

theorem Slot.position_lt (valid : a.Valid cfg) : a.position < regionCount cfg a.region := by
  rcases a with index | index | ⟨_ | _ | index, place⟩ | place | buffer
  · exact valid
  · exact valid
  · exact valid
  · exact valid
  · by_contra outside
    have none : place < 0 := lt_of_lt_of_eq valid (if_neg outside)
    exact Nat.not_lt_zero _ none
  · exact valid
  · exact valid

theorem element_step {p q : Nat} (before : p < q) (unit : Nat) : unit * p + unit ≤ unit * q := by
  rw [← Nat.mul_succ]
  exact Nat.mul_le_mul_left unit before

theorem Slot.within (valid : a.Valid cfg) : regionStart cfg a.region ≤ a.address cfg ∧
    a.address cfg + regionUnit cfg a.region ≤ regionStart cfg (a.region + 1) := by
  have := element_step (a.position_lt valid) (regionUnit cfg a.region)
  rw [regionStart_succ a.region_lt, a.address_eq]
  omega

theorem Slot.aligned (cfg : Config) (a : Slot) : a.address cfg % 4 = 0 := by
  rw [a.address_eq, Nat.add_mod, regionStart_whole (Nat.le_of_lt a.region_lt), Nat.mul_mod,
    regionUnit_whole, Nat.zero_mul]

theorem Slot.unique (valid : a.Valid cfg) (valid' : b.Valid cfg) (region : a.region = b.region)
    (position : a.position = b.position) : a = b := by
  have alone {index place : Nat} (valid : place < capacity cfg (.buffer index)) : place = 0 := by
    unfold capacity at valid
    dsimp only at valid
    split at valid <;> omega
  rcases a with index | index | ⟨_ | _ | index, place⟩ | place | buffer <;>
    rcases b with index' | index' | ⟨_ | _ | index', place'⟩ | place' | buffer' <;>
    simp only [Slot.region, Nat.reduceEqDiff, reduceCtorEq] at region
  · exact congrArg Slot.standardFilter position
  · exact congrArg Slot.extendedFilter position
  · exact congrArg (Slot.rx .fifo0) position
  · exact congrArg (Slot.rx .fifo1) position
  · rw [alone valid, alone valid']
    exact congrArg (fun index => Slot.rx (.buffer index) 0) position
  · exact congrArg Slot.event position
  · exact congrArg Slot.tx position

theorem Slot.apart (valid : a.Valid cfg) (valid' : b.Valid cfg) (distinct : a ≠ b) :
    a.address cfg + regionUnit cfg a.region ≤ b.address cfg ∨
      b.address cfg + regionUnit cfg b.region ≤ a.address cfg := by
  have here := a.within valid
  have there := b.within valid'
  rcases Nat.lt_trichotomy a.region b.region with less | same | more
  · have : regionStart cfg (a.region + 1) ≤ regionStart cfg b.region := regionStart_mono less
    omega
  · have other : a.position ≠ b.position := fun position =>
      distinct (a.unique valid valid' same position)
    rw [a.address_eq, b.address_eq, same]
    rcases Nat.lt_or_gt_of_ne other with before | behind
    · have := element_step before (regionUnit cfg b.region)
      omega
    · have := element_step behind (regionUnit cfg b.region)
      omega
  · have : regionStart cfg (b.region + 1) ≤ regionStart cfg a.region := regionStart_mono more
    omega

/-- As `Can_44_TCAN4x5x_MCAN_MessageRAM_Init` lays them out, elements start at whole words, end
before the layout does, and with it before the message RAM does if the layout fits into it, and
share no byte. -/
theorem elements_apart (valid : a.Valid cfg) (valid' : b.Valid cfg) (distinct : a ≠ b) :
    a.address cfg % 4 = 0 ∧ a.address cfg + regionUnit cfg a.region ≤ regionStart cfg 7 ∧
      (regionStart cfg 7 ≤ msgRamSize →
        a.address cfg + regionUnit cfg a.region ≤ msgRamSize) ∧
      (a.address cfg + regionUnit cfg a.region ≤ b.address cfg ∨
        b.address cfg + regionUnit cfg b.region ≤ a.address cfg) := by
  have last : regionStart cfg (a.region + 1) ≤ regionStart cfg 7 := regionStart_mono a.region_lt
  have ends := (a.within valid).2.trans last
  exact ⟨a.aligned cfg, ends, ends.trans, a.apart valid valid' distinct⟩

theorem bench_elements :
    (Slot.event 1).address benchConfig = 380 ∧ (Slot.event 1).address benchConfig + 8 ≤ 532 ∧
      (Slot.event 1).address benchConfig + 8 ≤ 0x2000 ∧
      ((Slot.event 1).address benchConfig + 8 ≤ (Slot.tx 0).address benchConfig ∨
        (Slot.tx 0).address benchConfig + 72 ≤ (Slot.event 1).address benchConfig) := by
  have one : (Slot.event 1).Valid benchConfig := (by decide : 1 < 2)
  have zero : (Slot.tx 0).Valid benchConfig := (by decide : 0 < 2)
  obtain ⟨-, ends, fits, apart⟩ := elements_apart one zero (by simp)
  exact ⟨rfl, ends, fits (by decide), apart⟩

example : msgRamSize < regionStart { benchConfig with
    canMsgRamConfig := ⟨0, 0, 64, 64, 0, 0⟩ } 7 := by
  decide

end Regions

end AnchorNode.CanDrv
