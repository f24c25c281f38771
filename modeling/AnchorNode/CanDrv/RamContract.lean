import AnchorNode.CanDrv.Ram
import AnchorNode.CanDrv.Elements

/-! The controller with a flat message RAM keeps the contract of the driver: what is written into
one element leaves the others alone. -/

namespace AnchorNode.CanDrv.Tcan

open AnchorNode.Lib

variable {cfg : Config} {d : Tcan cfg} {ram : Nat → Word} {first : Nat} {words : List Word}
  {a b : Slot}

section Words

theorem store_outside {i : Nat} (outside : i < first ∨ first + words.length ≤ i) :
    store ram first words i = ram i := if_neg (by omega)

theorem store_inside {i : Nat} (inside : i < words.length) :
    store ram first words (first + i) = words.getD i 0#32 := by
  rw [store, if_pos (by omega), Nat.add_sub_cancel_left]

def width (cfg : Config) (a : Slot) : Nat := regionUnit cfg a.region / 4

theorem apart_words (valid : a.Valid cfg) (valid' : b.Valid cfg) (distinct : a ≠ b) :
    word cfg a + width cfg a ≤ word cfg b ∨ word cfg b + width cfg b ≤ word cfg a := by
  have := a.apart valid valid' distinct
  have := a.aligned cfg
  have := b.aligned cfg
  have := regionUnit_whole cfg a.region
  have := regionUnit_whole cfg b.region
  unfold word width
  omega

theorem store_other (valid : a.Valid cfg) (valid' : b.Valid cfg) (distinct : a ≠ b)
    (fits : words.length ≤ width cfg a) {i : Nat} (inside : i < width cfg b) :
    store ram (word cfg a) words (word cfg b + i) = ram (word cfg b + i) := by
  have := apart_words valid valid' distinct
  exact store_outside (by omega)

theorem width_rx (into : RxStore) (place : Nat) :
    width cfg (.rx into place) = elementSize cfg / 4 := by
  cases into <;> rfl

theorem width_event (place : Nat) : width cfg (.event place) = 2 := by
  simp [width, Slot.region, regionUnit]

theorem width_parts (cfg : Config) : 4 ≤ elementSize cfg / 4 ∧
    (elementSize cfg / 4 - 2) * 4 = bufferSizeFd cfg.canFdDataBufSize := by
  have := (show ∀ size, bufferSizeFd size % 4 = 0 ∧ 8 ≤ bufferSizeFd size by decide)
    cfg.canFdDataBufSize
  unfold elementSize
  omega

end Words

section Views

theorem load_congr {ram' : Nat → Word} {count : Nat}
    (same : ∀ i < count, ram' (first + i) = ram (first + i)) :
    load ram' first count = load ram first count :=
  List.map_congr_left fun i member => same i (List.mem_range.mp member)

theorem frame_congr {ram' : Nat → Word}
    (same : ∀ i < elementSize cfg / 4, ram' (first + i) = ram (first + i)) :
    frame cfg ram' first = frame cfg ram first := by
  have parts := width_parts cfg
  have head := same 0 (by omega)
  have control := same 1 (by omega)
  rw [Nat.add_zero] at head
  unfold frame
  rw [head, control]
  congr 1
  refine load_congr fun i inside => ?_
  rw [Nat.add_assoc]
  exact same (2 + i) (by omega)

variable (valid : a.Valid cfg) (fits : words.length ≤ width cfg a)
include valid fits

theorem frame_other {into : RxStore} {place : Nat} (inside : place < capacity cfg into)
    (distinct : a ≠ .rx into place) :
    frame cfg (store ram (word cfg a) words) (word cfg (.rx into place)) =
      frame cfg ram (word cfg (.rx into place)) :=
  frame_congr fun _ bound => store_other valid (show Slot.Valid cfg (.rx into place) from inside)
    distinct fits (by rwa [width_rx])

theorem marker_other {place : Nat} (inside : place < cfg.canMsgRamConfig.canTxBufferCount)
    (distinct : a ≠ .event place) :
    marker (store ram (word cfg a) words) (word cfg (.event place)) =
      marker ram (word cfg (.event place)) := by
  rw [marker, marker, store_other valid (show Slot.Valid cfg (.event place) from inside) distinct
    fits (by rw [width_event]; decide)]

theorem element_other {buffer : Nat} (i : Nat) (distinct : a ≠ .tx buffer) :
    element cfg (store ram (word cfg a) words) buffer i = element cfg ram buffer i := by
  unfold element
  split
  · next inside =>
      have theirs : Slot.Valid cfg (.tx buffer) := inside.1
      exact store_other valid theirs distinct fits inside.2
  · rfl

omit valid fits in
theorem element_fill {buffer : Nat} (inside : buffer < cfg.canMsgRamConfig.canTxBufferCount)
    (narrow : words.length ≤ elementSize cfg / 4) :
    element cfg (store ram (word cfg (.tx buffer)) words) =
      Function.update (element cfg ram) buffer fun i =>
        words.getD i (element cfg ram buffer i) := by
  funext b i
  by_cases same : b = buffer
  · subst same
    rw [Function.update_self, element, element]
    by_cases here : i < words.length
    · rw [if_pos ⟨inside, by omega⟩, store_inside here]
      simp [List.getD_eq_getElem?_getD, here]
    · rw [List.getD_eq_getElem?_getD, List.getElem?_eq_none (Nat.le_of_not_lt here),
        Option.getD_none, store_outside (by omega)]
  · rw [Function.update_of_ne same]
    exact element_other (show Slot.Valid cfg (.tx buffer) from inside) narrow i
      (by simpa using Ne.symm same)

end Views

section Registers
variable {n : Nat} (w : Window n)

theorem status_level {len : Nat} (few : w.fill < 2 ^ len) (narrow : len ≤ 8) :
    (field (status w) 0 len).toNat = w.fill := by
  have small := ofNat_small few
  rw [status, field_or, field_or, field_self small, field_shiftLeft_above (by omega),
    field_shiftLeft_above (by omega), BitVec.or_zero, BitVec.or_zero, BitVec.toNat_ofNat]
  refine Nat.mod_eq_of_lt (few.trans_le ?_)
  exact Nat.pow_le_pow_right (by decide) (narrow.trans (by decide))

theorem status_index {len : Nat} (few : w.fill < 2 ^ 8) (early : w.get < 2 ^ len)
    (narrow : len ≤ 8) : (field (status w) 8 len).toNat = w.get := by
  rw [status, field_or, field_or, field_small (ofNat_small few) (by omega),
    field_shiftLeft_self (ofNat_small early) (by omega), field_shiftLeft_above (by omega),
    BitVec.zero_or, BitVec.or_zero, BitVec.toNat_ofNat]
  refine Nat.mod_eq_of_lt (early.trans_le ?_)
  exact Nat.pow_le_pow_right (by decide) (narrow.trans (by decide))

theorem received_length (store : RxStore) :
    ((view d).received store).length = (d.stores store).fill := by
  simp [view]

theorem newDataWord_bit (first : Nat) {i : Nat} (inside : i < 32) :
    (d.newDataWord first).getLsbD i = !((view d).received (.buffer (first + i))).isEmpty := by
  have empty (l : List RxFrame) : (!l.isEmpty) = decide (0 < l.length) := by
    cases l <;> simp
  rw [newDataWord, BitVec.getLsbD_setWidth, BitVec.getLsbD_ofBoolListLE, empty, received_length,
    List.getD_eq_getElem?_getD, List.getElem?_map, List.getElem?_range inside,
    decide_eq_true inside]
  rfl

end Registers

section Laws

theorem places_head {n : Nat} {w : Window n} {α : Type} {f : Nat → α} {x : α} {rest : List α}
    (list : w.places.map f = x :: rest) : x = f w.get ∧ w.get < n := by
  obtain ⟨p, tail, places, here, -⟩ := List.map_eq_cons_iff.mp list
  obtain ⟨get, wide, -⟩ := w.places_cons places
  exact ⟨by rw [← here, get], w.get_lt wide⟩

theorem fill_law {buffer : Nat} (inside : buffer < cfg.canMsgRamConfig.canTxBufferCount)
    (fits : words.length * 4 ≤ elementSize cfg) :
    view { d with ram := store d.ram (word cfg (.tx buffer)) words } = { view d with
      element := Function.update (view d).element buffer fun i =>
        words.getD i ((view d).element buffer i) } := by
  have valid : Slot.Valid cfg (.tx buffer) := inside
  have narrow : words.length ≤ width cfg (.tx buffer) := by
    show words.length ≤ elementSize cfg / 4
    omega
  refine View.ext rfl rfl (element_fill inside narrow) ?_ rfl (funext fun into => ?_) rfl
  · exact List.map_congr_left fun place member =>
      marker_other valid narrow (Window.places_lt member) (by simp)
  · exact List.map_congr_left fun place member =>
      frame_other valid narrow (Window.places_lt member) (by simp)

theorem acknowledge_law (some : (view d).events ≠ []) (w : Word)
    (index : w.toNat = (view d).eventIndex) :
    view { d with events := d.events.pass w.toNat } = { view d with
      events := (view d).events.tail
      eventIndex := (d.events.pass d.events.get).get } := by
  have used : d.events.places ≠ [] := fun none => some (by simp [view, none])
  have same : w.toNat = d.events.get := index
  rw [same]
  refine View.ext rfl rfl rfl ?_ rfl rfl rfl
  show (d.events.pass d.events.get).places.map _ = (d.events.places.map _).tail
  rw [Window.pass_places used, List.map_tail]

theorem drop_law {into : RxStore} {stores : (store : RxStore) → Window (capacity cfg store)}
    (others : ∀ other, other ≠ into → stores other = d.stores other)
    (places : (stores into).places = (d.stores into).places.tail) :
    view { d with stores := stores } =
      (view d).dropReceived into (into.index (stores into).get) := by
  refine View.ext rfl rfl rfl rfl rfl (funext fun other => ?_) (funext fun other => ?_)
  · show (stores other).places.map _ = Function.update (view d).received into _ other
    by_cases here : other = into
    · subst here
      rw [Function.update_self, places, List.map_tail]
      rfl
    · rw [Function.update_of_ne here, others other here]
      rfl
  · show other.index (stores other).get = Function.update (view d).rxIndex into _ other
    by_cases here : other = into
    · subst here
      rw [Function.update_self]
    · rw [Function.update_of_ne here, others other here]
      rfl

theorem passStore_law {into : RxStore} (some : (view d).received into ≠ []) {index : Nat}
    (same : index = (d.stores into).get) : view (d.passStore into index) =
      (view d).dropReceived into (into.index ((d.stores into).pass (d.stores into).get).get) := by
  have used : (d.stores into).places ≠ [] := fun none => some (by simp [view, none])
  subst same
  have there : Function.update d.stores into ((d.stores into).pass (d.stores into).get) into =
      (d.stores into).pass (d.stores into).get := Function.update_self _ _ _
  refine (drop_law (fun other here => Function.update_of_ne here _ _) ?_).trans ?_
  · rw [there, Window.pass_places used]
  · rw [there]

theorem clearNewData_law {first index : Nat} (low : first ≤ index) (high : index < first + 32) :
    view (d.clearNewData first (1#32 <<< (index - first))) =
      (view d).dropReceived (.buffer index) index := by
  have bit (i : Nat) := getLsbD_bit (n := 32) (b := index - first) (by omega) i
  refine drop_law (fun other here => ?_) ?_
  · cases other with
    | fifo0 => rfl
    | fifo1 => rfl
    | buffer i =>
        have apart : i ≠ index := fun same => here (congrArg RxStore.buffer same)
        refine if_neg ?_
        rw [bit, decide_eq_true_iff]
        omega
  · have one : capacity cfg (.buffer index) ≤ 1 := by
      unfold capacity
      dsimp only
      split <;> omega
    have few : (d.stores (.buffer index)).places.tail.length = 0 := by
      rw [List.length_tail, Window.places_length]
      have := (d.stores (.buffer index)).fill_le
      omega
    rw [List.length_eq_zero_iff.mp few]
    refine congrArg Window.places (if_pos ⟨low, ?_⟩)
    rw [bit, decide_eq_true rfl]

section Moves

theorem clear_bit_law (txbrp : Word) (buffer : Nat) :
    (txbrp &&& ~~~(1#32 <<< buffer)).getLsbD = Function.update txbrp.getLsbD buffer false := by
  funext i
  by_cases narrow : buffer < 32
  · rw [getLsbD_clear_bit txbrp narrow, Function.update_apply]
    by_cases same : i = buffer <;> simp [same]
  · have wide : 1#32 <<< buffer = 0#32 := BitVec.shiftLeft_eq_zero (Nat.le_of_not_lt narrow)
    rw [wide, BitVec.not_zero, BitVec.and_allOnes, Function.update_apply]
    split
    · next same => rw [same, BitVec.getLsbD_of_ge _ _ (Nat.le_of_not_lt narrow)]
    · rfl

theorem sent_law (buffer : Nat) :
    view (d.sent buffer) = (view d).sent cfg buffer := by
  have cleared : (d.txbrp &&& ~~~(1#32 <<< buffer)).getLsbD =
      Function.update (view d).requested buffer false := clear_bit_law d.txbrp buffer
  have count : (view d).events.length = d.events.fill := by simp [view]
  unfold sent View.sent
  dsimp only
  rw [show (view d).element buffer = element cfg d.ram buffer from rfl, count]
  split
  · split
    · next room =>
        have valid : Slot.Valid cfg (.event d.events.put) := Window.put_lt room
        have fits : [element cfg d.ram buffer 0, element cfg d.ram buffer 1].length ≤
            width cfg (.event d.events.put) := by rw [width_event]; rfl
        refine View.ext rfl cleared (funext fun b => funext fun i => ?_) ?_
          (Window.push_get d.events) (funext fun into => ?_) rfl
        · exact element_other valid fits i (by simp)
        · show d.events.push.places.map _ = d.events.places.map _ ++ [_]
          rw [Window.push_places room, List.map_append, List.map_singleton]
          congr 1
          · refine List.map_congr_left fun place member => ?_
            refine marker_other valid fits (Window.places_lt member) ?_
            rintro same
            exact Window.put_not_mem room (Slot.event.inj same ▸ member)
          · dsimp only
            rw [marker, store_inside (i := 1) (by simp)]
            rfl
        · exact List.map_congr_left fun place member =>
            frame_other valid fits (Window.places_lt member) (by simp)
    · exact View.ext rfl cleared rfl rfl rfl rfl rfl
  · exact View.ext rfl cleared rfl rfl rfl rfl rfl

theorem frame_stored {frame' : RxFrame}
    (whole : frame'.data.length = wordCount (rxLength frame'.r1))
    (fits : rxLength frame'.r1 ≤ bufferSizeFd cfg.canFdDataBufSize) :
    frame cfg (store ram first ([frame'.r0, frame'.r1] ++ frame'.data)) first = frame' := by
  have parts := width_parts cfg
  have few := wordCount_le (bufferSizeFd_whole cfg.canFdDataBufSize).1 fits
  have r0 : store ram first ([frame'.r0, frame'.r1] ++ frame'.data) first = frame'.r0 :=
    store_inside (i := 0) (by simp)
  have r1 : store ram first ([frame'.r0, frame'.r1] ++ frame'.data) (first + 1) = frame'.r1 :=
    store_inside (i := 1) (by simp)
  have data : load (store ram first ([frame'.r0, frame'.r1] ++ frame'.data)) (first + 2)
      frame'.data.length = frame'.data := by
    refine List.ext_getElem (by simp [load]) fun i _ inside => ?_
    simp only [load, List.getElem_map, List.getElem_range]
    rw [Nat.add_assoc, store_inside (by simp; omega)]
    simp [List.getD_eq_getElem?_getD, Nat.add_comm 2, inside]
  rw [frame, r0, r1, ← whole, Nat.min_eq_left (by omega), data]

theorem receive_law {into : RxStore} {frame : RxFrame}
    (whole : frame.data.length = wordCount (rxLength frame.r1))
    (fits : rxLength frame.r1 ≤ bufferSizeFd cfg.canFdDataBufSize) :
    view (d.receive into frame) = (view d).receive cfg into frame := by
  unfold receive View.receive
  rw [received_length]
  split
  · next room =>
      have valid : Slot.Valid cfg (.rx into (d.stores into).put) := Window.put_lt room
      have narrow : ([frame.r0, frame.r1] ++ frame.data).length ≤
          width cfg (.rx into (d.stores into).put) := by
        have := width_parts cfg
        have := wordCount_le (bufferSizeFd_whole cfg.canFdDataBufSize).1 fits
        rw [width_rx, List.length_append, whole]
        simp only [List.length_cons, List.length_nil]
        omega
      refine View.ext rfl rfl (funext fun b => funext fun i => ?_) ?_ rfl (funext fun other => ?_)
        (funext fun other => ?_)
      · exact element_other valid narrow i (by simp)
      · exact List.map_congr_left fun place member =>
          marker_other valid narrow (Window.places_lt member) (by simp)
      · show (Function.update d.stores into _ other).places.map _ =
          Function.update (view d).received into _ other
        by_cases here : other = into
        · subst here
          rw [Function.update_self, Function.update_self, Window.push_places room, List.map_append,
            List.map_singleton, frame_stored whole fits]
          refine congrArg (· ++ [frame]) (List.map_congr_left fun place member => ?_)
          refine frame_other valid narrow (Window.places_lt member) ?_
          intro same
          exact Window.put_not_mem room ((Slot.rx.inj same).2 ▸ member)
        · rw [Function.update_of_ne here, Function.update_of_ne here]
          refine List.map_congr_left fun place member => ?_
          refine frame_other valid narrow (Window.places_lt member) ?_
          intro same
          exact here (Slot.rx.inj same).1.symm
      · show other.index (Function.update d.stores into _ other).get =
          other.index (d.stores other).get
        by_cases here : other = into
        · subst here
          rw [Function.update_self, Window.push_get]
        · rw [Function.update_of_ne here]
  · rfl

end Moves

end Laws

theorem fifo_register {into : RxStore} (fifo : into.IsFifo) :
    (tcan cfg).register d (statusRegister into) = status (d.stores into) := by
  rcases fifo with rfl | rfl <;> rfl

theorem fifo_few (configured : WellConfigured cfg) {into : RxStore} (fifo : into.IsFifo) :
    capacity cfg into ≤ 64 := by
  rcases fifo with rfl | rfl
  · exact configured.fifo0
  · exact configured.fifo1

theorem fifo_acknowledge {into : RxStore} (fifo : into.IsFifo) (w : Word) :
    (tcan cfg).write d (.reg (acknowledgeRegister into)) [w] = d.passStore into w.toNat := by
  rcases fifo with rfl | rfl <;> rfl

theorem fifo_index {into : RxStore} (fifo : into.IsFifo) (place : Nat) :
    into.index place = place := by
  rcases fifo with rfl | rfl <;> rfl

theorem word_offset (a : Slot) (offset : Nat) :
    (a.address cfg + offset * 4) / 4 = word cfg a + offset :=
  Nat.add_mul_div_right _ _ (by decide)

theorem received_head {into : RxStore} {frame' : RxFrame} {rest : List RxFrame}
    (some : (view d).received into = frame' :: rest) :
    frame' = frame cfg d.ram (word cfg (.rx into (d.stores into).get)) ∧
      rxElem cfg into ((view d).rxIndex into) = Slot.address cfg (.rx into (d.stores into).get) :=
  ⟨(places_head some).1, rfl⟩

/-- The controller with a flat message RAM, laid out as the driver does it, is one that the driver
can rely on. -/
theorem tcan_contract (configured : WellConfigured cfg) :
    Contract cfg (tcan cfg) (view : Tcan cfg → View) where
  intr _ := rfl
  txbrp _ _ _ := rfl
  txefs_level d _ := by
    have few := d.events.fill_le
    have narrow := configured.txBuffers
    show (status d.events &&& 0x3F#32).toNat = (view d).events.length
    rw [show _ &&& 0x3F#32 = _ from masked_low _ 6, status_level d.events (by omega) (by decide)]
    simp [view]
  txefs_index d := by
    have few := d.events.fill_le
    have early := d.events.get_le
    have narrow := configured.txBuffers
    show ((status d.events &&& 0x1F00#32) >>> 8).toNat = d.events.get
    rw [show (_ &&& 0x1F00#32) >>> 8 = _ from masked_field _ 8 5,
      status_index d.events (by omega) (by omega) (by decide)]
  event d marker' rest some := by
    rw [(places_head some).1]
    show (((load d.ram (((Slot.event d.events.get).address cfg + 1 * 4) / 4) 1).getD 0 0#32 &&&
      0xFF000000#32) >>> 24).toNat = marker d.ram (word cfg (.event d.events.get))
    rw [word_offset]
    rfl
  rx_level d into fifo _ := by
    have few := (d.stores into).fill_le
    have narrow := fifo_few configured fifo
    rw [fifo_register fifo, show _ &&& 0x7F#32 = _ from masked_low _ 7,
      status_level _ (by omega) (by decide), received_length]
  rx_index d into fifo := by
    have few := (d.stores into).fill_le
    have early := (d.stores into).get_le
    have narrow := fifo_few configured fifo
    rw [fifo_register fifo, show (_ &&& 0x3F00#32) >>> 8 = _ from masked_field _ 8 6,
      status_index _ (by omega) (by omega) (by decide)]
    exact (fifo_index fifo _).symm
  rx_buffer _ _ := rfl
  ndat1 d index inside := by
    show (d.newDataWord 0).getLsbD index = _
    rw [newDataWord_bit 0 inside, Nat.zero_add]
  ndat2 d index inside := by
    show (d.newDataWord 32).getLsbD index = _
    rw [newDataWord_bit 32 inside, Nat.add_comm]
  rx_head d into frame' rest some := by
    obtain ⟨rfl, address⟩ := received_head some
    rw [address]
    exact ⟨rfl, rfl⟩
  rx_data d into frame' rest some fits := by
    have few := wordCount_le (bufferSizeFd_whole cfg.canFdDataBufSize).1 fits
    have parts := width_parts cfg
    obtain ⟨rfl, address⟩ := received_head some
    rw [address]
    show load d.ram ((Slot.address cfg (.rx into (d.stores into).get) + 2 * 4) / 4) _ = load _ _ _
    rw [word_offset]
    congr 1
    exact (Nat.min_eq_left (by
      show wordCount (rxLength _) ≤ _
      omega)).symm
  clear d w := rfl
  request d w := by
    refine View.ext rfl (funext fun b => ?_) rfl rfl rfl rfl rfl
    exact BitVec.getLsbD_or
  fill d b words inside fits _ := fill_law inside fits
  acknowledge d some := ⟨_, fun w index => acknowledge_law some w index⟩
  rx_acknowledge d into fifo some := ⟨_, fun w index => by
    rw [fifo_acknowledge fifo]
    exact passStore_law some (index.trans (fifo_index fifo _))⟩
  rx_clear d index inside := by
    by_cases low : index < 32
    · have register : acknowledgeRegister (.buffer index) = .ndat1 := if_pos low
      rw [register, Nat.mod_eq_of_lt low]
      exact clearNewData_law (Nat.zero_le _) (by omega)
    · have register : acknowledgeRegister (.buffer index) = .ndat2 := if_neg low
      rw [register, Nat.mod_eq_sub_mod (by omega), Nat.mod_eq_of_lt (by omega)]
      exact clearNewData_law (by omega) (by omega)
  moves d m possible := by
    cases m with
    | sent buffer => exact sent_law buffer
    | aborted buffer => exact View.ext rfl (clear_bit_law d.txbrp buffer) rfl rfl rfl rfl rfl
    | received into frame => exact receive_law possible.1 possible.2
    | raised flags => rfl

end AnchorNode.CanDrv.Tcan
