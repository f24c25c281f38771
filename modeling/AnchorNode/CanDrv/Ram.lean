import AnchorNode.CanDrv.Layout
import AnchorNode.Lib.Window

/-! A controller with a flat message RAM: its FIFOs are windows on the elements of their regions. It
keeps the contract that the driver relies on, because the elements do not overlap. -/

namespace AnchorNode.CanDrv

open AnchorNode.Lib

/-- Interrupt flags, pending requests, the words of the message RAM, and the windows of the TX event
FIFO and of the stores of received frames. -/
structure Tcan (cfg : Config) where
  intr : Word
  txbrp : Word
  ram : Nat → Word
  events : Window cfg.canMsgRamConfig.canTxBufferCount
  stores : (store : RxStore) → Window (capacity cfg store)

variable {cfg : Config}

namespace Tcan

def word (cfg : Config) (a : Slot) : Nat := a.address cfg / 4

section Access

def store (ram : Nat → Word) (first : Nat) (words : List Word) (a : Nat) : Word :=
  if first ≤ a ∧ a < first + words.length then words.getD (a - first) 0#32 else ram a

def load (ram : Nat → Word) (first count : Nat) : List Word :=
  (List.range count).map fun i => ram (first + i)

def status {n : Nat} (w : Window n) : Word :=
  BitVec.ofNat 32 w.fill ||| BitVec.ofNat 32 w.get <<< 8 ||| BitVec.ofNat 32 w.put <<< 16

def newDataWord (d : Tcan cfg) (first : Nat) : Word :=
  (BitVec.ofBoolListLE ((List.range 32).map fun i =>
    decide (0 < (d.stores (.buffer (first + i))).fill))).setWidth 32

def registers (d : Tcan cfg) : Register → List Word
  | .intr => [d.intr]
  | .txbrp => [d.txbrp]
  | .txefs => [status d.events]
  | .rxf0s => [status (d.stores .fifo0)]
  | .rxf1s => [status (d.stores .fifo1)]
  | .ndat1 => [d.newDataWord 0, d.newDataWord 32]
  | .ndat2 => [d.newDataWord 32]
  | _ => [0#32]

def read (d : Tcan cfg) : Address → Nat → List Word
  | .reg r, count => (d.registers r).take count
  | .ram offset, count => load d.ram (offset / 4) count

def clearNewData (d : Tcan cfg) (first : Nat) (w : Word) : Tcan cfg :=
  { d with stores := fun
      | .buffer index => if first ≤ index ∧ w.getLsbD (index - first) then Window.vacant _
        else d.stores (.buffer index)
      | other => d.stores other }

def passStore (d : Tcan cfg) (store : RxStore) (index : Nat) : Tcan cfg :=
  { d with stores := Function.update d.stores store ((d.stores store).pass index) }

def write (d : Tcan cfg) : Address → List Word → Tcan cfg
  | .reg r, words =>
    let w := words.getD 0 0#32
    match r with
    | .intr => { d with intr := d.intr &&& ~~~w }
    | .txbar => { d with txbrp := d.txbrp ||| w }
    | .txefa => { d with events := d.events.pass w.toNat }
    | .rxf0a => d.passStore .fifo0 w.toNat
    | .rxf1a => d.passStore .fifo1 w.toNat
    | .ndat1 => d.clearNewData 0 w
    | .ndat2 => d.clearNewData 32 w
    | _ => d
  | .ram offset, words => { d with ram := store d.ram (offset / 4) words }

end Access

section Moves

def element (cfg : Config) (ram : Nat → Word) (buffer i : Nat) : Word :=
  if buffer < cfg.canMsgRamConfig.canTxBufferCount ∧ i < elementSize cfg / 4 then
    ram (word cfg (.tx buffer) + i)
  else 0#32

def sent (d : Tcan cfg) (buffer : Nat) : Tcan cfg :=
  let words := element cfg d.ram buffer
  let d := { d with txbrp := d.txbrp &&& ~~~(1#32 <<< buffer) }
  if storesEvent words then
    if d.events.fill < cfg.canMsgRamConfig.canTxBufferCount then
      { d with
        ram := store d.ram (word cfg (.event d.events.put)) [words 0, words 1]
        events := d.events.push
        intr := d.intr ||| irTefn }
    else { d with intr := d.intr ||| irTefl }
  else d

def receive (d : Tcan cfg) (into : RxStore) (frame : RxFrame) : Tcan cfg :=
  if (d.stores into).fill < capacity cfg into then
    { d with
      ram := store d.ram (word cfg (.rx into (d.stores into).put))
        ([frame.r0, frame.r1] ++ frame.data)
      stores := Function.update d.stores into (d.stores into).push
      intr := d.intr ||| newFlag into }
  else { d with intr := d.intr ||| lostFlag into }

def move (d : Tcan cfg) : Move → Tcan cfg
  | .sent buffer => d.sent buffer
  | .aborted buffer => { d with txbrp := d.txbrp &&& ~~~(1#32 <<< buffer) }
  | .received into frame => d.receive into frame
  | .raised flags => { d with intr := d.intr ||| flags }

end Moves

section Views

def frame (cfg : Config) (ram : Nat → Word) (first : Nat) : RxFrame where
  r0 := ram first
  r1 := ram (first + 1)
  data := load ram (first + 2)
    (min (wordCount (rxLength (ram (first + 1)))) (elementSize cfg / 4 - 2))

def marker (ram : Nat → Word) (first : Nat) : Nat :=
  ((ram (first + 1) &&& 0xFF000000#32) >>> 24).toNat

def view (d : Tcan cfg) : View where
  intr := d.intr
  requested := d.txbrp.getLsbD
  element := element cfg d.ram
  events := d.events.places.map fun place => marker d.ram (word cfg (.event place))
  eventIndex := d.events.get
  received store := (d.stores store).places.map fun place =>
    frame cfg d.ram (word cfg (.rx store place))
  rxIndex store := store.index (d.stores store).get

end Views

end Tcan

def tcan (cfg : Config) : Chip (Tcan cfg) where
  read := Tcan.read
  write := Tcan.write
  move := Tcan.move

end AnchorNode.CanDrv
