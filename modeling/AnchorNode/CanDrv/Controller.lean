import AnchorNode.CanDrv.Handlers
import AnchorNode.Lib.Fields

/-! What the driver relies on of the controller: its registers and its message RAM show what it
holds, and it changes that as its manual says. -/

namespace AnchorNode.CanDrv

open AnchorNode.Lib

/-- An RX element: its first two words and its data words. -/
structure RxFrame where
  r0 : Word
  r1 : Word
  data : List Word
  deriving DecidableEq, Repr

/-- A frame on the bus: the first word of its element, with the identifier, the format, bit rate and
length that the second word gives, and its bytes. -/
@[ext] structure BusFrame where
  identifier : Word
  fdf : Word
  brs : Word
  dlc : Word
  data : List UInt8
  deriving DecidableEq, Repr

/-- What the controller holds: the interrupt flags, the TX buffers with a pending request and the
words of each, the message markers of the TX events nobody has acknowledged, oldest first, and the
frames received that nobody has acknowledged. The indices are the get indices. -/
@[ext] structure View where
  intr : Word
  requested : Nat → Bool
  element : Nat → Nat → Word
  events : List Nat
  eventIndex : Nat
  received : RxStore → List RxFrame
  rxIndex : RxStore → Nat

section Elements

def txMarker (element : Nat → Word) : Nat := ((element 1 &&& 0xFF000000#32) >>> 24).toNat

def storesEvent (element : Nat → Word) : Bool := (element 1).getLsbD 23

def busFrame (element : Nat → Word) : BusFrame where
  identifier := element 0
  fdf := field (element 1) 21 1
  brs := field (element 1) 20 1
  dlc := field (element 1) 16 4
  data := (List.range (rxLength (element 1))).map (unpackByte fun i => element (i + 2))

end Elements

/-- What the controller does by itself. -/
inductive Move where
  | sent (buffer : Nat)
  | aborted (buffer : Nat)
  | received (store : RxStore) (frame : RxFrame)
  | raised (flags : Word)

section Stores
variable (cfg : Config)

def capacity : RxStore → Nat
  | .fifo0 => cfg.canMsgRamConfig.canFifo0BufferCount
  | .fifo1 => cfg.canMsgRamConfig.canFifo1BufferCount
  | .buffer index => if index < cfg.canMsgRamConfig.canDedicatedRxBufferCount then 1 else 0

def newFlag : RxStore → Word
  | .fifo0 => irRf0n
  | .fifo1 => irRf1n
  | .buffer _ => irDrx

def lostFlag : RxStore → Word
  | .fifo0 => irRf0l
  | .fifo1 => irRf1l
  | .buffer _ => 0#32

def statusRegister : RxStore → Register
  | .fifo0 => .rxf0s
  | .fifo1 => .rxf1s
  | .buffer _ => .ndat1

def acknowledgeRegister : RxStore → Register
  | .fifo0 => .rxf0a
  | .fifo1 => .rxf1a
  | .buffer index => if index < 32 then .ndat1 else .ndat2

def RxStore.IsFifo (store : RxStore) : Prop := store = .fifo0 ∨ store = .fifo1

end Stores

namespace View
variable (cfg : Config) (v : View)

/-- A frame has been sent: its request is over, and if the element asks for it and there is room
the controller keeps an event. -/
def sent (buffer : Nat) : View :=
  let v := { v with requested := Function.update v.requested buffer false }
  if storesEvent (v.element buffer) then
    if v.events.length < cfg.canMsgRamConfig.canTxBufferCount then
      { v with
        events := v.events ++ [txMarker (v.element buffer)]
        intr := v.intr ||| irTefn }
    else { v with intr := v.intr ||| irTefl }
  else v

def receive (store : RxStore) (frame : RxFrame) : View :=
  if (v.received store).length < capacity cfg store then
    { v with
      received := Function.update v.received store (v.received store ++ [frame])
      intr := v.intr ||| newFlag store }
  else { v with intr := v.intr ||| lostFlag store }

def move : Move → View
  | .sent buffer => v.sent cfg buffer
  | .aborted buffer => { v with requested := Function.update v.requested buffer false }
  | .received store frame => v.receive cfg store frame
  | .raised flags => { v with intr := v.intr ||| flags }

/-- The controller sends what is requested, and frames that it receives have the data that their
length says and fit into the elements. -/
def Possible : Move → Prop
  | .sent buffer => v.requested buffer = true
  | .received _ frame => frame.data.length = wordCount (rxLength frame.r1) ∧
      rxLength frame.r1 ≤ bufferSizeFd cfg.canFdDataBufSize
  | _ => True

instance : (m : Move) → Decidable (v.Possible cfg m)
  | .sent buffer => inferInstanceAs (Decidable (v.requested buffer = true))
  | .received _ frame => inferInstanceAs
      (Decidable (frame.data.length = wordCount (rxLength frame.r1) ∧
        rxLength frame.r1 ≤ bufferSizeFd cfg.canFdDataBufSize))
  | .aborted _ => inferInstanceAs (Decidable True)
  | .raised _ => inferInstanceAs (Decidable True)

def dropReceived (store : RxStore) (next : Nat) : View :=
  { v with
    received := Function.update v.received store (v.received store).tail
    rxIndex := Function.update v.rxIndex store next }

end View

/-- A controller: what it answers over SPI, and how it changes. -/
structure Chip (D : Type) where
  read : D → Address → Nat → List Word
  write : D → Address → List Word → D
  move : D → Move → D

variable {D : Type}

def Chip.register (chip : Chip D) (d : D) (r : Register) : Word :=
  (chip.read d (.reg r) 1).getD 0 0#32

/-- The chip as the driver relies on it. -/
structure Contract (cfg : Config) (chip : Chip D) (view : D → View) : Prop where
  intr : ∀ d, chip.register d .intr = (view d).intr
  txbrp : ∀ d b, b < 32 → (chip.register d .txbrp).getLsbD b = (view d).requested b
  txefs_level : ∀ d, (view d).events.length ≤ cfg.canMsgRamConfig.canTxBufferCount →
    (chip.register d .txefs &&& 0x3F#32).toNat = (view d).events.length
  txefs_index : ∀ d, ((chip.register d .txefs &&& 0x1F00#32) >>> 8).toNat = (view d).eventIndex
  event : ∀ d marker rest, (view d).events = marker :: rest →
    (((chip.read d (.ram (txEventElem cfg (view d).eventIndex + 4)) 1).getD 0 0#32 &&&
      0xFF000000#32) >>> 24).toNat = marker
  rx_level : ∀ d store, store.IsFifo → ((view d).received store).length ≤ capacity cfg store →
    (chip.register d (statusRegister store) &&& 0x7F#32).toNat = ((view d).received store).length
  rx_index : ∀ d store, store.IsFifo →
    ((chip.register d (statusRegister store) &&& 0x3F00#32) >>> 8).toNat = (view d).rxIndex store
  rx_buffer : ∀ d index, (view d).rxIndex (.buffer index) = index
  ndat1 : ∀ d index, index < 32 → ((chip.read d (.reg .ndat1) 2).getD 0 0#32).getLsbD index =
    !((view d).received (.buffer index)).isEmpty
  ndat2 : ∀ d index, index < 32 → ((chip.read d (.reg .ndat1) 2).getD 1 0#32).getLsbD index =
    !((view d).received (.buffer (index + 32))).isEmpty
  rx_head : ∀ d store frame rest, (view d).received store = frame :: rest →
    let head := chip.read d (.ram (rxElem cfg store ((view d).rxIndex store))) 2
    head.getD 0 0#32 = frame.r0 ∧ head.getD 1 0#32 = frame.r1
  rx_data : ∀ d store frame rest, (view d).received store = frame :: rest →
    rxLength frame.r1 ≤ bufferSizeFd cfg.canFdDataBufSize →
    chip.read d (.ram (rxElem cfg store ((view d).rxIndex store) + 8))
      (wordCount (rxLength frame.r1)) = frame.data
  clear : ∀ d w, view (chip.write d (.reg .intr) [w]) =
    { view d with intr := (view d).intr &&& ~~~w }
  request : ∀ d w, view (chip.write d (.reg .txbar) [w]) =
    { view d with requested := fun b => (view d).requested b || w.getLsbD b }
  fill : ∀ d b words, b < cfg.canMsgRamConfig.canTxBufferCount →
    words.length * 4 ≤ elementSize cfg → (view d).requested b = false →
    view (chip.write d (.ram (txBufferElem cfg b)) words) =
      { view d with
        element := Function.update (view d).element b fun i => words.getD i ((view d).element b i) }
  acknowledge : ∀ d, (view d).events ≠ [] → ∃ next, ∀ w : Word, w.toNat = (view d).eventIndex →
    view (chip.write d (.reg .txefa) [w]) =
      { view d with events := (view d).events.tail, eventIndex := next }
  rx_acknowledge : ∀ d store, store.IsFifo → (view d).received store ≠ [] → ∃ next,
    ∀ w : Word, w.toNat = (view d).rxIndex store →
      view (chip.write d (.reg (acknowledgeRegister store)) [w]) =
        (view d).dropReceived store next
  rx_clear : ∀ d index, index < 64 → view (chip.write d
      (.reg (acknowledgeRegister (.buffer index))) [1#32 <<< (index % 32)]) =
    (view d).dropReceived (.buffer index) index
  moves : ∀ d m, (view d).Possible cfg m → view (chip.move d m) = (view d).move cfg m

end AnchorNode.CanDrv
