import Mathlib.Tactic

/-! A stream of bytes that is read in pieces whose sizes the reader does not choose. -/

namespace AnchorNode.Lib

/-- How many bytes a read returns at a position of the stream, for the number it asks for, as
long as the stream goes on. -/
structure Delivery where
  count : Nat → Nat → Nat
  positive : ∀ position n, 0 < n → 0 < count position n
  bounded : ∀ position n, count position n ≤ n

/-- Every read returns all it asks for. -/
def Delivery.whole : Delivery := ⟨fun _ n => n, fun _ _ positive => positive, fun _ _ => le_rfl⟩

/-- What is left of a stream, and how much was read of it. -/
structure Incoming where
  position : Nat
  pending : List UInt8

def Incoming.skip (i : Incoming) (n : Nat) : Incoming := ⟨i.position + n, i.pending.drop n⟩

/-- The bytes of one read. At the end of the stream there are fewer, and finally none. -/
def Delivery.piece (d : Delivery) (n : Nat) (i : Incoming) : List UInt8 :=
  i.pending.take (d.count i.position n)

variable {d : Delivery} {i : Incoming}

@[simp] theorem skip_zero (i : Incoming) : i.skip 0 = i := rfl

theorem skip_skip (i : Incoming) (m n : Nat) : (i.skip m).skip n = i.skip (m + n) := by
  simp [Incoming.skip, Nat.add_assoc]

theorem piece_length (d : Delivery) (n : Nat) (i : Incoming) :
    (d.piece n i).length = min (d.count i.position n) i.pending.length := by
  simp [Delivery.piece]

@[simp] theorem count_one (d : Delivery) (position : Nat) : d.count position 1 = 1 := by
  have lower := d.positive position 1 Nat.one_pos
  have upper := d.bounded position 1
  omega

theorem piece_one (d : Delivery) (i : Incoming) : d.piece 1 i = i.pending.take 1 := by
  simp [Delivery.piece]

end AnchorNode.Lib
