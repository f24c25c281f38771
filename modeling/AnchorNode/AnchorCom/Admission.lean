import AnchorNode.AnchorCom.Delivery
import AnchorNode.AnchorCom.Handover

/-! Whether an accepted reception fits the receive buffer. -/

namespace AnchorNode.AnchorCom.Rx

open AnchorNode.Lib

structure Chunk where
  length : Nat
  data : Mem

def Chunk.bytes (chunk : Chunk) : List UInt8 := chunk.data.read 0 chunk.length

def totalLength (chunks : List Chunk) : Nat := (chunks.map Chunk.length).sum

section Copies
variable (cfg : Config) (id : Nat)

def copyChunk (s : State) (chunk : Chunk) : State × CopyAnswer :=
  copyRxData cfg id (some ⟨chunk.length, some chunk.data⟩) s

def copyChunks (s : State) (chunks : List Chunk) : State :=
  chunks.foldl (fun s chunk => (copyChunk cfg id s chunk).1) s

/-- Every chunk is taken, and the size reported with it is enough for those to come. -/
def AllTaken : State → List Chunk → Prop
  | _, [] => True
  | s, chunk :: chunks =>
    (copyChunk cfg id s chunk).2.result = .ok ∧
      (∃ size, (copyChunk cfg id s chunk).2.bufferSize = some size ∧ totalLength chunks ≤ size) ∧
      AllTaken (copyChunk cfg id s chunk).1 chunks

/-- However `n` bytes are split into chunks, all of them are taken and stand behind the channel
id in the end. -/
def Fits (n : Nat) (s : State) : Prop :=
  ∀ c i, findByLLPdu cfg id cfg.lowerRxPdu cfg.numLlRx = some (c, i) →
    ∀ chunks, totalLength chunks = n →
      AllTaken cfg id s chunks ∧
        ((copyChunks cfg id s chunks).chRxInfo c i).rxOffset = chanIdLen + n ∧
        ((copyChunks cfg id s chunks).chRxInfo c i).rxBuffer.read chanIdLen n =
          chunks.flatMap Chunk.bytes

end Copies

variable {cfg : Config} {id c i n : Nat} {r s : State}

theorem bytes_length (chunk : Chunk) : chunk.bytes.length = chunk.length := read_length _ _ _

theorem flatMap_bytes_length (chunks : List Chunk) :
    (chunks.flatMap Chunk.bytes).length = totalLength chunks := by
  simp [totalLength, List.length_flatMap, bytes_length]

theorem Receiving.allTaken {got : List UInt8} {chunks : List Chunk}
    (receiving : Receiving r s c i got)
    (found : findByLLPdu cfg id cfg.lowerRxPdu cfg.numLlRx = some (c, i))
    (room : chanIdLen + got.length + totalLength chunks ≤ cfg.maxRxBufferLen)
    (small : chanIdLen + got.length + totalLength chunks < 65536) :
    AllTaken cfg id s chunks ∧
      Receiving r (copyChunks cfg id s chunks) c i (got ++ chunks.flatMap Chunk.bytes) := by
  -- on the chunks; each moves from `chunks` to `got`, and the room they need together stays
  induction chunks generalizing s got with
  | nil => exact ⟨trivial, by simpa [copyChunks] using receiving⟩
  | cons chunk chunks ih =>
      have split : totalLength (chunk :: chunks) = chunk.length + totalLength chunks := by
        simp [totalLength]
      rw [split] at room small
      obtain ⟨answer, appended⟩ :=
        receiving.appends found chunk.length chunk.data (by omega) (by omega)
      have grown : (got ++ chunk.data.read 0 chunk.length).length = got.length + chunk.length := by
        simp
      obtain ⟨taken, received⟩ := ih appended (by omega) (by omega)
      have left : totalLength chunks ≤
          cfg.maxRxBufferLen - (chanIdLen + got.length + chunk.length) := by omega
      refine ⟨⟨?_, ⟨_, ?_, left⟩, taken⟩, ?_⟩
      · rw [copyChunk, answer]
      · rw [copyChunk, answer]
      · simpa [copyChunks, List.flatMap_cons, Chunk.bytes, copyChunk] using received

/-- An accepted reception fits exactly when there is room for the channel id in front of it. -/
theorem accepted_reception_fits_iff
    (accepted : (startOfReception cfg id n s).2.result = .ok) :
    Fits cfg id n (startOfReception cfg id n s).1 ↔
      chanIdLen + n ≤ cfg.maxRxBufferLen ∧ chanIdLen + n < 65536 := by
  cases found : findByLLPdu cfg id cfg.lowerRxPdu cfg.numLlRx with
  | none => simp [startOfReception, found] at accepted
  | some place =>
      obtain ⟨c, i⟩ := place
      have admitted : n ≤ cfg.maxRxBufferLen := by
        simp only [startOfReception, found] at accepted
        split at accepted
        · cases accepted
        · omega
      have opened := startOfReception_receiving (r := s) found admitted
      constructor
      · intro fits
        obtain ⟨taken, offset, -⟩ := fits c i found [⟨n, fun _ => 0⟩] (by simp [totalLength])
        have answered := taken.1
        generalize (startOfReception cfg id n s).1 = t at *
        have reached : (t.chRxInfo c i).rxOffset = chanIdLen := opened.offset
        have room : ¬ (t.chRxInfo c i).rxOffset + n > cfg.maxRxBufferLen := by
          intro long
          simp only [copyChunk, copyRxData, found, if_pos long] at answered
          cases answered
        refine ⟨by omega, ?_⟩
        simp only [copyChunks, copyChunk, List.foldl, copyRxData, found, if_neg room,
          State.setInfo, Function.update_self] at offset
        rw [← offset]
        exact Nat.mod_lt _ (by decide)
      · rintro ⟨room, small⟩ c' i' found' chunks total
        obtain ⟨rfl, rfl⟩ := Prod.mk.inj (Option.some.inj (found'.symm.trans found))
        rw [← total] at room small
        obtain ⟨taken, received⟩ := opened.allTaken found (by simpa using room)
          (by simpa using small)
        have length := flatMap_bytes_length chunks
        have offset := received.offset
        have holds := received.holds
        rw [List.nil_append, length, total] at offset holds
        exact ⟨taken, offset, holds⟩

theorem accepted_reception_fits_short :
    Fits receiverConfig 0 63 (startOfReception receiverConfig 0 63 emptyState).1 :=
  (accepted_reception_fits_iff (by decide)).mpr (by decide)

theorem longest_reception_refused :
    (startOfReception receiverConfig 0 64 emptyState).2.result = .ok ∧
      (copyChunk receiverConfig 0 (startOfReception receiverConfig 0 64 emptyState).1
        ⟨64, fun _ => 5⟩).2.result = .ovfl ∧
      ¬ Fits receiverConfig 0 64 (startOfReception receiverConfig 0 64 emptyState).1 := by
  refine ⟨by decide, by decide, fun fits => ?_⟩
  obtain ⟨taken, -⟩ := fits 0 0 (by decide) [⟨64, fun _ => 5⟩] (by decide)
  have refused : (copyChunk receiverConfig 0
      (startOfReception receiverConfig 0 64 emptyState).1 ⟨64, fun _ => 5⟩).2.result ≠ .ok := by
    decide
  exact refused taken.1

end AnchorNode.AnchorCom.Rx
