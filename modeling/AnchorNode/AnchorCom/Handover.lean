import AnchorNode.AnchorCom.Bounds
import AnchorNode.AnchorCom.Secured

/-! A message between two nodes. Their lower layers take the string on the wire from the buffer
of the sender, in slices of any lengths, and append them to the buffer of the receiver. -/

namespace AnchorNode.AnchorCom.Tx

open AnchorNode.Lib

variable {cfg : Config} {env : Env} {s : State} {c i m sent : Nat}
  {payload wire : List UInt8}

/-- The queued front entry of peer `i` has this payload. -/
structure Waiting (cfg : Config) (s : State) (i : Nat) (payload : List UInt8) : Prop where
  atFront : AtFront cfg s i
  queued : (s.front i).queueState = .queued
  length : (s.msgTxInfo i (s.front i).msgIdx).length = payload.length
  holds : (s.buffer i (s.front i).msgIdx).read headerLen payload.length = payload

theorem storeData_holds (cfg : Config) (args : TransmitArgs) (m : Nat) (s : State) :
    ((storeData cfg args m s).buffer (otherEndIdxToUse cfg m args.otherEndIdx) m).read headerLen
      args.payload.length = args.payload := by
  rw [storeData_buffer, Function.update_self, Function.update_self]
  exact read_write_same _ headerLen args.payload

theorem transmit_waiting {args : TransmitArgs} {m : Nat} (checked : checkTransmit cfg args = .ok m)
    (unicast : (cfg.msgCfg m).broadcast = false)
    (usable : bufferUsable cfg args.otherEndIdx m args.overwriteOldData s = true)
    (short : args.length + args.length2 < 65536)
    (empty : (s.queue args.otherEndIdx).isEmpty = true) :
    Waiting cfg (transmit cfg args s).1 args.otherEndIdx args.payload ∧
      ((transmit cfg args s).1.front args.otherEndIdx).msgIdx = m := by
  obtain ⟨known, peer, fits⟩ := checkTransmit_ok checked
  have here : otherEndIdxToUse cfg m args.otherEndIdx = args.otherEndIdx := by
    simp [otherEndIdxToUse, unicast]
  have room : (s.queue args.otherEndIdx).isFull = false :=
    (s.queue args.otherEndIdx).isFull_of_empty (by decide) empty
  have becomes : (acceptData cfg args m s).1.toCore = _ :=
    acceptData_room (by rw [here]; exact room)
  have holds := storeData_holds cfg args m s
  have length := storeData_length cfg args m s args.otherEndIdx m
  have count : u16 (args.length + args.length2) = args.payload.length := by
    rw [payload_length, u16, Nat.mod_eq_of_lt short]
  rw [here] at becomes holds
  rw [here, if_pos ⟨rfl, rfl⟩, count] at length
  have given : (transmit cfg args s).1 = (acceptData cfg args m s).1 := by
    simp [transmit, checked, usable]
  generalize (acceptData cfg args m s).1 = t at becomes given
  rw [given]
  have queue : t.queue = Function.update s.queue args.otherEndIdx
      ((s.queue args.otherEndIdx).push (newEntry cfg s.toCore args.otherEndIdx m)) := by
    rw [becomes]
    simp [storeData_queue]
  have front : t.front args.otherEndIdx = newEntry cfg s.toCore args.otherEndIdx m := by
    rw [Core.front, queue, Function.update_self, Ring.push_empty_front _ _ room empty]
  refine ⟨⟨⟨peer, ?_, ?_⟩, ?_, ?_, ?_⟩, ?_⟩
  · rw [queue, Function.update_self]
    exact Ring.push_filled _ _ room
  · rw [front, becomes]
    exact ⟨rfl, known, rfl, Nat.lt_succ_self _, fun all => by simp [newEntry, unicast] at all⟩
  · rw [front]
    rfl
  · rw [front, becomes]
    simpa [newEntry] using length
  · rw [front, becomes]
    exact holds
  · rw [front]
    rfl

theorem prepare_front (waiting : Waiting cfg s i payload) (short : payload.length + 15 < 65536)
    (ready : ((prepare cfg env i s).front i).queueState = .transReady) :
    AtFront cfg (prepare cfg env i s) i ∧
      ((prepare cfg env i s).queue i).head = (s.queue i).head ∧
      ((prepare cfg env i s).front i).msgIdx = (s.front i).msgIdx := by
  have first := prepare_first waiting.atFront waiting.queued ready
  obtain ⟨front, head, _, index, _⟩ :=
    txPart1_authenticable waiting.atFront waiting.queued (by rw [waiting.length]; exact short) first
  obtain ⟨e', buf', len', events, worked⟩ : ∃ e' buf' len' events, Worked cfg env
      (txPart1 cfg env i (s.queue i).head s) i _ e' buf' len' events := txPart2_worked front first
  obtain ⟨entry, head', filled, _, _, next, _⟩ := worked.fields
  rw [head] at entry head' filled next
  have key := worked.work.key
  have index' : e'.msgIdx = ((txPart1 cfg env i (s.queue i).head s).front i).msgIdx :=
    congrArg Prod.fst key
  refine ⟨⟨waiting.atFront.bound, filled.trans front.filled, ?_⟩, head', ?_⟩
  · rw [prepare, next, entry]
    exact front.own.same key
  · rw [prepare, entry, index', index]

structure Sending (s : State) (c i m : Nat) (wire : List UInt8) (sent : Nat) : Prop where
  filled : (s.queue i).isEmpty = false
  txMsgIdx : (s.chTxInfo c i).txMsgIdx = m
  txOffset : (s.chTxInfo c i).txOffset = sent
  length : (s.msgTxInfo i m).length = wire.length
  holds : (s.buffer i m).read chanIdLen wire.length = wire
  inside : sent ≤ wire.length
  small : wire.length < 65536

theorem startRequest_sending {t : State} (atFront : AtFront cfg t i)
    (ready : (t.front i).queueState = .transReady)
    (length : (t.msgTxInfo i (t.front i).msgIdx).length = wire.length)
    (holds : (t.buffer i (t.front i).msgIdx).read chanIdLen wire.length = wire)
    (small : wire.length < 65536) :
    Sending (startRequest i (t.queue i).head t) (cfg.msgCfg (t.front i).msgIdx).channel i
        (t.front i).msgIdx wire 0 ∧
      ((startRequest i (t.queue i).head t).front i).msgIdx = (t.front i).msgIdx := by
  have own := atFront.own
  have started : startRequest i (t.queue i).head t =
      { ((t.setFront i { t.front i with queueState := .transRunning }).setCh (t.front i).channel i
          { txInProgress := true, txOffset := 0, txMsgIdx := (t.front i).msgIdx }).emit
          (.request (t.front i).ticket (t.front i).channel i
            (t.msgTxInfo i (t.front i).msgIdx).length) with
        calling := true
        ret := .fatalFail } := by
    simp only [startRequest, front_entry, ready, if_true, own.anchorId]
    rfl
  rw [started, ← own.channel]
  refine ⟨⟨?_, ?_, ?_, length, holds, Nat.zero_le _, small⟩, ?_⟩
  · simpa [State.setFront] using atFront.filled
  · simp
  · simp
  · simp [Core.front, Ring.front, State.setFront]

theorem Sending.copies {id : Nat} (sending : Sending s c i m wire sent)
    (found : findByLLPdu cfg id cfg.lowerTxCbPdu cfg.numLlTx = some (c, i))
    (own : isImc cfg id = false) (sduLength : Nat) :
    let copied := copyTxData cfg id (some ⟨sduLength, true, none⟩) s
    copied.2.bytes = (wire.drop sent).take (u16 sduLength) ∧
      Sending copied.1 c i m wire (sent + copied.2.bytes.length) := by
  intro copied
  have inside := sending.inside
  have small := sending.small
  have headed : getTxQueueHead s i = some (s.queue i).head := getTxQueueHead_filled sending.filled
  have remaining : sub16 wire.length sent = wire.length - sent := by
    unfold sub16
    omega
  let count := min (u16 sduLength) (wire.length - sent)
  have slice : (s.buffer i m).read (sent + chanIdLen) count =
      (wire.drop sent).take (u16 sduLength) := by
    rw [Nat.add_comm, read_slice sending.holds sent count (by omega), List.take_eq_take_iff,
      List.length_drop]
    omega
  have length : ((wire.drop sent).take (u16 sduLength)).length = count := by
    rw [List.length_take, List.length_drop]
  have offset : u16 (sent + count) = sent + count := Nat.mod_eq_of_lt (by omega)
  have given : copied = copyBytes cfg id ⟨sduLength, true, none⟩ c i (some (s.queue i).head) s := by
    simp only [copied, copyTxData, found, headed, reduceCtorEq, false_and, if_false]
  have bytes : copied.2.bytes = (wire.drop sent).take (u16 sduLength) := by
    rw [given, ← slice]
    simp only [copyBytes, own, Bool.false_eq_true, if_false, if_true, sending.txMsgIdx,
      Option.map_none, Option.getD_none, sending.txOffset, sending.length, remaining, count]
  refine ⟨bytes, ?_⟩
  rw [bytes, length, given, copyBytes_given _ rfl]
  have after : Sending (afterCopy cfg s id c i ⟨sduLength, true, none⟩) c i m wire
      (sent + count) := by
    refine ⟨sending.filled, ?_, ?_, sending.length, sending.holds, by omega, small⟩
    · simp [afterCopy, sending.txMsgIdx]
    · simp [afterCopy, copyOffset, copyCount, copyRemaining, copySource, own, sending.txOffset,
        sending.txMsgIdx, sending.length, remaining, offset, count]
  split
  · exact ⟨by simpa using after.filled, by simpa using after.txMsgIdx,
      by simpa using after.txOffset, after.length, after.holds, after.inside, small⟩
  · exact after

end AnchorNode.AnchorCom.Tx

namespace AnchorNode.AnchorCom.Rx

open AnchorNode.Lib

variable {cfg : Config} {env : Env} {r s t : State} {c i : Nat}

structure Receiving (r s : State) (c i : Nat) (bytes : List UInt8) : Prop where
  offset : (s.chRxInfo c i).rxOffset = chanIdLen + bytes.length
  holds : (s.chRxInfo c i).rxBuffer.read chanIdLen bytes.length = bytes
  data : s.chRxData = r.chRxData
  queue : s.queue = r.queue
  next : s.nextTicket = r.nextTicket
  log : s.log = r.log

theorem Receiving.owned {bytes : List UInt8} (receiving : Receiving r s c i bytes)
    (owned : Owned cfg r) : Owned cfg s := by
  intro i bound e member
  rw [State.entries, receiving.queue] at member
  exact owned i bound e member

theorem startOfReception_receiving {id length : Nat}
    (found : findByLLPdu cfg id cfg.lowerRxPdu cfg.numLlRx = some (c, i))
    (room : length ≤ cfg.maxRxBufferLen) :
    Receiving r (startOfReception cfg id length r).1 c i [] := by
  have fits : ¬ length > cfg.maxRxBufferLen := by omega
  simp only [startOfReception, found, if_neg fits]
  exact ⟨by simp [State.setInfo], rfl, rfl, rfl, rfl, rfl⟩

theorem Receiving.appends {id : Nat} {got : List UInt8} (receiving : Receiving r s c i got)
    (found : findByLLPdu cfg id cfg.lowerRxPdu cfg.numLlRx = some (c, i)) (length : Nat)
    (data : Mem) (room : chanIdLen + got.length + length ≤ cfg.maxRxBufferLen)
    (small : chanIdLen + got.length + length < 65536) :
    (copyRxData cfg id (some ⟨length, some data⟩) s).2 =
        ⟨.ok, some (cfg.maxRxBufferLen - (chanIdLen + got.length + length))⟩ ∧
      Receiving r (copyRxData cfg id (some ⟨length, some data⟩) s).1 c i
        (got ++ data.read 0 length) := by
  have fits : ¬ (s.chRxInfo c i).rxOffset + length > cfg.maxRxBufferLen := by
    rw [receiving.offset]
    omega
  simp only [copyRxData, found, if_neg fits]
  refine ⟨by rw [receiving.offset], ?_, ?_, receiving.data, receiving.queue, receiving.next,
    receiving.log⟩
  · simp only [State.setInfo, Function.update_self, receiving.offset, List.length_append,
      read_length, u16]
    omega
  · have last := read_write_same (s.chRxInfo c i).rxBuffer (chanIdLen + got.length)
      (data.read 0 length)
    rw [read_length] at last
    simp only [State.setInfo, Function.update_self, receiving.offset, List.length_append,
      read_length]
    rw [read_add, read_write_before _ _ _ _ _ (Nat.le_refl _), receiving.holds, last]

theorem Receiving.copies {id : Nat} {got : List UInt8} (receiving : Receiving r s c i got)
    (found : findByLLPdu cfg id cfg.lowerRxPdu cfg.numLlRx = some (c, i)) (bytes : List UInt8)
    (room : chanIdLen + got.length + bytes.length ≤ cfg.maxRxBufferLen)
    (small : chanIdLen + got.length + bytes.length < 65536) :
    Receiving r (copyRxData cfg id (some ⟨bytes.length, some fun n => bytes.getD n 0⟩) s).1 c i
      (got ++ bytes) := by
  have taken : Mem.read (fun n => bytes.getD n 0) 0 bytes.length = bytes := by
    apply List.ext_getElem
    · simp
    · intro n _ inside
      simp [Mem.read, inside]
  have appended := (receiving.appends found bytes.length (fun n => bytes.getD n 0) room small).2
  rwa [taken] at appended

end AnchorNode.AnchorCom.Rx

namespace AnchorNode.AnchorCom

open AnchorNode.Lib

section Slices
variable (sender receiver : Config) (txId rxId : Nat)

def copySlice (ends : Tx.State × Rx.State) (sduLength : Nat) : Tx.State × Rx.State :=
  let copied := Tx.copyTxData sender txId (some ⟨sduLength, true, none⟩) ends.1
  (copied.1, (Rx.copyRxData receiver rxId
    (some ⟨copied.2.bytes.length, some fun n => copied.2.bytes.getD n 0⟩) ends.2).1)

theorem slices_received {sender receiver : Config} {txId rxId c i m d p : Nat}
    {wire : List UInt8} {r : Rx.State}
    (sends : findByLLPdu sender txId sender.lowerTxCbPdu sender.numLlTx = some (c, i))
    (own : Tx.isImc sender txId = false)
    (receives : findByLLPdu receiver rxId receiver.lowerRxPdu receiver.numLlRx = some (d, p))
    (room : chanIdLen + wire.length ≤ receiver.maxRxBufferLen)
    (small : chanIdLen + wire.length < 65536) (slices : List Nat)
    {ends : Tx.State × Rx.State} {sent : Nat} (sending : Tx.Sending ends.1 c i m wire sent)
    (receiving : Rx.Receiving r ends.2 d p (wire.take sent)) :
    Rx.Receiving r (slices.foldl (copySlice sender receiver txId rxId) ends).2 d p
      (wire.take (sent + (slices.map u16).sum)) := by
  -- on the slices; after each the receiver has what the sender has handed out so far
  induction slices generalizing ends sent with
  | nil => simpa using receiving
  | cons sduLength slices ih =>
      obtain ⟨bytes, sending'⟩ := sending.copies sends own sduLength
      have inside := sending.inside
      have count : (wire.take sent).length = sent := by
        rw [List.length_take]
        omega
      have few : ((wire.drop sent).take (u16 sduLength)).length ≤ wire.length - sent := by
        rw [List.length_take, List.length_drop]
        omega
      have receiving' := receiving.copies receives
        (Tx.copyTxData sender txId (some ⟨sduLength, true, none⟩) ends.1).2.bytes
        (by rw [count, bytes]; omega) (by rw [count, bytes]; omega)
      have joined : wire.take sent ++ (wire.drop sent).take (u16 sduLength) =
          wire.take (sent + (Tx.copyTxData sender txId (some ⟨sduLength, true, none⟩)
            ends.1).2.bytes.length) := by
        rw [← List.take_add, bytes, List.take_eq_take_iff, List.length_take, List.length_drop]
        omega
      rw [bytes, joined] at receiving'
      have rest := @ih (copySlice sender receiver txId rxId ends sduLength) _ sending' (by
        simpa [copySlice, bytes] using receiving')
      rw [List.foldl_cons]
      have same : wire.take (sent + ((slices.map u16).sum + u16 sduLength)) =
          wire.take (sent + (Tx.copyTxData sender txId (some ⟨sduLength, true, none⟩)
            ends.1).2.bytes.length + (slices.map u16).sum) := by
        rw [bytes, List.take_eq_take_iff, List.length_take, List.length_drop]
        omega
      rw [List.map_cons, List.sum_cons, Nat.add_comm (u16 sduLength), same]
      exact rest

end Slices

end AnchorNode.AnchorCom
