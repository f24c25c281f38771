import AnchorNode.AnchorCom.Bounds

/-! What a refused request leaves behind. -/

namespace AnchorNode.AnchorCom.Tx

open AnchorNode.Lib

variable {cfg : Config}

/-- The transmit buffers, their states and lengths and the queues are as they were, and so is
every answer about whether a transmission is possible. -/
structure AsBefore (cfg : Config) (s s' : State) : Prop where
  msgTxInfo : s'.msgTxInfo = s.msgTxInfo
  buffer : s'.buffer = s.buffer
  queue : s'.queue = s.queue
  possible : ∀ otherEndIdx pduId overwriteOldData,
    (isTxPossible cfg otherEndIdx pduId overwriteOldData s').2 =
      (isTxPossible cfg otherEndIdx pduId overwriteOldData s).2

theorem isTxPossible_congr {s s' : State} (same : s'.msgTxInfo = s.msgTxInfo) (otherEndIdx : Nat)
    (pduId : UInt8) (overwriteOldData : Bool) :
    (isTxPossible cfg otherEndIdx pduId overwriteOldData s').2 =
      (isTxPossible cfg otherEndIdx pduId overwriteOldData s).2 := by
  have usable : bufferUsable cfg otherEndIdx (findIdx cfg pduId) overwriteOldData s' =
      bufferUsable cfg otherEndIdx (findIdx cfg pduId) overwriteOldData s := by
    simp only [bufferUsable, same]
  simp only [isTxPossible, usable]
  split
  · rfl
  · split
    · rfl
    · split <;> rfl

theorem asBefore_of_same {s s' : State} (msgTxInfo : s'.msgTxInfo = s.msgTxInfo)
    (buffer : s'.buffer = s.buffer) (queue : s'.queue = s.queue) : AsBefore cfg s s' :=
  ⟨msgTxInfo, buffer, queue, isTxPossible_congr msgTxInfo⟩

/-- The request passes every check but finds no room in the queue. -/
def QueueRefuses (cfg : Config) (args : TransmitArgs) (m : Nat) (s : State) : Prop :=
  checkTransmit cfg args = .ok m ∧
    bufferUsable cfg args.otherEndIdx m args.overwriteOldData s = true ∧
    (s.queue (otherEndIdxToUse cfg m args.otherEndIdx)).isFull = true

/-- The buffer in use, its length and the state of the given index already are what the request
would make of them. -/
def AlreadyStored (cfg : Config) (args : TransmitArgs) (m : Nat) (s : State) : Prop :=
  (s.buffer (otherEndIdxToUse cfg m args.otherEndIdx) m).read headerLen args.payload.length =
      args.payload ∧
    (s.msgTxInfo (otherEndIdxToUse cfg m args.otherEndIdx) m).length =
      u16 (args.length + args.length2) ∧
    (s.msgTxInfo args.otherEndIdx m).bufState = .hasData

section Stored
variable {s : State} {args : TransmitArgs} {m : Nat}

theorem storeData_asBefore_iff :
    AsBefore cfg s (storeData cfg args m s) ↔ AlreadyStored cfg args m s := by
  have buffers := storeData_buffer cfg args m s
  have lengths := storeData_length cfg args m s
  have states := storeData_bufState cfg args m s
  unfold AlreadyStored
  generalize otherEndIdxToUse cfg m args.otherEndIdx = i at buffers lengths ⊢
  constructor
  · intro untouched
    refine ⟨?_, ?_, ?_⟩
    · rw [← write_eq_self_iff]
      have here := congrFun (congrFun (buffers.symm.trans untouched.buffer) i) m
      rwa [Function.update_self, Function.update_self] at here
    · have here := lengths i m
      rwa [untouched.msgTxInfo, if_pos ⟨rfl, rfl⟩] at here
    · have here := states args.otherEndIdx m
      rwa [untouched.msgTxInfo, if_pos ⟨rfl, rfl⟩] at here
  · rintro ⟨data, length, state⟩
    refine asBefore_of_same ?_ ?_ (storeData_queue cfg args m s)
    · funext j k
      have length' : ((storeData cfg args m s).msgTxInfo j k).length =
          (s.msgTxInfo j k).length := by
        rw [lengths]
        split
        · rename_i here
          rw [here.1, here.2, length]
        · rfl
      have state' : ((storeData cfg args m s).msgTxInfo j k).bufState =
          (s.msgTxInfo j k).bufState := by
        rw [states]
        split
        · rename_i here
          rw [here.1, here.2, state]
        · rfl
      cases after : (storeData cfg args m s).msgTxInfo j k
      cases before : s.msgTxInfo j k
      simp_all
    · rw [buffers, (write_eq_self_iff _ _ _).mpr data, Function.update_eq_self,
        Function.update_eq_self]

/-- What `rbdAnchorCom_Transmit` does when it returns E_NOT_OK: it reports, does nothing, or
stores the data and then finds the queue full. -/
theorem transmit_refused (refused : (transmit cfg args s).2 = .notOk) :
    (∃ e, (transmit cfg args s).1 = s.emit e) ∨ (transmit cfg args s).1 = s ∨
      ∃ m, QueueRefuses cfg args m s ∧ (transmit cfg args s).1 = storeData cfg args m s := by
  unfold transmit at refused ⊢
  cases checked : checkTransmit cfg args with
  | error e => exact Or.inl ⟨e, rfl⟩
  | ok m =>
      simp only [checked] at refused ⊢
      split
      · rename_i usable
        rw [if_pos usable] at refused
        cases full : (s.queue (otherEndIdxToUse cfg m args.otherEndIdx)).isFull with
        | true => exact Or.inr (Or.inr ⟨m, ⟨checked, usable, full⟩, acceptData_full full⟩)
        | false =>
            rw [← storeData_queue cfg args m s] at full
            simp [acceptData, addTxQueue, full] at refused
      · exact Or.inr (Or.inl rfl)

theorem QueueRefuses.refused (refuses : QueueRefuses cfg args m s) :
    (transmit cfg args s).2 = .notOk ∧ (transmit cfg args s).1 = storeData cfg args m s := by
  obtain ⟨checked, usable, full⟩ := refuses
  have same : transmit cfg args s = acceptData cfg args m s := by
    simp [transmit, checked, usable]
  have stored := acceptData_full full
  rw [← storeData_queue cfg args m s] at full
  exact ⟨by simp [same, acceptData, addTxQueue, full], same ▸ stored⟩

/-- A refused request changes nothing unless it is refused by a full queue, after its data were
stored; and then it changes nothing exactly when the data were there already. -/
theorem refused_transmit_asBefore_iff (cfg : Config) (args : TransmitArgs) (s : State) :
    ((transmit cfg args s).2 = .notOk → AsBefore cfg s (transmit cfg args s).1) ↔
      ∀ m, QueueRefuses cfg args m s → AlreadyStored cfg args m s := by
  constructor
  · intro untouched m refuses
    obtain ⟨refused, stored⟩ := refuses.refused
    exact storeData_asBefore_iff.mp (stored ▸ untouched refused)
  · intro already refused
    rcases transmit_refused refused with ⟨e, reported⟩ | still | ⟨m, refuses, stored⟩
    · rw [reported]
      exact asBefore_of_same rfl rfl rfl
    · rw [still]
      exact asBefore_of_same rfl rfl rfl
    · rw [stored]
      exact storeData_asBefore_iff.mpr (already m refuses)

end Stored

section Full

def fillingRequests : List Op :=
  List.replicate 15 (.transmit { sampleRequest 0 0x10 4 with overwriteOldData := true })

def filledState : State :=
  run (step (sampleConfig .masterMcu) promptEnv) (start (sampleConfig .masterMcu) blank)
    fillingRequests

/-- The queue of peer 0 is full; a request for its idle message 1 is refused and yet marks the
message as having data, so that it is no longer possible to transmit it. -/
theorem full_queue_disturbs :
    (isTxPossible (sampleConfig .masterMcu) 0 0x11 false filledState).2 = .ok ∧
      (transmit (sampleConfig .masterMcu) (sampleRequest 0 0x11 4) filledState).2 = .notOk ∧
      (isTxPossible (sampleConfig .masterMcu) 0 0x11 false
        (transmit (sampleConfig .masterMcu) (sampleRequest 0 0x11 4) filledState).1).2 =
          .notOk ∧
      ¬ AsBefore (sampleConfig .masterMcu) filledState
        (transmit (sampleConfig .masterMcu) (sampleRequest 0 0x11 4) filledState).1 := by
  have before : (isTxPossible (sampleConfig .masterMcu) 0 0x11 false filledState).2 = .ok := by
    decide +kernel
  have after : (isTxPossible (sampleConfig .masterMcu) 0 0x11 false
      (transmit (sampleConfig .masterMcu) (sampleRequest 0 0x11 4) filledState).1).2 =
        .notOk := by
    decide +kernel
  refine ⟨before, by decide +kernel, after, fun untouched => ?_⟩
  rw [untouched.possible, before] at after
  cases after

end Full

end AnchorNode.AnchorCom.Tx
