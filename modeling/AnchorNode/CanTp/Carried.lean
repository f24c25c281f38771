import AnchorNode.CanTp.FramePaths

/-! What the interface log says of received frames, and where it stands in their bytes. -/

namespace AnchorNode.CanTp

open AnchorNode.Lib

def Event.isReading : Event → Bool
  | .startOfReception .. | .consecutiveFrame .. | .clearToSend .. => true
  | .copyRxData _ _ _ data _ _ => !data.isEmpty
  | _ => false

def readings (log : List Event) : List Event := log.filter Event.isReading

variable {b : Build} {cfg : Config b} {env : Env}

@[simp] theorem readings_append (front back : List Event) :
    readings (front ++ back) = readings front ++ readings back :=
  List.filter_append ..

@[simp] theorem readings_nil : readings [] = [] := rfl

@[simp] theorem readings_cons (e : Event) (log : List Event) :
    readings (e :: log) = (if e.isReading then [e] else []) ++ readings log := by
  cases reading : e.isReading <;> simp [readings, reading]

section StateFunctions

@[simp] theorem pduRConfirmation_readings (api : PduRApi) (s : State) (c sdu id : Nat)
    (result : StdReturn) :
    readings (pduRConfirmation api s c sdu id result).log = readings s.log := by
  cases api <;> simp [pduRConfirmation, Event.isReading]

@[simp] theorem endWithError_readings (ctx : TxContext) (error : ErrorId) (s : State) :
    readings (endWithError ctx error s).log = readings s.log := by
  simp [endWithError, Event.isReading]

@[simp] theorem pageConfirmation_readings (ctx : TxContext) (s : State) :
    readings (pageConfirmation env ctx s).log = readings s.log := by
  simp only [pageConfirmation]
  split <;> simp [Event.isReading]

@[simp] theorem getTxBuffer_readings (ctx : TxContext) (s : State) :
    readings (getTxBuffer b env ctx s).log = readings s.log := by
  simp only [getTxBuffer]
  split
  · split
    · split
      · split
        · simp [Event.isReading]
        · split <;> simp [Event.isReading]
      · simp [Event.isReading]
      · simp [Event.isReading]
    · rfl
  · split <;> simp

@[simp] theorem createFrame_readings (s : State) (c : Nat) :
    readings (createFrame b cfg env s c).1.log = readings s.log := by
  simp only [createFrame]
  split
  · simp only [createTxSingleFrame]
    split
    · split <;> simp [Event.isReading]
    · rfl
  · simp only [createTxFirstFrame]
    split
    · split <;> simp [Event.isReading]
    · rfl
  · simp only [createTxConsecutiveFrame]
    split
    · split <;> simp [Event.isReading]
    · rfl
  · simp only [createTxFlowControlFrame]
    split
    · split <;> rfl
    · rfl

@[simp] theorem canIfTransmit_readings (ctx : TxContext) (s : State) :
    readings (canIfTransmit b cfg env ctx s).log = readings s.log := by
  simp only [canIfTransmit]
  split
  · simp
  · split <;> simp [Event.isReading]

@[simp] theorem sendFrame_readings (ctx : TxContext) (pciId : Npci) (s : State) :
    readings (sendFrame b cfg env ctx pciId s).log = readings s.log := by
  simp [sendFrame]

@[simp] theorem requestAccepted_readings (s : State) (c : Nat) :
    readings (requestAccepted b cfg env s c).log = readings s.log := by
  simp only [requestAccepted]
  split
  · split <;> simp
  · split <;> simp [Event.isReading]

@[simp] theorem fcTransmit_readings (ctx : TxContext) (ready : Bool) (s : State) :
    readings (fcTransmit b cfg env ctx ready s).log = readings s.log := by
  simp only [fcTransmit]
  split
  · split
    · split <;> simp
    · simp
  · rfl

@[simp] theorem fcWaitRound_readings (ctx : TxContext) (ready : Bool) (s : State) :
    readings (fcWaitRound b cfg ctx ready s).2.log = readings s.log := by
  simp only [fcWaitRound]
  split
  · split <;> simp
  · rfl

@[simp] theorem rxSendFlowControlFrame_readings (s : State) (c : Nat) :
    readings (rxSendFlowControlFrame b cfg env s c).log = readings s.log := by
  simp only [rxSendFlowControlFrame]
  split
  · split
    · simp only [fcTransmit_readings, fcWaitRound_readings]
      split
      · simp [Event.isReading]
      · split <;> simp [Event.isReading]
    · simp
  · rfl

@[simp] theorem executeState_readings (s : State) (c : Nat) :
    readings (executeState b cfg env s c).log = readings s.log := by
  unfold executeState
  split
  · rfl
  · simp only [txTransmissionRequestAccepted]
    split <;> simp
  · simp only [txWaitForTransmitConfirmation]
    split <;> simp
  · simp only [txWaitForFlowControlFrame]
    split <;> simp
  · simp only [txSendConsecutiveFrame]
    split
    · generalize txContext b cfg s c _ = ctx
      split <;> simp
    · rfl
  · simp only [rxReceptionRequestAccepted]
    split <;> simp
  · exact rxSendFlowControlFrame_readings s c
  · simp only [rxWaitForFcTransmitConfirmation]
    split <;> simp
  · simp only [rxWaitForConsecutiveFrame]
    split <;> simp

theorem executeAll_readings (cs : List Nat) (s : State) :
    readings (cs.foldl (executeState b cfg env) s).log = readings s.log := by
  induction cs generalizing s with
  | nil => rfl
  | cons c cs ih => rw [List.foldl_cons, ih, executeState_readings]

@[simp] theorem mainFunction_readings (s : State) :
    readings (mainFunction b cfg env s).log = readings s.log := by
  unfold mainFunction
  split
  · split
    · simp
    · simp only [incrementCounter, executeAll]
      split <;> exact executeAll_readings _ s
  · simp [Event.isReading]

@[simp] theorem burstMainFunction_readings (c : Nat) (point : TriggerPoint) (s : State) :
    readings (burstMainFunction b cfg env c point s).log = readings s.log := by
  unfold burstMainFunction
  split
  · split
    · rfl
    · split <;> simp [Event.isReading]
  · rfl

end StateFunctions

section Frames

def InsideFrame (data : Mem) (n : Nat) (slice : List UInt8) : Prop :=
  ∃ offset, offset + slice.length ≤ n ∧ slice = data.read offset slice.length

def encodedSfDl (data : Mem) (offset n : Nat) : Nat :=
  if n ≤ defaultCanDl then (data offset).toNat % 16 else (data (offset + 1)).toNat

section Kinds
variable (cfg : Config b) (p : Nat) (data : Mem)

def OfKind (kind : FrameType) : Prop :=
  frameTypeOf (data (selectSduPair (cfg.rxPdu p) data).pciOffset) = some kind

def ForReceiver (r : Nat) : Prop := r = (selectSduPair (cfg.rxPdu p) data).rxSduId

def ForSender (x : Nat) : Prop :=
  x = (selectSduPair (cfg.rxPdu p) data).txSduId ∨
    b.legacySharedFcSupport = true ∧ ∃ i < cfg.numberOfSharedFc,
      (cfg.sharedFc i).rxFcPduId = p ∧ (cfg.sharedFc i).txSduId = x

/-- A clearance is a flow control frame with the flow status 0 and the parameters it brings. -/
def Event.ClearedBy : Event → Prop
  | .clearToSend _ x bs stMinTicks =>
    let offset := addressSize (cfg.txSdu x).addressFormatId
    OfKind cfg p data .flowControl ∧ ForSender cfg p data x ∧
      (data offset).toNat % 16 = 0 ∧ bs = (data (offset + 1)).toNat ∧
      (b.dynamicFcSupport = true → stMinTicks = stMinToTicks b (data (offset + 2)))
  | _ => True

/-- What the event tells of a received frame stands in the `n` bytes of N-PDU `p`: the length a
single or first frame announces, the sequence number of a consecutive frame, the bytes copied
and the parameters of a clearance. -/
def Event.CarriedBy (n : Nat) : Event → Prop
  | .startOfReception _ r _ length _ _ =>
    let offset := addressSize (cfg.rxSdu r).addressFormatId
    ForReceiver cfg p data r ∧
      (OfKind cfg p data .single ∧ length = encodedSfDl data offset n ∨
        OfKind cfg p data .first ∧ length = encodedFfDl data offset)
  | .consecutiveFrame _ r sn =>
    let offset := addressSize (cfg.rxSdu r).addressFormatId
    ForReceiver cfg p data r ∧ OfKind cfg p data .consecutive ∧ sn = (data offset).toNat % 16
  | .copyRxData _ r _ bytes _ _ => ForReceiver cfg p data r ∧ InsideFrame data n bytes
  | e => e.ClearedBy cfg p data

end Kinds

def Reads (P : Event → Prop) (s s' : State) : Prop :=
  ∃ new, readings s'.log = readings s.log ++ new ∧ ∀ e ∈ new, P e

variable {P : Event → Prop}

theorem reads_none {s s' : State} (same : readings s'.log = readings s.log) : Reads P s s' :=
  ⟨[], by simpa using same, by simp⟩

theorem reads_events {s s' : State} (events : List Event)
    (log : readings s'.log = readings s.log ++ readings events) (holds : ∀ e ∈ events, P e) :
    Reads P s s' :=
  ⟨_, log, fun e member => holds e (List.mem_of_mem_filter member)⟩

theorem Reads.trans_same {s s' s'' : State} (reads : Reads P s s')
    (same : readings s''.log = readings s'.log) : Reads P s s'' := by
  rwa [Reads, same]

variable {s : State} {ctx : RxContext} {data : Mem} {n : Nat}

@[simp] theorem fdCallOut_readings (ctx : RxContext) (data : Mem) (n : Nat) (s : State) :
    readings (fdCallOut b env ctx data n s).2.log = readings s.log := by
  simp only [fdCallOut]
  split
  · simp [Event.isReading]
  · rfl

theorem getConnectionAcceptance_readings {s' : State}
    (accepted : getConnectionAcceptance b env ctx data n s = .ok s') :
    readings s'.log = readings s.log := by
  rcases getConnectionAcceptance_cases accepted with rfl | rfl
  · simp
  · simp

theorem processRxSingleFrame_reads
    (announced : ∀ answer size, P (.startOfReception ctx.channelId ctx.sduId ctx.pduRPduHandleId
      ctx.sduLength answer size))
    (copied : ∀ answer size, P (.copyRxData ctx.channelId ctx.sduId ctx.pduRPduHandleId
      (data.read ctx.dataOffset ctx.sduLength) answer size)) :
    Reads P s (processRxSingleFrame b env ctx data n s) := by
  simp only [processRxSingleFrame]
  cases accepted : getConnectionAcceptance b env ctx data n s with
  | error s' => exact reads_none (by simp [getConnectionAcceptance_refused accepted])
  | ok s' =>
      have before := getConnectionAcceptance_readings accepted
      simp only
      generalize env.startOfReception _ _ _ = answer
      have told := announced answer.1 answer.2
      split
      · split
        · generalize env.copyRxData _ _ _ = room
          refine reads_events [_, _] ?_ (List.forall_mem_cons.mpr
            ⟨told, List.forall_mem_singleton.mpr (copied room.1 room.2)⟩)
          simp [before]
        · refine reads_events [_] ?_ (List.forall_mem_singleton.mpr told)
          simp [before]
      · refine reads_events [_] ?_ (List.forall_mem_singleton.mpr told)
        simp [before]
      · refine reads_events [_] ?_ (List.forall_mem_singleton.mpr told)
        simp [before]

theorem processRxFirstFrame_reads
    (announced : ∀ answer size, P (.startOfReception ctx.channelId ctx.sduId ctx.pduRPduHandleId
      ctx.sduLength answer size))
    (copied : ∀ answer size, P (.copyRxData ctx.channelId ctx.sduId ctx.pduRPduHandleId
      (data.read ctx.dataOffset (u8 (b.subLength n ctx.dataOffset))) answer size)) :
    Reads P s (processRxFirstFrame b env ctx data n s) := by
  simp only [processRxFirstFrame]
  cases accepted : getConnectionAcceptance b env ctx data n s with
  | error s' => exact reads_none (by simp [getConnectionAcceptance_refused accepted])
  | ok s' =>
      have before := getConnectionAcceptance_readings accepted
      simp only
      generalize env.startOfReception _ _ _ = answer
      have told := announced answer.1 answer.2
      split
      · split
        · generalize env.copyRxData _ _ _ = room
          refine reads_events [_, _] ?_ (List.forall_mem_cons.mpr
            ⟨told, List.forall_mem_singleton.mpr (copied room.1 room.2)⟩)
          split <;> simp [before, Event.isReading]
        · refine reads_events [_] ?_ (List.forall_mem_singleton.mpr told)
          simp [before]
      · refine reads_events [_] ?_ (List.forall_mem_singleton.mpr told)
        simp [before]
      · refine reads_events [_] ?_ (List.forall_mem_singleton.mpr told)
        simp [before]

@[simp] theorem prepareFcTransmit_readings (c : Nat) (s : State) :
    readings (prepareFcTransmit c s).log = readings s.log := by
  simp only [prepareFcTransmit]
  split <;> rfl

theorem processRxConsecutiveFrame_reads
    (copied : s.subState ctx.channelId = .rxWaitForConsecutiveFrame → ∀ answer size,
      P (.copyRxData ctx.channelId ctx.sduId ctx.pduRPduHandleId
        (data.read ctx.dataOffset (cfLength (s.channel ctx.channelId).sduLengthRemaining
          (sub8 ctx.canDl ctx.dataOffset))) answer size))
    (accepted : P (.consecutiveFrame ctx.channelId ctx.sduId ctx.sn)) :
    Reads P s (processRxConsecutiveFrame b cfg env ctx data s) := by
  simp only [processRxConsecutiveFrame]
  split
  · rename_i waiting
    have copied := copied waiting.1
    split
    · apply reads_none
      simp [Event.isReading]
    · split
      · generalize env.copyRxData _ _ _ = room
        have taken := copied room.1 room.2
        split
        · refine reads_events [_, _] ?_ (List.forall_mem_cons.mpr
            ⟨taken, List.forall_mem_singleton.mpr accepted⟩)
          split <;> simp
        · refine reads_events [_] ?_ (List.forall_mem_singleton.mpr taken)
          simp
      · apply reads_none
        simp
  · exact reads_none rfl

theorem processRxFlowControlFrame_reads
    (cleared : ctx.flowStatus = FlowStatus.cts.code → ∀ ticks,
      (b.dynamicFcSupport = true → ticks = stMinToTicks b (data (ctx.dataOffset + 1))) →
      P (.clearToSend ctx.channelId ctx.sduId (data ctx.dataOffset).toNat ticks)) :
    Reads P s (processRxFlowControlFrame b cfg ctx data s) := by
  simp only [processRxFlowControlFrame]
  split
  · split
    · apply reads_none
      simp [Event.isReading]
    · split
      · exact reads_none rfl
      · split
        · rename_i cts
          refine reads_events [_] (by simp; rfl)
            (List.forall_mem_singleton.mpr (cleared cts _ fun dynamic => ?_))
          simp only [setTxBlockInfo, dynamic, true_or, if_true]
          split <;> rfl
        · apply reads_none
          simp
  · exact reads_none rfl

theorem lengthError_readings : readings (lengthError ctx s).log = readings s.log := by
  simp only [lengthError]
  split <;> split <;> simp [Event.isReading]

end Frames

section LengthCheck
variable {s : State} {ctx : RxContext} {data : Mem} {n : Nat}

theorem singleFrame_inside
    (lengths : ∀ length dl, b.dlcCheck length dl = .ok ↔ dl ≤ length) (frame : n < invalidDl)
    (single : ctx.frameType = .single) (address : ctx.addressSize ≤ 1)
    (passed : (rxSduLengthCheck b s ctx data n).2 = .ok) :
    (rxSduLengthCheck b s ctx data n).1.dataOffset +
      (rxSduLengthCheck b s ctx data n).1.sduLength ≤ n := by
  have limit : n < 255 := frame
  simp only [rxSduLengthCheck, single, lengths] at passed ⊢
  have invalid : invalidDl = 255 := rfl
  have classic : defaultCanDl = 8 := rfl
  have pci : Npci.sfCan.pciSize = 1 := rfl
  have pciFd : Npci.sfCanFd.pciSize = 2 := rfl
  simp only [singleFrameDl] at passed ⊢
  by_cases short : n ≤ defaultCanDl
  · simp only [if_pos short] at passed ⊢
    split at passed
    · split at passed
      · omega
      · rwa [u8_small (by omega)] at passed
    · omega
  · simp only [if_neg short] at passed ⊢
    cases fd : b.canFdSupport with
    | true =>
        simp only [fd, if_true] at passed ⊢
        split at passed
        · omega
        · omega
    | false =>
        simp only [fd, Bool.false_eq_true, if_false] at passed
        omega

theorem firstFrame_inside
    (lengths : ∀ length dl, b.dlcCheck length dl = .ok ↔ dl ≤ length) (frame : n < invalidDl)
    (first : ctx.frameType = .first) (address : ctx.addressSize ≤ 1)
    (passed : (rxSduLengthCheck b s ctx data n).2 = .ok) :
    (rxSduLengthCheck b s ctx data n).1.dataOffset +
      u8 (b.subLength n (rxSduLengthCheck b s ctx data n).1.dataOffset) ≤ n := by
  have wide : 2 ^ 16 ≤ 2 ^ b.lengthBits := Nat.pow_le_pow_right (by decide) b.lengthBits_le
  simp only [rxSduLengthCheck, first] at passed ⊢
  obtain ⟨lower, upper, -, -, -, offset, -⟩ :=
    firstFrameDl_passed frame ((lengths _ _).mp passed)
  rw [subLength_le (by omega) (by omega), u8_small (by omega)]
  omega

theorem cfLength_le_max (remaining : Nat) {maxLength : Nat} (small : maxLength < 256) :
    cfLength remaining maxLength ≤ maxLength := by
  unfold cfLength
  split
  · exact Nat.le_refl _
  · rw [u8_small (by omega)]
    omega

theorem consecutiveFrameDl_bounds (ch : Channel) (address : ctx.addressSize ≤ 1)
    (rxDl : 8 ≤ getRxDl b ch ∧ getRxDl b ch ≤ 64) :
    (consecutiveFrameDl b ctx ch).dataOffset ≤ (consecutiveFrameDl b ctx ch).canDl ∧
      (consecutiveFrameDl b ctx ch).canDl ≤ 64 := by
  have pci : cfPciSize = 1 := rfl
  simp only [consecutiveFrameDl]
  have inner : ctx.addressSize + cfPciSize ≤
      (if ch.sduLengthRemaining < sub8 (getRxDl b ch) (ctx.addressSize + cfPciSize) then
        u8 (ch.sduLengthRemaining + (ctx.addressSize + cfPciSize)) else getRxDl b ch) ∧
      (if ch.sduLengthRemaining < sub8 (getRxDl b ch) (ctx.addressSize + cfPciSize) then
        u8 (ch.sduLengthRemaining + (ctx.addressSize + cfPciSize)) else getRxDl b ch) ≤ 64 := by
    split
    · rename_i rest
      rw [sub8_le _ _ (by omega) (by omega)] at rest
      rw [u8_small (by omega)]
      omega
    · omega
  generalize (if ch.sduLengthRemaining < sub8 (getRxDl b ch) (ctx.addressSize + cfPciSize) then
    u8 (ch.sduLengthRemaining + (ctx.addressSize + cfPciSize)) else getRxDl b ch) = canDl
      at inner ⊢
  split
  · unfold getCanDl
    split
    · have table := canDlTable_bounds canDl inner.2
      omega
    · simp only [defaultCanDl]
      omega
  · exact inner

theorem consecutiveFrame_inside
    (lengths : ∀ length dl, b.dlcCheck length dl = .ok ↔ dl ≤ length)
    (consecutive : ctx.frameType = .consecutive) (address : ctx.addressSize ≤ 1)
    (rxDl : 8 ≤ getRxDl b (s.channel ctx.channelId) ∧
      getRxDl b (s.channel ctx.channelId) ≤ 64)
    (passed : (rxSduLengthCheck b s ctx data n).2 = .ok) (remaining : Nat) :
    (rxSduLengthCheck b s ctx data n).1.dataOffset + cfLength remaining
      (sub8 (rxSduLengthCheck b s ctx data n).1.canDl
        (rxSduLengthCheck b s ctx data n).1.dataOffset) ≤ n := by
  simp only [rxSduLengthCheck, consecutive, lengths] at passed ⊢
  have bounds := consecutiveFrameDl_bounds (s.channel ctx.channelId) address rxDl
  generalize consecutiveFrameDl b ctx (s.channel ctx.channelId) = dl at *
  rw [sub8_le _ _ (by omega) bounds.1]
  have part := cfLength_le_max remaining (show dl.canDl - dl.dataOffset < 256 by omega)
  omega

end LengthCheck

/-- What the context of a frame says of it stands in its bytes. -/
inductive ReadContext (b : Build) (cfg : Config b) (p : Nat) (data : Mem) (ctx : RxContext) : Prop
  | flow (kind : OfKind cfg p data .flowControl) (type : ctx.frameType = .flowControl)
      (sender : ForSender cfg p data ctx.sduId)
      (address : ctx.addressSize = addressSize (cfg.txSdu ctx.sduId).addressFormatId)
  | data (kind : OfKind cfg p data ctx.frameType) (own : DataContext b cfg ctx)
      (receiver : ForReceiver cfg p data ctx.sduId)

theorem getFcActiveChannel_sender {s : State} {p c x : Nat} {data : Mem}
    (found : getFcActiveChannel b cfg s p (selectSduPair (cfg.rxPdu p) data).txSduId =
      some (c, x)) : ForSender cfg p data x := by
  simp only [getFcActiveChannel] at found
  split at found
  · simp only [Option.some.injEq, Prod.mk.injEq] at found
    exact Or.inl found.2.symm
  · split at found
    · rename_i legacy
      rw [Option.map_eq_some_iff] at found
      obtain ⟨i, applies, same⟩ := found
      have member := List.mem_of_find?_eq_some applies
      have entry := List.find?_some applies
      simp only [Prod.mk.injEq] at same
      simp only [sharedFcApplies, Bool.and_eq_true, beq_iff_eq] at entry
      exact Or.inr ⟨legacy, i, List.mem_range.mp member, entry.1.1.1, same.2⟩
    · cases found

theorem getRxContext_reads {s : State} {p : Nat} {info : PduInfo} {ctx : RxContext}
    (context : getRxContext b cfg s p info = .ok ctx) :
    ∃ data, info.sduDataPtr = some data ∧ ReadContext b cfg p data ctx := by
  have spec := getRxContext_spec context
  simp only [getRxContext] at context
  split at context
  · cases context
  · rename_i data pointer
    refine ⟨data, pointer, ?_⟩
    split at context
    · cases context
    · rename_i kind
      split at context
      · cases context
      · rename_i c x found
        obtain rfl := Except.ok.inj context
        exact .flow kind rfl (getFcActiveChannel_sender found) rfl
    · rename_i frameType data' kind
      split at context
      · split at context
        · cases context
        · obtain rfl := Except.ok.inj context
          rcases spec with flow | own
          · exact absurd flow.flow (by simpa using data')
          · exact .data kind own rfl
      · cases context

theorem encodedFfDl_lt (data : Mem) (offset : Nat) : encodedFfDl data offset < 2 ^ 32 := by
  have byte (i : Nat) := UInt8.toNat_lt (data i)
  have b0 := byte offset
  have b1 := byte (offset + 1)
  have b2 := byte (offset + 2)
  have b3 := byte (offset + 3)
  have b4 := byte (offset + 4)
  have b5 := byte (offset + 5)
  unfold encodedFfDl
  split
  · unfold ffDlValue32bit
    omega
  · unfold ffDlValue12bit
    omega

theorem singleFrame_sduLength {s : State} {ctx : RxContext} {data : Mem} {n : Nat}
    (lengths : ∀ length dl, b.dlcCheck length dl = .ok ↔ dl ≤ length) (frame : n < invalidDl)
    (single : ctx.frameType = .single) (passed : (rxSduLengthCheck b s ctx data n).2 = .ok) :
    (rxSduLengthCheck b s ctx data n).1.sduLength = encodedSfDl data ctx.addressSize n := by
  simp only [rxSduLengthCheck, single, lengths] at passed ⊢
  simp only [singleFrameDl, encodedSfDl] at passed ⊢
  by_cases short : n ≤ defaultCanDl
  · simp only [if_pos short]
  · simp only [if_neg short] at passed ⊢
    cases fd : b.canFdSupport with
    | true => simp only [if_true]
    | false =>
        simp only [fd, Bool.false_eq_true, if_false] at passed
        omega

theorem firstFrame_sduLength {s : State} {ctx : RxContext} {data : Mem} {n : Nat}
    (first : ctx.frameType = .first) :
    (rxSduLengthCheck b s ctx data n).1.sduLength =
      encodedFfDl data ctx.addressSize % 2 ^ b.lengthBits := by
  simp only [rxSduLengthCheck, first]
  rfl

theorem firstFrame_sduLength_wide (wide : 32 ≤ b.lengthBits) {s : State} {ctx : RxContext}
    {data : Mem} {n : Nat} (first : ctx.frameType = .first) :
    (rxSduLengthCheck b s ctx data n).1.sduLength = encodedFfDl data ctx.addressSize := by
  have bits : 2 ^ 32 ≤ 2 ^ b.lengthBits := Nat.pow_le_pow_right (by decide) wide
  rw [firstFrame_sduLength first,
    Nat.mod_eq_of_lt (Nat.lt_of_lt_of_le (encodedFfDl_lt data ctx.addressSize) bits)]

section Received
variable {s : State} {ctx : RxContext} {data : Mem} {n p : Nat}

theorem processRxFlowControlFrame_cleared {P : Event → Prop}
    (clears : ∀ c x bs ticks, (Event.clearToSend c x bs ticks).ClearedBy cfg p data →
      P (.clearToSend c x bs ticks))
    (read : ReadContext b cfg p data ctx) (flow : ctx.frameType = .flowControl) :
    Reads P s (processRxFlowControlFrame b cfg (rxSduLengthCheck b s ctx data n).1 data s) := by
  have same := rxSduLengthCheck_same (b := b) s ctx data n
  cases read with
  | data kind own receiver => exact absurd flow own.data
  | flow kind type sender address =>
      apply processRxFlowControlFrame_reads
      simp only [rxSduLengthCheck, flow]
      intro cts ticks dynamic
      rw [address] at cts dynamic ⊢
      exact clears _ _ _ _ ⟨kind, sender, cts, rfl, dynamic⟩

theorem processFrame_carried (sound : SoundLengthCheck b) (frame : n < invalidDl)
    (read : ReadContext b cfg p data ctx)
    (rxDl : ∀ c < cfg.numberOfChannels, s.subState c = .rxWaitForConsecutiveFrame →
      8 ≤ getRxDl b (s.channel c) ∧ getRxDl b (s.channel c) ≤ 64)
    (passed : (rxSduLengthCheck b s ctx data n).2 = .ok) :
    Reads (Event.CarriedBy cfg p data n) s
      (processFrame b cfg env (rxSduLengthCheck b s ctx data n).1 data n s) := by
  have same := rxSduLengthCheck_same (b := b) s ctx data n
  unfold processFrame
  rw [same.frameType]
  cases read with
  | flow kind type sender address =>
      rw [type]
      exact processRxFlowControlFrame_cleared (fun _ _ _ _ cleared => cleared)
        (.flow kind type sender address) type
  | data kind own receiver =>
      have address : ctx.addressSize ≤ 1 := own.address ▸ addressSize_le _
      have slice {offset length : Nat} (inside : offset + length ≤ n) :
          InsideFrame data n (data.read offset length) :=
        ⟨offset, by simpa using inside, by simp⟩
      split
      · rename_i single
        refine processRxSingleFrame_reads (fun answer size => ?_) fun answer size => ?_
        · rw [single] at kind
          refine ⟨same.sdu ▸ receiver, Or.inl ⟨kind, ?_⟩⟩
          rw [singleFrame_sduLength sound.2 frame single passed, same.sdu, ← own.address]
        · exact ⟨same.sdu ▸ receiver,
            slice (singleFrame_inside sound.2 frame single address passed)⟩
      · rename_i first
        refine processRxFirstFrame_reads (fun answer size => ?_) fun answer size => ?_
        · rw [first] at kind
          refine ⟨same.sdu ▸ receiver, Or.inr ⟨kind, ?_⟩⟩
          rw [firstFrame_sduLength_wide sound.1 first, same.sdu, ← own.address]
        · exact ⟨same.sdu ▸ receiver,
            slice (firstFrame_inside sound.2 frame first address passed)⟩
      · rename_i consecutive
        refine processRxConsecutiveFrame_reads (fun waiting answer size => ?_) ?_
        · rw [same.channel] at waiting ⊢
          have bound : ctx.channelId < cfg.numberOfChannels :=
            own.channel ▸ cfg.rxSdu_channel _ own.configured
          exact ⟨same.sdu ▸ receiver, slice (consecutiveFrame_inside sound.2 consecutive address
            (rxDl _ bound waiting) passed _)⟩
        · rw [consecutive] at kind
          refine ⟨same.sdu ▸ receiver, kind, ?_⟩
          rw [same.sdu, ← own.address]
          simp only [rxSduLengthCheck, consecutive]
      · rename_i flow
        exact absurd flow own.data

theorem processFrame_cleared (read : ReadContext b cfg p data ctx) :
    Reads (Event.ClearedBy cfg p data) s
      (processFrame b cfg env (rxSduLengthCheck b s ctx data n).1 data n s) := by
  have same := rxSduLengthCheck_same (b := b) s ctx data n
  unfold processFrame
  rw [same.frameType]
  split
  · exact processRxSingleFrame_reads (fun _ _ => trivial) fun _ _ => trivial
  · exact processRxFirstFrame_reads (fun _ _ => trivial) fun _ _ => trivial
  · exact processRxConsecutiveFrame_reads (fun _ _ _ => trivial) trivial
  · rename_i flow
    exact processRxFlowControlFrame_cleared (fun _ _ _ _ cleared => cleared) read flow

end Received

section Calls

def Op.frameLength : Op → Nat
  | .rxIndication _ (some info) => info.sduLength
  | _ => 0

/-- What the event tells of a frame stands in the one the call delivers. -/
def Op.Carries (cfg : Config b) : Op → Event → Prop
  | .rxIndication p (some info), e =>
    ∃ data, info.sduDataPtr = some data ∧ e.CarriedBy cfg p data info.sduLength
  | _, _ => False

/-- If the event clears a transmission, the call delivers the flow control frame. -/
def Op.Clears (cfg : Config b) : Op → Event → Prop
  | .rxIndication p (some info), e =>
    ∃ data, info.sduDataPtr = some data ∧ e.ClearedBy cfg p data
  | _, _ => False

theorem devCheck_readings {s : State} {id total : Nat} {api : ApiId} {invalidId : ErrorId}
    {body : State → State} (same : readings (body s).log = readings s.log) :
    readings (devCheck s id total api invalidId body).log = readings s.log := by
  unfold devCheck
  split
  · split
    · simp [Event.isReading]
    · exact same
  · simp [Event.isReading]

theorem confirmFrame_readings (p : Nat) (s : State) :
    readings (confirmFrame b cfg p s).log = readings s.log := by
  simp only [confirmFrame]
  split
  · split
    · simp only [fcTxConfirmation]
      split <;> simp
    · simp only [dataTxConfirmation]
      split
      · simp
      · split
        · simp
        · simp only [prepareFcRecieve]
          split <;> simp
    · rfl
  · rfl

theorem step_reads {P : Event → Prop} {s : State} {op : Op} (call : op.isCall = true)
    (received : ∀ p info data ctx, op = .rxIndication p (some info) →
      info.sduDataPtr = some data → ReadContext b cfg p data ctx →
      (rxSduLengthCheck b s ctx data info.sduLength).2 = .ok →
      Reads P s (processFrame b cfg env (rxSduLengthCheck b s ctx data info.sduLength).1 data
        info.sduLength s)) :
    Reads P s (step b cfg env s op) := by
  -- only the reception of a frame reads anything; every other call leaves the readings alone
  cases op with
  | transmit x info =>
      apply reads_none
      apply devCheck_readings
      cases info with
      | none => simp [Event.isReading]
      | some n =>
          simp only
          split
          · simp [Event.isReading]
          · split
            · simp [Event.isReading]
            · split <;> simp [Event.isReading]
  | cancelTransmit x =>
      apply reads_none
      apply devCheck_readings
      simp only
      split
      · simp [Event.isReading]
      · split <;> simp
  | cancelReceive r =>
      apply reads_none
      apply devCheck_readings
      simp only
      split
      · simp [Event.isReading]
      · split
        · split <;> simp
        · rfl
  | mainFunction => exact reads_none (mainFunction_readings s)
  | txConfirmation p =>
      apply reads_none
      apply devCheck_readings
      rw [burstMainFunction_readings]
      exact confirmFrame_readings p s
  | rxIndication p info =>
      simp only [step, rxIndication, devCheck]
      split
      · split
        · apply reads_none
          simp [Event.isReading]
        · cases info with
          | none =>
              apply reads_none
              simp [Event.isReading]
          | some info =>
              simp only [receiveFrame]
              cases context : getRxContext b cfg s p info with
              | error e =>
                  apply reads_none
                  simp [Event.isReading]
              | ok ctx =>
                  obtain ⟨data, pointer, read⟩ := getRxContext_reads context
                  simp only [pointer, Option.getD_some]
                  split
                  · exact reads_none lengthError_readings
                  · rename_i checked
                    have reads := received p info data ctx rfl pointer read (not_not.mp checked)
                    exact reads.trans_same (burstMainFunction_readings _ _ _)
      · apply reads_none
        simp [Event.isReading]
  | changeParameter r parameter value =>
      apply reads_none
      apply devCheck_readings
      simp only
      split
      · simp [Event.isReading]
      · split <;> simp [Event.isReading]
  | tick => exact reads_none rfl
  | init => simp [Op.isCall] at call
  | shutdown => simp [Op.isCall] at call

theorem Reads.imp {P Q : Event → Prop} {s s' : State} (reads : Reads P s s')
    (implies : ∀ e, P e → Q e) : Reads Q s s' := by
  obtain ⟨new, log, holds⟩ := reads
  exact ⟨new, log, fun e member => implies e (holds e member)⟩

theorem step_carries (sound : SoundLengthCheck b) {s : State} {op : Op}
    (call : op.isCall = true) (frame : op.frameLength < invalidDl)
    (rxDl : ∀ c < cfg.numberOfChannels, s.subState c = .rxWaitForConsecutiveFrame →
      8 ≤ getRxDl b (s.channel c) ∧ getRxDl b (s.channel c) ≤ 64) :
    Reads (op.Carries cfg) s (step b cfg env s op) := by
  apply step_reads call
  rintro p info data ctx rfl pointer read passed
  exact (processFrame_carried sound frame read rxDl passed).imp fun e carried =>
    ⟨data, pointer, carried⟩

theorem step_clears (b : Build) (cfg : Config b) (env : Env) (s : State) {op : Op}
    (call : op.isCall = true) : Reads (op.Clears cfg) s (step b cfg env s op) := by
  apply step_reads call
  rintro p info data ctx rfl pointer read -
  exact (processFrame_cleared read).imp fun e cleared => ⟨data, pointer, cleared⟩

end Calls

end AnchorNode.CanTp
