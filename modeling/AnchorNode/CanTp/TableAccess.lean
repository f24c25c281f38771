import AnchorNode.CanTp.Ownership
import AnchorNode.CanTp.Sender
import AnchorNode.CanTp.Carried

/-! The indices at which `CanTp_CanDlTable` is read. -/

namespace AnchorNode.CanTp

open AnchorNode.Lib

variable {b : Build} {cfg : Config b} {env : Env}

def State.rxDls (s : State) (c : Nat) : Nat := (s.channel c).rxDl

section Kept

@[simp] theorem setSub_rxDls (s : State) (c : Nat) (st : SubState) :
    (s.setSub c st).rxDls = s.rxDls := rfl

@[simp] theorem emit_rxDls (s : State) (e : Event) : (s.emit e).rxDls = s.rxDls := rfl

@[simp] theorem setConfirmation_rxDls (s : State) (p v : Nat) :
    (s.setConfirmation p v).rxDls = s.rxDls := rfl

@[simp] theorem setChannel_rxDls (s : State) (c : Nat) (ch : Channel) :
    (s.setChannel c ch).rxDls = Function.update s.rxDls c ch.rxDl := by
  funext d
  by_cases here : d = c
  · subst here
    simp [State.rxDls]
  · simp [State.rxDls, here]

@[simp] theorem update_rxDls (s : State) (c : Nat) :
    Function.update s.rxDls c (s.channel c).rxDl = s.rxDls :=
  Function.update_eq_self c s.rxDls

@[simp] theorem pduRConfirmation_rxDls (api : PduRApi) (s : State) (c sdu id : Nat)
    (result : StdReturn) : (pduRConfirmation api s c sdu id result).rxDls = s.rxDls := by
  cases api <;> rfl

@[simp] theorem endWithError_rxDls (ctx : TxContext) (error : ErrorId) (s : State) :
    (endWithError ctx error s).rxDls = s.rxDls := by
  simp [endWithError]

@[simp] theorem pageConfirmation_rxDls (ctx : TxContext) (s : State) :
    (pageConfirmation env ctx s).rxDls = s.rxDls := by
  simp only [pageConfirmation]
  split <;> simp

@[simp] theorem getTxBuffer_rxDls (ctx : TxContext) (s : State) :
    (getTxBuffer b env ctx s).rxDls = s.rxDls := by
  simp only [getTxBuffer]
  split
  · split
    · split
      · split
        · simp
        · split <;> simp
      · simp
      · simp
    · rfl
  · split <;> simp

@[simp] theorem createFrame_channel (s : State) (c : Nat) :
    (createFrame b cfg env s c).1.channel = s.channel := by
  simp only [createFrame]
  split
  · simp only [createTxSingleFrame]
    split
    · split <;> simp
    · rfl
  · simp only [createTxFirstFrame]
    split
    · split <;> simp
    · rfl
  · simp only [createTxConsecutiveFrame]
    split
    · split <;> simp
    · rfl
  · simp only [createTxFlowControlFrame]
    split
    · split <;> rfl
    · rfl

@[simp] theorem canIfTransmit_channel (ctx : TxContext) (s : State) :
    (canIfTransmit b cfg env ctx s).channel = s.channel := by
  simp only [canIfTransmit]
  split
  · simp
  · split <;> simp

@[simp] theorem canIfTransmit_rxDls (ctx : TxContext) (s : State) :
    (canIfTransmit b cfg env ctx s).rxDls = s.rxDls := by
  funext d
  simp [State.rxDls]

@[simp] theorem sendFrame_rxDls (ctx : TxContext) (pciId : Npci) (s : State) :
    (sendFrame b cfg env ctx pciId s).rxDls = s.rxDls := by
  simp [sendFrame]

@[simp] theorem requestAccepted_rxDls (s : State) (c : Nat) :
    (requestAccepted b cfg env s c).rxDls = s.rxDls := by
  simp only [requestAccepted]
  split
  · split <;> simp
  · split <;> simp

@[simp] theorem fcTransmit_rxDls (ctx : TxContext) (ready : Bool) (s : State) :
    (fcTransmit b cfg env ctx ready s).rxDls = s.rxDls := by
  simp only [fcTransmit]
  split
  · split
    · split <;> simp
    · simp
  · rfl

@[simp] theorem fcWaitRound_rxDls (ctx : TxContext) (ready : Bool) (s : State) :
    (fcWaitRound b cfg ctx ready s).2.rxDls = s.rxDls := by
  simp only [fcWaitRound]
  split
  · split <;> simp
  · rfl

@[simp] theorem rxSendFlowControlFrame_rxDls (s : State) (c : Nat) :
    (rxSendFlowControlFrame b cfg env s c).rxDls = s.rxDls := by
  simp only [rxSendFlowControlFrame]
  split
  · split
    · simp only [fcTransmit_rxDls, fcWaitRound_rxDls]
      split
      · simp
      · split
        · simp [(setRxBlockInfo_same _ _ _).rxDl]
        · simp
    · simp
  · rfl

@[simp] theorem executeState_rxDls (s : State) (c : Nat) :
    (executeState b cfg env s c).rxDls = s.rxDls := by
  unfold executeState
  split
  · rfl
  · simp only [txTransmissionRequestAccepted]
    split <;> simp
  · simp only [txWaitForTransmitConfirmation]
    split <;> simp
  · simp only [txWaitForFlowControlFrame]
    split <;> simp
  · simp only [txSendConsecutiveFrame]
    split
    · generalize txContext b cfg s c _ = ctx
      split <;> simp
    · rfl
  · simp only [rxReceptionRequestAccepted]
    split <;> simp
  · exact rxSendFlowControlFrame_rxDls s c
  · simp only [rxWaitForFcTransmitConfirmation]
    split <;> simp
  · simp only [rxWaitForConsecutiveFrame]
    split <;> simp

theorem executeAll_rxDls (cs : List Nat) (s : State) :
    (cs.foldl (executeState b cfg env) s).rxDls = s.rxDls := by
  induction cs generalizing s with
  | nil => rfl
  | cons c cs ih => rw [List.foldl_cons, ih, executeState_rxDls]

@[simp] theorem mainFunction_rxDls (s : State) : (mainFunction b cfg env s).rxDls = s.rxDls := by
  unfold mainFunction
  split
  · split
    · rw [executeState_rxDls]
      rfl
    · simp only [incrementCounter, executeAll]
      split <;> exact executeAll_rxDls _ s
  · simp

@[simp] theorem burstMainFunction_rxDls (c : Nat) (point : TriggerPoint) (s : State) :
    (burstMainFunction b cfg env c point s).rxDls = s.rxDls := by
  unfold burstMainFunction
  split
  · split
    · rfl
    · split
      · rfl
      · rw [mainFunction_rxDls]
        rfl
  · rfl

theorem confirmData_rxDl (cfg : Config b) (ch : Channel) (value : Nat) :
    (confirmData b cfg ch value).rxDl = ch.rxDl := by
  simp only [confirmData]
  split <;> rfl

@[simp] theorem confirmFrame_rxDls (p : Nat) (s : State) :
    (confirmFrame b cfg p s).rxDls = s.rxDls := by
  simp only [confirmFrame]
  split
  · split
    · simp only [fcTxConfirmation]
      split <;> simp
    · simp only [dataTxConfirmation]
      split
      · simp [confirmData_rxDl]
      · split
        · simp [confirmData_rxDl]
        · simp only [prepareFcRecieve]
          split <;> simp [confirmData_rxDl]
    · rfl
  · rfl

@[simp] theorem lengthError_rxDls (ctx : RxContext) (s : State) :
    (lengthError ctx s).rxDls = s.rxDls := by
  simp only [lengthError]
  split
  · split <;> simp
  · split <;> simp

theorem setTxBlockInfo_rxDl (cfg : Config b) (ch : Channel) (bs stMin : UInt8) :
    (setTxBlockInfo b cfg ch bs stMin).rxDl = ch.rxDl := by
  simp only [setTxBlockInfo]
  split <;> split <;> rfl

variable {ctx : RxContext} {data : Mem}

@[simp] theorem processRxFlowControlFrame_rxDls (s : State) :
    (processRxFlowControlFrame b cfg ctx data s).rxDls = s.rxDls := by
  simp only [processRxFlowControlFrame]
  split
  · split
    · simp
    · split
      · simp
      · split
        · simp [setTxBlockInfo_rxDl]
        · simp
  · rfl

@[simp] theorem prepareFcTransmit_rxDls (c : Nat) (s : State) :
    (prepareFcTransmit c s).rxDls = s.rxDls := by
  simp only [prepareFcTransmit]
  split <;> simp

@[simp] theorem processRxConsecutiveFrame_rxDls (s : State) :
    (processRxConsecutiveFrame b cfg env ctx data s).rxDls = s.rxDls := by
  simp only [processRxConsecutiveFrame]
  split
  · split
    · simp
    · split
      · split
        · split <;> simp
        · simp
      · simp
  · rfl

theorem getConnectionAcceptance_channel {s s' : State} {n : Nat}
    (accepted : getConnectionAcceptance b env ctx data n s = .ok s') : s'.channel = s.channel := by
  rcases getConnectionAcceptance_cases accepted with rfl | rfl
  · simp
  · simp

theorem setRxDl_rxDl (ch : Channel) (n : Nat) :
    (setRxDl b ch n).rxDl = ch.rxDl ∨ (setRxDl b ch n).rxDl = n := by
  unfold setRxDl
  split
  · exact Or.inr rfl
  · exact Or.inl rfl

def Learns (c n : Nat) (s s' : State) : Prop :=
  ∀ d, s'.rxDls d = s.rxDls d ∨ (d = c ∧ s'.rxDls d = u8 n)

theorem learns_kept {c n : Nat} {s s' : State} (same : s'.rxDls = s.rxDls) : Learns c n s s' :=
  fun d => Or.inl (congrFun same d)

theorem learns_update {c n dl : Nat} {s s' : State} (here : dl = s.rxDls c ∨ dl = u8 n)
    (updated : s'.rxDls = Function.update s.rxDls c dl) : Learns c n s s' := by
  intro d
  rw [updated]
  by_cases same : d = c
  · subst same
    rw [Function.update_self]
    exact here.imp id fun learnt => ⟨rfl, learnt⟩
  · rw [Function.update_of_ne same]
    exact Or.inl rfl

theorem processRxSingleFrame_learns (n : Nat) (s : State) :
    Learns ctx.channelId n s (processRxSingleFrame b env ctx data n s) := by
  simp only [processRxSingleFrame]
  cases accepted : getConnectionAcceptance b env ctx data n s with
  | error s' =>
      rw [getConnectionAcceptance_refused accepted]
      exact learns_kept (by funext d; simp [State.rxDls])
  | ok s' =>
      have before : s'.rxDls = s.rxDls := by
        funext d
        rw [State.rxDls, getConnectionAcceptance_channel accepted]
        rfl
      have learnt := setRxDl_rxDl (b := b) (s'.channel ctx.channelId) (u8 n)
      rw [getConnectionAcceptance_channel accepted] at learnt
      refine learns_update learnt ?_
      simp only
      split
      · split <;> simp [before, getConnectionAcceptance_channel accepted]
      · simp [before, getConnectionAcceptance_channel accepted]
      · simp [before, getConnectionAcceptance_channel accepted]

theorem processRxFirstFrame_learns (n : Nat) (s : State) :
    Learns ctx.channelId n s (processRxFirstFrame b env ctx data n s) := by
  simp only [processRxFirstFrame]
  cases accepted : getConnectionAcceptance b env ctx data n s with
  | error s' =>
      rw [getConnectionAcceptance_refused accepted]
      exact learns_kept (by funext d; simp [State.rxDls])
  | ok s' =>
      have before : s'.rxDls = s.rxDls := by
        funext d
        rw [State.rxDls, getConnectionAcceptance_channel accepted]
        rfl
      have learnt := setRxDl_rxDl (b := b) (s'.channel ctx.channelId) (u8 n)
      rw [getConnectionAcceptance_channel accepted] at learnt
      refine learns_update learnt ?_
      simp only
      split
      · split
        · split <;> simp [before, getConnectionAcceptance_channel accepted]
        · simp [before, getConnectionAcceptance_channel accepted]
      · simp [before, getConnectionAcceptance_channel accepted]
      · simp [before, getConnectionAcceptance_channel accepted]

end Kept

section Learnt
variable {ctx : RxContext} {data : Mem} {s : State} {n : Nat}

def RxDlInside (s : State) : Prop := ∀ c, s.rxDls c ≤ 64

theorem RxDlInside.of_same {s' : State} (inside : RxDlInside s) (same : s'.rxDls = s.rxDls) :
    RxDlInside s' := fun c => same ▸ inside c

theorem RxDlInside.learns {s' : State} {c : Nat} (inside : RxDlInside s)
    (learns : Learns c n s s') (frame : n ≤ 64) : RxDlInside s' := by
  intro d
  rcases learns d with same | ⟨-, learnt⟩
  · rw [same]
    exact inside d
  · rw [learnt, u8_small (by omega)]
    exact frame

theorem processFrame_inside (frame : n ≤ 64) (inside : RxDlInside s) :
    RxDlInside (processFrame b cfg env ctx data n s) := by
  unfold processFrame
  split
  · exact inside.learns (processRxSingleFrame_learns _ s) frame
  · exact inside.learns (processRxFirstFrame_learns _ s) frame
  · exact inside.of_same (processRxConsecutiveFrame_rxDls s)
  · exact inside.of_same (processRxFlowControlFrame_rxDls s)

theorem receiveFrame_inside {p : Nat} {info : PduInfo} (frame : info.sduLength ≤ 64)
    (inside : RxDlInside s) : RxDlInside (receiveFrame b cfg env p info s) := by
  simp only [receiveFrame]
  cases getRxContext b cfg s p info with
  | error e => exact inside
  | ok ctx =>
      simp only
      split
      · exact inside.of_same (lengthError_rxDls _ _)
      · exact RxDlInside.of_same (processFrame_inside frame inside) (burstMainFunction_rxDls _ _ _)

theorem devCheck_rxDls {id total : Nat} {api : ApiId} {invalidId : ErrorId}
    {body : State → State} (same : (body s).rxDls = s.rxDls) :
    (devCheck s id total api invalidId body).rxDls = s.rxDls := by
  unfold devCheck
  split
  · split
    · rfl
    · exact same
  · rfl

theorem step_inside {op : Op} (frame : op.frameLength ≤ 64) (inside : RxDlInside s) :
    RxDlInside (step b cfg env s op) := by
  cases op with
  | transmit x info =>
      refine inside.of_same (devCheck_rxDls ?_)
      cases info with
      | none => rfl
      | some n =>
          simp only
          split
          · rfl
          · split
            · rfl
            · split <;> simp
  | cancelTransmit x =>
      refine inside.of_same (devCheck_rxDls ?_)
      simp only
      split
      · rfl
      · split <;> simp
  | cancelReceive r =>
      refine inside.of_same (devCheck_rxDls ?_)
      simp only
      split
      · rfl
      · split
        · split <;> simp
        · rfl
  | mainFunction => exact inside.of_same (mainFunction_rxDls s)
  | txConfirmation p =>
      refine inside.of_same (devCheck_rxDls ?_)
      rw [burstMainFunction_rxDls, confirmFrame_rxDls]
  | rxIndication p info =>
      simp only [step, rxIndication, devCheck]
      split
      · split
        · exact inside
        · cases info with
          | none => exact inside
          | some info => exact receiveFrame_inside frame inside
      · exact inside
  | changeParameter r parameter value =>
      refine inside.of_same (devCheck_rxDls ?_)
      simp only
      split
      · rfl
      · split <;> rfl
  | tick => exact inside
  | init => exact inside
  | shutdown =>
      simp only [step, shutdown]
      split <;> exact inside

end Learnt

section Lookups
variable (b : Build) (cfg : Config b) (env : Env)

/-- A use of `CanTp_Prv_GetCanDl`, which looks at the table in the CAN FD build only. -/
def tableLookups (i : Nat) : List Nat := if b.canFdSupport then [i] else []

def padLookups (connection : TxSdu) (dataOffset length : Nat) : List Nat :=
  if getBit connection.bitFields paddingOn then tableLookups b (dataOffset + length) else []

def singleFrameLookups (s : State) (c : Nat) : List Nat :=
  let ch := s.channel c
  let connection := cfg.txSdu ch.activeSduId
  let length := u8 ch.sduLengthRemaining
  if (env.copyTxData s.log connection.pduRPduHandleId length).1 ≠ .ok then []
  else padLookups b connection (addressSize connection.addressFormatId + ch.pciId.pciSize) length

def consecutiveFrameLookups (s : State) (c : Nat) : List Nat :=
  let ch := s.channel c
  let connection := cfg.txSdu ch.activeSduId
  let dataOffset := addressSize connection.addressFormatId + cfPciSize
  let maxCopyLength := sub8 (getTxDl b connection) dataOffset
  let length := cfLength ch.sduLengthRemaining maxCopyLength
  if (env.copyTxData s.log connection.pduRPduHandleId length).1 ≠ .ok then []
  else if ch.sduLengthRemaining < maxCopyLength then padLookups b connection dataOffset length
  else []

def createLookups (s : State) (c : Nat) : List Nat :=
  if s.subState c = .txWaitForTransmitConfirmation then
    match (s.channel c).pciId.frameType with
    | .single => singleFrameLookups b cfg env s c
    | .consecutive => consecutiveFrameLookups b cfg env s c
    | _ => []
  else []

def sendLookups (ctx : TxContext) (pciId : Npci) (s : State) : List Nat :=
  let c := ctx.channelId
  let s := s.setChannel c { s.channel c with pciId, initialTicks := ctx.value }
  createLookups b cfg env (s.setSub c .txWaitForTransmitConfirmation) c

def requestLookups (s : State) (c : Nat) : List Nat :=
  let ch := s.channel c
  if s.txConfirmationChannel (cfg.txSdu ch.activeSduId).txConfirmationId = b.invalidChannel then
    let ctx := txContext b cfg s c (requestPayLoad b cfg ch)
    let s := s.setChannel c
      { ch with blockCfsRemaining := 0, sduLengthRemaining := ch.sduLength, sn := 1 }
    let s := getTxBuffer b env ctx s
    if (s.channel c).txBufferStatus = .available then sendLookups b cfg env ctx ch.pciId s
    else []
  else []

def nextLookups (s : State) (c : Nat) : List Nat :=
  let ch := s.channel c
  let connection := cfg.txSdu ch.activeSduId
  if s.txConfirmationChannel connection.txConfirmationId = b.invalidChannel then
    let maxLength := sub8 (getTxDl b connection)
      (cfPciSize + addressSize connection.addressFormatId)
    let ctx := txContext b cfg s c
      (if ch.sduLengthRemaining < maxLength then u8 ch.sduLengthRemaining else maxLength)
    let s := getTxBuffer b env ctx s
    let ch := s.channel c
    if ch.txBufferStatus = .available ∧
        (ctx.elapsedValue ≥ ch.stMinTicks ∨ ch.pciId ≠ .cf) then
      sendLookups b cfg env ctx .cf s
    else []
  else []

def executeLookups (s : State) (c : Nat) : List Nat :=
  match s.subState c with
  | .txTransmissionRequestAccepted => requestLookups b cfg env s c
  | .txSendConsecutiveFrame => nextLookups b cfg env s c
  | _ => []

def loopLookups (s : State) : List Nat → List Nat
  | [] => []
  | c :: cs => executeLookups b cfg env s c ++ loopLookups (executeState b cfg env s c) cs

def mainLookups (s : State) : List Nat :=
  if s.mainState then
    match (if b.txBurstMode then getFromQ b s.burstQ else none) with
    | some (c, burstQ) => executeLookups b cfg env { s with burstQ } c
    | none => loopLookups b cfg env s (List.range cfg.numberOfChannels)
  else []

def burstLookups (c : Nat) (s : State) : List Nat :=
  if burstReady b cfg c s then
    match putInQ b s.burstQ c with
    | none => []
    | some burstQ =>
      let s := { s with burstQ }
      if b.schMSupport then [] else mainLookups b cfg env s
  else []

def checkLookups (s : State) (ctx : RxContext) (data : Mem) (sduLength : Nat) : List Nat :=
  if ctx.isPaddingOn then
    match ctx.frameType with
    | .single =>
      let dataOffset := ctx.addressSize + Npci.sfCanFd.pciSize
      let sfDl := (data (ctx.addressSize + 1)).toNat
      if sduLength > defaultCanDl ∧ (data ctx.addressSize).toNat % 16 = 0 ∧
          sfDl > 7 - ctx.addressSize ∧ sfDl ≤ sduLength - dataOffset ∧
          ctx.addressSize + 2 + sfDl ≤ b.maxNpduLength then
        tableLookups b (dataOffset + sfDl)
      else []
    | .consecutive =>
      let ch := s.channel ctx.channelId
      let rxDl := getRxDl b ch
      let dataOffset := ctx.addressSize + cfPciSize
      tableLookups b
        (if ch.sduLengthRemaining < sub8 rxDl dataOffset then
          u8 (ch.sduLengthRemaining + dataOffset)
        else rxDl)
    | _ => []
  else []

def receiveLookups (p : Nat) (info : PduInfo) (s : State) : List Nat :=
  match getRxContext b cfg s p info with
  | .error _ => []
  | .ok ctx =>
    let data := info.sduDataPtr.getD fun _ => 0
    let checked := rxSduLengthCheck b s ctx data info.sduLength
    checkLookups b s ctx data info.sduLength ++
      if checked.2 ≠ .ok then []
      else burstLookups b cfg env checked.1.channelId
        (processFrame b cfg env checked.1 data info.sduLength s)

/-- The indices at which one call reads `CanTp_CanDlTable`, in the order of the reads. -/
def stepLookups (s : State) : Op → List Nat
  | .mainFunction => mainLookups b cfg env s
  | .txConfirmation p =>
    if s.mainState ∧ p < cfg.numberOfTxPdus then
      burstLookups b cfg env (s.txConfirmationChannel p) (confirmFrame b cfg p s)
    else []
  | .rxIndication p (some info) =>
    if s.mainState ∧ p < cfg.numberOfRxPdus then receiveLookups b cfg env p info s else []
  | _ => []

end Lookups

section Requested

def SingleFits (b : Build) (cfg : Config b) (v : View) : Prop :=
  v.sub = .txTransmissionRequestAccepted → v.ch.pciId.frameType = .single →
    addressSize (cfg.txSdu v.ch.activeSduId).addressFormatId + v.ch.pciId.pciSize +
      v.ch.sduLength ≤ 64

theorem txPciInit_fits (cfg : Config b) (x : Nat) {n : Nat} (small : n < 2 ^ 16)
    (single : (txPciInit b cfg x n).frameType = .single) :
    addressSize (cfg.txSdu x).addressFormatId + (txPciInit b cfg x n).pciSize + n ≤ 64 := by
  have txDl := getTxDl_bounds (b := b) (cfg.txSdu x)
  have layouts := txPciInit_layout cfg x small
  generalize txPciInit b cfg x n = pciId at single layouts ⊢
  cases layouts with
  | sfCan fits =>
      simp only [Npci.pciSize]
      omega
  | sfCanFd fd long fits =>
      simp only [Npci.pciSize]
      omega
  | ffCan => cases single
  | ffCanFd => cases single

theorem ChannelStep.singleFits {lapse : Lapse → Prop} {now c : Nat} {v v' : View}
    {events : List Event} (step : ChannelStep b cfg lapse now c v events v')
    (fits : SingleFits b cfg v) : SingleFits b cfg v' := by
  cases step with
  | accept idle configured own positive short active length pci =>
      rintro - single
      simp only [active, length, pci] at single ⊢
      exact txPciInit_fits cfg _ short single
  | txPrepare => exact fits
  | txBuffer => exact fits
  | txBlockedTimeout => exact fits
  | txFlowWait => exact fits
  | rxDoubleIndication => exact fits
  | fcPrepare ch sending =>
      intro accepted
      simp [sending] at accepted
  | fcConfirmedWait waiting =>
      intro accepted
      simp only at accepted
      split at accepted <;> cases accepted
  | rxConsecutive data room sub ch waiting active length remaining more sn rxDl flow sized next =>
      intro accepted
      rcases next with rfl | rfl <;> cases accepted
  | _ =>
      intro accepted
      cases accepted

end Requested

section Sent
variable {s : State} {c i : Nat}

theorem tableLookups_mem (member : i ∈ tableLookups b n) : i = n := by
  unfold tableLookups at member
  split at member
  · exact List.mem_singleton.mp member
  · cases member

theorem padLookups_mem {connection : TxSdu} {dataOffset length : Nat}
    (member : i ∈ padLookups b connection dataOffset length) : i = dataOffset + length := by
  unfold padLookups at member
  split at member
  · exact tableLookups_mem member
  · cases member

theorem padFrame_lookup {connection : TxSdu} {dataOffset length : Nat} (buffer : Mem)
    (member : i ∈ padLookups b connection dataOffset length) :
    (padFrame b connection dataOffset length buffer).1 = canDlTable.getD i 0 := by
  have index := padLookups_mem member
  unfold padLookups tableLookups at member
  split at member
  · rename_i padded
    split at member
    · rename_i fd
      simp only [padFrame, if_pos padded, getCanDl, if_pos fd, index]
    · cases member
  · cases member

theorem singleFrameLookups_inside
    (fits : addressSize (cfg.txSdu (s.channel c).activeSduId).addressFormatId +
      (s.channel c).pciId.pciSize + u8 (s.channel c).sduLengthRemaining ≤ 64)
    (member : i ∈ singleFrameLookups b cfg env s c) : i ≤ 64 := by
  simp only [singleFrameLookups] at member
  split at member
  · cases member
  · rw [padLookups_mem member]
    exact fits

theorem consecutiveFrameLookups_inside (member : i ∈ consecutiveFrameLookups b cfg env s c) :
    i ≤ 64 := by
  simp only [consecutiveFrameLookups] at member
  split at member
  · cases member
  · split at member
    · rename_i short
      have txDl := getTxDl_bounds (b := b) (cfg.txSdu (s.channel c).activeSduId)
      have address := addressSize_le (cfg.txSdu (s.channel c).activeSduId).addressFormatId
      have pci : cfPciSize = 1 := rfl
      rw [sub8_le _ _ (by omega) (by omega)] at short
      rw [padLookups_mem member, cfLength]
      split
      · rw [sub8_le _ _ (by omega) (by omega)]
        omega
      · rw [u8_small (by omega)]
        omega
    · cases member

theorem createLookups_inside
    (fits : (s.channel c).pciId.frameType = .single →
      addressSize (cfg.txSdu (s.channel c).activeSduId).addressFormatId +
        (s.channel c).pciId.pciSize + u8 (s.channel c).sduLengthRemaining ≤ 64)
    (member : i ∈ createLookups b cfg env s c) : i ≤ 64 := by
  unfold createLookups at member
  split at member
  · split at member
    · rename_i single
      exact singleFrameLookups_inside (fits single) member
    · exact consecutiveFrameLookups_inside member
    · cases member
  · cases member

theorem getTxBuffer_status (ctx : TxContext) (s : State) :
    ∃ status, (getTxBuffer b env ctx s).channel =
      (s.setChannel ctx.channelId
        { s.channel ctx.channelId with txBufferStatus := status }).channel := by
  have untouched : s.channel = (s.setChannel ctx.channelId
      { s.channel ctx.channelId with
        txBufferStatus := (s.channel ctx.channelId).txBufferStatus }).channel :=
    (Function.update_eq_self _ _).symm
  simp only [getTxBuffer]
  split
  · split
    · split
      · split
        · exact ⟨.available, rfl⟩
        · split
          · simp only [pageConfirmation]
            split
            · exact ⟨.asked, rfl⟩
            · exact ⟨_, untouched⟩
          · exact ⟨_, untouched⟩
      · exact ⟨_, untouched⟩
      · exact ⟨_, (endWithError_channel ctx .com _).trans untouched⟩
    · exact ⟨_, untouched⟩
  · split
    · exact ⟨_, (endWithError_channel ctx .txCom s).trans untouched⟩
    · exact ⟨_, untouched⟩

theorem getTxBuffer_kept (ctx : TxContext) (s : State) (c : Nat) :
    ((getTxBuffer b env ctx s).channel c).activeSduId = (s.channel c).activeSduId ∧
      ((getTxBuffer b env ctx s).channel c).sduLengthRemaining =
        (s.channel c).sduLengthRemaining := by
  obtain ⟨status, same⟩ := @getTxBuffer_status b env ctx s
  rw [same]
  by_cases here : c = ctx.channelId
  · subst here
    simp
  · simp [here]

theorem executeLookups_inside (fits : SingleFits b cfg (s.view c))
    (member : i ∈ executeLookups b cfg env s c) : i ≤ 64 := by
  unfold executeLookups at member
  split at member
  · rename_i accepted
    simp only [requestLookups] at member
    split at member
    · generalize context : txContext b cfg s c _ = ctx at member
      have here : ctx.channelId = c := by rw [← context]; rfl
      split at member
      · obtain ⟨active, remaining⟩ := @getTxBuffer_kept b env ctx
          (s.setChannel c { s.channel c with
            blockCfsRemaining := 0, sduLengthRemaining := (s.channel c).sduLength, sn := 1 }) c
        refine createLookups_inside ?_ member
        simp only [here, State.setSub_channel, State.setChannel_channel,
          Function.update_self] at active remaining ⊢
        rw [active, remaining]
        intro single
        have length : u8 (s.channel c).sduLength ≤ (s.channel c).sduLength := Nat.mod_le _ _
        have fitting := fits accepted single
        simp only [State.view] at fitting
        omega
      · cases member
    · cases member
  · simp only [nextLookups] at member
    split at member
    · generalize txContext b cfg s c _ = ctx at member
      split at member
      · refine createLookups_inside ?_ member
        intro single
        simp [Npci.frameType] at single
      · cases member
    · cases member
  · cases member

end Sent

section Check
variable {s : State} {ctx : RxContext} {data : Mem} {n i : Nat}

theorem rxSduLengthCheck_lookup (member : i ∈ checkLookups b s ctx data n) :
    (rxSduLengthCheck b s ctx data n).1.canDl = canDlTable.getD i 0 := by
  unfold checkLookups at member
  split at member
  · rename_i padded
    split at member
    · rename_i single
      simp only at member
      split at member
      · rename_i read
        have long : ¬ n ≤ defaultCanDl := Nat.not_le.mpr read.1
        have index := tableLookups_mem member
        unfold tableLookups at member
        split at member
        · rename_i fd
          simp only [rxSduLengthCheck, single, singleFrameDl, if_neg long, if_pos fd,
            if_pos read.2, if_pos padded, getCanDl, index]
        · cases member
      · cases member
    · rename_i consecutive
      have index := tableLookups_mem member
      unfold tableLookups at member
      split at member
      · rename_i fd
        simp only [rxSduLengthCheck, consecutive, consecutiveFrameDl, if_pos padded, getCanDl,
          if_pos fd, index]
      · cases member
    · cases member
  · cases member

/-- A padded consecutive frame arrives on a channel on which no frame has set RX_DL yet, and
the bytes remaining there are more than an N-PDU but fewer than the borrow of RX_DL allows. -/
def UnsetRxDl (s : State) (ctx : RxContext) : Prop :=
  ctx.frameType = .consecutive ∧ ctx.isPaddingOn = true ∧
    (s.channel ctx.channelId).rxDl < ctx.addressSize + cfPciSize ∧
    64 < (s.channel ctx.channelId).sduLengthRemaining + (ctx.addressSize + cfPciSize) ∧
    (s.channel ctx.channelId).sduLengthRemaining + (ctx.addressSize + cfPciSize) < 256

theorem consecutiveIndex_inside_iff {rxDl remaining offset : Nat} (inside : rxDl ≤ 64)
    (address : offset ≤ 2) :
    (if remaining < sub8 rxDl offset then u8 (remaining + offset) else rxDl) ≤ 64 ↔
      ¬ (rxDl < offset ∧ 64 < remaining + offset ∧ remaining + offset < 256) := by
  by_cases unset : rxDl < offset
  · have borrow : sub8 rxDl offset = 256 + rxDl - offset := by
      simp only [sub8]
      omega
    rw [borrow]
    simp only [u8]
    split <;> omega
  · rw [sub8_le _ _ (by omega) (by omega)]
    simp only [u8]
    split <;> omega

theorem checkLookups_inside_iff (fd : b.canFdSupport = true) (inside : RxDlInside s)
    (frame : n ≤ 64) (address : ctx.frameType ≠ .flowControl → ctx.addressSize ≤ 1) :
    (∀ i ∈ checkLookups b s ctx data n, i ≤ 64) ↔ ¬ UnsetRxDl s ctx := by
  unfold checkLookups
  by_cases padded : ctx.isPaddingOn = true
  · rw [if_pos padded]
    cases kind : ctx.frameType with
    | single =>
        refine iff_of_true ?_ (by simp [UnsetRxDl, kind])
        intro i member
        simp only at member
        have pci : Npci.sfCanFd.pciSize = 2 := rfl
        split at member
        · rename_i read
          have short : ctx.addressSize ≤ 1 := address (by simp [kind])
          have classic : defaultCanDl = 8 := rfl
          rw [tableLookups_mem member]
          omega
        · cases member
    | consecutive =>
        have pci : cfPciSize = 1 := rfl
        have short : ctx.addressSize ≤ 1 := address (by simp [kind])
        have offset : ctx.addressSize + cfPciSize ≤ 2 := by omega
        have index := @consecutiveIndex_inside_iff _ (s.channel ctx.channelId).sduLengthRemaining
          _ (inside ctx.channelId) offset
        simp only [UnsetRxDl, kind, padded, true_and, tableLookups, if_pos fd, getRxDl,
          List.mem_singleton, forall_eq]
        exact index
    | first => exact iff_of_true (by simp) (by simp [UnsetRxDl, kind])
    | flowControl => exact iff_of_true (by simp) (by simp [UnsetRxDl, kind])
  · rw [if_neg padded]
    exact iff_of_true (by simp) (by simp [UnsetRxDl, padded])

end Check

section Runs
variable {s s' : State} {c i : Nat}

structure TableKept (b : Build) (cfg : Config b) (s : State) : Prop where
  queue : QueueOk b cfg s.burstQ
  requested : ∀ c < cfg.numberOfChannels, SingleFits b cfg (s.view c)
  rxDl : RxDlInside s

theorem TableKept.path (kept : TableKept b cfg s) (path : Path b cfg (fun _ => True) s s')
    (rxDl : RxDlInside s') : TableKept b cfg s' where
  queue := path.queue kept.queue
  requested := by
    refine Path.invariant (fun s => ∀ c < cfg.numberOfChannels, SingleFits b cfg (s.view c))
      ?_ path kept.requested
    intro s s' move fits c bound
    cases move with
    | silent silent => exact silent.view c ▸ fits c bound
    | channel bound' step becomes =>
        rename_i d events v
        by_cases same : c = d
        · subst same
          exact becomes.view_here ▸ step.singleFits (fits c bound)
        · rw [becomes.view_elsewhere same]
          exact fits c bound
  rxDl := rxDl

theorem TableKept.execute (kept : TableKept b cfg s) (bound : c < cfg.numberOfChannels) :
    TableKept b cfg (executeState b cfg env s c) :=
  kept.path (executeState_path bound fun _ _ => trivial)
    (kept.rxDl.of_same (executeState_rxDls s c))

theorem loopLookups_inside {cs : List Nat} (bound : ∀ c ∈ cs, c < cfg.numberOfChannels)
    (kept : TableKept b cfg s) (member : i ∈ loopLookups b cfg env s cs) : i ≤ 64 := by
  induction cs generalizing s with
  | nil => cases member
  | cons c cs ih =>
      have here : c < cfg.numberOfChannels := bound c (by simp)
      rcases List.mem_append.mp member with first | later
      · exact executeLookups_inside (kept.requested c here) first
      · exact ih (fun d inside => bound d (by simp [inside])) (kept.execute here) later

theorem mainLookups_inside (kept : TableKept b cfg s) (member : i ∈ mainLookups b cfg env s) :
    i ≤ 64 := by
  unfold mainLookups at member
  split at member
  · split at member
    · rename_i c burstQ got
      have taken : getFromQ b s.burstQ = some (c, burstQ) := by
        split at got
        · exact got
        · cases got
      obtain ⟨bound, -⟩ := getFromQ_ok taken kept.queue
      have fits : SingleFits b cfg ({ s with burstQ }.view c) := kept.requested c bound
      exact executeLookups_inside fits member
    · exact loopLookups_inside (by simp) kept member
  · cases member

theorem burstLookups_inside (kept : TableKept b cfg s)
    (member : i ∈ burstLookups b cfg env c s) : i ≤ 64 := by
  unfold burstLookups at member
  split at member
  · rename_i ready
    have bound : c < cfg.numberOfChannels := by
      simp only [burstReady, Bool.and_eq_true, decide_eq_true_eq] at ready
      exact ready.1.1.2
    split at member
    · cases member
    · rename_i burstQ put
      split at member
      · cases member
      · have queued : TableKept b cfg { s with burstQ } :=
          ⟨putInQ_ok bound put kept.queue, kept.requested, kept.rxDl⟩
        exact mainLookups_inside queued member
  · cases member

/-- The call hands over a frame whose length check relies on an RX_DL that no frame has set. -/
def ReadsUnset (b : Build) (cfg : Config b) (s : State) : Op → Prop
  | .rxIndication p (some info) =>
    s.mainState = true ∧ p < cfg.numberOfRxPdus ∧
      ∃ ctx, getRxContext b cfg s p info = .ok ctx ∧ UnsetRxDl s ctx
  | _ => False

theorem receiveLookups_inside_iff (fd : b.canFdSupport = true) {p : Nat} {info : PduInfo}
    (frame : info.sduLength ≤ 64) (kept : TableKept b cfg s) :
    (∀ i ∈ receiveLookups b cfg env p info s, i ≤ 64) ↔
      ¬ ∃ ctx, getRxContext b cfg s p info = .ok ctx ∧ UnsetRxDl s ctx := by
  simp only [receiveLookups]
  cases context : getRxContext b cfg s p info with
  | error e => simp
  | ok ctx =>
      generalize (info.sduDataPtr.getD fun _ => 0) = data
      have own' := getRxContext_checked context data
      have check := @checkLookups_inside_iff b s ctx data info.sduLength fd kept.rxDl frame
        (getRxContext_addressSize context)
      have processed : TableKept b cfg (processFrame b cfg env
          (rxSduLengthCheck b s ctx data info.sduLength).1 data info.sduLength s) :=
        kept.path (processFrame_path own' (fun _ => Or.inr trivial) fun _ _ => trivial)
          (processFrame_inside frame kept.rxDl)
      simp only [List.mem_append, or_imp, forall_and, check]
      constructor
      · rintro ⟨set, -⟩ ⟨ctx', found, unset⟩
        obtain rfl := Except.ok.inj found
        exact set unset
      · intro set
        refine ⟨fun unset => set ⟨ctx, rfl, unset⟩, ?_⟩
        intro i member
        split at member
        · cases member
        · exact burstLookups_inside processed member

theorem stepLookups_inside_iff (fd : b.canFdSupport = true) {op : Op}
    (frame : op.frameLength ≤ 64) (kept : TableKept b cfg s) :
    (∀ i ∈ stepLookups b cfg env s op, i ≤ 64) ↔ ¬ ReadsUnset b cfg s op := by
  cases op with
  | mainFunction =>
      exact iff_of_true (fun i member => mainLookups_inside kept member) (by simp [ReadsUnset])
  | txConfirmation p =>
      refine iff_of_true (fun i member => ?_) (by simp [ReadsUnset])
      simp only [stepLookups] at member
      split at member
      · rename_i configured
        have confirmed : TableKept b cfg (confirmFrame b cfg p s) :=
          kept.path (confirmFrame_path configured.2 (fun _ => trivial) trivial)
            (kept.rxDl.of_same (confirmFrame_rxDls p s))
        exact burstLookups_inside confirmed member
      · cases member
  | rxIndication p info =>
      cases info with
      | none => simp [stepLookups, ReadsUnset]
      | some info =>
          simp only [stepLookups, ReadsUnset, ← and_assoc]
          split
          · rename_i ready
            rw [receiveLookups_inside_iff fd frame kept]
            simp [ready]
          · rename_i refused
            exact iff_of_true (by simp) fun unset => refused unset.1
  | _ => simp [stepLookups, ReadsUnset]

theorem TableKept.step {op : Op} (frame : op.frameLength ≤ 64) (kept : TableKept b cfg s) :
    TableKept b cfg (step b cfg env s op) := by
  have rxDl : RxDlInside (CanTp.step b cfg env s op) := step_inside frame kept.rxDl
  cases call : op.isCall with
  | true => exact kept.path (call_path kept.queue call fun _ _ => trivial) rxDl
  | false =>
      have reset : ∀ c < cfg.numberOfChannels,
          SingleFits b cfg ((resetModule b cfg s).view c) := by
        intro c bound accepted
        simp [State.view, resetModule, bound] at accepted
      cases op with
      | init => exact ⟨resetModule_queue s, reset, rxDl⟩
      | shutdown =>
          simp only [CanTp.step, shutdown]
          split
          · exact ⟨resetModule_queue s, reset, kept.rxDl⟩
          · exact ⟨kept.queue, kept.requested, kept.rxDl⟩
      | _ => cases call

theorem start_tableKept {ram : State} (cleared : ∀ c, (ram.channel c).rxDl = 0) :
    TableKept b cfg (start b cfg ram) where
  queue := start_queue ram
  requested := by
    intro c bound accepted
    simp [State.view, start_idle cfg ram bound] at accepted
  rxDl := by
    intro c
    have zero : (start b cfg ram).rxDls c = 0 := cleared c
    omega

/-- In every run from cleared RAM, the table is read inside its 65 entries at every step
exactly when no padded consecutive frame relies on an RX_DL that no frame has set. -/
theorem canDlTable_inside_iff (fd : b.canFdSupport = true) {ram : State}
    (cleared : ∀ c, (ram.channel c).rxDl = 0) {ops : List Op}
    (frames : ∀ op ∈ ops, op.frameLength ≤ 64) :
    Guarded (step b cfg env) (fun s op => ∀ i ∈ stepLookups b cfg env s op, i ≤ 64)
        (start b cfg ram) ops ↔
      Guarded (step b cfg env) (fun s op => ¬ ReadsUnset b cfg s op) (start b cfg ram) ops := by
  refine guarded_congr (fun op member s kept _ => ?_) (fun op member s kept => ?_)
    (start_tableKept cleared)
  · exact kept.step (frames op member)
  · exact stepLookups_inside_iff fd (frames op member) kept

end Runs

section Node

def paddedConfig : Config nodeBuild :=
  { nodeConfig with
    rxSdu := fun r => { nodeConfig.rxSdu r with bitFields := paddingOn }
    rxSdu_channel := nodeConfig.rxSdu_channel
    rxSdu_confirmation := nodeConfig.rxSdu_confirmation }

def paddedOps : List Op :=
  [.rxIndication 0 (nodeFrame [0x10, 20, 0, 1, 2, 3, 4, 5]), .mainFunction, .txConfirmation 2,
    .rxIndication 0 (nodeFrame [0x21, 6, 7, 8, 9, 10, 11, 12])]

theorem canDlTable_inside_padded :
    Guarded (step nodeBuild paddedConfig nodeEnv)
      (fun s op => ¬ ReadsUnset nodeBuild paddedConfig s op)
      (start nodeBuild paddedConfig nodeRam) paddedOps :=
  (canDlTable_inside_iff rfl (fun _ => rfl) (by decide)).mp (by decide)

/-- A transmission of 100 bytes leaves its length on channel 0, where nothing was received
yet; the consecutive frame that arrives then is checked against entry 101. -/
theorem consecutiveFrame_outside_table :
    nodeBuild.canFdSupport = true ∧ (∀ c, (nodeRam.channel c).rxDl = 0) ∧
      (Op.rxIndication 0 (nodeFrame [0x21, 0, 1, 2, 3, 4, 5, 6])).frameLength ≤ 64 ∧
      stepLookups nodeBuild paddedConfig nodeEnv
        (run (step nodeBuild paddedConfig nodeEnv) (start nodeBuild paddedConfig nodeRam)
          [.transmit 0 (some 100), .mainFunction])
        (.rxIndication 0 (nodeFrame [0x21, 0, 1, 2, 3, 4, 5, 6])) = [101] :=
  ⟨rfl, fun _ => rfl, by decide, by decide⟩

end Node

end AnchorNode.CanTp
