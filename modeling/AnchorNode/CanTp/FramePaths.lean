import AnchorNode.CanTp.CallPaths

/-! Received frames follow the channel relation, and with them every call. -/

namespace AnchorNode.CanTp

open AnchorNode.Lib

variable {b : Build} {cfg : Config b} {env : Env} {lapse : Lapse → Prop}

/-- The context of a flow control frame names a waiting TX SDU. -/
structure FlowContext (b : Build) (cfg : Config b) (s : State) (ctx : RxContext) : Prop where
  flow : ctx.frameType = .flowControl
  configured : ctx.sduId < cfg.numberOfTxSdus
  channel : ctx.channelId = (cfg.txSdu ctx.sduId).channelId
  handle : ctx.pduRPduHandleId = (cfg.txSdu ctx.sduId).pduRPduHandleId
  waiting : s.subState ctx.channelId = .txWaitForFlowControlFrame

/-- The context of any other frame names an RX SDU. -/
structure DataContext (b : Build) (cfg : Config b) (ctx : RxContext) : Prop where
  data : ctx.frameType ≠ .flowControl
  configured : ctx.sduId < cfg.numberOfRxSdus
  channel : ctx.channelId = (cfg.rxSdu ctx.sduId).channelId
  handle : ctx.pduRPduHandleId = (cfg.rxSdu ctx.sduId).pduRPduHandleId
  address : ctx.addressSize = addressSize (cfg.rxSdu ctx.sduId).addressFormatId

theorem getFcActiveChannel_spec {s : State} {pduId sduId c x : Nat}
    (found : getFcActiveChannel b cfg s pduId sduId = some (c, x)) :
    x < cfg.numberOfTxSdus ∧ c = (cfg.txSdu x).channelId ∧
      s.subState c = .txWaitForFlowControlFrame := by
  simp only [getFcActiveChannel] at found
  split at found
  · rename_i direct
    simp only [Option.some.injEq, Prod.mk.injEq] at found
    obtain ⟨rfl, rfl⟩ := found
    exact ⟨direct.1, rfl, direct.2⟩
  · split at found
    · rw [Option.map_eq_some_iff] at found
      obtain ⟨i, applies, same⟩ := found
      have member := List.mem_of_find?_eq_some applies
      have entry := List.find?_some applies
      simp only [Prod.mk.injEq] at same
      obtain ⟨rfl, rfl⟩ := same
      simp only [sharedFcApplies, Bool.and_eq_true, beq_iff_eq] at entry
      exact ⟨cfg.sharedFc_txSdu i (List.mem_range.mp member), rfl, entry.1.2⟩
    · cases found

theorem getRxContext_spec {s : State} {p : Nat} {info : PduInfo} {ctx : RxContext}
    (context : getRxContext b cfg s p info = .ok ctx) :
    FlowContext b cfg s ctx ∨ DataContext b cfg ctx := by
  simp only [getRxContext] at context
  split at context
  · cases context
  · split at context
    · cases context
    · split at context
      · cases context
      · rename_i c x found
        obtain ⟨configured, channel, waiting⟩ := getFcActiveChannel_spec found
        obtain rfl := Except.ok.inj context
        exact Or.inl ⟨rfl, configured, channel, rfl, waiting⟩
    · rename_i frameType data _
      split at context
      · rename_i configured
        split at context
        · cases context
        · obtain rfl := Except.ok.inj context
          exact Or.inr ⟨by simpa using data, configured, rfl, rfl, rfl⟩
      · cases context

structure SameFrame (ctx ctx' : RxContext) : Prop where
  frameType : ctx'.frameType = ctx.frameType
  channel : ctx'.channelId = ctx.channelId
  sdu : ctx'.sduId = ctx.sduId
  pdu : ctx'.pduId = ctx.pduId
  handle : ctx'.pduRPduHandleId = ctx.pduRPduHandleId
  address : ctx'.addressSize = ctx.addressSize

theorem rxSduLengthCheck_same (s : State) (ctx : RxContext) (data : Mem) (sduLength : Nat) :
    SameFrame ctx (rxSduLengthCheck b s ctx data sduLength).1 := by
  simp only [rxSduLengthCheck]
  split <;> exact ⟨rfl, rfl, rfl, rfl, rfl, rfl⟩

theorem FlowContext.of_same {s : State} {ctx ctx' : RxContext} (flow : FlowContext b cfg s ctx)
    (same : SameFrame ctx ctx') : FlowContext b cfg s ctx' := by
  obtain ⟨type, configured, channel, handle, waiting⟩ := flow
  rw [← same.sdu] at configured channel handle
  rw [← same.channel] at channel waiting
  exact ⟨same.frameType.trans type, configured, channel, same.handle.trans handle, waiting⟩

theorem DataContext.of_same {ctx ctx' : RxContext} (data : DataContext b cfg ctx)
    (same : SameFrame ctx ctx') : DataContext b cfg ctx' := by
  obtain ⟨type, configured, channel, handle, address⟩ := data
  rw [← same.sdu] at configured channel handle address
  rw [← same.channel] at channel
  rw [← same.frameType] at type
  exact ⟨type, configured, channel, same.handle.trans handle, same.address.trans address⟩

theorem fdCallOut_record (b : Build) (env : Env) (ctx : RxContext) (data : Mem) (n : Nat)
    (s : State) :
    ∃ called, (fdCallOut b env ctx data n s).2 = { s with log := s.log ++ called } ∧
      ∀ e ∈ called, ∃ bytes answer, e = .fdCallOut ctx.pduId bytes ctx.isFdEnabled answer := by
  simp only [fdCallOut]
  split
  · exact ⟨[_], rfl, by simp⟩
  · exact ⟨[], by simp, by simp⟩

theorem fdCallOut_silent (ctx : RxContext) (data : Mem) (n : Nat) (s : State) :
    Silent b cfg s (fdCallOut b env ctx data n s).2 := by
  obtain ⟨called, record, callout⟩ := fdCallOut_record b env ctx data n s
  rw [record]
  refine log_silent s called fun e member => ?_
  obtain ⟨bytes, answer, rfl⟩ := callout e member
  rfl

@[simp] theorem fdCallOut_channel (ctx : RxContext) (data : Mem) (n : Nat) (s : State) :
    (fdCallOut b env ctx data n s).2.channel = s.channel := by
  obtain ⟨called, record, -⟩ := fdCallOut_record b env ctx data n s
  rw [record]

@[simp] theorem fdCallOut_subState (ctx : RxContext) (data : Mem) (n : Nat) (s : State) :
    (fdCallOut b env ctx data n s).2.subState = s.subState := by
  obtain ⟨called, record, -⟩ := fdCallOut_record b env ctx data n s
  rw [record]

theorem getConnectionAcceptance_refused {ctx : RxContext} {data : Mem} {n : Nat} {s s' : State}
    (refused : getConnectionAcceptance b env ctx data n s = .error s') :
    s' = (fdCallOut b env ctx data n s).2 := by
  simp only [getConnectionAcceptance] at refused
  split at refused
  · split at refused
    · cases refused
    · split at refused
      · cases refused
      · exact (Except.error.inj refused).symm
    · exact (Except.error.inj refused).symm
  · exact (Except.error.inj refused).symm

theorem getConnectionAcceptance_cases {ctx : RxContext} {data : Mem} {n : Nat} {s s' : State}
    (accepted : getConnectionAcceptance b env ctx data n s = .ok s') :
    let s₁ := (fdCallOut b env ctx data n s).2
    s' = s₁.setSub ctx.channelId .rxReceptionRequestAccepted ∨
      s' = (pduRConfirmation .rx s₁ ctx.channelId ctx.sduId ctx.pduRPduHandleId .notOk).setSub
        ctx.channelId .rxReceptionRequestAccepted := by
  simp only [getConnectionAcceptance] at accepted
  split at accepted
  · split at accepted
    · obtain rfl := Except.ok.inj accepted
      exact Or.inl rfl
    · split at accepted
      · obtain rfl := Except.ok.inj accepted
        exact Or.inr rfl
      · cases accepted
    · cases accepted
  · cases accepted

theorem getConnectionAcceptance_spec (lapse : Lapse → Prop) {ctx : RxContext} {data : Mem}
    {n : Nat} {s s' : State} (own : DataContext b cfg ctx)
    (replace : (fdCallOut b env ctx data n s).1 = .ok →
      s.subState ctx.channelId = .rxWaitForFcTransmitConfirmation →
      (s.channel ctx.channelId).activeSduId = ctx.sduId →
      s.txConfirmationChannel (cfg.rxSdu ctx.sduId).txConfirmationId = ctx.channelId →
      lapse .replacedPending)
    (accepted : getConnectionAcceptance b env ctx data n s = .ok s') :
    ∃ called replaced, (∀ e ∈ called, e.isNoise = true) ∧
      Accepts b cfg lapse ctx.channelId ctx.sduId (s.view ctx.channelId) replaced ∧
      s' = { s with
        log := s.log ++ called ++ replaced
        subState := Function.update s.subState ctx.channelId .rxReceptionRequestAccepted } := by
  obtain ⟨called, record, callout⟩ := fdCallOut_record b env ctx data n s
  have quiet : ∀ e ∈ called, e.isNoise = true := by
    intro e member
    obtain ⟨bytes, answer, rfl⟩ := callout e member
    rfl
  simp only [getConnectionAcceptance, record] at accepted
  split at accepted
  · rename_i admitted
    cases state : (s.subState ctx.channelId).state with
    | idle =>
        simp only [state] at accepted
        have idle : s.subState ctx.channelId = .idle := by
          revert state
          cases s.subState ctx.channelId <;> simp [SubState.state]
        refine ⟨called, [], quiet, ⟨own.configured, own.channel.symm, Or.inl ⟨idle, rfl⟩⟩, ?_⟩
        obtain rfl := Except.ok.inj accepted
        simp [State.setSub]
    | transmission => simp [state] at accepted
    | reception =>
        simp only [state] at accepted
        split at accepted
        · rename_i active
          refine ⟨called, [.rxIndication ctx.channelId ctx.sduId
            (cfg.rxSdu ctx.sduId).pduRPduHandleId .notOk], quiet,
            ⟨own.configured, own.channel.symm, Or.inr ⟨state, active, rfl, ?_⟩⟩, ?_⟩
          · intro waiting pending
            exact replace admitted waiting active pending
          · obtain rfl := Except.ok.inj accepted
            simp [State.setSub, State.emit, pduRConfirmation, own.handle]
        · cases accepted
  · cases accepted

section Accepted
variable {ctx : RxContext} {s : State} {data : Mem} {sduLength : Nat}

theorem brief_path {s' : State} {replaced rest : List Event} (n : Nat) (answer : BufReq)
    (size : Nat) (after : List Event) (own : DataContext b cfg ctx)
    (accepts : Accepts b cfg lapse ctx.channelId ctx.sduId (s.view ctx.channelId) replaced)
    (ended : BriefEnd lapse ctx.channelId ctx.sduId (cfg.rxSdu ctx.sduId).pduRPduHandleId n
      answer rest)
    (sub : s'.subState = Function.update s.subState ctx.channelId .idle)
    (others : ∀ d, d ≠ ctx.channelId → s'.channel d = s.channel d)
    (log : s'.log = s.log ++ (replaced ++ .startOfReception ctx.channelId ctx.sduId
      (cfg.rxSdu ctx.sduId).pduRPduHandleId n answer size :: (rest ++ after)))
    (quiet : ∀ e ∈ after, e.isNoise = true)
    (table : s'.txConfirmationChannel = s.txConfirmationChannel) (ticks : s'.ticks = s.ticks)
    (queue : s'.burstQ = s.burstQ) (main : s'.mainState = s.mainState) :
    Path b cfg lapse s s' := by
  have bound : ctx.channelId < cfg.numberOfChannels :=
    own.channel ▸ cfg.rxSdu_channel _ own.configured
  refine step_path [] after bound (.rxBrief (s'.channel ctx.channelId) accepts ended)
    ⟨sub, ?_, table, by simpa using log, ticks, queue, main⟩ (by simp) quiet
  funext d
  by_cases same : d = ctx.channelId
  · rw [same, Function.update_self]
  · rw [Function.update_of_ne same, others d same]

theorem processRxSingleFrame_path (own : DataContext b cfg ctx) (single : ctx.frameType = .single)
    (lapses : ∀ l, ProcessLapse b cfg env s ctx data sduLength l → lapse l) :
    Path b cfg lapse s (processRxSingleFrame b env ctx data sduLength s) := by
  simp only [processRxSingleFrame]
  cases accepted : getConnectionAcceptance b env ctx data sduLength s with
  | error s₁ =>
      rw [getConnectionAcceptance_refused accepted]
      exact (fdCallOut_silent ctx data sduLength s).path
  | ok s₁ =>
      obtain ⟨called, replaced, quiet, accepts, rfl⟩ := getConnectionAcceptance_spec lapse own
        (fun callout waiting active pending => lapses .replacedPending
          ⟨Or.inl single, callout, waiting, active, pending⟩) accepted
      refine (log_silent s called quiet).path.trans ?_
      simp only
      generalize env.startOfReception _ _ _ = answer
      obtain ⟨result, size⟩ := answer
      cases result with
      | ok =>
          simp only
          split
          · generalize env.copyRxData _ _ _ = copied
            obtain ⟨outcome, room⟩ := copied
            refine brief_path ctx.sduLength .ok size [] own accepts
              (Or.inr (Or.inr ⟨rfl, data.read ctx.dataOffset ctx.sduLength, outcome, room,
                if outcome ≠ .ok then .notOk else .ok, rfl, fun _ => read_length _ _ _,
                Or.inl (Nat.le_of_eq (read_length _ _ _))⟩)) ?_ ?_ ?_ no_noise rfl rfl rfl rfl
            · simp [pduRConfirmation]
            · exact fun d other => by simp [pduRConfirmation, other]
            · simp [pduRConfirmation, own.handle]
          · refine brief_path ctx.sduLength .ok size [] own accepts
              (Or.inr (Or.inl ⟨Or.inl rfl, rfl⟩)) ?_ ?_ ?_ no_noise rfl rfl rfl rfl
            · simp [pduRConfirmation]
            · exact fun d other => by simp [pduRConfirmation, other]
            · simp [pduRConfirmation, own.handle]
      | ovfl =>
          refine brief_path ctx.sduLength .ovfl size [] own accepts
            (Or.inr (Or.inl ⟨Or.inr rfl, rfl⟩)) ?_ ?_ ?_ no_noise rfl rfl rfl rfl
          · simp [pduRConfirmation]
          · exact fun d other => by simp [pduRConfirmation, other]
          · simp [pduRConfirmation, own.handle]
      | notOk =>
          refine brief_path ctx.sduLength .notOk size [] own accepts
            (Or.inl ⟨by simp, by simp, rfl⟩) ?_ ?_ ?_ no_noise rfl rfl rfl rfl
          · simp
          · exact fun d other => by simp [other]
          · simp [own.handle]
      | busy =>
          refine brief_path ctx.sduLength .busy size [] own accepts (Or.inl ⟨by simp, by simp, rfl⟩)
            ?_ ?_ ?_ no_noise rfl rfl rfl rfl
          · simp
          · exact fun d other => by simp [other]
          · simp [own.handle]

def FirstFrameSized (b : Build) (ctx : RxContext) (sduLength : Nat) : Prop :=
  u8 (b.subLength sduLength ctx.dataOffset) ≤ ctx.sduLength ∧ ctx.sduLength < 2 ^ b.lengthBits ∧
    8 ≤ u8 sduLength ∧ u8 sduLength ≤ 64

theorem getRxDl_setRxDl (ch : Channel) {n : Nat} (bounds : 8 ≤ n ∧ n ≤ 64) :
    8 ≤ getRxDl b (setRxDl b ch n) ∧ getRxDl b (setRxDl b ch n) ≤ 64 := by
  unfold getRxDl setRxDl
  split
  · exact bounds
  · decide

theorem processRxFirstFrame_path (own : DataContext b cfg ctx) (first : ctx.frameType = .first)
    (sized : FirstFrameSized b ctx sduLength ∨ lapse .missizedFrame)
    (lapses : ∀ l, ProcessLapse b cfg env s ctx data sduLength l → lapse l) :
    Path b cfg lapse s (processRxFirstFrame b env ctx data sduLength s) := by
  have bound : ctx.channelId < cfg.numberOfChannels :=
    own.channel ▸ cfg.rxSdu_channel _ own.configured
  simp only [processRxFirstFrame]
  cases accepted : getConnectionAcceptance b env ctx data sduLength s with
  | error s₁ =>
      rw [getConnectionAcceptance_refused accepted]
      exact (fdCallOut_silent ctx data sduLength s).path
  | ok s₁ =>
      obtain ⟨called, replaced, quiet, accepts, rfl⟩ := getConnectionAcceptance_spec lapse own
        (fun callout waiting active pending => lapses .replacedPending
          ⟨Or.inr first, callout, waiting, active, pending⟩) accepted
      refine (log_silent s called quiet).path.trans ?_
      simp only
      generalize env.startOfReception _ _ _ = answer
      obtain ⟨result, size⟩ := answer
      cases result with
      | ok =>
          simp only
          split
          · generalize copy : env.copyRxData _ _ _ = copied
            obtain ⟨outcome, room⟩ := copied
            simp only
            split
            · -- the upper layer does not take the data of the first frame
              refine brief_path ctx.sduLength .ok size [.reportRunTimeError .rxIndication .com]
                own accepts (Or.inr (Or.inr ⟨rfl, data.read ctx.dataOffset
                  (u8 (b.subLength sduLength ctx.dataOffset)), outcome, room, .notOk, rfl,
                  by simp, ?_⟩)) ?_ ?_ ?_ (report_noise _ _) rfl rfl rfl rfl
              · rw [read_length]
                exact sized.imp_left And.left
              · simp [pduRConfirmation]
              · exact fun d other => by simp [pduRConfirmation, other]
              · simp [pduRConfirmation, own.handle]
            · rename_i taken
              obtain rfl : outcome = .ok := not_not.mp taken
              let ch := { setRxDl b (s.channel ctx.channelId) (u8 sduLength) with
                activeSduId := ctx.sduId
                sduLength := ctx.sduLength
                initialTicks := stamp b s.ticks
                sduLengthRemaining :=
                  b.subLength ctx.sduLength (u8 (b.subLength sduLength ctx.dataOffset))
                bs := 0
                stMinTicks := b.invalidStMinTicks
                fcWait := 0
                sn := 1
                flowStatus := .wait }
              have started : ChannelStep b cfg lapse s.ticks ctx.channelId (s.view ctx.channelId)
                  (replaced ++
                    [.startOfReception ctx.channelId ctx.sduId
                      (cfg.rxSdu ctx.sduId).pduRPduHandleId ctx.sduLength .ok size,
                    .copyRxData ctx.channelId ctx.sduId (cfg.rxSdu ctx.sduId).pduRPduHandleId
                      (data.read ctx.dataOffset (u8 (b.subLength sduLength ctx.dataOffset)))
                      .ok room]) ⟨.rxSendFc, ch, s.txConfirmationChannel⟩ := by
                refine .rxFirst accepts rfl rfl ?_ rfl rfl ?_
                · rw [read_length]
                · rw [read_length]
                  refine sized.imp_left fun sizes => ⟨sizes.1, sizes.2.1, ?_⟩
                  exact getRxDl_setRxDl (s.channel ctx.channelId) sizes.2.2
              refine step_path [] [] bound started ?_ no_noise no_noise
              constructor <;> simp [own.handle, ch, getElapsedValue_eq]
          · refine brief_path ctx.sduLength .ok size [] own accepts
              (Or.inr (Or.inl ⟨Or.inl rfl, rfl⟩)) ?_ ?_ ?_ no_noise rfl rfl rfl rfl
            · simp [pduRConfirmation]
            · exact fun d other => by simp [pduRConfirmation, other]
            · simp [pduRConfirmation, own.handle]
      | ovfl =>
          let ch := { setRxDl b (s.channel ctx.channelId) (u8 sduLength) with
            activeSduId := ctx.sduId
            sduLength := ctx.sduLength
            initialTicks := stamp b s.ticks
            bs := 0
            flowStatus := .overflow }
          have refused : ChannelStep b cfg lapse s.ticks ctx.channelId (s.view ctx.channelId)
              (replaced ++ [.startOfReception ctx.channelId ctx.sduId
                (cfg.rxSdu ctx.sduId).pduRPduHandleId ctx.sduLength .ovfl size])
              ⟨.rxSendFc, ch, s.txConfirmationChannel⟩ := .rxOverflow accepts rfl rfl
          refine step_path [] [] bound refused ?_ no_noise no_noise
          constructor <;> simp [own.handle, ch, getElapsedValue_eq]
      | notOk =>
          refine brief_path ctx.sduLength .notOk size [] own accepts
            (Or.inl ⟨by simp, by simp, rfl⟩) ?_ ?_ ?_ no_noise rfl rfl rfl rfl
          · simp
          · exact fun d other => by simp [other]
          · simp [own.handle]
      | busy =>
          refine brief_path ctx.sduLength .busy size [] own accepts
            (Or.inl ⟨by simp, by simp, rfl⟩) ?_ ?_ ?_ no_noise rfl rfl rfl rfl
          · simp
          · exact fun d other => by simp [other]
          · simp [own.handle]

theorem cfLength_le (remaining maxLength : Nat) : cfLength remaining maxLength ≤ remaining := by
  unfold cfLength
  split
  · omega
  · exact Nat.mod_le _ _

theorem rxEnd_path {s' : State} (after : List Event) {c : Nat} (bound : c < cfg.numberOfChannels)
    (waiting : s.subState c = .rxWaitForConsecutiveFrame)
    (becomes : Becomes s s' c ⟨.idle, s.channel c, s.txConfirmationChannel⟩
      (.rxIndication c (s.channel c).activeSduId
        (cfg.rxSdu (s.channel c).activeSduId).pduRPduHandleId .notOk :: after))
    (quiet : ∀ e ∈ after, e.isNoise = true) :
    Path b cfg lapse s s' := by
  refine step_path [] after bound (.rxEnd (v := s.view c) (s.channel c) ?_ ?_) ?_ (by simp) quiet
  · simp [State.view, waiting, SubState.state]
  · simp [State.view, waiting]
  · simpa [State.view, releasedTable, waiting] using becomes

def consecutiveChannel (b : Build) (now : Nat) (ch : Channel) (length : Nat) : Channel :=
  { ch with
    initialTicks := stamp b now
    sn := (ch.sn + 1) % 16
    sduLengthRemaining := b.subLength ch.sduLengthRemaining length
    blockCfsRemaining := b.subLength ch.blockCfsRemaining 1 }

theorem consecutive_path (cfg : Config b) (lapse : Lapse → Prop) {c : Nat} (bytes : List UInt8)
    (room : Nat)
    (bound : c < cfg.numberOfChannels) (waiting : s.subState c = .rxWaitForConsecutiveFrame)
    (sized : bytes.length ≤ (s.channel c).sduLengthRemaining) :
    let ch := consecutiveChannel b s.ticks (s.channel c) bytes.length
    let x := (s.channel c).activeSduId
    let id := (cfg.rxSdu x).pduRPduHandleId
    let s₁ := prepareFcTransmit c (((s.emit (.copyRxData c x id bytes .ok room)).emit
      (.consecutiveFrame c x (s.channel c).sn)).setChannel c ch)
    Path b cfg lapse s
      (if ch.sduLengthRemaining ≠ 0 then s₁
      else (pduRConfirmation .rx s₁ c x id .ok).setSub c .idle) := by
  intro ch x id s₁
  by_cases more : ch.sduLengthRemaining ≠ 0
  · rw [if_pos more]
    by_cases block : ch.blockCfsRemaining = 0
    · refine step_path [] [] bound (.rxConsecutive (v := s.view c) bytes room .rxSendFc
        { ch with fcWait := 0, flowStatus := .wait } waiting rfl rfl rfl more rfl rfl
        (Or.inl rfl) sized (Or.inl rfl)) ?_ no_noise no_noise
      constructor <;> simp [s₁, prepareFcTransmit, block, State.view, x, id]
    · refine step_path [] [] bound (.rxConsecutive (v := s.view c) bytes room
        .rxWaitForConsecutiveFrame ch waiting rfl rfl rfl more rfl rfl
        (Or.inr rfl) sized (Or.inr rfl)) ?_ no_noise no_noise
      constructor <;> simp [s₁, prepareFcTransmit, block, State.view, x, id, ← waiting]
  · rw [if_neg more]
    by_cases block : ch.blockCfsRemaining = 0
    · refine step_path [] [] bound (.rxLast (v := s.view c) bytes room
        { ch with fcWait := 0, flowStatus := .wait } waiting rfl (not_not.mp more) sized) ?_
          no_noise no_noise
      constructor <;> simp [s₁, prepareFcTransmit, block, State.view, x, id, pduRConfirmation]
    · refine step_path [] [] bound (.rxLast (v := s.view c) bytes room ch waiting rfl
        (not_not.mp more) sized) ?_ no_noise no_noise
      constructor <;> simp [s₁, prepareFcTransmit, block, State.view, x, id, pduRConfirmation]

theorem processRxConsecutiveFrame_path (own : DataContext b cfg ctx) :
    Path b cfg lapse s (processRxConsecutiveFrame b cfg env ctx data s) := by
  have bound : ctx.channelId < cfg.numberOfChannels :=
    own.channel ▸ cfg.rxSdu_channel _ own.configured
  simp only [processRxConsecutiveFrame]
  split
  · rename_i expected
    obtain ⟨waiting, active, -⟩ := expected
    have handle := own.handle
    rw [active] at handle
    split
    · refine rxEnd_path [.reportRunTimeError .rxIndication .rxCom] bound waiting ?_
        (report_noise _ _)
      constructor <;> simp [pduRConfirmation, active, handle]
    · split
      · rename_i inOrder
        have fits := cfLength_le (s.channel ctx.channelId).sduLengthRemaining
          (sub8 ctx.canDl ctx.dataOffset)
        generalize cfLength (s.channel ctx.channelId).sduLengthRemaining
          (sub8 ctx.canDl ctx.dataOffset) = length at fits ⊢
        generalize copy : env.copyRxData _ _ _ = copied
        obtain ⟨outcome, room⟩ := copied
        have sized : (data.read ctx.dataOffset length).length ≤
            (s.channel ctx.channelId).sduLengthRemaining := by
          rw [read_length]
          exact fits
        simp only
        split
        · rename_i taken
          obtain rfl : outcome = .ok := taken
          have path := consecutive_path cfg lapse (s := s)
            (data.read ctx.dataOffset length) room bound waiting sized
          simpa [inOrder, active, handle, consecutiveChannel, read_length,
            State.setChannel_emit, getElapsedValue_eq] using path
        · have failed : ChannelStep b cfg lapse s.ticks ctx.channelId (s.view ctx.channelId)
              [.copyRxData ctx.channelId (s.channel ctx.channelId).activeSduId
                (cfg.rxSdu (s.channel ctx.channelId).activeSduId).pduRPduHandleId
                (data.read ctx.dataOffset length) outcome room,
              .rxIndication ctx.channelId (s.channel ctx.channelId).activeSduId
                (cfg.rxSdu (s.channel ctx.channelId).activeSduId).pduRPduHandleId .notOk]
              ⟨.idle, { s.channel ctx.channelId with initialTicks := stamp b s.ticks },
                s.txConfirmationChannel⟩ := .rxCopyFailed _ waiting sized
          refine step_path [] [] bound failed ?_ no_noise no_noise
          constructor <;> simp [pduRConfirmation, active, handle, getElapsedValue_eq]
      · refine rxEnd_path [] bound waiting ?_ no_noise
        constructor <;> simp [pduRConfirmation, active, handle]
  · exact Path.refl s

theorem flowEnd_path {s' : State} (after : List Event) (ch : Channel)
    (own : FlowContext b cfg s ctx)
    (foreign : ctx.sduId ≠ (s.channel ctx.channelId).activeSduId → lapse .foreignConfirmation)
    (becomes : Becomes s s' ctx.channelId ⟨.idle, ch, s.txConfirmationChannel⟩
      (.txConfirmation ctx.channelId ctx.sduId (cfg.txSdu ctx.sduId).pduRPduHandleId .notOk ::
        after))
    (quiet : ∀ e ∈ after, e.isNoise = true) :
    Path b cfg lapse s s' := by
  have bound : ctx.channelId < cfg.numberOfChannels :=
    own.channel ▸ cfg.txSdu_channel _ own.configured
  by_cases active : ctx.sduId = (s.channel ctx.channelId).activeSduId
  · rw [active] at becomes
    refine step_path [] after bound (.txEnd (v := s.view ctx.channelId) ch ?_ ?_) ?_ (by simp) quiet
    · simp [State.view, own.waiting, SubState.state]
    · simp [State.view, own.waiting]
    · simpa [State.view, releasedTable, own.waiting] using becomes
  · refine step_path [] after bound (.txForeignConfirmation (v := s.view ctx.channelId) ctx.sduId ch
      own.waiting own.channel.symm (foreign active)) ?_ (by simp) quiet
    simpa [State.view] using becomes

theorem processRxFlowControlFrame_path (own : FlowContext b cfg s ctx)
    (lapses : ∀ l, ProcessLapse b cfg env s ctx data sduLength l → lapse l) :
    Path b cfg lapse s (processRxFlowControlFrame b cfg ctx data s) := by
  have bound : ctx.channelId < cfg.numberOfChannels :=
    own.channel ▸ cfg.txSdu_channel _ own.configured
  simp only [processRxFlowControlFrame, if_pos own.waiting]
  split
  · rename_i late
    refine flowEnd_path [.reportRunTimeError .rxIndication .txCom] (s.channel ctx.channelId) own
      (fun other => lapses .foreignConfirmation
        ⟨own.flow, own.waiting, other, Or.inl late⟩) ?_ (report_noise _ _)
    constructor <;> simp [pduRConfirmation, own.handle]
  · split
    · refine step_path [] [] bound (.txFlowWait (v := s.view ctx.channelId) own.waiting) ?_
        no_noise no_noise
      constructor <;> simp [State.view, getElapsedValue_eq]
    · split
      · refine step_path [] [] bound (.txFlowClear (v := s.view ctx.channelId) ctx.sduId
          (data ctx.dataOffset) (data (ctx.dataOffset + 1)) own.waiting) ?_ no_noise no_noise
        constructor <;> simp [State.view, getElapsedValue_eq]
      · rename_i notWait notClear
        refine flowEnd_path [] { s.channel ctx.channelId with initialTicks := stamp b s.ticks }
          own (fun other => lapses .foreignConfirmation
            ⟨own.flow, own.waiting, other, Or.inr ⟨notWait, notClear⟩⟩) ?_ no_noise
        constructor <;> simp [pduRConfirmation, own.handle, getElapsedValue_eq]

theorem lengthError_path (own : FlowContext b cfg s ctx ∨ DataContext b cfg ctx)
    (lapses : ∀ l, LengthErrorLapse s ctx l → lapse l) :
    Path b cfg lapse s (lengthError ctx s) := by
  have reported (s' : State) (path : Path b cfg lapse s s') : Path b cfg lapse s
      (if ctx.isPaddingOn then s'.emit (.reportError .rxIndication .padding)
      else s'.emit (.reportRunTimeError .rxIndication .com)) := by
    split
    · exact emit_path _ rfl path
    · exact emit_path _ rfl path
  simp only [lengthError]
  apply reported
  split
  · rename_i ended
    rcases own with flow | data
    · refine flowEnd_path [] (s.channel ctx.channelId) flow
        (fun other => lapses .foreignConfirmation ⟨flow.flow, flow.waiting, other⟩) ?_ no_noise
      constructor <;> simp [pduRConfirmation, flow.flow, flow.handle]
    · have bound : ctx.channelId < cfg.numberOfChannels :=
        data.channel ▸ cfg.rxSdu_channel _ data.configured
      rcases ended with waiting | waiting
      · refine step_path [] [] bound (.txDropped (v := s.view ctx.channelId) ctx.sduId
          (s.channel ctx.channelId) waiting data.channel.symm
          (lapses .droppedTransmission ⟨data.data, waiting⟩)) ?_ no_noise no_noise
        constructor <;> simp [State.view, pduRConfirmation, data.data, data.handle]
      · by_cases active : ctx.sduId = (s.channel ctx.channelId).activeSduId
        · refine rxEnd_path [] bound waiting ?_ no_noise
          constructor <;> simp [pduRConfirmation, data.data, data.handle, ← active]
        · refine step_path [] [] bound (.rxForeignIndication (v := s.view ctx.channelId) ctx.sduId
            (s.channel ctx.channelId) waiting data.channel.symm
            (lapses .foreignIndication ⟨data.data, waiting, active⟩)) ?_ no_noise no_noise
          constructor <;> simp [State.view, pduRConfirmation, data.data, data.handle]
  · exact Path.refl s

end Accepted

theorem rxDl_bounds {n : Nat} (valid : isRxDlInValid b n = false) : 8 ≤ n ∧ n ≤ 64 := by
  unfold isRxDlInValid at valid
  split at valid
  · simp only [Bool.not_eq_false', List.contains_eq_mem, decide_eq_true_eq, List.mem_cons,
      List.not_mem_nil, or_false] at valid
    omega
  · simp only [bne_eq_false_iff_eq] at valid
    omega

theorem subLength_le {n m : Nat} (short : n < 2 ^ b.lengthBits) (le : m ≤ n) :
    b.subLength n m = n - m := by
  have small : m % 2 ^ b.lengthBits = m := Nat.mod_eq_of_lt (by omega)
  rw [Build.subLength, small, show n + 2 ^ b.lengthBits - m = (n - m) + 2 ^ b.lengthBits by omega,
    Nat.add_mod_right, Nat.mod_eq_of_lt (by omega)]

theorem ffDlValue12bit_lt (data : Mem) (offset : Nat) : ffDlValue12bit data offset < 2 ^ 12 := by
  have second := UInt8.toNat_lt (data (offset + 1))
  simp only [ffDlValue12bit]
  omega

theorem ffDlValue32bit_lt (data : Mem) (offset : Nat) : ffDlValue32bit data offset < 2 ^ 32 := by
  have third := UInt8.toNat_lt (data (offset + 2))
  have fourth := UInt8.toNat_lt (data (offset + 3))
  have fifth := UInt8.toNat_lt (data (offset + 4))
  have sixth := UInt8.toNat_lt (data (offset + 5))
  simp only [ffDlValue32bit]
  omega

theorem firstFrameDl_passed {ctx : RxContext} {data : Mem} {sduLength : Nat}
    (frame : sduLength < invalidDl)
    (long : (firstFrameDl b ctx data sduLength).canDl ≤ sduLength) :
    8 ≤ sduLength ∧ sduLength ≤ 64 ∧ (firstFrameDl b ctx data sduLength).canDl = sduLength ∧
      (firstFrameDl b ctx data sduLength).dl < 2 ^ 32 ∧
      sduLength ≤ (firstFrameDl b ctx data sduLength).dl + ctx.addressSize + 1 ∧
      (firstFrameDl b ctx data sduLength).dataOffset ≤ ctx.addressSize + 6 ∧
      ctx.addressSize + 2 ≤ (firstFrameDl b ctx data sduLength).dataOffset := by
  have limit : sduLength < 255 := frame
  have wide : 2 ^ 16 ≤ 2 ^ b.lengthBits := Nat.pow_le_pow_right (by decide) b.lengthBits_le
  have small : u8 sduLength = sduLength := u8_small (by omega)
  have cut (n : Nat) (bound : n ≤ 64) : b.toLength n = n := Nat.mod_eq_of_lt (by omega)
  have short := ffDlValue12bit_lt data ctx.addressSize
  have escaped := ffDlValue32bit_lt data ctx.addressSize
  simp only [firstFrameDl, small, Npci.pciSize] at long ⊢
  have bits : (if ffDlValue12bit data ctx.addressSize = 0 then
      ffDlValue32bit data ctx.addressSize else ffDlValue12bit data ctx.addressSize) < 2 ^ 32 := by
    split <;> omega
  have reserve : (if sduLength > defaultCanDl then 1 else 0) ≤ 1 := by split <;> omega
  generalize (if ffDlValue12bit data ctx.addressSize = 0 then
    ffDlValue32bit data ctx.addressSize else ffDlValue12bit data ctx.addressSize) = ffDl
      at bits long ⊢
  generalize (if sduLength > defaultCanDl then 1 else 0) = escape at reserve long ⊢
  cases valid : isRxDlInValid b sduLength with
  | true =>
      simp only [valid, if_true, ite_self, invalidDl] at long
      omega
  | false =>
      obtain ⟨lower, upper⟩ := rxDl_bounds valid
      simp only [valid, Bool.false_eq_true, if_false, invalidDl] at long ⊢
      rw [cut _ (by omega)] at long ⊢
      split at long
      · omega
      · rename_i enough
        have least := not_or.mp enough
        split at long
        · omega
        · rename_i inRange
          rw [if_neg enough, if_neg inRange]
          exact ⟨lower, upper, rfl, bits, by omega, by split <;> omega, by split <;> omega⟩

theorem firstFrame_sized {s : State} {ctx : RxContext} {data : Mem} {sduLength : Nat}
    (sound : SoundLengthCheck b) (frame : sduLength < invalidDl) (first : ctx.frameType = .first)
    (address : ctx.addressSize ≤ 1)
    (passed : (rxSduLengthCheck b s ctx data sduLength).2 = .ok) :
    FirstFrameSized b (rxSduLengthCheck b s ctx data sduLength).1 sduLength := by
  have wide : 2 ^ 32 ≤ 2 ^ b.lengthBits := Nat.pow_le_pow_right (by decide) sound.1
  simp only [rxSduLengthCheck, first] at passed ⊢
  obtain ⟨lower, upper, -, dl, payload, offset, offset'⟩ :=
    firstFrameDl_passed frame ((sound.2 _ _).mp passed)
  generalize firstFrameDl b ctx data sduLength = read at *
  have announced : b.toLength read.dl = read.dl := Nat.mod_eq_of_lt (by omega)
  simp only [FirstFrameSized, announced]
  rw [subLength_le (by omega) (by omega), u8_small (by omega), u8_small (by omega)]
  omega

theorem processFrame_path {s : State} {ctx : RxContext} {data : Mem} {sduLength : Nat}
    (own : FlowContext b cfg s ctx ∨ DataContext b cfg ctx)
    (sized : ctx.frameType = .first → FirstFrameSized b ctx sduLength ∨ lapse .missizedFrame)
    (lapses : ∀ l, ProcessLapse b cfg env s ctx data sduLength l → lapse l) :
    Path b cfg lapse s (processFrame b cfg env ctx data sduLength s) := by
  unfold processFrame
  rcases own with flow | data'
  · simp only [flow.flow]
    exact processRxFlowControlFrame_path flow lapses
  · split
    · rename_i single
      exact processRxSingleFrame_path data' single lapses
    · rename_i first
      exact processRxFirstFrame_path data' first (sized first) lapses
    · exact processRxConsecutiveFrame_path data'
    · rename_i flow
      exact absurd flow data'.data

theorem getRxContext_checked {s : State} {p : Nat} {info : PduInfo} {ctx : RxContext}
    (context : getRxContext b cfg s p info = .ok ctx) (data : Mem) :
    FlowContext b cfg s (rxSduLengthCheck b s ctx data info.sduLength).1 ∨
      DataContext b cfg (rxSduLengthCheck b s ctx data info.sduLength).1 := by
  have same := rxSduLengthCheck_same (b := b) s ctx data info.sduLength
  exact (getRxContext_spec context).imp (fun flow => flow.of_same same)
    (fun data => data.of_same same)

theorem getRxContext_addressSize {s : State} {p : Nat} {info : PduInfo} {ctx : RxContext}
    (context : getRxContext b cfg s p info = .ok ctx) (data : ctx.frameType ≠ .flowControl) :
    ctx.addressSize ≤ 1 := by
  rcases getRxContext_spec context with flow | own
  · exact absurd flow.flow data
  · exact own.address ▸ addressSize_le _

theorem receiveFrame_path {s : State} (p : Nat) (info : PduInfo) (queue : QueueOk b cfg s.burstQ)
    (lapses : ∀ l, IndicationLapse b cfg env s p info l → lapse l) :
    Path b cfg lapse s (receiveFrame b cfg env p info s) := by
  simp only [receiveFrame]
  simp only [IndicationLapse] at lapses
  cases context : getRxContext b cfg s p info with
  | error e => exact (emit_silent s _ rfl).path
  | ok ctx =>
      simp only [context, FrameLapse] at lapses
      generalize (info.sduDataPtr.getD fun _ => 0) = data at lapses ⊢
      have own' := getRxContext_checked context data
      by_cases failed : (rxSduLengthCheck b s ctx data info.sduLength).2 ≠ .ok
      · simp only [if_pos failed] at lapses ⊢
        exact lengthError_path own' lapses
      · simp only [if_neg failed] at lapses ⊢
        have processed : Path b cfg lapse s
            (processFrame b cfg env (rxSduLengthCheck b s ctx data info.sduLength).1 data
              info.sduLength s) := by
          refine processFrame_path own' ?_ fun l lapsed => lapses l (Or.inl lapsed)
          intro first
          by_cases sound : SoundLengthCheck b ∧ info.sduLength < invalidDl
          · have first' : ctx.frameType = .first :=
              (rxSduLengthCheck_same (b := b) s ctx data info.sduLength).frameType ▸ first
            have address := getRxContext_addressSize context (by simp [first'])
            exact Or.inl (firstFrame_sized sound.1 sound.2 first' address (not_not.mp failed))
          · exact Or.inr (lapses .missizedFrame (Or.inl ⟨first, sound⟩))
        refine processed.trans (burstMainFunction_path _ (processed.queue queue) ?_)
        exact fun l lapsed => lapses l (Or.inr lapsed)

/-- Every call of the initialised module is a path of the channel relation in which only
the lapses of that call occur. -/
theorem call_path {s : State} {op : Op} (queue : QueueOk b cfg s.burstQ)
    (call : op.isCall = true) (lapses : ∀ l, StepLapse b cfg env s op l → lapse l) :
    Path b cfg lapse s (step b cfg env s op) := by
  cases op with
  | transmit x info => exact transmit_path x info
  | cancelTransmit x => exact cancelTransmit_path x lapses
  | cancelReceive r => exact cancelReceive_path r lapses
  | mainFunction => exact mainFunction_path queue lapses
  | txConfirmation p => exact txConfirmation_path p queue lapses
  | rxIndication p info =>
      simp only [step, rxIndication]
      refine devCheck_path fun ready configured => ?_
      cases info with
      | none => exact (emit_silent s _ rfl).path
      | some info =>
          exact receiveFrame_path p info queue fun l lapsed =>
            lapses l ⟨ready, configured, lapsed⟩
  | changeParameter r parameter value => exact changeParameter_path r parameter value
  | tick => exact Silent.path ⟨rfl, rfl, rfl, ⟨[], by simp [step], by simp⟩, Nat.le_succ _, id, rfl⟩
  | init => simp [Op.isCall] at call
  | shutdown => simp [Op.isCall] at call

end AnchorNode.CanTp
