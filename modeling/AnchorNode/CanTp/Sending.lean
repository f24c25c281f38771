import AnchorNode.CanTp.Exchange
import AnchorNode.CanTp.Isolation
import AnchorNode.CanTp.Pieces

/-! A transmission seen from its node: which pieces are handed over and confirmed, and what the
channel holds at each of these points. -/

namespace AnchorNode.CanTp

open AnchorNode.Lib

variable {b : Build} {cfg : Config b} {env : Env} {x n : Nat}

section Logs
variable {events new : List Event}

structure SenderLog (fit : Sendable b cfg x n) (payload : List UInt8) (i m : Nat)
    (events : List Event) : Prop where
  copied : txCopied (cfg.txSdu x).channelId x events = payload.take (fit.cut.start m)
  count : (sentFrames (cfg.txSdu x).channelId events).length = m
  frames : ∀ k < m, Carries fit payload k ((sentFrames (cfg.txSdu x).channelId events).getD k [])
  results : txResults (cfg.txSdu x).channelId events =
    if i = fit.cut.pieces then [.ok] else []

variable {fit : Sendable b cfg x n} {payload : List UInt8} {i m : Nat}

theorem SenderLog.silent (told : SenderLog fit payload i m events)
    (silent : TxSilent (cfg.txSdu x).channelId x new) :
    SenderLog fit payload i m (events ++ new) := by
  have copied := silent.copied
  have frames := silent.frames
  have results := silent.results
  unfold txCopied at copied
  unfold sentFrames at frames
  unfold txResults at results
  refine ⟨?_, ?_, fun k inside => ?_, ?_⟩
  · rw [← told.copied, txCopied, List.flatMap_append, copied, List.append_nil]
    rfl
  · rw [← told.count, sentFrames, List.filterMap_append, frames, List.append_nil]
    rfl
  · rw [sentFrames, List.filterMap_append, frames, List.append_nil]
    exact told.frames k inside
  · rw [← told.results, txResults, List.filterMap_append, results, List.append_nil]
    rfl

theorem SenderLog.sent (told : SenderLog fit payload i m events) {id available : Nat}
    {frame : SentFrame} (own : frame.ch = (cfg.txSdu x).channelId)
    (carries : Carries fit payload m frame.bytes) :
    SenderLog fit payload i (m + 1) (events ++
      [.copyTxData (cfg.txSdu x).channelId x id (fit.cut.piece payload m) .ok available,
        .canIfTransmit frame .ok]) := by
  have frames : sentFrames (cfg.txSdu x).channelId (events ++
      [.copyTxData (cfg.txSdu x).channelId x id (fit.cut.piece payload m) .ok available,
        .canIfTransmit frame .ok]) =
      sentFrames (cfg.txSdu x).channelId events ++ [frame.bytes] := by
    simp [sentFrames, own]
  refine ⟨?_, ?_, fun k inside => ?_, ?_⟩
  · rw [← fit.cut.take_succ, ← told.copied]
    simp [txCopied]
  · rw [frames, List.length_append, told.count]
    rfl
  · rw [frames]
    by_cases last : k = m
    · rw [last, List.getD_eq_getElem?_getD, ← told.count, List.getElem?_concat_length]
      rw [told.count]
      exact carries
    · rw [List.getD_eq_getElem?_getD, List.getElem?_append_left (by rw [told.count]; omega),
        ← List.getD_eq_getElem?_getD]
      exact told.frames k (by omega)
  · rw [← told.results]
    simp [txResults]

theorem SenderLog.confirmed (told : SenderLog fit payload i m events) {j : Nat}
    (before : i < fit.cut.pieces) (after : j < fit.cut.pieces) :
    SenderLog fit payload j m events := by
  have results := told.results
  rw [if_neg (Nat.ne_of_lt before)] at results
  exact ⟨told.copied, told.count, told.frames, by rw [results, if_neg (Nat.ne_of_lt after)]⟩

theorem SenderLog.finished (told : SenderLog fit payload i m events)
    (open' : i < fit.cut.pieces) (y id : Nat) :
    SenderLog fit payload fit.cut.pieces m
      (events ++ [.txConfirmation (cfg.txSdu x).channelId y id .ok]) := by
  have results := told.results
  rw [if_neg (Nat.ne_of_lt open')] at results
  refine ⟨?_, ?_, ?_, ?_⟩
  · rw [← told.copied]
    simp [txCopied]
  · rw [← told.count]
    simp [sentFrames]
  · have same : sentFrames (cfg.txSdu x).channelId
        (events ++ [.txConfirmation (cfg.txSdu x).channelId y id .ok]) =
        sentFrames (cfg.txSdu x).channelId events := by
      simp [sentFrames]
    rw [same]
    exact told.frames
  · rw [if_pos rfl]
    unfold txResults at results ⊢
    rw [List.filterMap_append, results]
    simp

end Logs

section Phases

/-- The layers around the sender from the log `base` on: the upper layer hands over the next
bytes of the payload when it is asked, and the CAN interface takes every frame. -/
structure Provides (cfg : Config b) (env : Env) (x n : Nat) (payload : List UInt8)
    (base : List Event) : Prop where
  whole : payload.length = n
  supplies : ∀ events length,
    let taken := (txCopied (cfg.txSdu x).channelId x events).length
    let answer := env.copyTxData (base ++ events) (cfg.txSdu x).pduRPduHandleId length
    taken + length ≤ n → answer.1 = .ok ∧
      answer.2.1.read 0 length = (payload.drop taken).take length ∧ n ≤ taken + answer.2.2
  accepts : ∀ events bytes,
    env.canIfTransmit (base ++ events) (cfg.txSdu x).txPduId bytes = .ok

/-- What the channel keeps of the transmission with `i` pieces confirmed. `bs` is the block
size the receiver announces. -/
structure Underway (fit : Sendable b cfg x n) (bs i : Nat) (ch : Channel) : Prop where
  active : ch.activeSduId = x
  remaining : ch.sduLengthRemaining = n - fit.cut.start i
  lock : ch.stMinTicks = b.invalidStMinTicks ∨ ch.bs = bs
  timer : 0 < (cfg.timeOut (cfg.txSdu x).timeOutId).csCrTicks

/-- Where a transmission stands with `i` pieces confirmed, `m` handed over and `e` cleared:
its substate, the table entry of its N-PDU and its channel. -/
inductive SendPhase (fit : Sendable b cfg x n) (bs e : Nat) :
    Nat → Nat → SubState → Nat → Channel → Prop
  | accepted {ch : Channel} (active : ch.activeSduId = x)
      (layout : ch.pciId = txPciInit b cfg x n) (length : ch.sduLength = n)
      (status : ch.txBufferStatus = .notAsked) (lock : ch.stMinTicks = b.invalidStMinTicks)
      (first : e = 1) :
      SendPhase fit bs e 0 0 .txTransmissionRequestAccepted b.invalidChannel ch
  | handedOver {i : Nat} {ch : Channel} (cleared : i < e) (within : e ≤ fit.cut.pieces)
      (first : i = 0 → e = 1) (underway : Underway fit bs i ch)
      (layout : ch.pciId = pciOf b cfg x n i) (sn : ch.sn = if i = 0 then 1 else i % 16)
      (block : ch.blockCfsRemaining = if i = 0 then 0 else e - i)
      (status : ch.txBufferStatus = .notAsked) :
      SendPhase fit bs e i (i + 1) .txWaitForTransmitConfirmation (cfg.txSdu x).channelId ch
  | due {i : Nat} {ch : Channel} (later : 0 < i) (cleared : i < e) (within : e ≤ fit.cut.pieces)
      (underway : Underway fit bs i ch) (sn : ch.sn = i % 16)
      (block : ch.blockCfsRemaining = e - i) :
      SendPhase fit bs e i i .txSendConsecutiveFrame b.invalidChannel ch
  | awaiting {i : Nat} {ch : Channel} (later : 0 < i) (blocked : i = e)
      (unfinished : i < fit.cut.pieces) (underway : Underway fit bs i ch) (sn : ch.sn = i % 16) :
      SendPhase fit bs e i i .txWaitForFlowControlFrame b.invalidChannel ch
  | done {ch : Channel} (through : e = fit.cut.pieces) :
      SendPhase fit bs e fit.cut.pieces fit.cut.pieces .idle b.invalidChannel ch

/-- The transmission stands at `i`, `m` and `e`, and the log says so. -/
structure SenderAt (fit : Sendable b cfg x n) (payload : List UInt8) (base : List Event)
    (bs e i m : Nat) (s : State) : Prop where
  running : s.mainState = true
  phase : SendPhase fit bs e i m (s.subState (cfg.txSdu x).channelId)
    (s.txConfirmationChannel (cfg.txSdu x).txConfirmationId) (s.channel (cfg.txSdu x).channelId)
  told : ∃ events, s.log = base ++ events ∧ SenderLog fit payload i m events

variable {fit : Sendable b cfg x n} {payload : List UInt8} {base : List Event}
  {bs e i m : Nat} {s s' : State}

theorem SendPhase.bounds {sub : SubState} {entry : Nat} {ch : Channel}
    (phase : SendPhase fit bs e i m sub entry ch) :
    i ≤ m ∧ m ≤ i + 1 ∧ m ≤ e ∧ e ≤ fit.cut.pieces := by
  have pieces := fit.cut.pieces_pos
  cases phase <;> omega

theorem SenderAt.apart (at' : SenderAt fit payload base bs e i m s)
    (apart : Apart cfg (cfg.txSdu x).channelId (cfg.txSdu x).txConfirmationId s s') :
    SenderAt fit payload base bs e i m s' := by
  obtain ⟨events, log, told⟩ := at'.told
  obtain ⟨new, log', elsewhere⟩ := apart.log
  refine ⟨apart.mainState.trans at'.running, ?_, events ++ new, ?_,
    told.silent (txSilent_elsewhere elsewhere)⟩
  · rw [apart.subState, apart.entry, apart.channel]
    exact at'.phase
  · rw [log', log, List.append_assoc]

theorem Provides.supplied (provides : Provides cfg env x n payload base) {events : List Event}
    (told : SenderLog fit payload i m events) (log : s.log = base ++ events) :
    Supplied env fit payload m s := by
  have inside := fit.cut.start_le_total m
  have next := fit.cut.start_le_total (m + 1)
  have further := fit.cut.start_le_succ m
  have whole : fit.cut.total = n := rfl
  have taken : (txCopied (cfg.txSdu x).channelId x events).length = fit.cut.start m := by
    rw [told.copied, List.length_take, provides.whole]
    omega
  have supplies := provides.supplies events (fit.cut.start (m + 1) - fit.cut.start m)
  simp only [taken] at supplies
  obtain ⟨answer, given, -⟩ := supplies (by omega)
  rw [← log] at answer given
  exact ⟨answer, given⟩

theorem Provides.polled (provides : Provides cfg env x n payload base) {events : List Event}
    (told : SenderLog fit payload i m events) (log : s.log = base ++ events) :
    (env.copyTxData s.log (cfg.txSdu x).pduRPduHandleId 0).1 = .ok ∧
      n ≤ fit.cut.start m + (env.copyTxData s.log (cfg.txSdu x).pduRPduHandleId 0).2.2 := by
  have inside := fit.cut.start_le_total m
  have whole : fit.cut.total = n := rfl
  have taken : (txCopied (cfg.txSdu x).channelId x events).length = fit.cut.start m := by
    rw [told.copied, List.length_take, provides.whole]
    omega
  have supplies := provides.supplies events 0
  simp only [taken] at supplies
  obtain ⟨answer, -, room⟩ := supplies (by omega)
  rw [← log] at answer room
  exact ⟨answer, room⟩

/-- The context was filled for TX SDU `x`. -/
structure TxContext.Serves (ctx : TxContext) (cfg : Config b) (x : Nat) : Prop where
  channel : ctx.channelId = (cfg.txSdu x).channelId
  handle : ctx.pduRPduHandleId = (cfg.txSdu x).pduRPduHandleId
  pdu : ctx.pduId = (cfg.txSdu x).txPduId
  confirmation : ctx.txConfirmationId = (cfg.txSdu x).txConfirmationId

theorem txContext_serves (s : State)
    (active : (s.channel (cfg.txSdu x).channelId).activeSduId = x) (payLoadLength : Nat) :
    (txContext b cfg s (cfg.txSdu x).channelId payLoadLength).Serves cfg x := by
  refine ⟨rfl, ?_, ?_, ?_⟩ <;> simp only [txContext, active]

structure HandsOver (fit : Sendable b cfg x n) (payload : List UInt8) (base : List Event) (i : Nat)
    (ch : Channel) (s s' : State) : Prop where
  subState : s'.subState (cfg.txSdu x).channelId = .txWaitForTransmitConfirmation
  channel : s'.channel (cfg.txSdu x).channelId = ch
  table : s'.txConfirmationChannel = Function.update s.txConfirmationChannel
    (cfg.txSdu x).txConfirmationId (cfg.txSdu x).channelId
  mainState : s'.mainState = s.mainState
  told : ∃ events, s'.log = base ++ events ∧ SenderLog fit payload i (i + 1) events

theorem sendFrame_hands (provides : Provides cfg env x n payload base)
    (format : (cfg.txSdu x).addressFormatId ≠ 4) {ctx : TxContext} (own : ctx.Serves cfg x)
    {pciId : Npci}
    (loaded : Loaded fit i { s.channel (cfg.txSdu x).channelId with
      pciId, initialTicks := ctx.value })
    (told : ∃ events, s.log = base ++ events ∧ SenderLog fit payload i i events) :
    HandsOver fit payload base i { s.channel (cfg.txSdu x).channelId with
      pciId, initialTicks := ctx.value, txBufferStatus := .notAsked } s
        (sendFrame b cfg env ctx pciId s) := by
  obtain ⟨events, log, told⟩ := told
  generalize started : (s.setChannel (cfg.txSdu x).channelId
    { s.channel (cfg.txSdu x).channelId with pciId, initialTicks := ctx.value }).setSub
      (cfg.txSdu x).channelId .txWaitForTransmitConfirmation = s₁
  have log₁ : s₁.log = base ++ events := by
    rw [← started]
    exact log
  obtain ⟨frame, created, -, carries⟩ := createFrame_carries provides.whole format
    (s := s₁) (c := (cfg.txSdu x).channelId) (by simp [← started])
    (by simpa [← started] using loaded) (provides.supplied told log₁)
  have taken := provides.accepts (events ++ [.copyTxData (cfg.txSdu x).channelId x
    (cfg.txSdu x).pduRPduHandleId (fit.cut.piece payload i) .ok
      (env.copyTxData s₁.log (cfg.txSdu x).pduRPduHandleId
        (fit.cut.start (i + 1) - fit.cut.start i)).2.2]) frame.bytes
  rw [← List.append_assoc, ← log₁] at taken
  have appended (first second : Event) : s₁.log ++ [first] ++ [second] =
      base ++ (events ++ [first, second]) := by
    rw [log₁]
    simp
  simp only [sendFrame, canIfTransmit, own.channel, started, created, own.confirmation, own.pdu]
  simp only [handOver, State.setConfirmation_log, State.emit_log, taken, ne_eq,
    not_true_eq_false, if_false]
  refine ⟨?_, ?_, ?_, ?_, _, appended _ _, told.sent rfl carries⟩
  · simp [← started]
  · simp [← started]
  · simp [← started]
  · simp [← started]

end Phases

section Turns
variable {fit : Sendable b cfg x n} {payload : List UInt8} {base : List Event}
  {bs e i m : Nat} {s s' : State}

theorem SenderAt.handsOver (at' : SenderAt fit payload base bs e i i s) {ch : Channel}
    (hands : HandsOver fit payload base i ch s s')
    (phase : SendPhase fit bs e i (i + 1) .txWaitForTransmitConfirmation (cfg.txSdu x).channelId
      ch) : SenderAt fit payload base bs e i (i + 1) s' := by
  refine ⟨hands.mainState.trans at'.running, ?_, hands.told⟩
  rw [hands.subState, hands.channel, hands.table, Function.update_self]
  exact phase

theorem SenderAt.recorded (at' : SenderAt fit payload base bs e i m s) (events : List Event)
    {ch : Channel} (channel : s'.channel (cfg.txSdu x).channelId = ch)
    (subState : s'.subState = s.subState)
    (table : s'.txConfirmationChannel = s.txConfirmationChannel)
    (mainState : s'.mainState = s.mainState) (log : s'.log = s.log ++ events)
    (silent : TxSilent (cfg.txSdu x).channelId x events)
    (phase : SendPhase fit bs e i m (s.subState (cfg.txSdu x).channelId)
      (s.txConfirmationChannel (cfg.txSdu x).txConfirmationId) ch) :
    SenderAt fit payload base bs e i m s' := by
  obtain ⟨before, log', told⟩ := at'.told
  refine ⟨mainState.trans at'.running, ?_, before ++ events, ?_, told.silent silent⟩
  · rw [subState, table, channel]
    exact phase
  · rw [log, log', List.append_assoc]

theorem getTxBuffer_supplied {ctx : TxContext}
    (unavailable : (s.channel ctx.channelId).txBufferStatus ≠ .available)
    (early : ctx.elapsedValue < ctx.csTicks)
    (taken : (env.copyTxData s.log ctx.pduRPduHandleId 0).1 = .ok)
    (enough : ctx.payLoadLength ≤ (env.copyTxData s.log ctx.pduRPduHandleId 0).2.2) :
    getTxBuffer b env ctx s = (s.emit (pollEvent env ctx s)).setChannel ctx.channelId
      { s.channel ctx.channelId with txBufferStatus := .available } := by
  rw [getTxBuffer_polled b env unavailable early, taken, pollOutcome, if_pos enough]

theorem txSilent_poll (env : Env) (s : State) {ctx : TxContext} (c : Nat) :
    TxSilent c x [pollEvent env ctx s] := by
  refine ⟨?_, rfl, rfl⟩
  simp only [txCopied, pollEvent, List.flatMap_cons, List.flatMap_nil, List.append_nil]
  split
  · rename_i same
    simp only [Event.copyTxData.injEq] at same
    split
    · exact same.2.2.2.1.symm
    · rfl
  · rfl

theorem requestPayLoad_le {ch : Channel} (active : ch.activeSduId = x)
    (layout : ch.pciId = txPciInit b cfg x n) (length : ch.sduLength = n)
    (fit : Sendable b cfg x n) : requestPayLoad b cfg ch ≤ n := by
  have short : u8 n ≤ n := Nat.mod_le _ _
  have txDl := getTxDl_bounds (b := b) (cfg.txSdu x)
  -- a first frame fills the link and leaves something for later
  have first (type : (txPciInit b cfg x n).frameType = .first) :
      sub8 (getTxDl b (cfg.txSdu x)) (addressSize (cfg.txSdu x).addressFormatId +
        (txPciInit b cfg x n).pciSize) ≤ n := by
    have head := fit.headLength_first type
    rw [sub8_le _ _ (by omega) (by omega)]
    omega
  simp only [requestPayLoad, active, layout, length]
  rcases fit.frameType with type | type
  · cases kind : txPciInit b cfg x n with
    | sfCan => exact short
    | sfCanFd => exact short
    | _ => simp [kind, Npci.frameType] at type
  · have bound := first type
    cases kind : txPciInit b cfg x n with
    | sfCan => exact short
    | sfCanFd => exact short
    | _ =>
        rw [kind] at bound
        exact bound

theorem SenderAt.sends (at' : SenderAt fit payload base bs e i i s)
    (provides : Provides cfg env x n payload base) (format : (cfg.txSdu x).addressFormatId ≠ 4)
    {s₂ : State} {ctx : TxContext}
    (table : s₂.txConfirmationChannel = s.txConfirmationChannel)
    (mainState : s₂.mainState = s.mainState)
    (log : ∃ events, s₂.log = s.log ++ events ∧ TxSilent (cfg.txSdu x).channelId x events)
    (own : ctx.Serves cfg x) {pciId : Npci}
    (loaded : Loaded fit i { s₂.channel (cfg.txSdu x).channelId with
      pciId, initialTicks := ctx.value })
    (phase : SendPhase fit bs e i (i + 1) .txWaitForTransmitConfirmation (cfg.txSdu x).channelId
      { s₂.channel (cfg.txSdu x).channelId with
        pciId, initialTicks := ctx.value, txBufferStatus := .notAsked }) :
    SenderAt fit payload base bs e i (i + 1) (sendFrame b cfg env ctx pciId s₂) := by
  obtain ⟨before, log', told⟩ := at'.told
  obtain ⟨events, log, silent⟩ := log
  have hands := sendFrame_hands provides format own loaded
    ⟨before ++ events, by rw [log, log', List.append_assoc], told.silent silent⟩
  refine at'.handsOver ⟨hands.subState, hands.channel, ?_, hands.mainState.trans mainState,
    hands.told⟩ phase
  rw [← table]
  exact hands.table

theorem SenderAt.turn_accepted (at' : SenderAt fit payload base bs e 0 0 s)
    (provides : Provides cfg env x n payload base) (format : (cfg.txSdu x).addressFormatId ≠ 4)
    (accepted : s.subState (cfg.txSdu x).channelId = .txTransmissionRequestAccepted)
    (timely : ¬ Expired cfg s (cfg.txSdu x).channelId) :
    SenderAt fit payload base bs e 0 1 (executeState b cfg env s (cfg.txSdu x).channelId) := by
  have phase := at'.phase
  obtain ⟨events, log, told⟩ := at'.told
  obtain ⟨answer, room⟩ := provides.polled told log
  rw [accepted] at phase
  generalize record : s.channel (cfg.txSdu x).channelId = ch at phase
  generalize entry : s.txConfirmationChannel (cfg.txSdu x).txConfirmationId = v at phase
  cases phase with
  | accepted active layout length status lock first =>
  have pieces := fit.cut.pieces_pos
  have payLoad := requestPayLoad_le active layout length fit
  have free : s.txConfirmationChannel (cfg.txSdu ch.activeSduId).txConfirmationId =
      b.invalidChannel := by rw [active, entry]
  have called : executeState b cfg env s (cfg.txSdu x).channelId =
      requestAccepted b cfg env s (cfg.txSdu x).channelId := by
    simp only [executeState, accepted, txTransmissionRequestAccepted, if_true, Option.getD_some]
  generalize context : txContext b cfg s (cfg.txSdu x).channelId (requestPayLoad b cfg ch) = ctx
  have own : ctx.Serves cfg x := by
    rw [← context]
    exact txContext_serves s (by rw [record, active]) _
  have cs : ctx.csTicks = (cfg.timeOut (cfg.txSdu x).timeOutId).csCrTicks := by
    rw [← context]
    simp only [txContext, record, active]
  have early : ctx.elapsedValue < ctx.csTicks := by
    simp only [Expired, accepted, TimerOver, record, status] at timely
    rw [← context]
    simpa [txContext, record, elapsedTicks] using timely
  have asked : ctx.payLoadLength ≤ n := by
    rw [← context]
    exact payLoad
  rw [Cut.start_zero, Nat.zero_add] at room
  rw [called]
  simp only [requestAccepted, record, free, if_true, context]
  rw [getTxBuffer_supplied (by simp [own.channel, status]) early (by rw [own.handle]; exact answer)
    (by rw [own.handle]; exact Nat.le_trans asked room), if_pos (by simp [own.channel])]
  refine at'.sends provides format ?_ ?_ ⟨_, rfl, txSilent_poll env _ _⟩ own ?_ ?_
  · rfl
  · rfl
  · rw [own.channel]
    refine ⟨by simp [active], by simp [layout, pciOf_zero], by simp [length], by simp [length],
      fun later => absurd later (lt_irrefl 0)⟩
  · refine .handedOver (by omega) (by omega) (fun _ => first) ?_ ?_ ?_ ?_ rfl
    · exact ⟨by simp [own.channel, active], by simp [own.channel, length],
        Or.inl (by simp [own.channel, lock]), by omega⟩
    · simp [layout, pciOf_zero]
    · simp [own.channel]
    · simp [own.channel]

theorem cfPayLoad_le (cfg : Config b) (ch : Channel) :
    cfPayLoad b cfg ch ≤ ch.sduLengthRemaining := by
  have short : u8 ch.sduLengthRemaining ≤ ch.sduLengthRemaining := Nat.mod_le _ _
  simp only [cfPayLoad]
  split
  · exact short
  · omega

theorem SenderAt.turn_due (at' : SenderAt fit payload base bs e i i s)
    (provides : Provides cfg env x n payload base) (format : (cfg.txSdu x).addressFormatId ≠ 4)
    (sending : s.subState (cfg.txSdu x).channelId = .txSendConsecutiveFrame)
    (timely : ¬ Expired cfg s (cfg.txSdu x).channelId) :
    SenderAt fit payload base bs e i (i + 1) (executeState b cfg env s (cfg.txSdu x).channelId) ∨
      (¬ (s.channel (cfg.txSdu x).channelId).stMinTicks ≤
          elapsedTicks b s (cfg.txSdu x).channelId ∧
        SenderAt fit payload base bs e i i
          (executeState b cfg env s (cfg.txSdu x).channelId)) := by
  have phase := at'.phase
  obtain ⟨events, log, told⟩ := at'.told
  obtain ⟨answer, room⟩ := provides.polled told log
  rw [sending] at phase
  generalize record : s.channel (cfg.txSdu x).channelId = ch at phase
  generalize entry : s.txConfirmationChannel (cfg.txSdu x).txConfirmationId = v at phase
  cases phase with
  | due later cleared within underway sn block =>
  have free : s.txConfirmationChannel
      (cfg.txSdu (s.channel (cfg.txSdu x).channelId).activeSduId).txConfirmationId =
        b.invalidChannel := by rw [record, underway.active, entry]
  rw [executeState_sending sending, txSendConsecutiveFrame_free sending free]
  generalize context : cfContext b cfg s (cfg.txSdu x).channelId = ctx
  have own : ctx.Serves cfg x := by
    rw [← context]
    exact txContext_serves s (by rw [record, underway.active]) _
  have asked : ctx.payLoadLength ≤ n - fit.cut.start i := by
    rw [← underway.remaining, ← record, ← context]
    exact cfPayLoad_le cfg _
  have now : ctx.elapsedValue = elapsedTicks b s (cfg.txSdu x).channelId := by
    rw [← context]
    rfl
  obtain ⟨s₂, polled, channel, subState, table, mainState, log₂⟩ : ∃ s₂,
      getTxBuffer b env ctx s = s₂ ∧
      s₂.channel (cfg.txSdu x).channelId = { ch with txBufferStatus := .available } ∧
      s₂.subState = s.subState ∧ s₂.txConfirmationChannel = s.txConfirmationChannel ∧
      s₂.mainState = s.mainState ∧
      ∃ events, s₂.log = s.log ++ events ∧ TxSilent (cfg.txSdu x).channelId x events := by
    by_cases available : ch.txBufferStatus = .available
    · refine ⟨s, getTxBuffer_available b env (by rw [own.channel, record, available]), ?_, rfl,
        rfl, rfl, [], (List.append_nil _).symm, rfl, rfl, rfl⟩
      rw [record, ← available]
    · have early : ctx.elapsedValue < ctx.csTicks := by
        simp only [Expired, sending, TimerOver, record, underway.active, ne_eq, available,
          not_false_eq_true, true_and, not_le] at timely
        rw [now, ← context]
        simpa only [cfContext, txContext, record, underway.active] using timely
      refine ⟨_, getTxBuffer_supplied (by rw [own.channel, record]; exact available) early
        (by rw [own.handle]; exact answer) (by rw [own.handle]; omega), ?_, rfl, rfl, rfl, _,
        rfl, txSilent_poll env _ _⟩
      simp [own.channel, record]
  rw [polled, sendIfReady, channel, now]
  by_cases ready : ch.stMinTicks ≤ elapsedTicks b s (cfg.txSdu x).channelId ∨ ch.pciId ≠ .cf
  · rw [if_pos ⟨rfl, ready⟩]
    refine Or.inl (at'.sends provides format table mainState log₂ own ?_ ?_)
    · rw [channel]
      exact ⟨underway.active, (pciOf_later later).symm, underway.remaining,
        fun zero => absurd zero (Nat.ne_of_gt later), fun _ => sn⟩
    · rw [channel]
      refine .handedOver cleared within (fun zero => absurd zero (Nat.ne_of_gt later))
        ⟨underway.active, underway.remaining, underway.lock, underway.timer⟩
        (pciOf_later later).symm ?_ ?_ rfl
      · rw [if_neg (Nat.ne_of_gt later)]
        exact sn
      · rw [if_neg (Nat.ne_of_gt later)]
        exact block
  · rw [if_neg (fun both => ready both.2)]
    obtain ⟨events', log₂, silent⟩ := log₂
    refine Or.inr ⟨fun elapsed => ready (Or.inl elapsed),
      at'.recorded events' channel subState table mainState log₂ silent ?_⟩
    rw [sending, entry]
    exact .due later cleared within
      ⟨underway.active, underway.remaining, underway.lock, underway.timer⟩ sn block

def StMinOver (b : Build) (s : State) (c : Nat) : Prop :=
  s.subState c = .txSendConsecutiveFrame → (s.channel c).stMinTicks ≤ elapsedTicks b s c

instance (b : Build) (s : State) (c : Nat) : Decidable (StMinOver b s c) :=
  inferInstanceAs (Decidable (_ → _ ≤ _))

/-- A turn sends the next frame if one may be sent, and otherwise leaves the transmission where
it stands. -/
theorem SenderAt.turn (at' : SenderAt fit payload base bs e i m s)
    (provides : Provides cfg env x n payload base) (format : (cfg.txSdu x).addressFormatId ≠ 4)
    (timely : ¬ Expired cfg s (cfg.txSdu x).channelId) :
    ∃ m', m ≤ m' ∧
      (m = i → i < e → StMinOver b s (cfg.txSdu x).channelId → m < m') ∧
      SenderAt fit payload base bs e i m' (executeState b cfg env s (cfg.txSdu x).channelId) := by
  have phase := at'.phase
  generalize sub : s.subState (cfg.txSdu x).channelId = st at phase
  generalize entry : s.txConfirmationChannel (cfg.txSdu x).txConfirmationId = v at phase
  generalize record : s.channel (cfg.txSdu x).channelId = ch at phase
  cases phase with
  | accepted active layout length status lock first =>
      exact ⟨1, Nat.zero_le _, fun _ _ _ => Nat.one_pos,
        at'.turn_accepted provides format sub timely⟩
  | handedOver cleared within first underway layout sn block status =>
      refine ⟨_, Nat.le_refl _, fun sent => by omega, ?_⟩
      have waits : executeState b cfg env s (cfg.txSdu x).channelId = s := by
        simp only [Expired, sub, TimerOver, elapsedTicks] at timely
        simp only [executeState, sub, txWaitForTransmitConfirmation, true_and]
        exact if_neg timely
      rw [waits]
      exact at'
  | due later cleared within underway sn block =>
      rcases at'.turn_due provides format sub timely with sent | ⟨early, still⟩
      · exact ⟨_, Nat.le_succ _, fun _ _ _ => Nat.lt_succ_self _, sent⟩
      · exact ⟨_, Nat.le_refl _, fun _ _ elapsed => absurd (elapsed sub) early, still⟩
  | awaiting later blocked unfinished underway sn =>
      refine ⟨_, Nat.le_refl _, fun _ cleared => by omega, ?_⟩
      have waits : executeState b cfg env s (cfg.txSdu x).channelId = s := by
        simp only [Expired, sub, TimerOver, elapsedTicks] at timely
        simp only [executeState, sub, txWaitForFlowControlFrame, true_and]
        exact if_neg timely
      rw [waits]
      exact at'
  | done through =>
      refine ⟨_, Nat.le_refl _, fun _ cleared => by omega, ?_⟩
      have idle : executeState b cfg env s (cfg.txSdu x).channelId = s := by
        simp only [executeState, sub]
      rw [idle]
      exact at'

end Turns

end AnchorNode.CanTp
