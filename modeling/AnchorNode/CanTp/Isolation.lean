import AnchorNode.CanTp.Locality
import AnchorNode.CanTp.Ownership

/-! Isolation: what a received frame of one SDU does to another SDU of the same channel. -/

namespace AnchorNode.CanTp

open AnchorNode.Lib

section Definitions
variable (b : Build) (cfg : Config b)

/-- The SDU an N-PDU and its address byte select: flow control is for the TX SDU, every
other frame for the RX SDU. -/
def selectedSdu (rxPdu : RxPdu) (data : Mem) : Sdu :=
  let selected := selectSduPair rxPdu data
  if frameTypeOf (data selected.pciOffset) = some .flowControl then .tx selected.txSduId
  else .rx selected.rxSduId

def activeSdu (s : State) (c : Nat) : Option Sdu :=
  match (s.subState c).state with
  | .idle => none
  | .transmission => some (.tx (s.channel c).activeSduId)
  | .reception => some (.rx (s.channel c).activeSduId)

def Sdu.LivesOn (c : Nat) : Sdu → Prop
  | .tx x => x < cfg.numberOfTxSdus ∧ (cfg.txSdu x).channelId = c
  | .rx r => r < cfg.numberOfRxSdus ∧ (cfg.rxSdu r).channelId = c

/-- The frame on N-PDU `p` selects SDU `x` of channel `c`, where another SDU `y` is active. -/
structure Foreign (s : State) (p : Nat) (info : PduInfo) (data : Mem) (c : Nat) (x y : Sdu) :
    Prop where
  bytes : info.sduDataPtr = some data
  selected : selectedSdu (cfg.rxPdu p) data = x
  lives : x.LivesOn b cfg c
  active : activeSdu s c = some y
  other : y ≠ x

/-- Channel `c` is as it was, and the upper layer was told nothing about `x` and `y`. -/
structure Isolated (c : Nat) (x y : Sdu) (s s' : State) : Prop where
  subState : s'.subState c = s.subState c
  channel : s'.channel c = s.channel c
  untold : ∃ events, s'.log = s.log ++ events ∧
    ∀ e ∈ events, e.informs? ≠ some x ∧ e.informs? ≠ some y

def RepeatsWait (s : State) (ctx : RxContext) : Prop :=
  let ch := s.channel ctx.channelId
  let elapsed := getElapsedValue b s ch.initialTicks
  ¬ (b.strictBsCrTimeoutCheck = true ∧
      elapsed.2 > (cfg.timeOut (cfg.txSdu ch.activeSduId).timeOutId).bsBrTicks) ∧
    ctx.flowStatus = FlowStatus.wait.code ∧ ch.flowStatus = .wait ∧ ch.initialTicks = elapsed.1

/-- The frame gets past the checks that do not look at the active SDU of its channel: a flow
control frame while the channel waits for one, or a frame with a wrong length while the
channel waits for a frame. -/
def FrameIntrudes (s : State) (ctx : RxContext) (data : Mem) (n : Nat) : Prop :=
  let checked := rxSduLengthCheck b s ctx data n
  if ctx.frameType = .flowControl then checked.2 ≠ .ok ∨ ¬ RepeatsWait b cfg s checked.1
  else
    checked.2 ≠ .ok ∧ (s.subState ctx.channelId = .txWaitForFlowControlFrame ∨
      s.subState ctx.channelId = .rxWaitForConsecutiveFrame)

def cfPayLoad (ch : Channel) : Nat :=
  let connection := cfg.txSdu ch.activeSduId
  let maxLength := sub8 (getTxDl b connection)
    (cfPciSize + addressSize connection.addressFormatId)
  if ch.sduLengthRemaining < maxLength then u8 ch.sduLengthRemaining else maxLength

def TurnMoves (env : Env) (s : State) (c : Nat) : Prop :=
  let ch := s.channel c
  let connection := cfg.txSdu ch.activeSduId
  let answer := env.copyTxData s.log connection.pduRPduHandleId 0
  s.txConfirmationChannel connection.txConfirmationId = b.invalidChannel ∧
    (ch.txBufferStatus = .available ∨
      (getElapsedValue b s ch.initialTicks).2 ≥ (cfg.timeOut connection.timeOutId).csCrTicks ∨
      (answer.1 = .ok ∧ (answer.2.2 ≥ cfPayLoad b cfg ch ∨
        (b.pageConfirmation = true ∧ ch.txBufferStatus = .notAsked))) ∨
      answer.1 = .notOk ∨ answer.1 = .ovfl)

def unprocessed (env : Env) (ctx : RxContext) (data : Mem) (n : Nat) (s : State) : State :=
  match ctx.frameType with
  | .single | .first => (fdCallOut b env ctx data n s).2
  | .consecutive | .flowControl => s

/-- The frame gives its channel, which is sending, a turn at once: burst mode. -/
def FrameBursts (env : Env) (s : State) (ctx : RxContext) (data : Mem) (n : Nat) : Prop :=
  let checked := rxSduLengthCheck b s ctx data n
  checked.2 = .ok ∧ burstReady b cfg ctx.channelId s = true ∧
    b.schMSupport = false ∧ b.burstQueueSize ≠ 0 ∧
    TurnMoves b cfg env (unprocessed b env checked.1 data n s) ctx.channelId

def Reaches (s : State) (p : Nat) (info : PduInfo) (c : Nat) (effect : RxContext → Prop) : Prop :=
  s.mainState = true ∧ p < cfg.numberOfRxPdus ∧
    ∃ ctx, getRxContext b cfg s p info = .ok ctx ∧ ctx.channelId = c ∧ effect ctx

def Intrudes (s : State) (p : Nat) (info : PduInfo) (data : Mem) (c : Nat) : Prop :=
  Reaches b cfg s p info c fun ctx => FrameIntrudes b cfg s ctx data info.sduLength

def BurstTurn (env : Env) (s : State) (p : Nat) (info : PduInfo) (data : Mem) (c : Nat) : Prop :=
  Reaches b cfg s p info c fun ctx => FrameBursts b cfg env s ctx data info.sduLength

instance (env : Env) (s : State) (c : Nat) : Decidable (TurnMoves b cfg env s c) :=
  inferInstanceAs (Decidable (_ ∧ (_ ∨ _)))

instance (s : State) (ctx : RxContext) : Decidable (RepeatsWait b cfg s ctx) :=
  inferInstanceAs (Decidable (_ ∧ _))

instance (s : State) (ctx : RxContext) (data : Mem) (n : Nat) :
    Decidable (FrameIntrudes b cfg s ctx data n) :=
  inferInstanceAs (Decidable (ite _ _ _))

instance (env : Env) (s : State) (ctx : RxContext) (data : Mem) (n : Nat) :
    Decidable (FrameBursts b cfg env s ctx data n) :=
  inferInstanceAs (Decidable (_ ∧ _))

instance (s : State) (p : Nat) (info : PduInfo) (c : Nat) (effect : RxContext → Prop)
    [∀ ctx, Decidable (effect ctx)] : Decidable (Reaches b cfg s p info c effect) :=
  decidable_of_iff (s.mainState = true ∧ p < cfg.numberOfRxPdus ∧
    ((getRxContext b cfg s p info).toOption.any fun ctx =>
      decide (ctx.channelId = c ∧ effect ctx)) = true) (by
    cases context : getRxContext b cfg s p info <;> simp [Reaches, context, Except.toOption])

instance (s : State) (p : Nat) (info : PduInfo) (data : Mem) (c : Nat) :
    Decidable (Intrudes b cfg s p info data c) :=
  inferInstanceAs (Decidable (Reaches b cfg s p info c _))

instance (env : Env) (s : State) (p : Nat) (info : PduInfo) (data : Mem) (c : Nat) :
    Decidable (BurstTurn b cfg env s p info data c) :=
  inferInstanceAs (Decidable (Reaches b cfg s p info c _))

end Definitions

variable {b : Build} {cfg : Config b} {env : Env}

section Contexts
variable {s : State} {p c : Nat} {info : PduInfo} {data : Mem} {x y : Sdu} {ctx : RxContext}

theorem isolated_refl (c : Nat) (x y : Sdu) (s : State) : Isolated c x y s s :=
  ⟨rfl, rfl, [], by simp, by simp⟩

theorem isolated_emit (e : Event) (quiet : e.informs? = none) :
    Isolated c x y s (s.emit e) :=
  ⟨rfl, rfl, [e], rfl, by simp [quiet]⟩

theorem unprocessed_record (b : Build) (env : Env) (ctx : RxContext) (data : Mem) (n : Nat)
    (s : State) :
    ∃ called, unprocessed b env ctx data n s = { s with log := s.log ++ called } ∧
      ∀ e ∈ called, e.informs? = none := by
  obtain ⟨called, record, callout⟩ := fdCallOut_record b env ctx data n s
  have quiet : ∀ e ∈ called, e.informs? = none := by
    intro e member
    obtain ⟨bytes, answer, rfl⟩ := callout e member
    rfl
  unfold unprocessed
  split
  · exact ⟨called, record, quiet⟩
  · exact ⟨called, record, quiet⟩
  · exact ⟨[], by simp, by simp⟩
  · exact ⟨[], by simp, by simp⟩

theorem isolated_called {s' : State} {called later : List Event}
    (quiet : ∀ e ∈ called, e.informs? = none) (log : s'.log = (s.log ++ called) ++ later) :
    Isolated c x y { s with log := s.log ++ called } s' ↔ Isolated c x y s s' := by
  constructor
  · rintro ⟨sub, ch, events, log', untold⟩
    refine ⟨sub, ch, called ++ events, by simp [log'], ?_⟩
    intro e member
    rcases List.mem_append.mp member with before | after
    · simp [quiet e before]
    · exact untold e after
  · rintro ⟨sub, ch, events, log', untold⟩
    have split : events = called ++ later := by
      rw [log', List.append_assoc] at log
      exact List.append_cancel_left log
    refine ⟨sub, ch, later, log, ?_⟩
    intro e member
    exact untold e (by simp [split, member])

theorem OnlyChannel.isolated {d : Nat} {z : Sdu} {s' : State} (only : OnlyChannel d z s s')
    (elsewhere : c ≠ d) (notX : z ≠ x) (notY : z ≠ y) : Isolated c x y s s' := by
  obtain ⟨events, log, here⟩ := only.log
  refine ⟨only.subState c elsewhere, only.channel c elsewhere, events, log, ?_⟩
  intro e member
  constructor
  · intro told
    exact notX ((here e member).informs x told).symm
  · intro told
    exact notY ((here e member).informs y told).symm

theorem activeSdu_reception (reception : (s.subState c).state = .reception) :
    activeSdu s c = some (.rx (s.channel c).activeSduId) := by
  simp [activeSdu, reception]

theorem activeSdu_idle (idle : (s.subState c).state = .idle) : activeSdu s c = none := by
  simp [activeSdu, idle]

theorem processFrame_foreign (n : Nat) (dataFrame : ctx.frameType ≠ .flowControl)
    (active : activeSdu s ctx.channelId = some y) (other : y ≠ .rx ctx.sduId) :
    processFrame b cfg env ctx data n s = unprocessed b env ctx data n s := by
  have refused : getConnectionAcceptance b env ctx data n s =
      .error (fdCallOut b env ctx data n s).2 := by
    simp only [getConnectionAcceptance, fdCallOut_channel, fdCallOut_subState]
    split
    · split
      · rename_i idle
        simp [activeSdu_idle idle] at active
      · rename_i reception
        rw [activeSdu_reception reception] at active
        rw [if_neg]
        rintro same
        rw [same] at active
        exact other (Option.some.inj active).symm
      · rfl
    · rfl
  unfold processFrame unprocessed
  cases type : ctx.frameType with
  | single => simp only [processRxSingleFrame, refused]
  | first => simp only [processRxFirstFrame, refused]
  | consecutive =>
    simp only [processRxConsecutiveFrame]
    rw [if_neg]
    rintro ⟨waiting, same, -⟩
    rw [activeSdu_reception (by simp [waiting, SubState.state]), ← same] at active
    exact other (Option.some.inj active).symm
  | flowControl => exact absurd type dataFrame

/-- What the context of a foreign frame can be: its own SDU on the shared channel, or the
SDU of another channel that the legacy table names. -/
inductive ForeignContext (c : Nat) (x y : Sdu) (s : State) (ctx : RxContext) : Prop
  | data (dataFrame : ctx.frameType ≠ .flowControl) (own : x = .rx ctx.sduId)
      (channel : ctx.channelId = c)
  | flow (flow : ctx.frameType = .flowControl) (own : x = .tx ctx.sduId)
      (channel : ctx.channelId = c) (waiting : s.subState c = .txWaitForFlowControlFrame)
  | shared (flow : ctx.frameType = .flowControl) (notX : .tx ctx.sduId ≠ x)
      (notY : .tx ctx.sduId ≠ y) (elsewhere : c ≠ ctx.channelId)
      (served : (s.channel ctx.channelId).activeSduId = ctx.sduId)

theorem getFcActiveChannel_foreign {t d z : Nat} (configured : t < cfg.numberOfTxSdus)
    (found : getFcActiveChannel b cfg s p t = some (d, z)) :
    (z = t ∧ d = (cfg.txSdu t).channelId ∧ s.subState d = .txWaitForFlowControlFrame) ∨
      (s.subState (cfg.txSdu t).channelId ≠ .txWaitForFlowControlFrame ∧ z ≠ t ∧
        d = (cfg.txSdu z).channelId ∧ s.subState d = .txWaitForFlowControlFrame ∧
        (s.channel d).activeSduId = z) := by
  simp only [getFcActiveChannel] at found
  split at found
  · rename_i direct
    simp only [Option.some.injEq, Prod.mk.injEq] at found
    obtain ⟨rfl, rfl⟩ := found
    exact Or.inl ⟨rfl, rfl, direct.2⟩
  · rename_i busy
    split at found
    · rw [Option.map_eq_some_iff] at found
      obtain ⟨i, applies, same⟩ := found
      have entry := List.find?_some applies
      simp only [Prod.mk.injEq] at same
      obtain ⟨rfl, rfl⟩ := same
      simp only [sharedFcApplies, Bool.and_eq_true, beq_iff_eq, bne_iff_ne] at entry
      obtain ⟨⟨⟨-, differs⟩, waiting⟩, active⟩ := entry
      refine Or.inr ⟨?_, differs, rfl, waiting, active.symm⟩
      intro waits
      exact busy ⟨configured, waits⟩
    · cases found

theorem Sdu.LivesOn.bound (lives : x.LivesOn b cfg c) : c < cfg.numberOfChannels := by
  cases x with
  | tx t => exact lives.2 ▸ cfg.txSdu_channel t lives.1
  | rx r => exact lives.2 ▸ cfg.rxSdu_channel r lives.1

theorem Owned.resident {s : State} (owned : Owned b cfg s) (bound : c < cfg.numberOfChannels)
    (z : Nat) (active : activeSdu s c = some (.tx z)) : (cfg.txSdu z).channelId = c := by
  unfold activeSdu at active
  cases busy : (s.subState c).state with
  | idle => simp [busy] at active
  | transmission =>
      obtain rfl : (s.channel c).activeSduId = z := by simpa [busy] using active
      exact owned.transmission bound busy
  | reception => simp [busy] at active

/-- An SDU that is active on the shared channel lives there, so that no legacy entry leads to it
on another one. -/
theorem Foreign.context (foreign : Foreign b cfg s p info data c x y)
    (resident : ∀ z, activeSdu s c = some (.tx z) → (cfg.txSdu z).channelId = c)
    (context : getRxContext b cfg s p info = .ok ctx) : ForeignContext c x y s ctx := by
  have selected := foreign.selected
  have lives := foreign.lives
  simp only [getRxContext, foreign.bytes] at context
  simp only [selectedSdu] at selected
  split at context
  · cases context
  · rename_i type
    rw [if_pos type] at selected
    subst selected
    split at context
    · cases context
    · rename_i d z found
      obtain rfl := Except.ok.inj context
      obtain ⟨rfl, rfl, waiting⟩ | ⟨busy, differs, leads, waiting, active⟩ :=
        getFcActiveChannel_foreign lives.1 found
      · exact .flow rfl rfl lives.2 (lives.2 ▸ waiting)
      · have elsewhere : c ≠ d := by
          rintro rfl
          rw [lives.2] at busy
          exact busy waiting
        refine .shared rfl ?_ ?_ elsewhere active
        · simpa using differs
        · rintro rfl
          exact elsewhere ((resident z foreign.active).symm.trans leads.symm)
  · rename_i frameType type dataType
    have dataFrame : frameType ≠ .flowControl := by simpa using type
    rw [if_neg (by simp [dataType, dataFrame])] at selected
    subst selected
    split at context
    · split at context
      · cases context
      · obtain rfl := Except.ok.inj context
        exact .data dataFrame rfl lives.2
    · cases context

end Contexts

section Turn
variable {s : State} {c : Nat} {x y : Sdu} {ctx : TxContext}

theorem createFrame_subState (s : State) (c : Nat) :
    (createFrame b cfg env s c).1.subState = s.subState := by
  simp only [createFrame, createTxSingleFrame, createTxFirstFrame, createTxConsecutiveFrame,
    createTxFlowControlFrame]
  repeat' split
  all_goals rfl

theorem canIfTransmit_subState (cfg : Config b) (env : Env) (ctx : TxContext) (s : State) :
    (canIfTransmit b cfg env ctx s).subState ctx.channelId = s.subState ctx.channelId ∨
      (canIfTransmit b cfg env ctx s).subState ctx.channelId = .idle := by
  have created : (createFrame b cfg env s ctx.channelId).1.subState = s.subState :=
    createFrame_subState s ctx.channelId
  simp only [canIfTransmit]
  split
  · exact Or.inl (congrFun created _)
  · split
    · exact Or.inr (by simp [endWithError])
    · exact Or.inl (congrFun created _)

theorem sendFrame_subState (cfg : Config b) (env : Env) (ctx : TxContext) (pciId : Npci)
    (s : State) :
    (sendFrame b cfg env ctx pciId s).subState ctx.channelId = .txWaitForTransmitConfirmation ∨
      (sendFrame b cfg env ctx pciId s).subState ctx.channelId = .idle := by
  simp only [sendFrame, State.setChannel_subState]
  rcases canIfTransmit_subState cfg env ctx _ with same | idle
  · exact Or.inl (by rw [same]; simp)
  · exact Or.inr idle

def pollEvent (env : Env) (ctx : TxContext) (s : State) : Event :=
  let answer := env.copyTxData s.log ctx.pduRPduHandleId 0
  .copyTxData ctx.channelId ctx.sduId ctx.pduRPduHandleId [] answer.1 answer.2.2

section Buffer
variable (b : Build) (env : Env)

/-- What `CanTp_Prv_GetTxBuffer` makes of an answer of the upper layer. -/
def pollOutcome (ctx : TxContext) (s : State) (room : Nat) : BufReq → State
  | .ok =>
    let s' := s.emit (pollEvent env ctx s)
    if room ≥ ctx.payLoadLength then
      s'.setChannel ctx.channelId { s.channel ctx.channelId with txBufferStatus := .available }
    else if b.pageConfirmation then pageConfirmation env ctx s'
    else s'
  | .busy => s.emit (pollEvent env ctx s)
  | _ => endWithError ctx .com (s.emit (pollEvent env ctx s))

theorem getTxBuffer_available
    (available : (s.channel ctx.channelId).txBufferStatus = .available) :
    getTxBuffer b env ctx s = s := by
  simp [getTxBuffer, available]

theorem getTxBuffer_late (unavailable : (s.channel ctx.channelId).txBufferStatus ≠ .available)
    (late : ctx.csTicks ≤ ctx.elapsedValue) :
    getTxBuffer b env ctx s = endWithError ctx .txCom s := by
  simp [getTxBuffer, unavailable, Nat.not_lt.mpr late]

theorem getTxBuffer_polled (unavailable : (s.channel ctx.channelId).txBufferStatus ≠ .available)
    (early : ctx.elapsedValue < ctx.csTicks) :
    getTxBuffer b env ctx s =
      pollOutcome b env ctx s (env.copyTxData s.log ctx.pduRPduHandleId 0).2.2
        (env.copyTxData s.log ctx.pduRPduHandleId 0).1 := by
  simp only [getTxBuffer, if_pos early]
  rw [if_pos unavailable]
  cases answer : (env.copyTxData s.log ctx.pduRPduHandleId 0).1 with
  | ok => simp only [pollOutcome, pollEvent, answer]
  | busy => simp only [pollOutcome, pollEvent, answer]
  | notOk => simp only [pollOutcome, pollEvent, answer]
  | ovfl => simp only [pollOutcome, pollEvent, answer]

end Buffer

def cfContext (b : Build) (cfg : Config b) (s : State) (c : Nat) : TxContext :=
  txContext b cfg s c (cfPayLoad b cfg (s.channel c))

def sendIfReady (b : Build) (cfg : Config b) (env : Env) (ctx : TxContext) (c : Nat)
    (s : State) : State :=
  if (s.channel c).txBufferStatus = .available ∧
      (ctx.elapsedValue ≥ (s.channel c).stMinTicks ∨ (s.channel c).pciId ≠ .cf) then
    sendFrame b cfg env ctx .cf s
  else s

theorem txSendConsecutiveFrame_free (sending : s.subState c = .txSendConsecutiveFrame)
    (free : s.txConfirmationChannel (cfg.txSdu (s.channel c).activeSduId).txConfirmationId =
      b.invalidChannel) :
    txSendConsecutiveFrame b cfg env s c =
      sendIfReady b cfg env (cfContext b cfg s c) c
        (getTxBuffer b env (cfContext b cfg s c) s) := by
  unfold txSendConsecutiveFrame
  exact if_pos ⟨sending, free⟩

theorem txSendConsecutiveFrame_isolated (sending : s.subState c = .txSendConsecutiveFrame)
    (still : ¬ TurnMoves b cfg env s c) :
    Isolated c x y s (txSendConsecutiveFrame b cfg env s c) := by
  by_cases free : s.txConfirmationChannel
      (cfg.txSdu (s.channel c).activeSduId).txConfirmationId = b.invalidChannel
  · simp only [TurnMoves, free, true_and, not_or] at still
    obtain ⟨unavailable, early, short, notOk, notOvfl⟩ := still
    have polled : getTxBuffer b env (cfContext b cfg s c) s =
        s.emit (pollEvent env (cfContext b cfg s c) s) := by
      rw [getTxBuffer_polled b env unavailable (Nat.lt_of_not_ge early)]
      cases answer : (env.copyTxData s.log (cfContext b cfg s c).pduRPduHandleId 0).1 with
      | ok =>
          obtain ⟨little, asked⟩ := not_or.mp fun enough => short ⟨answer, enough⟩
          unfold pollOutcome
          dsimp only
          rw [if_neg (by exact little)]
          split
          · rename_i page
            unfold pageConfirmation
            exact if_neg fun status => asked ⟨page, status⟩
          · rfl
      | busy => rfl
      | notOk => exact absurd answer notOk
      | ovfl => exact absurd answer notOvfl
    rw [txSendConsecutiveFrame_free sending free, polled, sendIfReady,
      if_neg (by simp [unavailable])]
    exact isolated_emit _ rfl
  · rw [txSendConsecutiveFrame, if_neg (by simp [free])]
    exact isolated_refl c x y s

theorem not_isolated_idle {s' : State} (sending : s.subState c = .txSendConsecutiveFrame)
    (idle : s'.subState c = .idle) : ¬ Isolated c x y s s' := by
  intro same
  have kept := idle.symm.trans same.subState
  rw [sending] at kept
  cases kept

theorem not_isolated_sent (sending : s.subState c = .txSendConsecutiveFrame)
    (own : ctx.channelId = c) (pciId : Npci) (s' : State) :
    ¬ Isolated c x y s (sendFrame b cfg env ctx pciId s') := by
  subst own
  rcases sendFrame_subState cfg env ctx pciId s' with waiting | idle
  · intro same
    have kept := waiting.symm.trans same.subState
    rw [sending] at kept
    cases kept
  · exact not_isolated_idle sending idle

theorem sendIfReady_moves {s' : State} (sending : s.subState c = .txSendConsecutiveFrame)
    (own : ctx.channelId = c) (moved : ¬ Isolated c x y s s') :
    ¬ Isolated c x y s (sendIfReady b cfg env ctx c s') := by
  unfold sendIfReady
  split
  · exact not_isolated_sent sending own _ _
  · exact moved

theorem txSendConsecutiveFrame_moves (sending : s.subState c = .txSendConsecutiveFrame)
    (stMin : (s.channel c).stMinTicks = 0) (moves : TurnMoves b cfg env s c) :
    ¬ Isolated c x y s (txSendConsecutiveFrame b cfg env s c) := by
  obtain ⟨free, moves⟩ := moves
  rw [txSendConsecutiveFrame_free sending free]
  by_cases available : (s.channel c).txBufferStatus = .available
  · rw [getTxBuffer_available b env available, sendIfReady,
      if_pos ⟨available, Or.inl (by simp [stMin])⟩]
    exact not_isolated_sent sending rfl _ _
  · refine sendIfReady_moves sending rfl ?_
    by_cases early : (cfContext b cfg s c).elapsedValue < (cfContext b cfg s c).csTicks
    · rw [getTxBuffer_polled b env available early]
      generalize room : (env.copyTxData s.log (cfContext b cfg s c).pduRPduHandleId 0).2.2 = size
      obtain ready | late | ⟨ok, enough⟩ | notOk | ovfl := moves
      · exact absurd ready available
      · exact absurd early (Nat.not_lt.mpr late)
      · rw [show (env.copyTxData s.log (cfContext b cfg s c).pduRPduHandleId 0).1 = .ok from ok]
        intro same
        have kept := congrArg Channel.txBufferStatus same.channel
        have enough : size ≥ (cfContext b cfg s c).payLoadLength ∨
            b.pageConfirmation = true ∧ (s.channel c).txBufferStatus = .notAsked := room ▸ enough
        simp only [pollOutcome, pageConfirmation] at kept
        split at kept
        · simp [cfContext, txContext] at kept
          exact available kept.symm
        · rename_i little
          obtain ⟨page, status⟩ := enough.resolve_left little
          simp [cfContext, txContext, page, status] at kept
      · rw [show (env.copyTxData s.log (cfContext b cfg s c).pduRPduHandleId 0).1 = .notOk from
          notOk]
        exact not_isolated_idle sending (by simp [pollOutcome, endWithError, cfContext, txContext])
      · rw [show (env.copyTxData s.log (cfContext b cfg s c).pduRPduHandleId 0).1 = .ovfl from ovfl]
        exact not_isolated_idle sending (by simp [pollOutcome, endWithError, cfContext, txContext])
    · rw [getTxBuffer_late b env available (Nat.not_lt.mp early)]
      exact not_isolated_idle sending (by simp [endWithError, cfContext, txContext])

theorem burstReady_spec (ready : burstReady b cfg c s = true) :
    s.subState c = .txSendConsecutiveFrame ∧ (s.channel c).stMinTicks = 0 := by
  simp only [burstReady, Bool.and_eq_true, beq_iff_eq] at ready
  exact ⟨ready.2, ready.1.2⟩

theorem executeState_sending (sending : s.subState c = .txSendConsecutiveFrame) :
    executeState b cfg env s c = txSendConsecutiveFrame b cfg env s c := by
  simp [executeState, sending]

theorem burst_isolated_iff {s' : State} (outcome : BurstOutcome b cfg env c s s') :
    Isolated c x y s s' ↔ ¬ (burstReady b cfg c s = true ∧ b.schMSupport = false ∧
      b.burstQueueSize ≠ 0 ∧ TurnMoves b cfg env s c) := by
  cases outcome with
  | none same idle =>
      rw [same, iff_true_left (isolated_refl c x y s)]
      rintro ⟨ready, direct, room, -⟩
      simp [ready, direct, room] at idle
  | scheduled point q support tail told =>
      rw [told, iff_true_left ⟨rfl, rfl, [.activateMainFunction point], rfl, by
        simp [Event.informs?]⟩]
      rintro ⟨-, direct, -⟩
      simp [support] at direct
  | turn q ready direct room drained taken =>
      obtain ⟨sending, stMin⟩ := burstReady_spec ready
      rw [taken, executeState_sending (s := { s with burstQ := q }) sending]
      constructor
      · rintro ⟨sub, ch, untold⟩ ⟨-, -, -, moves⟩
        exact txSendConsecutiveFrame_moves (s := { s with burstQ := q }) sending stMin moves
          ⟨sub, ch, untold⟩
      · intro still
        have stays : ¬ TurnMoves b cfg env { s with burstQ := q } c :=
          fun moves => still ⟨ready, direct, room, moves⟩
        have kept : Isolated c x y { s with burstQ := q }
            (txSendConsecutiveFrame b cfg env { s with burstQ := q } c) :=
          txSendConsecutiveFrame_isolated sending stays
        exact ⟨kept.subState, kept.channel, kept.untold⟩

theorem BurstOutcome.log {s' : State} (outcome : BurstOutcome b cfg env c s s') :
    ∃ later, s'.log = s.log ++ later := by
  cases outcome with
  | none same => exact ⟨[], by simp [same]⟩
  | scheduled point q support tail told => exact ⟨[_], by rw [told]; rfl⟩
  | turn q ready direct room drained taken =>
      have turn : OnlyChannel c _ { s with burstQ := q }
        (executeState b cfg env { s with burstQ := q } c) := executeState_local _ c
      obtain ⟨later, log, -⟩ := turn.log
      exact ⟨later, by rw [taken, log]⟩

theorem burst_elsewhere {d : Nat} {s₀ s' : State} {z : Nat} (only : OnlyChannel d (.tx z) s₀ s)
    (outcome : BurstOutcome b cfg env d s s') (elsewhere : c ≠ d) (notX : .tx z ≠ x)
    (notY : .tx z ≠ y) (active : (s.channel d).activeSduId = z) : Isolated c x y s₀ s' := by
  have before : Isolated c x y s₀ s := only.isolated elsewhere notX notY
  cases outcome with
  | none same => exact same ▸ before
  | scheduled point q support tail told =>
      obtain ⟨sub, ch, events, log, untold⟩ := before
      rw [told]
      refine ⟨sub, ch, events ++ [.activateMainFunction point], ?_, ?_⟩
      · simp [log]
      · intro e member
        rcases List.mem_append.mp member with old | new
        · exact untold e old
        · simp [List.mem_singleton.mp new, Event.informs?]
  | turn q ready direct room drained taken =>
      obtain ⟨sending, -⟩ := burstReady_spec ready
      have turn : OnlyChannel d _ { s with burstQ := q }
        (executeState b cfg env { s with burstQ := q } d) := executeState_local _ d
      have served : servedSdu (s.subState d) (s.channel d).activeSduId = .tx z := by
        simp [servedSdu, sending, SubState.state, active]
      obtain ⟨sub, ch, events, log, untold⟩ := before
      obtain ⟨sub', ch', later, log', untold'⟩ := turn.isolated (x := x) (y := y) elsewhere
        (served ▸ notX) (served ▸ notY)
      rw [taken]
      refine ⟨sub'.trans sub, ch'.trans ch, events ++ later, ?_, ?_⟩
      · rw [log', ← List.append_assoc, ← log]
      · intro e member
        rcases List.mem_append.mp member with old | new
        · exact untold e old
        · exact untold' e new

end Turn

section Frames
variable {s : State} {p c : Nat} {info : PduInfo} {data : Mem} {x y : Sdu} {ctx : RxContext}

theorem lengthError_isolated_iff :
    Isolated ctx.channelId x y s (lengthError ctx s) ↔
      ¬ (s.subState ctx.channelId = .txWaitForFlowControlFrame ∨
        s.subState ctx.channelId = .rxWaitForConsecutiveFrame) := by
  constructor
  · intro isolated waiting
    have idle : (lengthError ctx s).subState ctx.channelId = .idle := by
      simp only [lengthError, if_pos waiting]
      split <;> simp
    have kept := idle.symm.trans isolated.subState
    rcases waiting with sub | sub
    · simp [sub] at kept
    · simp [sub] at kept
  · intro busy
    simp only [lengthError, if_neg busy]
    split
    · exact isolated_emit _ rfl
    · exact isolated_emit _ rfl

theorem getTxBuffer_subState (b : Build) (env : Env) (ctx : TxContext) (s : State) :
    (getTxBuffer b env ctx s).subState ctx.channelId = s.subState ctx.channelId ∨
      (getTxBuffer b env ctx s).subState ctx.channelId = .idle := by
  have ended (error : ErrorId) (s : State) :
      (endWithError ctx error s).subState ctx.channelId = .idle := by simp [endWithError]
  by_cases available : (s.channel ctx.channelId).txBufferStatus = .available
  · exact Or.inl (by rw [getTxBuffer_available b env available])
  · by_cases early : ctx.elapsedValue < ctx.csTicks
    · rw [getTxBuffer_polled b env available early]
      cases (env.copyTxData s.log ctx.pduRPduHandleId 0).1 with
      | ok =>
          simp only [pollOutcome, pageConfirmation]
          repeat' split
          all_goals exact Or.inl rfl
      | busy => exact Or.inl rfl
      | notOk => exact Or.inr (ended _ _)
      | ovfl => exact Or.inr (ended _ _)
    · rw [getTxBuffer_late b env available (Nat.not_lt.mp early)]
      exact Or.inr (ended _ _)

theorem txSendConsecutiveFrame_subState (cfg : Config b) (env : Env) {s : State} {c : Nat}
    (sending : s.subState c = .txSendConsecutiveFrame) :
    (txSendConsecutiveFrame b cfg env s c).subState c ≠ .txWaitForFlowControlFrame := by
  by_cases free : s.txConfirmationChannel
      (cfg.txSdu (s.channel c).activeSduId).txConfirmationId = b.invalidChannel
  · rw [txSendConsecutiveFrame_free sending free, sendIfReady]
    split
    · generalize getTxBuffer b env (cfContext b cfg s c) s = s'
      intro waits
      rcases sendFrame_subState cfg env (cfContext b cfg s c) .cf s' with waiting | idle
      · cases waiting.symm.trans waits
      · cases idle.symm.trans waits
    · intro waits
      rcases getTxBuffer_subState b env (cfContext b cfg s c) s with same | idle
      · cases (same.trans sending).symm.trans waits
      · cases idle.symm.trans waits
  · rw [txSendConsecutiveFrame, if_neg (by simp [free]), sending]
    simp

theorem burst_leaves {s' : State} (outcome : BurstOutcome b cfg env c s s')
    (left : s.subState c ≠ .txWaitForFlowControlFrame) :
    s'.subState c ≠ .txWaitForFlowControlFrame := by
  cases outcome with
  | none same => exact same ▸ left
  | scheduled point q support tail told => exact told ▸ left
  | turn q ready direct room drained taken =>
      obtain ⟨sending, -⟩ := burstReady_spec ready
      rw [taken, executeState_sending (s := { s with burstQ := q }) sending]
      exact txSendConsecutiveFrame_subState cfg env sending

theorem waits_kept {s' : State} (outcome : BurstOutcome b cfg env c s s')
    (waiting : s.subState c = .txWaitForFlowControlFrame) : Isolated c x y s s' := by
  refine (burst_isolated_iff outcome).mpr ?_
  rintro ⟨ready, -⟩
  cases (burstReady_spec ready).1.symm.trans waiting

theorem flow_isolated_iff {s' : State}
    (waiting : s.subState ctx.channelId = .txWaitForFlowControlFrame)
    (outcome : BurstOutcome b cfg env ctx.channelId
      (processRxFlowControlFrame b cfg ctx data s) s') :
    Isolated ctx.channelId x y s s' ↔ RepeatsWait b cfg s ctx := by
  have taken (moved : (processRxFlowControlFrame b cfg ctx data s).subState ctx.channelId ≠
      .txWaitForFlowControlFrame) : ¬ Isolated ctx.channelId x y s s' := by
    intro same
    exact burst_leaves outcome moved (same.subState.trans waiting)
  unfold RepeatsWait
  dsimp only
  by_cases late : b.strictBsCrTimeoutCheck = true ∧
      (getElapsedValue b s (s.channel ctx.channelId).initialTicks).2 >
        (cfg.timeOut (cfg.txSdu (s.channel ctx.channelId).activeSduId).timeOutId).bsBrTicks
  · refine iff_of_false (taken ?_) (fun repeats => repeats.1 late)
    simp [processRxFlowControlFrame, waiting, late]
  · by_cases wait : ctx.flowStatus = FlowStatus.wait.code
    · have processed : processRxFlowControlFrame b cfg ctx data s = s.setChannel ctx.channelId
          { s.channel ctx.channelId with
            flowStatus := .wait
            initialTicks := (getElapsedValue b s (s.channel ctx.channelId).initialTicks).1 } := by
        simp only [processRxFlowControlFrame, if_pos waiting, if_neg late, if_pos wait]
      rw [processed] at outcome
      have burst := waits_kept (x := x) (y := y) outcome waiting
      constructor
      · intro isolated
        have kept := burst.channel.symm.trans isolated.channel
        rw [State.setChannel_channel, Function.update_self] at kept
        exact ⟨late, wait, by rw [← kept], congrArg Channel.initialTicks kept.symm⟩
      · rintro ⟨-, -, flow, ticks⟩
        refine ⟨burst.subState, burst.channel.trans ?_, burst.untold⟩
        rw [State.setChannel_channel, Function.update_self, ← ticks, ← flow]
    · refine iff_of_false (taken ?_) (fun repeats => wait repeats.2.1)
      simp only [processRxFlowControlFrame, if_pos waiting, if_neg late, if_neg wait]
      split
      · simp
      · simp

def receive (b : Build) (cfg : Config b) (env : Env) (ctx : RxContext) (data : Mem) (n : Nat)
    (s : State) : State :=
  let checked := rxSduLengthCheck b s ctx data n
  if checked.2 ≠ .ok then lengthError checked.1 s
  else
    burstMainFunction b cfg env checked.1.channelId .rxIndication
      (processFrame b cfg env checked.1 data n s)

theorem processFlow_active (s : State) (ctx : RxContext) (data : Mem) :
    ((processRxFlowControlFrame b cfg ctx data s).channel ctx.channelId).activeSduId =
      (s.channel ctx.channelId).activeSduId := by
  simp only [processRxFlowControlFrame]
  repeat' split
  all_goals simp

section Outcomes
variable {n : Nat} (running : s.mainState = true) (drained : Drained b s.burstQ)
include running drained

theorem process_outcome (cfg : Config b) (env : Env) (ctx : RxContext) (data : Mem) (n c : Nat)
    (point : TriggerPoint) :
    BurstOutcome b cfg env c (processFrame b cfg env ctx data n s)
      (burstMainFunction b cfg env c point (processFrame b cfg env ctx data n s)) := by
  have only : OnlyChannel ctx.channelId ctx.sdu s (processFrame b cfg env ctx data n s) :=
    processFrame_local data n s
  exact burstMainFunction_outcome (only.burstQ ▸ drained) (only.mainState.trans running) c point

theorem receive_data (dataFrame : ctx.frameType ≠ .flowControl)
    (active : activeSdu s ctx.channelId = some y) (other : y ≠ .rx ctx.sduId) :
    Isolated ctx.channelId x y s (receive b cfg env ctx data n s) ↔
      ¬ FrameIntrudes b cfg s ctx data n ∧ ¬ FrameBursts b cfg env s ctx data n := by
  have same := rxSduLengthCheck_same (b := b) s ctx data n
  unfold receive FrameIntrudes FrameBursts
  dsimp only
  rw [if_neg dataFrame]
  generalize rxSduLengthCheck b s ctx data n = checked at same ⊢
  by_cases passed : checked.2 = .ok
  · rw [if_neg (by simp [passed])]
    have outcome := process_outcome running drained cfg env checked.1 data n
      checked.1.channelId .rxIndication
    rw [processFrame_foreign n (same.frameType ▸ dataFrame) (same.channel ▸ active)
      (same.sdu ▸ other)] at outcome ⊢
    obtain ⟨called, record, quiet⟩ := unprocessed_record b env checked.1 data n s
    rw [same.channel, record] at outcome ⊢
    obtain ⟨later, log⟩ := outcome.log
    rw [← isolated_called quiet log, burst_isolated_iff outcome]
    simp [passed, burstReady]
  · rw [if_pos passed, ← same.channel, lengthError_isolated_iff]
    simp [passed]

theorem receive_flow (flow : ctx.frameType = .flowControl)
    (waiting : s.subState ctx.channelId = .txWaitForFlowControlFrame) :
    Isolated ctx.channelId x y s (receive b cfg env ctx data n s) ↔
      ¬ FrameIntrudes b cfg s ctx data n ∧ ¬ FrameBursts b cfg env s ctx data n := by
  have same := rxSduLengthCheck_same (b := b) s ctx data n
  have unready : burstReady b cfg ctx.channelId s = false := by simp [burstReady, waiting]
  unfold receive FrameIntrudes FrameBursts
  dsimp only
  rw [if_pos flow]
  generalize rxSduLengthCheck b s ctx data n = checked at same ⊢
  by_cases passed : checked.2 = .ok
  · rw [if_neg (by simp [passed])]
    have outcome := process_outcome running drained cfg env checked.1 data n
      checked.1.channelId .rxIndication
    simp only [processFrame, same.frameType, flow] at outcome ⊢
    rw [← same.channel] at waiting ⊢
    rw [flow_isolated_iff waiting outcome]
    simp [passed, same.channel, unready]
  · rw [if_pos passed, ← same.channel, lengthError_isolated_iff]
    simp [passed, same.channel, waiting]

theorem receive_shared (flow : ctx.frameType = .flowControl) (notX : .tx ctx.sduId ≠ x)
    (notY : .tx ctx.sduId ≠ y) (elsewhere : c ≠ ctx.channelId)
    (active : (s.channel ctx.channelId).activeSduId = ctx.sduId) :
    Isolated c x y s (receive b cfg env ctx data n s) := by
  have same := rxSduLengthCheck_same (b := b) s ctx data n
  unfold receive
  dsimp only
  generalize rxSduLengthCheck b s ctx data n = checked at same ⊢
  have type : checked.1.frameType = .flowControl := same.frameType.trans flow
  have sdu : checked.1.sdu = .tx ctx.sduId := by simp [RxContext.sdu, type, same.sdu]
  by_cases passed : checked.2 = .ok
  · rw [if_neg (by simp [passed])]
    have outcome := process_outcome running drained cfg env checked.1 data n
      checked.1.channelId .rxIndication
    have only : OnlyChannel checked.1.channelId checked.1.sdu s
      (processFrame b cfg env checked.1 data n s) := processFrame_local data n s
    have kept : ((processFrame b cfg env checked.1 data n s).channel
        checked.1.channelId).activeSduId = ctx.sduId := by
      simp only [processFrame, type]
      rw [processFlow_active, same.channel, active]
    rw [sdu] at only
    rw [← same.channel] at elsewhere
    exact burst_elsewhere only outcome elsewhere notX notY kept
  · rw [if_pos passed]
    refine (lengthError_local s).isolated (same.channel ▸ elsewhere) ?_ ?_
    · rwa [sdu]
    · rwa [sdu]

end Outcomes

end Frames

theorem rxIndication_received {s : State} {p : Nat} {info : PduInfo} {data : Mem}
    {ctx : RxContext} (env : Env) (running : s.mainState = true)
    (configured : p < cfg.numberOfRxPdus) (bytes : info.sduDataPtr = some data)
    (context : getRxContext b cfg s p info = .ok ctx) :
    rxIndication b cfg env p (some info) s = receive b cfg env ctx data info.sduLength s := by
  unfold rxIndication devCheck
  rw [if_pos running, if_neg (Nat.not_le.mpr configured)]
  simp only [receiveFrame, context, bytes, Option.getD_some, receive]

theorem rxIndication_reported {s : State} {p : Nat} {info : PduInfo} (env : Env)
    (unreached : ¬ (s.mainState = true ∧ p < cfg.numberOfRxPdus ∧
      ∃ ctx, getRxContext b cfg s p info = .ok ctx)) :
    ∃ event, event.informs? = none ∧ rxIndication b cfg env p (some info) s = s.emit event := by
  unfold rxIndication devCheck
  by_cases running : s.mainState = true
  · rw [if_pos running]
    by_cases configured : p < cfg.numberOfRxPdus
    · rw [if_neg (Nat.not_le.mpr configured)]
      cases context : getRxContext b cfg s p info with
      | error error =>
          refine ⟨.reportRunTimeError .rxIndication error, rfl, ?_⟩
          simp only [receiveFrame, context]
      | ok ctx => exact absurd ⟨running, configured, ctx, context⟩ unreached
    · rw [if_pos (Nat.not_lt.mp configured)]
      exact ⟨_, rfl, rfl⟩
  · rw [if_neg running]
    exact ⟨_, rfl, rfl⟩

/-- In every reachable state a frame for one SDU leaves another SDU of its channel alone,
unless it gets past a check that does not look at the active SDU or gives the channel its
turn. -/
theorem foreign_frame_isolated_iff (s₀ : State) (ops : List Op) {p c : Nat} {info : PduInfo}
    {data : Mem} {x y : Sdu}
    (foreign : Foreign b cfg (run (step b cfg env) (start b cfg s₀) ops) p info data c x y) :
    let s := run (step b cfg env) (start b cfg s₀) ops
    Isolated c x y s (rxIndication b cfg env p (some info) s) ↔
      ¬ Intrudes b cfg s p info data c ∧ ¬ BurstTurn b cfg env s p info data c := by
  have drained : Drained b (run (step b cfg env) (start b cfg s₀) ops).burstQ := run_drained s₀ ops
  have owned : Owned b cfg (run (step b cfg env) (start b cfg s₀) ops) := run_owned s₀ ops
  generalize run (step b cfg env) (start b cfg s₀) ops = s at foreign drained owned
  dsimp only
  by_cases reached : s.mainState = true ∧ p < cfg.numberOfRxPdus ∧
      ∃ ctx, getRxContext b cfg s p info = .ok ctx
  · obtain ⟨running, configured, ctx, context⟩ := reached
    have reaches (effect : RxContext → Prop) :
        Reaches b cfg s p info c effect ↔ ctx.channelId = c ∧ effect ctx := by
      simp [Reaches, running, configured, context]
    rw [rxIndication_received env running configured foreign.bytes context]
    simp only [Intrudes, BurstTurn, reaches]
    cases foreign.context (owned.resident foreign.lives.bound) context with
    | data dataFrame own here =>
        subst here
        rw [receive_data running drained dataFrame foreign.active (own ▸ foreign.other)]
        simp
    | flow flow own here waiting =>
        subst here
        rw [receive_flow running drained flow waiting]
        simp
    | shared flow notX notY elsewhere active =>
        refine iff_of_true (receive_shared running drained flow notX notY elsewhere active) ?_
        exact ⟨fun both => elsewhere both.1.symm, fun both => elsewhere both.1.symm⟩
  · obtain ⟨event, quiet, reported⟩ := rxIndication_reported env reached
    rw [reported]
    refine iff_of_true (isolated_emit event quiet) ⟨?_, ?_⟩
    · rintro ⟨running, configured, ctx, context, -⟩
      exact reached ⟨running, configured, ctx, context⟩
    · rintro ⟨running, configured, ctx, context, -⟩
      exact reached ⟨running, configured, ctx, context⟩

def waitingRun : List Op := [.transmit 0 (some 20), .mainFunction, .txConfirmation 0]

def waitingNode : State :=
  run (step nodeBuild nodeConfig nodeEnv) (start nodeBuild nodeConfig nodeRam) waitingRun

theorem waitingNode_foreign (bytes : List UInt8) {x : Sdu}
    (selected : selectedSdu (nodeConfig.rxPdu 1) (fun i => bytes.getD i 0) = x)
    (own : x = .tx 1 ∨ x = .rx 1) :
    Foreign nodeBuild nodeConfig waitingNode 1 ⟨some fun i => bytes.getD i 0, bytes.length⟩
      (fun i => bytes.getD i 0) 0 x (.tx 0) := by
  refine ⟨rfl, selected, ?_, by decide, ?_⟩
  · rcases own with rfl | rfl
    · exact ⟨by decide, by decide⟩
    · exact ⟨by decide, by decide⟩
  · rcases own with rfl | rfl
    · decide
    · decide

theorem foreign_frame_isolated_single :
    Isolated 0 (.rx 1) (.tx 0) waitingNode (rxIndication nodeBuild nodeConfig nodeEnv 1
      (some ⟨some fun i => [0x02, 0xAB, 0xCD].getD i 0, 3⟩) waitingNode) := by
  refine (foreign_frame_isolated_iff nodeRam waitingRun
    (waitingNode_foreign [0x02, 0xAB, 0xCD] rfl (Or.inr rfl))).mpr ⟨?_, ?_⟩
  · decide
  · decide

theorem foreign_flow_control_grants :
    Foreign nodeBuild nodeConfig waitingNode 1
        ⟨some fun i => [0x30, 0x00, 0x00].getD i 0, 3⟩ (fun i => [0x30, 0x00, 0x00].getD i 0) 0
        (.tx 1) (.tx 0) ∧
      ¬ Isolated 0 (.tx 1) (.tx 0) waitingNode (rxIndication nodeBuild nodeConfig nodeEnv 1
        (some ⟨some fun i => [0x30, 0x00, 0x00].getD i 0, 3⟩) waitingNode) := by
  refine ⟨waitingNode_foreign [0x30, 0x00, 0x00] rfl (Or.inl rfl), ?_⟩
  intro isolated
  exact absurd isolated.subState (by decide)

end AnchorNode.CanTp
