import AnchorNode.CanTp.FramePaths

/-! Locality: what is done on behalf of one channel touches no other, and the burst queue is
empty between calls when the main function is called directly. -/

namespace AnchorNode.CanTp

open AnchorNode.Lib

/-- A connection of either direction. -/
inductive Sdu where
  | tx (x : Nat)
  | rx (r : Nat)
  deriving DecidableEq, Repr

def PduRApi.sdu : PduRApi → Nat → Sdu
  | .tx => .tx
  | .rx => .rx

def Event.informs? : Event → Option Sdu
  | .txConfirmation _ x _ _ => some (.tx x)
  | .rxIndication _ r _ _ => some (.rx r)
  | _ => none

structure Event.Local (c : Nat) (z : Sdu) (e : Event) : Prop where
  channel : ∀ d, e.channel? = some d → d = c
  informs : ∀ y, e.informs? = some y → y = z

/-- Nothing but channel `c` and the table has changed, and only `z` was told of. -/
structure OnlyChannel (c : Nat) (z : Sdu) (s s' : State) : Prop where
  subState : ∀ d, d ≠ c → s'.subState d = s.subState d
  channel : ∀ d, d ≠ c → s'.channel d = s.channel d
  log : ∃ events, s'.log = s.log ++ events ∧ ∀ e ∈ events, e.Local c z
  burstQ : s'.burstQ = s.burstQ
  mainState : s'.mainState = s.mainState
  ticks : s'.ticks = s.ticks

theorem Event.Local.here {c : Nat} {z : Sdu} {e : Event} (own : e.channel? = some c)
    (quiet : e.informs? = none) : e.Local c z := by
  constructor
  · intro d found
    rw [own] at found
    exact (Option.some.inj found).symm
  · intro y told
    simp [quiet] at told

theorem Event.Local.nowhere {c : Nat} {z : Sdu} {e : Event} (none : e.channel? = none)
    (quiet : e.informs? = .none) : e.Local c z := by
  constructor
  · intro d found
    simp [none] at found
  · intro y told
    simp [quiet] at told

namespace OnlyChannel

variable {c : Nat} {z : Sdu} {s s' s'' : State}

theorem refl (c : Nat) (z : Sdu) (s : State) : OnlyChannel c z s s :=
  ⟨fun _ _ => rfl, fun _ _ => rfl, ⟨[], by simp, by simp⟩, rfl, rfl, rfl⟩

theorem trans (first : OnlyChannel c z s s') (second : OnlyChannel c z s' s'') :
    OnlyChannel c z s s'' := by
  obtain ⟨front, log, localFront⟩ := first.log
  obtain ⟨back, log', localBack⟩ := second.log
  refine ⟨?_, ?_, ⟨front ++ back, ?_, ?_⟩, second.burstQ.trans first.burstQ,
    second.mainState.trans first.mainState, second.ticks.trans first.ticks⟩
  · intro d other
    exact (second.subState d other).trans (first.subState d other)
  · intro d other
    exact (second.channel d other).trans (first.channel d other)
  · rw [log', log, List.append_assoc]
  · intro e member
    rcases List.mem_append.mp member with member | member
    · exact localFront e member
    · exact localBack e member

theorem emit (before : OnlyChannel c z s s') {e : Event} (here : e.Local c z) :
    OnlyChannel c z s (s'.emit e) := by
  refine before.trans ⟨fun _ _ => rfl, fun _ _ => rfl, ⟨[e], rfl, ?_⟩, rfl, rfl, rfl⟩
  simpa using here

theorem setSub (before : OnlyChannel c z s s') (st : SubState) :
    OnlyChannel c z s (s'.setSub c st) := by
  refine before.trans ⟨?_, fun _ _ => rfl, ⟨[], by simp, by simp⟩, rfl, rfl, rfl⟩
  intro d other
  simp [other]

theorem setChannel (before : OnlyChannel c z s s') (ch : Channel) :
    OnlyChannel c z s (s'.setChannel c ch) := by
  refine before.trans ⟨fun _ _ => rfl, ?_, ⟨[], by simp, by simp⟩, rfl, rfl, rfl⟩
  intro d other
  simp [other]

theorem setConfirmation (before : OnlyChannel c z s s') (p v : Nat) :
    OnlyChannel c z s (s'.setConfirmation p v) :=
  before.trans ⟨fun _ _ => rfl, fun _ _ => rfl, ⟨[], by simp, by simp⟩, rfl, rfl, rfl⟩

theorem pduRConfirmation {api : PduRApi} {sdu : Nat} (own : api.sdu sdu = z) (id : Nat)
    (result : StdReturn) (before : OnlyChannel c z s s') :
    OnlyChannel c z s (pduRConfirmation api s' c sdu id result) := by
  subst own
  cases api with
  | tx => exact before.emit (by constructor <;> simp [Event.channel?, Event.informs?, PduRApi.sdu])
  | rx => exact before.emit (by constructor <;> simp [Event.channel?, Event.informs?, PduRApi.sdu])

end OnlyChannel

/-- The context was filled for channel `c` and its SDU `z`. -/
structure TxContext.Owns (ctx : TxContext) (c : Nat) (z : Sdu) : Prop where
  channel : ctx.channelId = c
  sdu : ctx.pduRApi.sdu ctx.sduId = z

section StateFunctions
variable {b : Build} {cfg : Config b} {env : Env} {c : Nat} {z : Sdu} {s s' : State}
  {ctx : TxContext}

theorem txContext_owns (s : State) (c n : Nat) :
    (txContext b cfg s c n).Owns c (.tx (s.channel c).activeSduId) := ⟨rfl, rfl⟩

theorem rxContext_owns (s : State) (c n : Nat) :
    (rxContext b cfg s c n).Owns c (.rx (s.channel c).activeSduId) := ⟨rfl, rfl⟩

theorem endWithError_local (own : ctx.Owns c z) (error : ErrorId)
    (before : OnlyChannel c z s s') : OnlyChannel c z s (endWithError ctx error s') := by
  simp only [endWithError, own.channel]
  exact ((before.pduRConfirmation own.sdu _ _).emit (.nowhere rfl rfl)).setSub _

theorem pageConfirmation_local (own : ctx.Owns c z) (before : OnlyChannel c z s s') :
    OnlyChannel c z s (pageConfirmation env ctx s') := by
  simp only [pageConfirmation, own.channel]
  split
  · exact (before.emit (.here rfl rfl)).setChannel _
  · exact before

theorem getTxBuffer_local (own : ctx.Owns c z) (before : OnlyChannel c z s s') :
    OnlyChannel c z s (getTxBuffer b env ctx s') := by
  simp only [getTxBuffer, own.channel]
  split
  · split
    · have polled := before.emit (e := .copyTxData c ctx.sduId ctx.pduRPduHandleId []
        (env.copyTxData s'.log ctx.pduRPduHandleId 0).1
        (env.copyTxData s'.log ctx.pduRPduHandleId 0).2.2) (.here rfl rfl)
      split
      · split
        · exact polled.setChannel _
        · split
          · exact pageConfirmation_local own polled
          · exact polled
      · exact polled
      · exact endWithError_local own _ polled
    · exact before
  · split
    · exact endWithError_local own _ before
    · exact before

theorem createFrame_local (before : OnlyChannel c z s s') :
    OnlyChannel c z s (createFrame b cfg env s' c).1 := by
  simp only [createFrame]
  split
  · simp only [createTxSingleFrame]
    split
    · split
      · exact (before.emit (.here rfl rfl)).emit (.nowhere rfl rfl)
      · exact before.emit (.here rfl rfl)
    · exact before
  · simp only [createTxFirstFrame]
    split
    · split
      · exact (before.emit (.here rfl rfl)).emit (.nowhere rfl rfl)
      · exact before.emit (.here rfl rfl)
    · exact before
  · simp only [createTxConsecutiveFrame]
    split
    · split
      · exact (before.emit (.here rfl rfl)).emit (.nowhere rfl rfl)
      · exact before.emit (.here rfl rfl)
    · exact before
  · simp only [createTxFlowControlFrame]
    split
    · split
      · exact before
      · exact before
    · exact before

theorem canIfTransmit_local (own : ctx.Owns c z) (before : OnlyChannel c z s s') :
    OnlyChannel c z s (canIfTransmit b cfg env ctx s') := by
  have created : OnlyChannel c z s (createFrame b cfg env s' c).1 := createFrame_local before
  simp only [canIfTransmit, own.channel]
  split
  · exact created
  · split
    · refine (endWithError_local own _ ?_).setConfirmation _ _
      exact (created.setConfirmation _ _).emit (.here rfl rfl)
    · exact (created.setConfirmation _ _).emit (.here rfl rfl)

theorem sendFrame_local (own : ctx.Owns c z) (pciId : Npci) (before : OnlyChannel c z s s') :
    OnlyChannel c z s (sendFrame b cfg env ctx pciId s') := by
  have started := (before.setChannel { s'.channel c with pciId, initialTicks := ctx.value }).setSub
    .txWaitForTransmitConfirmation
  simp only [sendFrame, own.channel]
  exact (canIfTransmit_local own started).setChannel _

theorem txSendConsecutiveFrame_local (s : State) (c : Nat) :
    OnlyChannel c (.tx (s.channel c).activeSduId) s (txSendConsecutiveFrame b cfg env s c) := by
  simp only [txSendConsecutiveFrame]
  split
  · generalize context : txContext b cfg s c _ = ctx
    have own : ctx.Owns c (.tx (s.channel c).activeSduId) := context ▸ txContext_owns s c _
    have polled : OnlyChannel c _ s (getTxBuffer b env ctx s) := getTxBuffer_local own (.refl c _ s)
    split
    · exact sendFrame_local own _ polled
    · exact polled
  · exact .refl c _ s

theorem requestAccepted_local (s : State) (c : Nat) :
    OnlyChannel c (.tx (s.channel c).activeSduId) s (requestAccepted b cfg env s c) := by
  simp only [requestAccepted]
  split
  · generalize context : txContext b cfg s c _ = ctx
    have own : ctx.Owns c (.tx (s.channel c).activeSduId) := context ▸ txContext_owns s c _
    have polled (ch : Channel) : OnlyChannel c _ s (getTxBuffer b env ctx (s.setChannel c ch)) :=
      getTxBuffer_local own ((OnlyChannel.refl c _ s).setChannel ch)
    split
    · exact sendFrame_local own _ (polled _)
    · exact polled _
  · split
    · refine OnlyChannel.setConfirmation ?_ _ _
      refine OnlyChannel.emit ?_ (.nowhere rfl rfl)
      exact OnlyChannel.pduRConfirmation (by rfl) _ _ (.refl c _ s)
    · exact .refl c _ s

theorem fcTransmit_local (own : ctx.Owns c z) (ready : Bool) (before : OnlyChannel c z s s') :
    OnlyChannel c z s (fcTransmit b cfg env ctx ready s') := by
  simp only [fcTransmit, own.channel]
  split
  · split
    · split
      · exact (((before.setChannel _).setSub _).setChannel _).setSub _
      · exact (((before.setChannel _).setSub _).pduRConfirmation own.sdu _ _).setSub _
    · exact canIfTransmit_local own ((before.setChannel _).setSub _)
  · exact before

theorem fcWaitRound_local (own : ctx.Owns c z) (ready : Bool) (before : OnlyChannel c z s s') :
    OnlyChannel c z s (fcWaitRound b cfg ctx ready s').2 := by
  simp only [fcWaitRound, own.channel]
  split
  · split
    · exact before.setChannel _
    · exact endWithError_local own _ before
  · exact before

theorem rxSendFlowControlFrame_local (s : State) (c : Nat) :
    OnlyChannel c (.rx (s.channel c).activeSduId) s (rxSendFlowControlFrame b cfg env s c) := by
  have prepared (ch : Channel) :=
    (OnlyChannel.refl c (.rx (s.channel c).activeSduId) s).setChannel ch
  have own (n : Nat) : TxContext.Owns { rxContext b cfg s c 0 with remBufSize := n } c
    (.rx (s.channel c).activeSduId) := ⟨rfl, rfl⟩
  simp only [rxSendFlowControlFrame]
  split
  · split
    · apply fcTransmit_local (own _)
      apply fcWaitRound_local (own _)
      split
      · exact endWithError_local (own _) _ ((prepared _).emit (.here rfl rfl))
      · split
        · exact ((prepared _).emit (.here rfl rfl)).setChannel _
        · exact (prepared _).emit (.here rfl rfl)
    · exact fcTransmit_local (rxContext_owns s c 0) _ (prepared _)
  · exact .refl c _ s

def servedSdu (sub : SubState) (active : Nat) : Sdu :=
  match sub.state with
  | .reception => .rx active
  | _ => .tx active

theorem executeState_local (s : State) (c : Nat) :
    OnlyChannel c (servedSdu (s.subState c) (s.channel c).activeSduId) s
      (executeState b cfg env s c) := by
  unfold executeState
  split <;> rename_i sub <;> rw [sub]
  · exact .refl c _ s
  · simp only [txTransmissionRequestAccepted, sub, ↓reduceIte, Option.getD_some]
    exact requestAccepted_local s c
  · simp only [txWaitForTransmitConfirmation]
    split
    · exact (endWithError_local (txContext_owns s c 0) _ (.refl c _ s)).setConfirmation _ _
    · exact .refl c _ s
  · simp only [txWaitForFlowControlFrame]
    split
    · exact endWithError_local (txContext_owns s c 0) _ (.refl c _ s)
    · exact .refl c _ s
  · exact txSendConsecutiveFrame_local s c
  · simp only [rxReceptionRequestAccepted]
    split
    · exact endWithError_local (rxContext_owns s c 0) _ (.refl c _ s)
    · exact .refl c _ s
  · exact rxSendFlowControlFrame_local s c
  · simp only [rxWaitForFcTransmitConfirmation]
    split
    · exact (endWithError_local (rxContext_owns s c 0) _ (.refl c _ s)).setConfirmation _ _
    · exact .refl c _ s
  · simp only [rxWaitForConsecutiveFrame]
    split
    · exact endWithError_local (rxContext_owns s c 0) _ (.refl c _ s)
    · exact .refl c _ s

end StateFunctions

section Calls
variable {b : Build} {cfg : Config b} {env : Env} {s s' : State} {ctx : RxContext}

theorem fdCallOut_local (data : Mem) (n : Nat) (s : State) :
    OnlyChannel ctx.channelId (.rx ctx.sduId) s (fdCallOut b env ctx data n s).2 := by
  simp only [fdCallOut]
  split
  · exact (OnlyChannel.refl _ _ s).emit (.nowhere rfl rfl)
  · exact .refl _ _ s

theorem getConnectionAcceptance_local {data : Mem} {n : Nat}
    (accepted : getConnectionAcceptance b env ctx data n s = .ok s') :
    OnlyChannel ctx.channelId (.rx ctx.sduId) s s' := by
  have called := @fdCallOut_local b env ctx data n s
  rcases getConnectionAcceptance_cases accepted with rfl | rfl
  · exact called.setSub _
  · exact (OnlyChannel.pduRConfirmation (by rfl) _ _ called).setSub _

theorem processRxSingleFrame_local (data : Mem) (n : Nat) (s : State) :
    OnlyChannel ctx.channelId (.rx ctx.sduId) s (processRxSingleFrame b env ctx data n s) := by
  simp only [processRxSingleFrame]
  split
  · rename_i refused
    rw [getConnectionAcceptance_refused refused]
    exact fdCallOut_local data n s
  · rename_i accepted
    have started := (getConnectionAcceptance_local accepted).setChannel
    apply OnlyChannel.setSub
    split
    · split
      · apply OnlyChannel.pduRConfirmation (by rfl)
        exact ((started _).emit (.here rfl rfl)).emit (.here rfl rfl)
      · exact OnlyChannel.pduRConfirmation (by rfl) _ _ ((started _).emit (.here rfl rfl))
    · exact OnlyChannel.pduRConfirmation (by rfl) _ _ ((started _).emit (.here rfl rfl))
    · exact (started _).emit (.here rfl rfl)

theorem processRxFirstFrame_local (data : Mem) (n : Nat) (s : State) :
    OnlyChannel ctx.channelId (.rx ctx.sduId) s (processRxFirstFrame b env ctx data n s) := by
  simp only [processRxFirstFrame]
  split
  · rename_i refused
    rw [getConnectionAcceptance_refused refused]
    exact fdCallOut_local data n s
  · rename_i accepted
    have started := (getConnectionAcceptance_local accepted).setChannel
    split
    · split
      · split
        · refine OnlyChannel.setSub (OnlyChannel.setChannel ?_ _) _
          refine OnlyChannel.emit ?_ (.nowhere rfl rfl)
          apply OnlyChannel.pduRConfirmation (by rfl)
          exact ((started _).emit (.here rfl rfl)).emit (.here rfl rfl)
        · exact ((((started _).emit (.here rfl rfl)).emit (.here rfl rfl)).setChannel _).setSub _
      · refine OnlyChannel.setSub (OnlyChannel.setChannel ?_ _) _
        exact OnlyChannel.pduRConfirmation (by rfl) _ _ ((started _).emit (.here rfl rfl))
    · exact (((started _).emit (.here rfl rfl)).setChannel _).setSub _
    · exact (((started _).emit (.here rfl rfl)).setChannel _).setSub _

theorem prepareFcTransmit_local {c : Nat} {z : Sdu} (before : OnlyChannel c z s s') :
    OnlyChannel c z s (prepareFcTransmit c s') := by
  simp only [prepareFcTransmit]
  split
  · exact (before.setChannel _).setSub _
  · exact before

theorem processRxConsecutiveFrame_local (data : Mem) (s : State) :
    OnlyChannel ctx.channelId (.rx ctx.sduId) s
      (processRxConsecutiveFrame b cfg env ctx data s) := by
  have told {s' : State} (result : StdReturn)
      (before : OnlyChannel ctx.channelId (.rx ctx.sduId) s s') :
      OnlyChannel ctx.channelId (.rx ctx.sduId) s
        (pduRConfirmation .rx s' ctx.channelId ctx.sduId ctx.pduRPduHandleId result) :=
    OnlyChannel.pduRConfirmation (by rfl) _ _ before
  have stamped := (OnlyChannel.refl ctx.channelId (.rx ctx.sduId) s).setChannel
  simp only [processRxConsecutiveFrame]
  split
  · split
    · exact ((told _ (.refl _ _ s)).emit (.nowhere rfl rfl)).setSub _
    · split
      · split
        · split
          · apply prepareFcTransmit_local
            exact (((stamped _).emit (.here rfl rfl)).emit (.here rfl rfl)).setChannel _
          · refine (told _ (prepareFcTransmit_local ?_)).setSub _
            exact (((stamped _).emit (.here rfl rfl)).emit (.here rfl rfl)).setChannel _
        · exact (told _ ((stamped _).emit (.here rfl rfl))).setSub _
      · exact (told _ (.refl _ _ s)).setSub _
  · exact .refl _ _ s

theorem processRxFlowControlFrame_local (data : Mem) (s : State) :
    OnlyChannel ctx.channelId (.tx ctx.sduId) s (processRxFlowControlFrame b cfg ctx data s) := by
  simp only [processRxFlowControlFrame]
  split
  · split
    · refine OnlyChannel.setSub (OnlyChannel.emit ?_ (.nowhere rfl rfl)) _
      exact OnlyChannel.pduRConfirmation (by rfl) _ _ (.refl _ _ s)
    · split
      · exact OnlyChannel.setChannel (.refl _ _ s) _
      · split
        · exact ((OnlyChannel.setChannel (.refl _ _ s) _).setSub _).emit (.here rfl rfl)
        · refine OnlyChannel.setSub ?_ _
          exact OnlyChannel.pduRConfirmation (by rfl) _ _ (OnlyChannel.setChannel (.refl _ _ s) _)
  · exact .refl _ _ s

def RxContext.sdu (ctx : RxContext) : Sdu :=
  if ctx.frameType = .flowControl then .tx ctx.sduId else .rx ctx.sduId

theorem processFrame_local (data : Mem) (n : Nat) (s : State) :
    OnlyChannel ctx.channelId ctx.sdu s (processFrame b cfg env ctx data n s) := by
  cases type : ctx.frameType with
  | single =>
      simp only [processFrame, RxContext.sdu, type]
      exact processRxSingleFrame_local data n s
  | first =>
      simp only [processFrame, RxContext.sdu, type]
      exact processRxFirstFrame_local data n s
  | consecutive =>
      simp only [processFrame, RxContext.sdu, type]
      exact processRxConsecutiveFrame_local data s
  | flowControl =>
      simp only [processFrame, RxContext.sdu, type]
      exact processRxFlowControlFrame_local data s

theorem lengthError_local (s : State) :
    OnlyChannel ctx.channelId ctx.sdu s (lengthError ctx s) := by
  have told : OnlyChannel ctx.channelId ctx.sdu s
      (pduRConfirmation (if ctx.frameType = .flowControl then PduRApi.tx else .rx) s ctx.channelId
        ctx.sduId ctx.pduRPduHandleId .notOk) := by
    refine OnlyChannel.pduRConfirmation ?_ _ _ (.refl _ _ s)
    unfold RxContext.sdu
    split <;> rfl
  have ended : OnlyChannel ctx.channelId ctx.sdu s
      (if s.subState ctx.channelId = .txWaitForFlowControlFrame ∨
          s.subState ctx.channelId = .rxWaitForConsecutiveFrame then
        (pduRConfirmation (if ctx.frameType = .flowControl then PduRApi.tx else .rx) s ctx.channelId
          ctx.sduId ctx.pduRPduHandleId .notOk).setSub ctx.channelId .idle
      else s) := by
    split
    · exact told.setSub _
    · exact .refl _ _ s
  simp only [lengthError]
  split
  · exact ended.emit (.nowhere rfl rfl)
  · exact ended.emit (.nowhere rfl rfl)

end Calls

section Queue
variable {b : Build} {cfg : Config b} {env : Env} {s : State}

structure Drained (b : Build) (q : BurstQ) : Prop where
  tail : q.tail < 256
  empty : b.schMSupport = false → q.head = q.tail

theorem executeAll_local (cs : List Nat) (s : State) :
    (cs.foldl (executeState b cfg env) s).burstQ = s.burstQ ∧
      (cs.foldl (executeState b cfg env) s).mainState = s.mainState := by
  induction cs generalizing s with
  | nil => exact ⟨rfl, rfl⟩
  | cons c cs ih =>
      have turn : OnlyChannel c _ s (executeState b cfg env s c) := executeState_local s c
      exact ⟨(ih _).1.trans turn.burstQ, (ih _).2.trans turn.mainState⟩

theorem getFromQ_put {q q' : BurstQ} {c : Nat} (drained : Drained b q)
    (direct : b.schMSupport = false) (put : putInQ b q c = some q') :
    ∃ rest, getFromQ b q' = some (c, rest) ∧ Drained b rest := by
  have empty := drained.empty direct
  have tail := drained.tail
  simp only [putInQ] at put
  split at put
  · obtain rfl := Option.some.inj put
    have filled : (u8 (q.tail + 1) : Int) - q.tail ≠ 0 := by
      simp only [u8]
      omega
    refine ⟨{ q with
      head := u8 (q.head + 1)
      tail := u8 (q.tail + 1)
      queue := Function.update q.queue (u8 (q.tail + 1) % b.burstQueueSize) c }, ?_,
      Nat.mod_lt _ (by decide), fun _ => by simp [empty]⟩
    simp only [getFromQ, empty, Function.update_self, if_pos filled]
  · cases put

/-- In burst mode a ready channel takes its turn at once, or the scheduler is told. -/
inductive BurstOutcome (b : Build) (cfg : Config b) (env : Env) (c : Nat) (s s' : State) : Prop
  | none (same : s' = s) (idle : burstReady b cfg c s = false ∨ b.schMSupport = true ∨
      b.burstQueueSize = 0)
  | scheduled (point : TriggerPoint) (q : BurstQ) (support : b.schMSupport = true)
      (tail : q.tail < 256) (told : s' = { s with burstQ := q }.emit (.activateMainFunction point))
  | turn (q : BurstQ) (ready : burstReady b cfg c s = true) (direct : b.schMSupport = false)
      (room : b.burstQueueSize ≠ 0) (drained : Drained b q)
      (taken : s' = executeState b cfg env { s with burstQ := q } c)

theorem burstMainFunction_outcome (drained : Drained b s.burstQ) (running : s.mainState = true)
    (c : Nat) (point : TriggerPoint) :
    BurstOutcome b cfg env c s (burstMainFunction b cfg env c point s) := by
  simp only [burstMainFunction]
  split
  · rename_i ready
    split
    · rename_i full
      refine .none rfl (Or.inr ?_)
      cases support : b.schMSupport with
      | true => exact Or.inl rfl
      | false =>
          have empty := drained.empty support
          simp only [putInQ, empty, sub_self] at full
          split at full
          · cases full
          · omega
    · rename_i q put
      split
      · rename_i support
        refine .scheduled point q support ?_ rfl
        simp only [putInQ] at put
        split at put
        · obtain rfl := Option.some.inj put
          exact Nat.mod_lt _ (by decide)
        · cases put
      · rename_i direct
        have direct : b.schMSupport = false := by simpa using direct
        obtain ⟨rest, got, drained'⟩ := getFromQ_put drained direct put
        have burst : b.txBurstMode = true := by
          simp only [burstReady, Bool.and_eq_true] at ready
          exact ready.1.1.1
        refine .turn rest ready direct ?_ drained' ?_
        · intro none
          have empty := drained.empty direct
          simp [putInQ, empty, none] at put
        · simp [mainFunction, running, burst, got]
  · rename_i waiting
    exact .none rfl (Or.inl (by simpa using waiting))

theorem BurstOutcome.drained {c : Nat} {s' : State} (outcome : BurstOutcome b cfg env c s s')
    (before : Drained b s.burstQ) : Drained b s'.burstQ := by
  cases outcome with
  | none same => exact same ▸ before
  | scheduled point q support tail told =>
      rw [told]
      exact ⟨tail, fun direct => by simp [support] at direct⟩
  | turn q ready direct room drained taken =>
      rw [taken, (executeState_local _ c).burstQ]
      exact drained

theorem devCheck_burstQ {id total : Nat} {api : ApiId} {invalidId : ErrorId}
    {body : State → State} (kept : (body s).burstQ = s.burstQ) :
    (devCheck s id total api invalidId body).burstQ = s.burstQ := by
  simp only [devCheck]
  split
  · split
    · rfl
    · exact kept
  · rfl

theorem devCheck_drained {id total : Nat} {api : ApiId} {invalidId : ErrorId}
    {body : State → State} (before : Drained b s.burstQ)
    (kept : s.mainState = true → Drained b (body s).burstQ) :
    Drained b (devCheck s id total api invalidId body).burstQ := by
  simp only [devCheck]
  split
  · rename_i running
    split
    · exact before
    · exact kept running
  · exact before

theorem confirmFrame_kept (p : Nat) (s : State) :
    (confirmFrame b cfg p s).burstQ = s.burstQ ∧
      (confirmFrame b cfg p s).mainState = s.mainState := by
  simp only [confirmFrame]
  split
  · split
    · simp only [fcTxConfirmation]
      split <;> exact ⟨rfl, rfl⟩
    · simp only [dataTxConfirmation, prepareFcRecieve]
      split
      · exact ⟨rfl, rfl⟩
      · split
        · exact ⟨rfl, rfl⟩
        · split <;> exact ⟨rfl, rfl⟩
    · exact ⟨rfl, rfl⟩
  · exact ⟨rfl, rfl⟩

theorem txConfirmation_drained (p : Nat) (before : Drained b s.burstQ) :
    Drained b (txConfirmation b cfg env p s).burstQ := by
  refine devCheck_drained before fun running => ?_
  obtain ⟨queue, main⟩ : (confirmFrame b cfg p s).burstQ = s.burstQ ∧
    (confirmFrame b cfg p s).mainState = s.mainState := confirmFrame_kept p s
  have drained : Drained b (confirmFrame b cfg p s).burstQ := queue ▸ before
  exact (burstMainFunction_outcome drained (main.trans running) _ _).drained drained

theorem receiveFrame_drained (p : Nat) (info : PduInfo) (running : s.mainState = true)
    (before : Drained b s.burstQ) : Drained b (receiveFrame b cfg env p info s).burstQ := by
  simp only [receiveFrame]
  split
  · exact before
  · split
    · rw [(lengthError_local s).burstQ]
      exact before
    · generalize (rxSduLengthCheck b s _ _ info.sduLength).1 = ctx
      have processed (data : Mem) :
          OnlyChannel ctx.channelId ctx.sdu s (processFrame b cfg env ctx data info.sduLength s) :=
        processFrame_local data info.sduLength s
      have drained (data : Mem) :
          Drained b (processFrame b cfg env ctx data info.sduLength s).burstQ :=
        (processed data).burstQ ▸ before
      have main := (processed (info.sduDataPtr.getD fun _ => 0)).mainState.trans running
      exact (burstMainFunction_outcome (drained _) main _ _).drained (drained _)

theorem mainFunction_drained (before : Drained b s.burstQ) :
    Drained b (mainFunction b cfg env s).burstQ := by
  simp only [mainFunction]
  split
  · split
    · rename_i c q got
      rw [(executeState_local _ c).burstQ]
      split at got
      · simp only [getFromQ] at got
        split at got
        · rename_i filled
          simp only [Option.some.injEq, Prod.mk.injEq] at got
          obtain ⟨-, rfl⟩ := got
          refine ⟨before.tail, fun direct => ?_⟩
          have empty := before.empty direct
          omega
        · cases got
      · cases got
    · have kept : (executeAll b cfg env s).burstQ = s.burstQ := (executeAll_local _ s).1
      have counted : (incrementCounter b (executeAll b cfg env s)).burstQ = s.burstQ := by
        simp only [incrementCounter]
        split <;> exact kept
      exact counted ▸ before
  · exact before

theorem resetModule_drained (cfg : Config b) (s : State) : Drained b (resetModule b cfg s).burstQ :=
  ⟨by simp [resetModule], fun _ => rfl⟩

theorem step_drained (op : Op) (before : Drained b s.burstQ) :
    Drained b (step b cfg env s op).burstQ := by
  cases op with
  | transmit x info =>
      have kept : (transmit b cfg x info s).burstQ = s.burstQ := by
        apply devCheck_burstQ
        dsimp only
        repeat' split
        all_goals rfl
      exact kept ▸ before
  | cancelTransmit x =>
      have kept : (cancelTransmit b cfg x s).burstQ = s.burstQ := by
        apply devCheck_burstQ
        dsimp only
        repeat' split
        all_goals rfl
      exact kept ▸ before
  | cancelReceive r =>
      have kept : (cancelReceive b cfg r s).burstQ = s.burstQ := by
        apply devCheck_burstQ
        dsimp only
        repeat' split
        all_goals rfl
      exact kept ▸ before
  | changeParameter r parameter value =>
      have kept : (changeParameter b cfg r parameter value s).burstQ = s.burstQ := by
        apply devCheck_burstQ
        dsimp only
        repeat' split
        all_goals rfl
      exact kept ▸ before
  | mainFunction => exact mainFunction_drained before
  | txConfirmation p => exact txConfirmation_drained p before
  | rxIndication p info =>
      refine devCheck_drained before fun running => ?_
      cases info with
      | none => exact before
      | some info => exact receiveFrame_drained p info running before
  | tick => exact before
  | init => exact resetModule_drained cfg s
  | shutdown =>
      simp only [step, shutdown]
      split
      · exact resetModule_drained cfg s
      · exact before

theorem run_drained (s : State) (ops : List Op) :
    Drained b (run (step b cfg env) (start b cfg s) ops).burstQ := by
  have preserved : ∀ s op, Drained b s.burstQ → Drained b (step b cfg env s op).burstQ :=
    fun _ op before => step_drained op before
  have initial : Drained b (start b cfg s).burstQ := resetModule_drained cfg _
  generalize start b cfg s = first at initial ⊢
  exact run_invariant preserved ops initial

end Queue

end AnchorNode.CanTp
