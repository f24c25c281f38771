import AnchorNode.CanTp.FramePaths
import AnchorNode.CanTp.Locality

/-! What the turns of the other channels leave alone: a channel, its N-PDU and its parameters. -/

namespace AnchorNode.CanTp

open AnchorNode.Lib

variable {b : Build} {cfg : Config b} {env : Env} {s s' s'' : State} {c p q : Nat}

section Entries

structure RecordsOnly (p : Nat) (s s' : State) : Prop where
  paramPair : s'.paramPair = s.paramPair
  entries : ∀ q, q ≠ p → s'.txConfirmationChannel q = s.txConfirmationChannel q

namespace RecordsOnly

theorem refl (p : Nat) (s : State) : RecordsOnly p s s := ⟨rfl, fun _ _ => rfl⟩

theorem still (before : RecordsOnly p s s')
    (table : s''.txConfirmationChannel = s'.txConfirmationChannel)
    (paramPair : s''.paramPair = s'.paramPair) : RecordsOnly p s s'' := by
  refine ⟨paramPair.trans before.paramPair, fun q other => ?_⟩
  rw [table]
  exact before.entries q other

theorem setConfirmation (before : RecordsOnly p s s') (v : Nat) :
    RecordsOnly p s (s'.setConfirmation p v) := by
  refine ⟨before.paramPair, fun q other => ?_⟩
  rw [State.setConfirmation_txConfirmationChannel, Function.update_of_ne other]
  exact before.entries q other

end RecordsOnly

variable {ctx : TxContext}

theorem pduRConfirmation_records {api : PduRApi} {d sdu id : Nat} {result : StdReturn}
    (before : RecordsOnly p s s') :
    RecordsOnly p s (pduRConfirmation api s' d sdu id result) := by
  cases api with
  | tx => exact before.still rfl rfl
  | rx => exact before.still rfl rfl

theorem endWithError_records (error : ErrorId) (before : RecordsOnly p s s') :
    RecordsOnly p s (endWithError ctx error s') :=
  (pduRConfirmation_records before).still rfl rfl

theorem pageConfirmation_records (before : RecordsOnly p s s') :
    RecordsOnly p s (pageConfirmation env ctx s') := by
  simp only [pageConfirmation]
  split
  · exact before.still rfl rfl
  · exact before

theorem getTxBuffer_records (before : RecordsOnly p s s') :
    RecordsOnly p s (getTxBuffer b env ctx s') := by
  simp only [getTxBuffer]
  split
  · split
    · have polled : RecordsOnly p s (s'.emit (.copyTxData ctx.channelId ctx.sduId
          ctx.pduRPduHandleId [] (env.copyTxData s'.log ctx.pduRPduHandleId 0).1
          (env.copyTxData s'.log ctx.pduRPduHandleId 0).2.2)) :=
        before.still rfl rfl
      split
      · split
        · exact polled.still rfl rfl
        · split
          · exact pageConfirmation_records polled
          · exact polled
      · exact polled
      · exact endWithError_records _ polled
    · exact before
  · split
    · exact endWithError_records _ before
    · exact before

theorem createFrame_records (before : RecordsOnly p s s') (d : Nat) :
    RecordsOnly p s (createFrame b cfg env s' d).1 := by
  have same : (createFrame b cfg env s' d).1.txConfirmationChannel = s'.txConfirmationChannel ∧
      (createFrame b cfg env s' d).1.paramPair = s'.paramPair := by
    simp only [createFrame]
    split
    · simp only [createTxSingleFrame]
      split
      · split <;> exact ⟨rfl, rfl⟩
      · exact ⟨rfl, rfl⟩
    · simp only [createTxFirstFrame]
      split
      · split <;> exact ⟨rfl, rfl⟩
      · exact ⟨rfl, rfl⟩
    · simp only [createTxConsecutiveFrame]
      split
      · split <;> exact ⟨rfl, rfl⟩
      · exact ⟨rfl, rfl⟩
    · simp only [createTxFlowControlFrame]
      split
      · split <;> exact ⟨rfl, rfl⟩
      · exact ⟨rfl, rfl⟩
  exact before.still same.1 same.2

structure TxContext.Sends (ctx : TxContext) (c p : Nat) : Prop where
  channel : ctx.channelId = c
  pdu : ctx.txConfirmationId = p

theorem canIfTransmit_records (own : ctx.Sends c p) (before : RecordsOnly p s s') :
    RecordsOnly p s (canIfTransmit b cfg env ctx s') := by
  have created : RecordsOnly p s (createFrame b cfg env s' c).1 := createFrame_records before c
  simp only [canIfTransmit, own.channel, own.pdu]
  split
  · exact created
  · have recorded := created.setConfirmation c
    split
    · refine RecordsOnly.setConfirmation (endWithError_records _ ?_) _
      exact recorded.still rfl rfl
    · exact recorded.still rfl rfl

theorem sendFrame_records (own : ctx.Sends c p) (pciId : Npci) (before : RecordsOnly p s s') :
    RecordsOnly p s (sendFrame b cfg env ctx pciId s') := by
  simp only [sendFrame]
  refine RecordsOnly.still (canIfTransmit_records own ?_) rfl rfl
  exact before.still rfl rfl

theorem txSendConsecutiveFrame_records (s : State) (c : Nat) :
    RecordsOnly (cfg.txSdu (s.channel c).activeSduId).txConfirmationId s
      (txSendConsecutiveFrame b cfg env s c) := by
  simp only [txSendConsecutiveFrame]
  split
  · generalize context : txContext b cfg s c _ = ctx
    have own : ctx.Sends c (cfg.txSdu (s.channel c).activeSduId).txConfirmationId :=
      context ▸ ⟨rfl, rfl⟩
    have polled (p : Nat) : RecordsOnly p s (getTxBuffer b env ctx s) :=
      getTxBuffer_records (.refl p s)
    split
    · exact sendFrame_records own _ (polled _)
    · exact polled _
  · exact .refl _ s

theorem requestAccepted_records (s : State) (c : Nat) :
    RecordsOnly (cfg.txSdu (s.channel c).activeSduId).txConfirmationId s
      (requestAccepted b cfg env s c) := by
  simp only [requestAccepted]
  split
  · generalize context : txContext b cfg s c _ = ctx
    have own : ctx.Sends c (cfg.txSdu (s.channel c).activeSduId).txConfirmationId :=
      context ▸ ⟨rfl, rfl⟩
    have polled (p : Nat) (ch : Channel) :
        RecordsOnly p s (getTxBuffer b env ctx (s.setChannel c ch)) :=
      getTxBuffer_records ((RecordsOnly.refl p s).still rfl rfl)
    split
    · exact sendFrame_records own _ (polled _ _)
    · exact polled _ _
  · split
    · refine RecordsOnly.setConfirmation ?_ _
      exact (RecordsOnly.refl _ s).still rfl rfl
    · exact .refl _ s

theorem fcTransmit_records (own : ctx.Sends c p) (ready : Bool)
    (before : RecordsOnly p s s') :
    RecordsOnly p s (fcTransmit b cfg env ctx ready s') := by
  simp only [fcTransmit]
  split
  · split
    · split
      · exact before.still rfl rfl
      · refine RecordsOnly.still (pduRConfirmation_records ?_) rfl rfl
        exact before.still rfl rfl
    · refine canIfTransmit_records own ?_
      exact before.still rfl rfl
  · exact before

theorem fcWaitRound_records (ready : Bool) (before : RecordsOnly p s s') :
    RecordsOnly p s (fcWaitRound b cfg ctx ready s').2 := by
  simp only [fcWaitRound]
  split
  · split
    · exact before.still rfl rfl
    · exact endWithError_records _ before
  · exact before

theorem rxSendFlowControlFrame_records (s : State) (c : Nat) :
    RecordsOnly (cfg.rxSdu (s.channel c).activeSduId).txConfirmationId s
      (rxSendFlowControlFrame b cfg env s c) := by
  have started := RecordsOnly.refl (cfg.rxSdu (s.channel c).activeSduId).txConfirmationId s
  have own (n : Nat) : TxContext.Sends { rxContext b cfg s c 0 with remBufSize := n } c
    (cfg.rxSdu (s.channel c).activeSduId).txConfirmationId := ⟨rfl, rfl⟩
  simp only [rxSendFlowControlFrame]
  split
  · split
    · apply fcTransmit_records (own _)
      apply fcWaitRound_records
      split
      · exact endWithError_records _ (started.still rfl rfl)
      · split
        · exact started.still rfl rfl
        · exact started.still rfl rfl
    · exact fcTransmit_records (own 0) _ (started.still rfl rfl)
  · exact .refl _ s

def servedPdu (cfg : Config b) (sub : SubState) (active : Nat) : Nat :=
  match sub.state with
  | .reception => (cfg.rxSdu active).txConfirmationId
  | _ => (cfg.txSdu active).txConfirmationId

theorem executeState_records (s : State) (c : Nat) :
    RecordsOnly (servedPdu cfg (s.subState c) (s.channel c).activeSduId) s
      (executeState b cfg env s c) := by
  unfold executeState
  split <;> rename_i sub <;> rw [sub]
  · exact .refl _ s
  · simp only [txTransmissionRequestAccepted, sub, ↓reduceIte, Option.getD_some]
    exact requestAccepted_records s c
  · simp only [txWaitForTransmitConfirmation]
    split
    · exact (endWithError_records _ (.refl _ s)).setConfirmation _
    · exact .refl _ s
  · simp only [txWaitForFlowControlFrame]
    split
    · exact endWithError_records _ (.refl _ s)
    · exact .refl _ s
  · exact txSendConsecutiveFrame_records s c
  · simp only [rxReceptionRequestAccepted]
    split
    · exact endWithError_records _ (.refl _ s)
    · exact .refl _ s
  · exact rxSendFlowControlFrame_records s c
  · simp only [rxWaitForFcTransmitConfirmation]
    split
    · exact (endWithError_records _ (.refl _ s)).setConfirmation _
    · exact .refl _ s
  · simp only [rxWaitForConsecutiveFrame]
    split
    · exact endWithError_records _ (.refl _ s)
    · exact .refl _ s

end Entries

section Apart

structure Apart (cfg : Config b) (c p : Nat) (s s' : State) : Prop where
  subState : s'.subState c = s.subState c
  channel : s'.channel c = s.channel c
  entry : s'.txConfirmationChannel p = s.txConfirmationChannel p
  paramPair : ∀ r, (cfg.rxSdu r).channelId = c → s'.paramPair r = s.paramPair r
  mainState : s'.mainState = s.mainState
  log : ∃ events, s'.log = s.log ++ events ∧ ∀ e ∈ events, e.channel? ≠ some c

theorem apart_of_same (cfg : Config b) (c p : Nat) {events : List Event}
    (subState : s'.subState = s.subState) (channel : s'.channel = s.channel)
    (table : s'.txConfirmationChannel = s.txConfirmationChannel)
    (paramPair : s'.paramPair = s.paramPair) (mainState : s'.mainState = s.mainState)
    (log : s'.log = s.log ++ events) (quiet : ∀ e ∈ events, e.channel? = none) :
    Apart cfg c p s s' where
  subState := congrFun subState c
  channel := congrFun channel c
  entry := congrFun table p
  paramPair r _ := congrFun paramPair r
  mainState := mainState
  log := ⟨events, log, fun e member => by simp [quiet e member]⟩

theorem Apart.refl (cfg : Config b) (c p : Nat) (s : State) : Apart cfg c p s s :=
  apart_of_same cfg c p rfl rfl rfl rfl rfl (List.append_nil _).symm (by simp)

theorem Apart.trans (first : Apart cfg c p s s') (second : Apart cfg c p s' s'') :
    Apart cfg c p s s'' := by
  obtain ⟨front, log, quiet⟩ := first.log
  obtain ⟨back, log', quiet'⟩ := second.log
  refine ⟨second.subState.trans first.subState, second.channel.trans first.channel,
    second.entry.trans first.entry,
    fun r own => (second.paramPair r own).trans (first.paramPair r own),
    second.mainState.trans first.mainState, front ++ back, ?_, ?_⟩
  · rw [log', log, List.append_assoc]
  · intro e member
    rcases List.mem_append.mp member with early | late
    · exact quiet e early
    · exact quiet' e late

def KeepsOff (cfg : Config b) (p : Nat) (s : State) (d : Nat) : Prop :=
  (s.subState d).state ≠ .idle → servedPdu cfg (s.subState d) (s.channel d).activeSduId ≠ p

def Alone (cfg : Config b) (c p : Nat) (s : State) : Prop :=
  ∀ d < cfg.numberOfChannels, d ≠ c → KeepsOff cfg p s d

instance (cfg : Config b) (c p : Nat) (s : State) : Decidable (Alone cfg c p s) :=
  inferInstanceAs (Decidable (∀ d < cfg.numberOfChannels, d ≠ c → (s.subState d).state ≠ .idle →
    servedPdu cfg (s.subState d) (s.channel d).activeSduId ≠ p))

theorem executeState_apart (env : Env) {d : Nat} (other : d ≠ c)
    (keepsOff : KeepsOff cfg p s d) :
    Apart cfg c p s (executeState b cfg env s d) := by
  by_cases idle : s.subState d = .idle
  · simp only [executeState, idle]
    exact .refl cfg c p s
  · have turn : OnlyChannel d _ s (executeState b cfg env s d) := executeState_local s d
    have records : RecordsOnly _ s (executeState b cfg env s d) := executeState_records s d
    have foreign := keepsOff fun state => idle (by
      cases sub : s.subState d <;> simp [sub, SubState.state] at state ⊢)
    obtain ⟨events, log, here⟩ := turn.log
    refine ⟨turn.subState c other.symm, turn.channel c other.symm,
      records.entries p foreign.symm, fun r _ => congrFun records.paramPair r, turn.mainState,
      events, log, ?_⟩
    · rintro e member own
      exact other ((here e member).channel c own).symm

theorem executeAll_apart (env : Env) :
    ∀ (ds : List Nat) (s : State), ds.Nodup → c ∉ ds → (∀ d ∈ ds, KeepsOff cfg p s d) →
      Apart cfg c p s (ds.foldl (executeState b cfg env) s) ∧
        (ds.foldl (executeState b cfg env) s).ticks = s.ticks ∧
        ∀ d ∉ ds, (ds.foldl (executeState b cfg env) s).subState d = s.subState d ∧
          (ds.foldl (executeState b cfg env) s).channel d = s.channel d := by
  intro ds
  induction ds with
  | nil => exact fun s _ _ _ => ⟨.refl cfg c p s, rfl, fun _ _ => ⟨rfl, rfl⟩⟩
  | cons d ds ih =>
      intro s distinct absent keepsOff
      obtain ⟨fresh, distinct⟩ := List.nodup_cons.mp distinct
      have other : d ≠ c := by
        rintro rfl
        exact absent (List.mem_cons_self ..)
      have turn : OnlyChannel d _ s (executeState b cfg env s d) := executeState_local s d
      have first := executeState_apart env other (keepsOff d (List.mem_cons_self ..))
      obtain ⟨rest, ticks, kept⟩ := ih (executeState b cfg env s d) distinct
        (fun member => absent (List.mem_cons_of_mem _ member)) fun d' member => by
          have apart : d' ≠ d := fun same => fresh (same ▸ member)
          rw [KeepsOff, turn.subState d' apart, turn.channel d' apart]
          exact keepsOff d' (List.mem_cons_of_mem _ member)
      refine ⟨first.trans rest, ticks.trans turn.ticks, fun d' absent' => ?_⟩
      obtain ⟨apart, beyond⟩ := List.ne_and_not_mem_of_not_mem_cons absent'
      exact ⟨(kept d' beyond).1.trans (turn.subState d' apart),
        (kept d' beyond).2.trans (turn.channel d' apart)⟩

end Apart

section Turns

def HasTurn (b : Build) (s : State) (c : Nat) : Prop :=
  ∀ d q, (if b.txBurstMode then getFromQ b s.burstQ else none) = some (d, q) → d = c

theorem hasTurn_plain (plain : b.txBurstMode = false) (s : State) (c : Nat) : HasTurn b s c := by
  rintro d q taken
  rw [plain] at taken
  cases taken

structure TakesTurn (cfg : Config b) (env : Env) (c p : Nat) (s s' : State) : Prop where
  turn : ∃ s₁, Apart cfg c p s s₁ ∧ s₁.ticks = s.ticks ∧
    Apart cfg c p (executeState b cfg env s₁ c) s'

theorem range_around {c n : Nat} (inside : c < n) :
    ∃ before behind, List.range n = before ++ c :: behind ∧ c ∉ before ∧ c ∉ behind ∧
      before.Nodup ∧ behind.Nodup ∧ (∀ d ∈ before, d < n) ∧
      ∀ d ∈ behind, d < n ∧ d ∉ before := by
  obtain ⟨before, behind, split⟩ := List.append_of_mem (List.mem_range.mpr inside)
  have distinct : (before ++ c :: behind).Nodup := split ▸ List.nodup_range
  have valid (d : Nat) (member : d ∈ before ++ c :: behind) : d < n := by
    rw [← split] at member
    exact List.mem_range.mp member
  obtain ⟨first, second, apart⟩ := List.nodup_append.mp distinct
  obtain ⟨absent, second⟩ := List.nodup_cons.mp second
  refine ⟨before, behind, split, fun member => ?_, absent, first, second,
    fun d member => valid d (by simp [member]),
    fun d member => ⟨valid d (by simp [member]), fun early => ?_⟩⟩
  · exact apart c member c (List.mem_cons_self ..) rfl
  · exact apart d early d (List.mem_cons_of_mem _ member) rfl

theorem executeAll_turn (env : Env) (bound : c < cfg.numberOfChannels)
    (alone : Alone cfg c p s) : TakesTurn cfg env c p s (executeAll b cfg env s) := by
  obtain ⟨before, behind, split, unmet, unmet', distinct, distinct', valid, valid'⟩ :=
    range_around bound
  have other {d : Nat} {ds : List Nat} (absent : c ∉ ds) (member : d ∈ ds) : d ≠ c :=
    fun same => absent (same ▸ member)
  obtain ⟨first, ticks, kept⟩ := executeAll_apart env before s distinct unmet
    fun d member => alone d (valid d member) (other unmet member)
  simp only [executeAll, split, List.foldl_append, List.foldl_cons]
  generalize before.foldl (executeState b cfg env) s = s₁ at first ticks kept ⊢
  have turn : OnlyChannel c _ s₁ (executeState b cfg env s₁ c) := executeState_local s₁ c
  have last := executeAll_apart env behind (executeState b cfg env s₁ c) distinct' unmet'
    fun d member => by
      have apart := other unmet' member
      obtain ⟨sub, record⟩ := kept d (valid' d member).2
      rw [KeepsOff, turn.subState d apart, turn.channel d apart, sub, record]
      exact alone d (valid' d member).1 apart
  exact ⟨s₁, first, ticks, last.1⟩

theorem mainFunction_turns (env : Env) (bound : c < cfg.numberOfChannels)
    (running : s.mainState = true) (queue : QueueOk b cfg s.burstQ) (alone : Alone cfg c p s) :
    TakesTurn cfg env c p s (mainFunction b cfg env s) ∨
      (¬ HasTurn b s c ∧ Apart cfg c p s (mainFunction b cfg env s)) := by
  have queued (q : BurstQ) : Apart cfg c p s { s with burstQ := q } :=
    apart_of_same cfg c p rfl rfl rfl rfl rfl (List.append_nil _).symm (by simp)
  cases taken : (if b.txBurstMode then getFromQ b s.burstQ else none) with
  | none =>
      have called : mainFunction b cfg env s = incrementCounter b (executeAll b cfg env s) := by
        rw [mainFunction, if_pos running, taken]
      obtain ⟨s₁, first, ticks, last⟩ := executeAll_turn env bound alone
      refine Or.inl ⟨s₁, first, ticks, ?_⟩
      rw [called, incrementCounter]
      refine last.trans ?_
      split
      · exact apart_of_same cfg c p rfl rfl rfl rfl rfl (List.append_nil _).symm (by simp)
      · exact .refl cfg c p _
  | some got =>
      obtain ⟨d, q⟩ := got
      have called : mainFunction b cfg env s = executeState b cfg env { s with burstQ := q } d := by
        rw [mainFunction, if_pos running, taken]
      have valid : d < cfg.numberOfChannels := by
        split at taken
        · exact (getFromQ_ok taken queue).1
        · cases taken
      rw [called]
      by_cases own : d = c
      · subst own
        exact Or.inl ⟨_, queued q, rfl, .refl cfg d p _⟩
      · exact Or.inr ⟨fun turn => own (turn d q taken),
          (queued q).trans (executeState_apart env own (alone d valid own))⟩

end Turns

section Timers

def elapsedTicks (b : Build) (s : State) (c : Nat) : Nat :=
  (getElapsedValue b s (s.channel c).initialTicks).2

def TimerOver (cfg : Config b) (ch : Channel) (elapsed : Nat) : SubState → Prop
  | .idle => False
  | .txTransmissionRequestAccepted => ch.txBufferStatus ≠ .available ∧
      (cfg.timeOut (cfg.txSdu ch.activeSduId).timeOutId).csCrTicks ≤ elapsed
  | .txSendConsecutiveFrame => ch.txBufferStatus ≠ .available ∧
      (cfg.timeOut (cfg.txSdu ch.activeSduId).timeOutId).csCrTicks ≤ elapsed
  | .txWaitForTransmitConfirmation =>
    (cfg.timeOut (cfg.txSdu ch.activeSduId).timeOutId).asArTicks < elapsed
  | .txWaitForFlowControlFrame =>
    (cfg.timeOut (cfg.txSdu ch.activeSduId).timeOutId).bsBrTicks < elapsed
  | .rxReceptionRequestAccepted =>
    (cfg.timeOut (cfg.rxSdu ch.activeSduId).timeOutId).bsBrTicks < elapsed
  | .rxSendFc => False
  | .rxWaitForFcTransmitConfirmation =>
    (cfg.timeOut (cfg.rxSdu ch.activeSduId).timeOutId).asArTicks < elapsed
  | .rxWaitForConsecutiveFrame =>
    (cfg.timeOut (cfg.rxSdu ch.activeSduId).timeOutId).csCrTicks < elapsed

instance TimerOver.decidable (cfg : Config b) (ch : Channel) (elapsed : Nat) :
    DecidablePred (TimerOver cfg ch elapsed)
  | .idle => inferInstanceAs (Decidable False)
  | .txTransmissionRequestAccepted => inferInstanceAs (Decidable (_ ∧ _))
  | .txSendConsecutiveFrame => inferInstanceAs (Decidable (_ ∧ _))
  | .txWaitForTransmitConfirmation => inferInstanceAs (Decidable (_ < _))
  | .txWaitForFlowControlFrame => inferInstanceAs (Decidable (_ < _))
  | .rxReceptionRequestAccepted => inferInstanceAs (Decidable (_ < _))
  | .rxSendFc => inferInstanceAs (Decidable False)
  | .rxWaitForFcTransmitConfirmation => inferInstanceAs (Decidable (_ < _))
  | .rxWaitForConsecutiveFrame => inferInstanceAs (Decidable (_ < _))

/-- The timer that runs on channel `c` has expired. -/
def Expired (cfg : Config b) (s : State) (c : Nat) : Prop :=
  TimerOver cfg (s.channel c) (elapsedTicks b s c) (s.subState c)

instance (cfg : Config b) (s : State) (c : Nat) : Decidable (Expired cfg s c) :=
  inferInstanceAs (Decidable (TimerOver _ _ _ _))

theorem Apart.expired (apart : Apart cfg c p s s') (ticks : s'.ticks = s.ticks) :
    Expired cfg s' c ↔ Expired cfg s c := by
  simp only [Expired, elapsedTicks, getElapsedValue, apart.subState, apart.channel, ticks]

theorem elapsed_now (b : Build) (s : State) (value : Nat) :
    (getElapsedValue b s (getElapsedValue b s value).1).2 = 0 := by
  simp only [getElapsedValue, Nat.mod_mod]
  rw [Nat.add_comm, Nat.add_sub_assoc (Nat.le_refl _), Nat.sub_self, Nat.add_zero, Nat.mod_self]

end Timers

end AnchorNode.CanTp
