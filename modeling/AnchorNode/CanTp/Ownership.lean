import AnchorNode.CanTp.FramePaths

/-! Runs of the module: what all moves preserve holds after every run, and the active SDU
of a busy channel always belongs to that channel. -/

namespace AnchorNode.CanTp

open AnchorNode.Lib

variable {b : Build} {cfg : Config b} {env : Env} {lapse : Lapse → Prop}

/-- The call commits none of the forbidden lapses. -/
def Avoids (b : Build) (cfg : Config b) (env : Env) (forbidden : List Lapse) (s : State)
    (op : Op) : Prop :=
  ∀ l ∈ forbidden, ¬ StepLapse b cfg env s op l

theorem resetModule_queue (s : State) : QueueOk b cfg (resetModule b cfg s).burstQ := by
  refine ⟨by simp [resetModule], by simp [resetModule], ?_⟩
  intro k positive inside
  simp [resetModule] at inside
  omega

theorem start_queue (s : State) : QueueOk b cfg (start b cfg s).burstQ := resetModule_queue _

/-- What every move without the forbidden lapses preserves, and every reset, every run
without them preserves. -/
theorem run_moves (forbidden : List Lapse) (Inv : State → Prop)
    (moves : ∀ s s', Move b cfg (fun l => l ∉ forbidden) s s' → Inv s → Inv s')
    {s : State} {ops : List Op} (queue : QueueOk b cfg s.burstQ) (initial : Inv s)
    (resets : ∀ op ∈ ops, op.isCall = false → ∀ s, Inv s → Inv (step b cfg env s op))
    (avoids : Guarded (step b cfg env) (Avoids b cfg env forbidden) s ops) :
    Inv (run (step b cfg env) s ops) := by
  induction ops generalizing s with
  | nil => exact initial
  | cons op ops ih =>
      have later : ∀ o ∈ ops, o.isCall = false → ∀ s, Inv s → Inv (step b cfg env s o) :=
        fun o member => resets o (by simp [member])
      cases call : op.isCall with
      | true =>
          -- a call is a path of moves, and its lapses are those of the call
          have path : Path b cfg (fun l => l ∉ forbidden) s (step b cfg env s op) :=
            call_path queue call fun l lapsed member => avoids.1 l member lapsed
          exact ih (path.queue queue) (path.invariant Inv moves initial) later avoids.2
      | false =>
          refine ih ?_ (resets op (by simp) call s initial) later avoids.2
          cases op with
          | init => exact resetModule_queue s
          | shutdown =>
              simp only [step, shutdown]
              split
              · exact resetModule_queue s
              · exact queue
          | _ => cases call

theorem run_calls (forbidden : List Lapse) (Inv : State → Prop)
    (moves : ∀ s s', Move b cfg (fun l => l ∉ forbidden) s s' → Inv s → Inv s')
    {s : State} {ops : List Op} (queue : QueueOk b cfg s.burstQ) (initial : Inv s)
    (calls : ∀ op ∈ ops, op.isCall = true)
    (avoids : Guarded (step b cfg env) (Avoids b cfg env forbidden) s ops) :
    Inv (run (step b cfg env) s ops) := by
  refine run_moves forbidden Inv moves queue initial ?_ avoids
  intro op member reset
  rw [calls op member] at reset
  cases reset

instance (forbidden : List Lapse) (s : State) (op : Op) [Decidable (SoundLengthCheck b)] :
    Decidable (Avoids b cfg env forbidden s op) :=
  inferInstanceAs (Decidable (∀ l ∈ forbidden, ¬ StepLapse b cfg env s op l))

structure OwnedView (b : Build) (cfg : Config b) (c : Nat) (v : View) : Prop where
  transmission : v.sub.state = .transmission →
    v.ch.activeSduId < cfg.numberOfTxSdus ∧ (cfg.txSdu v.ch.activeSduId).channelId = c
  reception : v.sub.state = .reception →
    v.ch.activeSduId < cfg.numberOfRxSdus ∧ (cfg.rxSdu v.ch.activeSduId).channelId = c

def Owned (b : Build) (cfg : Config b) (s : State) : Prop :=
  ∀ c < cfg.numberOfChannels, OwnedView b cfg c (s.view c)

theorem ownedView_idle {c : Nat} {v : View} (idle : v.sub = .idle) : OwnedView b cfg c v := by
  constructor
  · simp [idle, SubState.state]
  · simp [idle, SubState.state]

theorem ownedView_tx {c : Nat} {v v' : View} (owned : OwnedView b cfg c v)
    (before : v.sub.state = .transmission) (after : v'.sub.state = .transmission)
    (same : v'.ch.activeSduId = v.ch.activeSduId) : OwnedView b cfg c v' := by
  constructor
  · intro _
    rw [same]
    exact owned.transmission before
  · simp [after]

theorem ownedView_rx {c : Nat} {v v' : View} (owned : OwnedView b cfg c v)
    (before : v.sub.state = .reception) (after : v'.sub.state = .reception)
    (same : v'.ch.activeSduId = v.ch.activeSduId) : OwnedView b cfg c v' := by
  constructor
  · simp [after]
  · intro _
    rw [same]
    exact owned.reception before

theorem ownedView_accepts {c r : Nat} {v v' : View} {replaced : List Event}
    (accepts : Accepts b cfg lapse c r v replaced) (after : v'.sub.state = .reception)
    (active : v'.ch.activeSduId = r) : OwnedView b cfg c v' := by
  constructor
  · simp [after]
  · intro _
    rw [active]
    exact ⟨accepts.1, accepts.2.1⟩

@[simp] theorem setTxBlockInfo_active (ch : Channel) (bs stMin : UInt8) :
    (setTxBlockInfo b cfg ch bs stMin).activeSduId = ch.activeSduId := by
  simp only [setTxBlockInfo]
  split <;> split <;> rfl

theorem ReadyToSend.transmission {now : Nat} {v : View} {pciId : Npci}
    (ready : ReadyToSend b now v pciId) : v.sub.state = .transmission := by
  rcases ready with ⟨accepted, -⟩ | ⟨sending, -⟩
  · simp [accepted, SubState.state]
  · simp [sending, SubState.state]

theorem ChannelStep.owned {now c : Nat} {v v' : View} {events : List Event}
    (step : ChannelStep b cfg lapse now c v events v') (owned : OwnedView b cfg c v) :
    OwnedView b cfg c v' := by
  cases step with
  | accept idle configured own positive short active =>
      constructor
      · intro _
        rw [active]
        exact ⟨configured, own⟩
      · simp [SubState.state]
  | txPrepare accepted =>
      have busy : v.sub.state = .transmission := by simp [accepted, SubState.state]
      exact ownedView_tx owned busy busy rfl
  | txBuffer status waiting =>
      have busy : v.sub.state = .transmission := by
        rcases waiting with sub | sub <;> simp [sub, SubState.state]
      exact ownedView_tx owned busy busy rfl
  | txSendFailed ready => exact ownedView_tx owned ready.transmission rfl rfl
  | txSent ready => exact ownedView_tx owned ready.transmission rfl rfl
  | txBlockedTimeout accepted =>
      have busy : v.sub.state = .transmission := by simp [accepted, SubState.state]
      exact ownedView_tx owned busy busy rfl
  | txNext waiting =>
      exact ownedView_tx owned (by simp [waiting, SubState.state]) rfl (by simp)
  | txAwaitFlow waiting =>
      exact ownedView_tx owned (by simp [waiting, SubState.state]) rfl (by simp)
  | txSkipFlow ch waiting pending own disabled same =>
      exact ownedView_tx owned (by simp [waiting, SubState.state]) rfl same
  | txFlowWait waiting =>
      have busy : v.sub.state = .transmission := by simp [waiting, SubState.state]
      exact ownedView_tx owned busy busy rfl
  | txFlowClear x bs stMin waiting =>
      exact ownedView_tx owned (by simp [waiting, SubState.state]) rfl (by simp)
  | rxDoubleIndication => exact owned
  | fcPrepare ch sending active =>
      have busy : v.sub.state = .reception := by simp [sending, SubState.state]
      exact ownedView_rx owned busy busy active
  | fcSent sending =>
      exact ownedView_rx owned (by simp [sending, SubState.state]) rfl rfl
  | fcSkipped ch sending flow flowSame active =>
      exact ownedView_rx owned (by simp [sending, SubState.state]) rfl active
  | fcConfirmedClear waiting =>
      exact ownedView_rx owned (by simp [waiting, SubState.state]) rfl rfl
  | fcConfirmedWait waiting =>
      split
      · exact ownedView_rx owned (by simp [waiting, SubState.state]) rfl rfl
      · exact ownedView_idle rfl
  | rxFirst accepted active => exact ownedView_accepts accepted rfl active
  | rxOverflow accepted active => exact ownedView_accepts accepted rfl active
  | rxConsecutive data room sub ch waiting active length remaining more sn rxDl flow sized next =>
      have busy : sub.state = .reception := by
        rcases next with rfl | rfl <;> rfl
      exact ownedView_rx owned (by simp [waiting, SubState.state]) busy active
  | _ => exact ownedView_idle rfl

theorem Move.owned {s s' : State} (move : Move b cfg lapse s s') (owned : Owned b cfg s) :
    Owned b cfg s' := by
  intro c bound
  cases move with
  | silent silent => exact silent.view c ▸ owned c bound
  | channel bound' step becomes =>
      rename_i d events v
      by_cases same : c = d
      · subst same
        exact becomes.view_here ▸ step.owned (owned c bound)
      · rw [becomes.view_elsewhere same]
        exact ⟨(owned c bound).transmission, (owned c bound).reception⟩

theorem start_idle (cfg : Config b) (s : State) {c : Nat} (bound : c < cfg.numberOfChannels) :
    (start b cfg s).subState c = .idle := by
  simp [start, init, resetModule, bound]

theorem start_owned (s : State) : Owned b cfg (start b cfg s) := fun _ bound =>
  ownedView_idle (start_idle cfg s bound)

theorem resetModule_owned (cfg : Config b) (s : State) : Owned b cfg (resetModule b cfg s) :=
  fun c bound =>
  ownedView_idle (by simp [State.view, resetModule, bound])

theorem run_owned (s : State) (ops : List Op) :
    Owned b cfg (run (step b cfg env) (start b cfg s) ops) := by
  refine run_moves [] (Owned b cfg) (fun _ _ move => move.owned) (start_queue s) (start_owned s) ?_
    (guarded_always (fun _ _ => List.forall_mem_nil _) _ _)
  intro op _ reset s owned
  cases op with
  | init => exact resetModule_owned cfg s
  | shutdown =>
      simp only [step, shutdown]
      split
      · exact resetModule_owned cfg s
      · exact owned
  | _ => cases reset

theorem Owned.transmission {s : State} {c : Nat} (owned : Owned b cfg s)
    (bound : c < cfg.numberOfChannels) (busy : (s.subState c).state = .transmission) :
    (cfg.txSdu (s.channel c).activeSduId).channelId = c :=
  ((owned c bound).transmission busy).2

section Node

/-! A small node. TX SDUs 0 and 1 and RX SDUs 0 and 1 share channel 0, TX SDU 2 and RX SDU 2
live on channel 1; TX SDUs 0 and 2 share N-PDU 0, and all flow control goes out on N-PDU 2. -/

def nodeBuild : Build where
  canFdSupport := true
  fcDisableSupport := false
  dynamicFcSupport := false
  strictBsCrTimeoutCheck := false
  legacySharedFcSupport := false
  changeParameterApi := false
  pageConfirmation := false
  fdCalloutSupport := false
  txBurstMode := false
  schMSupport := false
  cycleCounter := true
  maxChannelSize := 2
  maxNpduLength := 64
  burstQueueSize := 4
  paddingByte := 0xAA
  lengthBits := 32
  tickBits := 32
  invalidStMinTicks := 0xFFFFFFFF
  defaultStMinTicks := 0
  dlcCheck := fun length dl => if dl ≤ length then .ok else .notOk
  getUsToTicks := fun us => us / 1000
  lengthBits_le := by decide

theorem nodeBuild_sound : SoundLengthCheck nodeBuild := by
  refine ⟨by decide, fun length dl => ?_⟩
  simp only [nodeBuild]
  split <;> simp_all

instance : Decidable (SoundLengthCheck nodeBuild) := isTrue nodeBuild_sound

def nodeConfig : Config nodeBuild where
  numberOfSharedFc := 0
  numberOfChannels := 2
  numberOfRxPdus := 3
  numberOfTxPdus := 3
  numberOfRxSdus := 3
  numberOfTxSdus := 3
  sharedFc := fun _ => ⟨0, 0⟩
  rxPdu := fun p => ⟨p, p, none⟩
  txSdu := fun x =>
    { txDl := .classic
      bitFields := 0
      address := 0
      addressFormatId := standardFormat
      timeOutId := 0
      channelId := x / 2 % 2
      txConfirmationId := x % 2
      txPduId := x % 2
      pduRPduHandleId := 10 + x }
  rxSdu := fun r =>
    { bitFields := 0
      address := 0
      addressFormatId := standardFormat
      timeOutId := 0
      paramId := 0
      channelId := r / 2 % 2
      txConfirmationId := 2
      txPduId := 2
      pduRPduHandleId := 20 + r }
  timeOut := fun _ => ⟨10, 10, 10⟩
  param := fun _ => ⟨0, 0, 1⟩
  channels_fit := by decide
  sharedFc_txSdu := by simp
  txSdu_channel := fun x _ => Nat.mod_lt _ (by decide)
  rxSdu_channel := fun r _ => Nat.mod_lt _ (by decide)
  txSdu_confirmation := fun x _ => Nat.lt_of_lt_of_le (Nat.mod_lt x (by decide)) (by decide)
  rxSdu_confirmation := by simp

def nodeEnv : Env where
  startOfReception := fun _ _ _ => (.ok, 100)
  copyRxData := fun _ _ _ => (.ok, 100)
  copyTxData := fun _ _ _ => (.ok, fun i => UInt8.ofNat i, 100)
  canIfTransmit := fun _ _ _ => .ok
  fdCallOut := fun _ _ _ _ => .ok
  sduBuffer := fun _ _ => 0

def nodeRam : State where
  mainState := false
  channel := fun _ => ⟨.notAsked, 0, .sfCan, .cts, 0, 0, 0, 0, 0, 0, 0, 0, 0⟩
  subState := fun _ => .idle
  txConfirmationChannel := fun _ => 0
  paramPair := fun _ => (0, 0)
  burstQ := ⟨0, 0, fun _ => 0⟩
  ticks := 0
  log := []

def nodeFrame (bytes : List UInt8) : Option PduInfo :=
  some ⟨some fun i => bytes.getD i 0, bytes.length⟩

end Node

end AnchorNode.CanTp
