import AnchorNode.CanNm.Nm

/-! What holds of the state machine in every run: which transitions it makes, when its timers
are started and when it keeps the processor awake. -/

namespace AnchorNode.CanNm

open AnchorNode.Lib

variable {cfg : Config} {m : Moment} {s t : State}

/-- The transitions of the network management. -/
inductive Transition : NmState → NmState → Prop
  | busSleep_repeat : Transition .busSleep .repeatMessage
  | prepare_repeat : Transition .prepareBusSleep .repeatMessage
  | prepare_busSleep : Transition .prepareBusSleep .busSleep
  | ready_prepare : Transition .readySleep .prepareBusSleep
  | ready_normal : Transition .readySleep .normalOperation
  | ready_repeat : Transition .readySleep .repeatMessage
  | normal_ready : Transition .normalOperation .readySleep
  | normal_repeat : Transition .normalOperation .repeatMessage
  | repeat_normal : Transition .repeatMessage .normalOperation
  | repeat_ready : Transition .repeatMessage .readySleep

def NmState.sending : NmState → Bool
  | .normalOperation | .repeatMessage => true
  | .busSleep | .prepareBusSleep | .readySleep => false

def NmState.timed : NmState → Bool
  | .repeatMessage | .readySleep | .prepareBusSleep => true
  | .busSleep | .normalOperation => false

def cpuHeld (log : List Event) : Bool :=
  log.foldl (fun held e => match e with
    | .requestCpu => true
    | .releaseCpu => false
    | _ => held) false

def sentFrames (log : List Event) : List Frame :=
  log.filterMap fun e => match e with
    | .transmit frame _ => some frame
    | _ => none

section Logs
variable (log : List Event) (frame : Frame) (result : StdReturn) (api : ApiId) (error : ErrorId)

@[simp] theorem cpuHeld_request : cpuHeld (log ++ [.requestCpu]) = true := by simp [cpuHeld]
@[simp] theorem cpuHeld_release : cpuHeld (log ++ [.releaseCpu]) = false := by simp [cpuHeld]
@[simp] theorem cpuHeld_transmit : cpuHeld (log ++ [.transmit frame result]) = cpuHeld log := by
  simp [cpuHeld]
@[simp] theorem cpuHeld_reportError : cpuHeld (log ++ [.reportError api error]) = cpuHeld log := by
  simp [cpuHeld]

@[simp] theorem sentFrames_request : sentFrames (log ++ [.requestCpu]) = sentFrames log := by
  simp [sentFrames]
@[simp] theorem sentFrames_release : sentFrames (log ++ [.releaseCpu]) = sentFrames log := by
  simp [sentFrames]
@[simp] theorem sentFrames_sleep : sentFrames (log ++ [.sleepIndication]) = sentFrames log := by
  simp [sentFrames]
@[simp] theorem sentFrames_reportError :
    sentFrames (log ++ [.reportError api error]) = sentFrames log := by
  simp [sentFrames]

end Logs

structure SameNm (s t : State) : Prop where
  now : t.now = s.now
  initialized : t.initialized = s.initialized
  nmState : t.nmState = s.nmState
  nextState : t.nextState = s.nextState
  networkState : t.networkState = s.networkState
  canFitted : t.canFitted = s.canFitted
  nmTimeoutTimer : t.nmTimeoutTimer = s.nmTimeoutTimer
  msgCycleTimer : t.msgCycleTimer = s.msgCycleTimer
  count : t.immediateTransmissionCount = s.immediateTransmissionCount
  cpu : cpuHeld t.log = cpuHeld s.log

theorem triggerTransmission_same (accepted : StdReturn) (s : State) :
    SameNm s (triggerTransmission accepted s) := by
  unfold triggerTransmission
  split
  · cases accepted <;> constructor <;> simp [cpuHeld]
  · constructor <;> rfl

theorem msgTimeoutTimerHandling_same (m : Moment) (s : State) :
    SameNm s (msgTimeoutTimerHandling m s) := by
  unfold msgTimeoutTimerHandling
  split <;> constructor <;> simp

theorem msgTimeoutTimerHandling_sent (m : Moment) (s : State) :
    sentFrames (msgTimeoutTimerHandling m s).log = sentFrames s.log := by
  unfold msgTimeoutTimerHandling
  split <;> simp

structure CycleHandled (s t : State) : Prop where
  initialized : t.initialized = s.initialized
  nmState : t.nmState = s.nmState
  nextState : t.nextState = s.nextState
  networkState : t.networkState = s.networkState
  canFitted : t.canFitted = s.canFitted
  nmTimeoutTimer : t.nmTimeoutTimer = s.nmTimeoutTimer
  started : t.msgCycleTimer.started = s.msgCycleTimer.started
  count : t.immediateTransmissionCount ≤ s.immediateTransmissionCount
  cpu : cpuHeld t.log = cpuHeld s.log
  silent : s.msgCycleTimer.started = false → sentFrames t.log = sentFrames s.log

theorem msgCycleTimerHandling_handled (cfg : Config) (m : Moment) (nmState : NmState) (s : State) :
    CycleHandled s (msgCycleTimerHandling cfg m nmState s) := by
  simp only [msgCycleTimerHandling]
  split
  · rename_i elapsed
    have started := started_of_elapsed elapsed
    have same := triggerTransmission_same m.cycleAccepted
      { s with msgCycleTimer := s.msgCycleTimer.update m.cycleDue }
    have awake : ∀ P : Prop, s.msgCycleTimer.started = false → P := by
      intro P stopped
      rw [started] at stopped
      cases stopped
    cases nmState with
    | repeatMessage =>
        dsimp only
        split
        all_goals
          refine ⟨same.initialized, same.nmState, same.nextState, same.networkState, same.canFitted,
            same.nmTimeoutTimer, ?_, ?_, same.cpu, awake _⟩
          · simp [started]
          · simp [same.count]
    | normalOperation =>
        refine ⟨same.initialized, same.nmState, same.nextState, same.networkState, same.canFitted,
          same.nmTimeoutTimer, ?_, ?_, same.cpu, awake _⟩
        · simp [started]
        · simp [same.count]
    | busSleep | prepareBusSleep | readySleep =>
        refine ⟨same.initialized, same.nmState, same.nextState, same.networkState, same.canFitted,
          same.nmTimeoutTimer, ?_, ?_, same.cpu, awake _⟩
        · simp [same.msgCycleTimer]
        · simp [same.count]
  · refine ⟨rfl, rfl, rfl, rfl, rfl, rfl, ?_, Nat.le_refl _, rfl, fun _ => rfl⟩
    simp

def pending (cfg : Config) (m : Moment) (s : State) : NmState :=
  match s.nmState, s.networkState with
  | .busSleep, .requested | .prepareBusSleep, .requested => .repeatMessage
  | .readySleep, .requested => .normalOperation
  | .normalOperation, .released => .readySleep
  | .prepareBusSleep, .released =>
    if s.nmTimeoutTimer.update m.nmTimeoutDue = .elapsed then .busSleep else s.nextState
  | .readySleep, .released =>
    if s.nmTimeoutTimer.update m.nmTimeoutDue = .elapsed then .prepareBusSleep else s.nextState
  | .repeatMessage, networkState =>
    if (msgCycleTimerHandling cfg m .repeatMessage s).immediateTransmissionCount = 0 ∧
        (s.nmTimeoutTimer.update m.nmTimeoutDue).update m.repeatDue = .elapsed then
      (if networkState = .requested then .normalOperation else .readySleep)
    else s.nextState
  | .busSleep, .released | .normalOperation, .requested => s.nextState

structure Handled (cfg : Config) (m : Moment) (s t : State) : Prop where
  initialized : t.initialized = s.initialized
  nmState : t.nmState = s.nmState
  nextState : t.nextState = pending cfg m s
  networkState : t.networkState = s.networkState
  canFitted : t.canFitted = s.canFitted
  timeoutStarted : t.nmTimeoutTimer.started = s.nmTimeoutTimer.started
  cycleStarted : t.msgCycleTimer.started = s.msgCycleTimer.started
  cpu : cpuHeld t.log = cpuHeld s.log
  silent : s.msgCycleTimer.started = false → sentFrames t.log = sentFrames s.log
  count : 0 < t.immediateTransmissionCount →
    0 < s.immediateTransmissionCount ∨ t.nextState = .repeatMessage
  finished : s.nmState = .repeatMessage → t.nextState ≠ s.nextState →
    t.immediateTransmissionCount = 0

def decisions (cfg : Config) (m : Moment) (nmState : NmState) (s : State) : State :=
  let s := repeatMessageTimeoutHandling m nmState (nmTimeoutTimerHandling m nmState s)
  networkRequestHandling cfg nmState s.networkState s

theorem nmTimeoutTimerHandling_eq (m : Moment) (nmState : NmState) (s : State) :
    nmTimeoutTimerHandling m nmState s = { s with
      nmTimeoutTimer := s.nmTimeoutTimer.update m.nmTimeoutDue
      nextState := if s.nmTimeoutTimer.update m.nmTimeoutDue = .elapsed then
          (match nmState with
            | .prepareBusSleep => .busSleep
            | .readySleep => .prepareBusSleep
            | .busSleep | .normalOperation | .repeatMessage => s.nextState)
        else s.nextState } := by
  simp only [nmTimeoutTimerHandling]
  split
  · cases nmState <;> rfl
  · rfl

theorem repeatMessageTimeoutHandling_eq (m : Moment) (s : State) :
    repeatMessageTimeoutHandling m .repeatMessage s = { s with
      nmTimeoutTimer := if s.immediateTransmissionCount = 0 then
        s.nmTimeoutTimer.update m.repeatDue else s.nmTimeoutTimer
      nextState := if s.immediateTransmissionCount = 0 ∧
          s.nmTimeoutTimer.update m.repeatDue = .elapsed then
        (if s.networkState = .requested then .normalOperation else .readySleep)
        else s.nextState } := by
  simp only [repeatMessageTimeoutHandling]
  by_cases finished : s.immediateTransmissionCount = 0
  · by_cases elapsed : s.nmTimeoutTimer.update m.repeatDue = .elapsed
    · cases net : s.networkState <;> simp [finished, elapsed]
    · simp [finished, elapsed]
  · simp [finished]

theorem repeatMessageTimeoutHandling_other {nmState : NmState} (other : nmState ≠ .repeatMessage)
    (m : Moment) (s : State) : repeatMessageTimeoutHandling m nmState s = s := by
  simp [repeatMessageTimeoutHandling, other]

theorem decisions_handled {a : State} (handled : CycleHandled s a)
    (same : a = msgCycleTimerHandling cfg m s.nmState s) :
    Handled cfg m s (decisions cfg m s.nmState a) := by
  have net : a.networkState = s.networkState := handled.networkState
  have count := handled.count
  cases state : s.nmState with
  | busSleep | prepareBusSleep | readySleep | normalOperation =>
      rw [decisions, repeatMessageTimeoutHandling_other (by decide), nmTimeoutTimerHandling_eq]
      dsimp only
      rw [net]
      cases wanted : s.networkState
      all_goals
        constructor
        all_goals
          simp [networkRequestHandling, pending, state, wanted, handled.initialized,
            handled.nmState, handled.nextState, handled.canFitted, handled.nmTimeoutTimer,
            handled.started, handled.cpu]
        all_goals first | exact handled.silent | omega
  | repeatMessage =>
      rw [decisions, nmTimeoutTimerHandling_eq, repeatMessageTimeoutHandling_eq]
      constructor
      all_goals
        simp [networkRequestHandling, pending, state, net, handled.initialized, handled.nmState,
          handled.nextState, handled.canFitted, handled.nmTimeoutTimer, handled.started,
          handled.cpu]
      · rw [same, state]
      · split <;> simp
      · exact handled.silent
      · intro more
        exact Or.inl (Nat.lt_of_lt_of_le more count)
      · intro zero _ _
        exact zero

theorem handlers_handled (cfg : Config) (m : Moment) (s : State) :
    Handled cfg m s (handlers cfg m s) := by
  have decided := decisions_handled (msgCycleTimerHandling_handled cfg m s.nmState s) rfl
  have same := msgTimeoutTimerHandling_same m
    (decisions cfg m s.nmState (msgCycleTimerHandling cfg m s.nmState s))
  have frames := msgTimeoutTimerHandling_sent m
    (decisions cfg m s.nmState (msgCycleTimerHandling cfg m s.nmState s))
  have whole : handlers cfg m s = msgTimeoutTimerHandling m
      (decisions cfg m s.nmState (msgCycleTimerHandling cfg m s.nmState s)) := rfl
  rw [whole]
  constructor
  · rw [same.initialized, decided.initialized]
  · rw [same.nmState, decided.nmState]
  · rw [same.nextState, decided.nextState]
  · rw [same.networkState, decided.networkState]
  · rw [same.canFitted, decided.canFitted]
  · rw [same.nmTimeoutTimer, decided.timeoutStarted]
  · rw [same.msgCycleTimer, decided.cycleStarted]
  · rw [same.cpu, decided.cpu]
  · rw [frames]
    exact decided.silent
  · rw [same.count, same.nextState]
    exact decided.count
  · rw [same.count, same.nextState]
    exact decided.finished

structure Entered (target : NmState) (s t : State) : Prop where
  initialized : t.initialized = s.initialized
  nmState : t.nmState = target
  nextState : t.nextState = s.nextState
  cycle : t.msgCycleTimer.started = target.sending
  timeout : target.timed = true → t.nmTimeoutTimer.started = true
  count : t.immediateTransmissionCount ≤ s.immediateTransmissionCount
  cpu : cpuHeld t.log = (target != .busSleep && (target.sending || cpuHeld s.log))
  silent : target.sending = false → sentFrames t.log = sentFrames s.log

theorem entered_sending {target : NmState} {u : State} (accepted : StdReturn)
    (sending : target.sending = true) (initialized : u.initialized = s.initialized)
    (nmState : u.nmState = target) (nextState : u.nextState = s.nextState)
    (cycle : u.msgCycleTimer.started = true)
    (timeout : target.timed = true → u.nmTimeoutTimer.started = true)
    (count : u.immediateTransmissionCount ≤ s.immediateTransmissionCount) :
    Entered target s ((triggerTransmission accepted u).emit .requestCpu) := by
  have same := triggerTransmission_same accepted u
  have awake : target ≠ .busSleep := by
    rintro rfl
    cases sending
  constructor
  · exact same.initialized.trans initialized
  · exact same.nmState.trans nmState
  · exact same.nextState.trans nextState
  · simp [same.msgCycleTimer, cycle, sending]
  · simpa [same.nmTimeoutTimer] using timeout
  · simpa [same.count] using count
  · simp [sending, awake]
  · intro asleep
    rw [sending] at asleep
    cases asleep

theorem setState_entered (cfg : Config) (m : Moment) (target : NmState) (s : State) :
    Entered target s (setState cfg m target s) := by
  cases target with
  | busSleep =>
      constructor <;> simp [setState, NmState.sending, NmState.timed, cpuHeld, sentFrames]
  | prepareBusSleep => constructor <;> simp [setState, NmState.sending, NmState.timed]
  | readySleep => constructor <;> simp [setState, NmState.sending, NmState.timed]
  | normalOperation =>
      simp only [setState]
      split
      · rename_i running
        have started : s.msgCycleTimer.started = true := by
          rw [← update_started m.restartDue]
          exact started_of_running running
        constructor <;> simp [NmState.sending, NmState.timed, started]
      · apply entered_sending
        all_goals simp [NmState.sending, NmState.timed]
  | repeatMessage =>
      simp only [setState]
      split
      all_goals
        apply entered_sending
        all_goals simp [NmState.sending]

/-- What holds of the state machine between two calls. -/
structure Inv (s : State) : Prop where
  initialized : s.initialized = true
  cycle : s.msgCycleTimer.started = s.nmState.sending
  timeout : s.nmState.timed = true → s.nmTimeoutTimer.started = true
  immediate : 0 < s.immediateTransmissionCount → s.nmState = .repeatMessage
  power : cpuHeld s.log = true ↔ s.nmState ≠ .busSleep
  next : s.nextState = s.nmState ∨ s.nextState = .repeatMessage

theorem init_inv (canFitted : Bool) : Inv (init canFitted powerUp) := by
  constructor <;> simp [init, powerUp, NmState.sending, NmState.timed, cpuHeld]

theorem pending_transition (cfg : Config) (m : Moment)
    (next : s.nextState = s.nmState ∨ s.nextState = .repeatMessage) :
    pending cfg m s = s.nmState ∨ Transition s.nmState (pending cfg m s) := by
  have kept : s.nextState = s.nmState ∨ Transition s.nmState s.nextState := by
    rcases next with same | wake
    · exact Or.inl same
    · rw [wake]
      cases s.nmState with
      | repeatMessage => exact Or.inl rfl
      | busSleep => exact Or.inr .busSleep_repeat
      | prepareBusSleep => exact Or.inr .prepare_repeat
      | readySleep => exact Or.inr .ready_repeat
      | normalOperation => exact Or.inr .normal_repeat
  unfold pending
  cases state : s.nmState <;> cases net : s.networkState <;> simp only
  all_goals rw [state] at kept
  · exact Or.inr .busSleep_repeat
  · exact kept
  · exact Or.inr .prepare_repeat
  · split
    · exact Or.inr .prepare_busSleep
    · exact kept
  · exact Or.inr .ready_normal
  · split
    · exact Or.inr .ready_prepare
    · exact kept
  · exact kept
  · exact Or.inr .normal_ready
  · split
    · exact Or.inr .repeat_normal
    · exact kept
  · split
    · exact Or.inr .repeat_ready
    · exact kept

/-- What a call may do to a state. -/
structure Advances (s t : State) : Prop where
  inv : Inv t
  transition : t.nmState = s.nmState ∨ Transition s.nmState t.nmState
  silent : s.nmState.sending = false → t.nmState.sending = false →
    sentFrames t.log = sentFrames s.log

theorem power_kept {a b : NmState} {held : Bool} (transition : Transition a b)
    (power : held = true ↔ a ≠ .busSleep) :
    (b != .busSleep && (b.sending || held)) = true ↔ b ≠ .busSleep := by
  cases transition <;> simp [NmState.sending, power]

theorem changeState_same {nmState : NmState} (same : s.nextState = nmState) :
    changeState cfg m nmState s = s := by
  simp [changeState, same]

theorem changeState_entered {nmState : NmState} (other : s.nextState ≠ nmState) :
    Entered s.nextState s (changeState cfg m nmState s) := by
  simp only [changeState, if_pos other]
  split
  · have entered := setState_entered cfg m s.nextState
      { s with txMsg := { s.txMsg with repeatMessageRequest := false } }
    exact ⟨entered.initialized, entered.nmState, entered.nextState, entered.cycle, entered.timeout,
      entered.count, entered.cpu, entered.silent⟩
  · exact setState_entered cfg m s.nextState s

theorem mainFunction_advances (cfg : Config) (m : Moment) (inv : Inv s) :
    Advances s (mainFunction cfg m s) := by
  unfold mainFunction
  split
  · rw [if_pos inv.initialized]
    have handled := handlers_handled cfg m s
    have quiet : s.nmState.sending = false →
        sentFrames (handlers cfg m s).log = sentFrames s.log := by
      intro asleep
      apply handled.silent
      rw [inv.cycle, asleep]
    by_cases stays : pending cfg m s = s.nmState
    · have same : (handlers cfg m s).nextState = s.nmState := handled.nextState.trans stays
      rw [changeState_same same]
      refine ⟨?_, Or.inl handled.nmState, fun asleep _ => quiet asleep⟩
      constructor
      · exact handled.initialized.trans inv.initialized
      · rw [handled.cycleStarted, handled.nmState, inv.cycle]
      · rw [handled.timeoutStarted, handled.nmState]
        exact inv.timeout
      · rw [handled.nmState]
        intro more
        rcases handled.count more with before | wake
        · exact inv.immediate before
        · exact same.symm.trans wake
      · rw [handled.cpu, handled.nmState]
        exact inv.power
      · rw [handled.nmState]
        exact Or.inl same
    · have transition : Transition s.nmState (pending cfg m s) :=
        (pending_transition cfg m inv.next).resolve_left stays
      have moves : (handlers cfg m s).nextState ≠ s.nmState := by
        rw [handled.nextState]
        exact stays
      have entered : Entered (handlers cfg m s).nextState (handlers cfg m s)
          (changeState cfg m s.nmState (handlers cfg m s)) := changeState_entered moves
      rw [handled.nextState] at entered
      refine ⟨?_, Or.inr (entered.nmState ▸ transition), ?_⟩
      · constructor
        · exact entered.initialized.trans (handled.initialized.trans inv.initialized)
        · rw [entered.cycle, entered.nmState]
        · rw [entered.nmState]
          exact entered.timeout
        · intro more
          rw [entered.nmState, ← handled.nextState]
          have some_left : 0 < (handlers cfg m s).immediateTransmissionCount :=
            Nat.lt_of_lt_of_le more entered.count
          rcases handled.count some_left with before | wake
          · -- the repeat message state is left with no immediate transmission to do
            have repeating := inv.immediate before
            have unchanged : s.nextState = s.nmState := by
              rcases inv.next with same | wake
              · exact same
              · exact wake.trans repeating.symm
            have none := handled.finished repeating (by rw [unchanged]; exact moves)
            omega
          · exact wake
        · rw [entered.cpu, handled.cpu, entered.nmState]
          exact power_kept transition inv.power
        · rw [entered.nextState, entered.nmState]
          exact Or.inl handled.nextState
      · intro asleep asleep'
        rw [entered.nmState] at asleep'
        rw [entered.silent asleep', quiet asleep]
  · exact ⟨inv, Or.inl rfl, fun _ _ => rfl⟩

theorem passiveStartUp_inv (inv : Inv s) : Inv (passiveStartUp s).1 := by
  unfold passiveStartUp
  rw [if_pos inv.initialized]
  split
  · exact ⟨inv.initialized, inv.cycle, inv.timeout, inv.immediate, inv.power, Or.inr rfl⟩
  · exact inv

/-- A received message that wakes the node, or makes it repeat its own message. -/
def WakesBy (s : State) (sdu : List UInt8) : Prop :=
  frameMinLength ≤ sdu.length ∧
    (s.nmState = .busSleep ∨ s.nmState = .prepareBusSleep ∨
      repeatMessageRequest sdu = true ∧ (s.nmState = .readySleep ∨ s.nmState = .normalOperation))

instance (s : State) (sdu : List UInt8) : Decidable (WakesBy s sdu) :=
  inferInstanceAs (Decidable (_ ∧ _))

structure Received (sdu : List UInt8) (s t : State) : Prop where
  initialized : t.initialized = s.initialized
  nmState : t.nmState = s.nmState
  nextState : t.nextState = if WakesBy s sdu then .repeatMessage else s.nextState
  networkState : t.networkState = s.networkState
  canFitted : t.canFitted = s.canFitted
  cycle : s.nmState = .normalOperation ∧ t.msgCycleTimer.started = true ∨
    t.msgCycleTimer = s.msgCycleTimer
  timeout : t.nmTimeoutTimer.started = true ∨ t.nmTimeoutTimer = s.nmTimeoutTimer
  count : t.immediateTransmissionCount = s.immediateTransmissionCount
  cpu : cpuHeld t.log = cpuHeld s.log
  silent : sentFrames t.log = sentFrames s.log

theorem rxIndication_received (cfg : Config) (sdu : List UInt8)
    (initialized : s.initialized = true) : Received sdu s (rxIndication cfg sdu s) := by
  unfold rxIndication
  rw [if_pos initialized]
  by_cases short : sdu.length < frameMinLength
  · rw [if_pos short]
    have deaf : ¬ WakesBy s sdu := fun wakes => absurd wakes.1 (Nat.not_le_of_lt short)
    constructor <;> simp [deaf]
  · have long : frameMinLength ≤ sdu.length := Nat.le_of_not_lt short
    rw [if_neg short]
    have wakes : WakesBy s sdu ↔ s.nmState = .busSleep ∨ s.nmState = .prepareBusSleep ∨
        repeatMessageRequest sdu = true ∧
          (s.nmState = .readySleep ∨ s.nmState = .normalOperation) := by
      simp only [WakesBy, long, true_and]
    cases state : s.nmState with
    | busSleep | prepareBusSleep | repeatMessage =>
        constructor <;> simp [wakes, state]
    | readySleep =>
        by_cases repeated : repeatMessageRequest sdu = true
        all_goals constructor <;> simp [wakes, state, repeated]
    | normalOperation =>
        by_cases repeated : repeatMessageRequest sdu = true
        all_goals by_cases reduced : cfg.msgReducedTime s.canIdx > 0
        all_goals constructor <;> simp [wakes, state, repeated, reduced]

theorem rxIndication_inv (cfg : Config) (sdu : List UInt8) (inv : Inv s) :
    Inv (rxIndication cfg sdu s) := by
  have received := rxIndication_received cfg sdu inv.initialized
  constructor
  · exact received.initialized.trans inv.initialized
  · rw [received.nmState]
    rcases received.cycle with ⟨normal, started⟩ | same
    · rw [started, normal]
      rfl
    · rw [same, inv.cycle]
  · rw [received.nmState]
    intro timed
    rcases received.timeout with started | same
    · exact started
    · rw [same]
      exact inv.timeout timed
  · rw [received.count, received.nmState]
    exact inv.immediate
  · rw [received.cpu, received.nmState]
    exact inv.power
  · rw [received.nextState, received.nmState]
    split
    · exact Or.inr rfl
    · exact inv.next

theorem step_advances (cfg : Config) (op : Op) (inv : Inv s) : Advances s (step cfg s op) := by
  cases op with
  | networkRequest =>
      simp only [step, networkRequest, if_pos inv.initialized]
      exact ⟨⟨inv.initialized, inv.cycle, inv.timeout, inv.immediate, inv.power, inv.next⟩,
        Or.inl rfl, fun _ _ => rfl⟩
  | networkRelease =>
      simp only [step, networkRelease, if_pos inv.initialized]
      exact ⟨⟨inv.initialized, inv.cycle, inv.timeout, inv.immediate, inv.power, inv.next⟩,
        Or.inl rfl, fun _ _ => rfl⟩
  | passiveStartUp =>
      have kept := passiveStartUp_inv inv
      refine ⟨kept, Or.inl ?_, fun _ _ => ?_⟩
      all_goals
        simp only [step, passiveStartUp, if_pos inv.initialized]
        split <;> rfl
  | rxIndication sdu =>
      have received := rxIndication_received cfg sdu inv.initialized
      exact ⟨rxIndication_inv cfg sdu inv, Or.inl received.nmState, fun _ _ => received.silent⟩
  | setCanIdx canIdx =>
      exact ⟨⟨inv.initialized, inv.cycle, inv.timeout, inv.immediate, inv.power, inv.next⟩,
        Or.inl rfl, fun _ _ => rfl⟩
  | txConfirmation =>
      simp only [step, txConfirmation, if_pos inv.initialized]
      exact ⟨⟨inv.initialized, inv.cycle, inv.timeout, inv.immediate, inv.power, inv.next⟩,
        Or.inl rfl, fun _ _ => rfl⟩
  | tick time =>
      exact ⟨⟨inv.initialized, inv.cycle, inv.timeout, inv.immediate, inv.power, inv.next⟩,
        Or.inl rfl, fun _ _ => rfl⟩
  | mainFunction m => exact mainFunction_advances cfg m inv

theorem after_inv (cfg : Config) (canFitted : Bool) (ops : List Op) :
    Inv (after cfg canFitted ops) := by
  have preserved : ∀ s op, Inv s → Inv (step cfg s op) :=
    fun _ op inv => (step_advances cfg op inv).inv
  exact run_invariant preserved ops (init_inv canFitted)

/-- In every run after the initialisation: the invariant holds, the next call makes one of the
transitions if any, and it sends only if the node is in a sending state before or after it. -/
theorem nm_runs (cfg : Config) (canFitted : Bool) (ops : List Op) (op : Op) :
    Inv (after cfg canFitted ops) ∧
      Advances (after cfg canFitted ops) (after cfg canFitted (ops ++ [op])) := by
  have inv := after_inv cfg canFitted ops
  refine ⟨inv, ?_⟩
  have last : after cfg canFitted (ops ++ [op]) = step cfg (after cfg canFitted ops) op := by
    simp only [after, run_append, run_cons, run_nil]
  rw [last]
  exact step_advances cfg op inv

end AnchorNode.CanNm
