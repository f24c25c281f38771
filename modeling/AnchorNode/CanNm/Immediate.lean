import AnchorNode.CanNm.WakeUp

/-! The message cycle of the repeat message state: the frames sent there, and the instants they
are sent at. -/

namespace AnchorNode.CanNm

open AnchorNode.Lib

variable {cfg : Config} {m : Moment} {s t : State}

def State.frames (s : State) : Nat := (sentFrames s.log).length

@[simp] theorem sentFrames_transmit (log : List Event) (frame : Frame) (result : StdReturn) :
    sentFrames (log ++ [.transmit frame result]) = sentFrames log ++ [frame] := by
  simp [sentFrames]

/-- What a call of `CanNm_TriggerTransmission` does while transmission is enabled. -/
structure Triggered (s t : State) : Prop where
  same : SameNm s t
  txEnabled : t.txEnabled = true
  frames : t.frames = s.frames + 1

theorem triggerTransmission_triggered (accepted : StdReturn) (enabled : s.txEnabled = true) :
    Triggered s (triggerTransmission accepted s) := by
  refine ⟨triggerTransmission_same accepted s, ?_, ?_⟩
  · unfold triggerTransmission
    rw [if_pos enabled]
    dsimp only
    split <;> exact enabled
  · unfold triggerTransmission
    rw [if_pos enabled]
    dsimp only
    split <;> simp only [State.frames, State.emit_log, sentFrames_reportError,
      sentFrames_transmit, List.length_append, List.length_singleton]

def cycleTime (cfg : Config) (left : Nat) : Nat :=
  if left = 0 then cfg.msgCycleTime else cfg.immediateNmCycleTime

structure Repeated (cfg : Config) (m : Moment) (s t : State) : Prop where
  now : t.now = s.now
  nmState : t.nmState = s.nmState
  initialized : t.initialized = s.initialized
  txEnabled : t.txEnabled = true
  frames : t.frames = if m.cycleDue then s.frames + 1 else s.frames
  count : t.immediateTransmissionCount =
    if m.cycleDue then s.immediateTransmissionCount - 1 else s.immediateTransmissionCount
  timer : t.msgCycleTimer =
    if m.cycleDue then s.timerStart (cycleTime cfg (s.immediateTransmissionCount - 1))
    else s.msgCycleTimer
  nextState : t.nextState ≠ s.nextState → t.immediateTransmissionCount = 0

theorem msgCycleTimerHandling_repeated {start : Start} (cfg : Config) (m : Moment)
    (running : s.msgCycleTimer = .running start) (enabled : s.txEnabled = true) :
    Repeated cfg m s (msgCycleTimerHandling cfg m .repeatMessage s) := by
  cases due : m.cycleDue with
  | true =>
      have triggered := triggerTransmission_triggered (s := { s with msgCycleTimer := .elapsed })
        m.cycleAccepted enabled
      have same := triggered.same
      simp only [msgCycleTimerHandling, running, due, Timer.update, if_true]
      split
      all_goals
        rename_i left
        rw [same.count] at left
        refine ⟨same.now, same.nmState, same.initialized, triggered.txEnabled, ?_, ?_, ?_, ?_⟩
        · rw [due]
          exact triggered.frames
        · rw [due]
          exact congrArg (· - 1) same.count
        · rw [due]
          simp [cycleTime, left, State.timerStart, same.now]
        · exact fun other => absurd same.nextState other
  | false =>
      simp only [msgCycleTimerHandling, running, due, Timer.update, Bool.false_eq_true, if_false,
        reduceCtorEq]
      refine ⟨rfl, rfl, rfl, enabled, ?_, ?_, ?_, fun other => absurd rfl other⟩
      all_goals simp [due, running, State.frames]

theorem handlers_repeated {start : Start} (cfg : Config) (m : Moment)
    (repeating : s.nmState = .repeatMessage) (running : s.msgCycleTimer = .running start)
    (enabled : s.txEnabled = true) : Repeated cfg m s (handlers cfg m s) := by
  have cycle := msgCycleTimerHandling_repeated cfg m running enabled
  have handled := handlers_handled cfg m s
  have decided : decisions cfg m s.nmState (msgCycleTimerHandling cfg m s.nmState s) =
      repeatMessageTimeoutHandling m .repeatMessage (nmTimeoutTimerHandling m .repeatMessage
        (msgCycleTimerHandling cfg m .repeatMessage s)) := by
    simp only [decisions, repeating, networkRequestHandling]
  rw [nmTimeoutTimerHandling_eq, repeatMessageTimeoutHandling_eq] at decided
  have same := msgTimeoutTimerHandling_same m
    (decisions cfg m s.nmState (msgCycleTimerHandling cfg m s.nmState s))
  have frames := msgTimeoutTimerHandling_sent m
    (decisions cfg m s.nmState (msgCycleTimerHandling cfg m s.nmState s))
  have enabled' : (msgTimeoutTimerHandling m
      (decisions cfg m s.nmState (msgCycleTimerHandling cfg m s.nmState s))).txEnabled =
        (decisions cfg m s.nmState (msgCycleTimerHandling cfg m s.nmState s)).txEnabled := by
    unfold msgTimeoutTimerHandling
    split <;> rfl
  refine ⟨?_, handled.nmState, handled.initialized, ?_, ?_, ?_, ?_, handled.finished repeating⟩
  · refine same.now.trans ?_
    rw [decided]
    exact cycle.now
  · refine enabled'.trans ?_
    rw [decided]
    exact cycle.txEnabled
  · refine (congrArg List.length frames).trans ?_
    rw [decided]
    exact cycle.frames
  · refine same.count.trans ?_
    rw [decided]
    exact cycle.count
  · refine same.msgCycleTimer.trans ?_
    rw [decided]
    exact cycle.timer

def followsAfter (cfg : Config) (sent : Nat) : Nat :=
  if sent = 1 ∧ cfg.immediateNmTransmissions.toNat = 1 then cfg.immediateNmCycleTime
  else cycleTime cfg (cfg.immediateNmTransmissions.toNat - sent)

/-- The repeat message state while its `sent`-th frame, of the instant `last`, is the last one
sent. -/
structure Phase (cfg : Config) (first sent last : Nat) (s : State) : Prop where
  initialized : s.initialized = true
  nmState : s.nmState = .repeatMessage
  nextState : s.nextState = .repeatMessage
  txEnabled : s.txEnabled = true
  frames : s.frames = first + sent
  some_sent : 0 < sent
  count : s.immediateTransmissionCount = cfg.immediateNmTransmissions.toNat - sent
  timer : s.msgCycleTimer = .running ⟨last, followsAfter cfg sent⟩

def ReadsClock (s : State) : Op → Prop
  | .mainFunction m => ∀ start, s.msgCycleTimer = .running start →
    m.cycleDue = decide (start.instant + start.duration ≤ s.now)
  | _ => True

/-- A step of the phase: the state is not left, transmission not disabled, and the clock read. -/
structure Stays (cfg : Config) (s : State) (op : Op) : Prop where
  nmState : (step cfg s op).nmState = .repeatMessage
  txEnabled : (step cfg s op).txEnabled = true
  reads : ReadsClock s op

def Due (time last : Nat) (s : State) : Op → Prop
  | .mainFunction m => Runs m s ∧ last + time ≤ s.now
  | _ => False

instance (time last : Nat) (s : State) : (op : Op) → Decidable (Due time last s op)
  | .mainFunction m => inferInstanceAs (Decidable (Runs m s ∧ last + time ≤ s.now))
  | .networkRequest | .networkRelease | .passiveStartUp | .rxIndication _ | .setCanIdx _
  | .txConfirmation | .tick _ => inferInstanceAs (Decidable False)

def sentIn (cfg : Config) (s : State) (op : Op) : List Nat :=
  if s.frames < (step cfg s op).frames then [s.now] else []

def sentAt (cfg : Config) (s : State) : List Op → List Nat
  | [] => []
  | op :: ops => sentIn cfg s op ++ sentAt cfg (step cfg s op) ops

variable {first sent last : Nat}

theorem Phase.tick (phase : Phase cfg first sent last s) (time : Nat) :
    Phase cfg first sent last (step cfg s (.tick time)) :=
  ⟨phase.initialized, phase.nmState, phase.nextState, phase.txEnabled, phase.frames,
    phase.some_sent, phase.count, phase.timer⟩

theorem Phase.tick_stays (phase : Phase cfg first sent last s) (time : Nat) :
    Stays cfg s (.tick time) :=
  ⟨(phase.tick time).nmState, (phase.tick time).txEnabled, trivial⟩

theorem Phase.call (phase : Phase cfg first sent last s) {op : Op}
    (other : ∀ m, op ≠ .mainFunction m) (stays : (step cfg s op).txEnabled = true) :
    Phase cfg first sent last (step cfg s op) := by
  have initialized := phase.initialized
  cases op with
  | mainFunction m => exact absurd rfl (other m)
  | networkRequest =>
      simp only [step, networkRequest, if_pos initialized] at stays ⊢
      exact ⟨phase.initialized, phase.nmState, phase.nextState, stays, phase.frames,
        phase.some_sent, phase.count, phase.timer⟩
  | networkRelease =>
      simp only [step, networkRelease, if_pos initialized] at stays ⊢
      exact ⟨phase.initialized, phase.nmState, phase.nextState, stays, phase.frames,
        phase.some_sent, phase.count, phase.timer⟩
  | passiveStartUp =>
      have awake : ¬ (s.nmState.mode = .busSleep ∨ s.nmState.mode = .prepareBusSleep) := by
        simp [phase.nmState, NmState.mode]
      simp only [step, passiveStartUp, initialized, if_true, if_neg awake]
      exact phase
  | rxIndication sdu =>
      have received := rxIndication_received cfg sdu initialized
      have deaf : ¬ WakesBy s sdu := by simp [WakesBy, phase.nmState]
      have timer : (rxIndication cfg sdu s).msgCycleTimer = s.msgCycleTimer := by
        rcases received.cycle with ⟨normal, -⟩ | same
        · rw [phase.nmState] at normal
          cases normal
        · exact same
      refine ⟨received.initialized.trans phase.initialized, received.nmState.trans phase.nmState,
        ?_, stays, ?_, phase.some_sent, received.count.trans phase.count,
        timer.trans phase.timer⟩
      · simp only [step, received.nextState, if_neg deaf, phase.nextState]
      · exact (congrArg List.length received.silent).trans phase.frames
  | tick time => exact phase.tick time
  | setCanIdx canIdx =>
      exact ⟨phase.initialized, phase.nmState, phase.nextState, stays, phase.frames,
        phase.some_sent, phase.count, phase.timer⟩
  | txConfirmation =>
      simp only [step, txConfirmation, if_pos initialized] at stays ⊢
      exact ⟨phase.initialized, phase.nmState, phase.nextState, stays, phase.frames,
        phase.some_sent, phase.count, phase.timer⟩

theorem followsAfter_later (cfg : Config) (some_sent : 0 < sent) :
    followsAfter cfg (sent + 1) =
      cycleTime cfg (cfg.immediateNmTransmissions.toNat - sent - 1) := by
  rw [followsAfter, if_neg (by omega), Nat.sub_sub]

theorem Phase.cycleDue (phase : Phase cfg first sent last s)
    (reads : ReadsClock s (.mainFunction m)) :
    m.cycleDue = decide (last + followsAfter cfg sent ≤ s.now) :=
  reads _ phase.timer

theorem Phase.mainFunction (phase : Phase cfg first sent last s) (runs : Runs m s)
    (stays : (mainFunction cfg m s).nmState = .repeatMessage) :
    Phase cfg first (if m.cycleDue then sent + 1 else sent) (if m.cycleDue then s.now else last)
      (mainFunction cfg m s) := by
  have repeated := handlers_repeated cfg m phase.nmState phase.timer phase.txEnabled
  have whole : CanNm.mainFunction cfg m s = changeState cfg m s.nmState (handlers cfg m s) := by
    rw [CanNm.mainFunction, if_pos runs, if_pos phase.initialized]
  have next : (handlers cfg m s).nextState = .repeatMessage := by
    by_contra other
    have entered : Entered (handlers cfg m s).nextState (handlers cfg m s)
        (changeState cfg m s.nmState (handlers cfg m s)) :=
      changeState_entered (by rwa [phase.nmState])
    rw [whole, entered.nmState] at stays
    exact other stays
  rw [whole, changeState_same (next.trans phase.nmState.symm)]
  have initialized := repeated.initialized.trans phase.initialized
  have state := repeated.nmState.trans phase.nmState
  have frames := repeated.frames
  have count := repeated.count
  have timer := repeated.timer
  cases due : m.cycleDue with
  | true =>
      simp only [due, if_true] at frames count timer ⊢
      refine ⟨initialized, state, next, repeated.txEnabled, ?_, Nat.succ_pos _, ?_, ?_⟩
      · rw [frames, phase.frames, Nat.add_assoc]
      · rw [count, phase.count, Nat.sub_sub]
      · rw [timer, phase.count, followsAfter_later cfg phase.some_sent, State.timerStart]
  | false =>
      simp only [due, Bool.false_eq_true, if_false] at frames count timer ⊢
      exact ⟨initialized, state, next, repeated.txEnabled, frames.trans phase.frames,
        phase.some_sent, count.trans phase.count, timer.trans phase.timer⟩

theorem Phase.step (phase : Phase cfg first sent last s) {op : Op} (stays : Stays cfg s op) :
    Phase cfg first (if Due (followsAfter cfg sent) last s op then sent + 1 else sent)
      (if Due (followsAfter cfg sent) last s op then s.now else last) (step cfg s op) := by
  by_cases main : ∃ m, op = .mainFunction m
  · obtain ⟨m, rfl⟩ := main
    by_cases runs : Runs m s
    · have next := phase.mainFunction runs stays.nmState
      simpa only [Due, runs, true_and, phase.cycleDue stays.reads, decide_eq_true_eq,
        CanNm.step] using next
    · rw [CanNm.step, CanNm.mainFunction, if_neg runs]
      simpa only [Due, runs, false_and, if_false] using phase
  · have idle : ¬ Due (followsAfter cfg sent) last s op := by
      intro due
      cases op with
      | mainFunction m => exact main ⟨m, rfl⟩
      | networkRequest | networkRelease | passiveStartUp | rxIndication sdu | setCanIdx canIdx
      | txConfirmation | tick time => exact due
    rw [if_neg idle, if_neg idle]
    exact phase.call (fun m same => main ⟨m, same⟩) stays.txEnabled

theorem Phase.counted (phase : Phase cfg first sent last s) {op : Op} (stays : Stays cfg s op) :
    Phase cfg first (sent + (sentIn cfg s op).length) ((sentIn cfg s op).getLastD last)
      (CanNm.step cfg s op) := by
  have next := phase.step stays
  split at next
  · have more : s.frames < (CanNm.step cfg s op).frames := by
      rw [next.frames, phase.frames]
      omega
    rw [sentIn, if_pos more]
    exact next
  · have none : ¬ s.frames < (CanNm.step cfg s op).frames := by
      rw [next.frames, phase.frames]
      exact Nat.lt_irrefl _
    rw [sentIn, if_neg none]
    exact next

theorem sentIn_getLastD (cfg : Config) (s : State) (op : Op) (rest : List Nat) (last : Nat) :
    (sentIn cfg s op ++ rest).getLastD last = rest.getLastD ((sentIn cfg s op).getLastD last) := by
  unfold sentIn
  split
  · exact List.getLastD_cons
  · rfl

theorem Phase.run (phase : Phase cfg first sent last s) {ops : List Op}
    (stays : Guarded (CanNm.step cfg) (Stays cfg) s ops) :
    Phase cfg first (sent + (sentAt cfg s ops).length) ((sentAt cfg s ops).getLastD last)
      (Lib.run (CanNm.step cfg) s ops) := by
  -- the count and the last instant move on with the frames of each call
  induction ops generalizing s sent last with
  | nil => exact phase
  | cons op ops ih =>
      have rest := ih (phase.counted stays.1) stays.2
      rw [sentAt, sentIn_getLastD, List.length_append, ← Nat.add_assoc]
      exact rest

theorem Phase.handled (phase : Phase cfg first sent last s)
    (reads : ReadsClock s (.mainFunction m)) :
    (handlers cfg m s).frames =
      s.frames + if last + followsAfter cfg sent ≤ s.now then 1 else 0 := by
  have frames :=
    (handlers_repeated cfg m phase.nmState phase.timer phase.txEnabled).frames
  rw [frames, phase.cycleDue reads]
  by_cases due : last + followsAfter cfg sent ≤ s.now <;> simp [due]

theorem Phase.left (phase : Phase cfg first sent last s) (m : Moment)
    (leaves : (CanNm.mainFunction cfg m s).nmState ≠ .repeatMessage) :
    Runs m s ∧ first + cfg.immediateNmTransmissions.toNat ≤ (handlers cfg m s).frames := by
  by_cases runs : Runs m s
  · refine ⟨runs, ?_⟩
    have repeated := handlers_repeated cfg m phase.nmState phase.timer phase.txEnabled
    have moves : (handlers cfg m s).nextState ≠ s.nextState := by
      intro same
      apply leaves
      rw [CanNm.mainFunction, if_pos runs, if_pos phase.initialized,
        changeState_same (same.trans (phase.nextState.trans phase.nmState.symm)),
        repeated.nmState, phase.nmState]
    have none := repeated.nextState moves
    have frames := repeated.frames
    have count := repeated.count
    rw [none, phase.count] at count
    rw [frames, phase.frames]
    split at count
    · rename_i due
      rw [if_pos due]
      omega
    · rename_i due
      rw [if_neg due]
      omega
  · rw [CanNm.mainFunction, if_neg runs, phase.nmState] at leaves
    exact absurd rfl leaves

/-- The main function is about to enter the repeat message state for a request of the network. -/
structure Requested (m : Moment) (s : State) : Prop where
  runs : Runs m s
  asleep : s.nmState = .busSleep ∨ s.nmState = .prepareBusSleep
  networkState : s.networkState = .requested
  txEnabled : s.txEnabled = true

instance (m : Moment) (s : State) : Decidable (Requested m s) :=
  decidable_of_iff (Runs m s ∧ (s.nmState = .busSleep ∨ s.nmState = .prepareBusSleep) ∧
      s.networkState = .requested ∧ s.txEnabled = true)
    ⟨fun ⟨runs, asleep, net, enabled⟩ => ⟨runs, asleep, net, enabled⟩,
      fun r => ⟨r.runs, r.asleep, r.networkState, r.txEnabled⟩⟩

theorem handlers_requested (cfg : Config) (inv : Inv s) (requested : Requested m s) :
    (handlers cfg m s).immediateTransmissionCount = cfg.immediateNmTransmissions.toNat ∧
      (handlers cfg m s).txEnabled = true ∧ (handlers cfg m s).nextState = .repeatMessage ∧
      (handlers cfg m s).now = s.now := by
  have stopped : s.msgCycleTimer.started = false := by
    rw [inv.cycle]
    rcases requested.asleep with state | state <;> rw [state] <;> rfl
  have silent : s.msgCycleTimer.update m.cycleDue ≠ .elapsed := by
    intro elapsed
    rw [started_of_elapsed elapsed] at stopped
    cases stopped
  have cycle : msgCycleTimerHandling cfg m s.nmState s =
      { s with msgCycleTimer := s.msgCycleTimer.update m.cycleDue } := by
    simp only [msgCycleTimerHandling, if_neg silent]
  have other : s.nmState ≠ .repeatMessage := by
    rcases requested.asleep with state | state <;> rw [state] <;> decide
  have decided : (decisions cfg m s.nmState (msgCycleTimerHandling cfg m s.nmState s)) =
      { s with
        msgCycleTimer := s.msgCycleTimer.update m.cycleDue
        nmTimeoutTimer := s.nmTimeoutTimer.update m.nmTimeoutDue
        immediateTransmissionCount := cfg.immediateNmTransmissions.toNat
        nextState := .repeatMessage } := by
    rw [cycle, decisions, repeatMessageTimeoutHandling_other other, nmTimeoutTimerHandling_eq]
    rcases requested.asleep with state | state <;>
      simp only [networkRequestHandling, state, requested.networkState]
  have same := msgTimeoutTimerHandling_same m
    (decisions cfg m s.nmState (msgCycleTimerHandling cfg m s.nmState s))
  have enabled : (handlers cfg m s).txEnabled =
      (decisions cfg m s.nmState (msgCycleTimerHandling cfg m s.nmState s)).txEnabled := by
    change (msgTimeoutTimerHandling m _).txEnabled = _
    unfold msgTimeoutTimerHandling
    split <;> rfl
  refine ⟨?_, ?_, ?_, ?_⟩
  · refine same.count.trans ?_
    rw [decided]
  · rw [enabled, decided]
    exact requested.txEnabled
  · refine same.nextState.trans ?_
    rw [decided]
  · refine same.now.trans ?_
    rw [decided]

theorem phase_opened (accepted : StdReturn) (initialized : s.initialized = true)
    (nmState : s.nmState = .repeatMessage) (nextState : s.nextState = .repeatMessage)
    (enabled : s.txEnabled = true)
    (count : s.immediateTransmissionCount = cfg.immediateNmTransmissions.toNat - 1)
    (timer : s.msgCycleTimer = .running ⟨last, followsAfter cfg 1⟩) (frames : s.frames = first) :
    Phase cfg first 1 last ((triggerTransmission accepted s).emit .requestCpu) := by
  have triggered := triggerTransmission_triggered accepted enabled
  have same := triggered.same
  refine ⟨same.initialized.trans initialized, same.nmState.trans nmState,
    same.nextState.trans nextState, triggered.txEnabled, ?_, Nat.one_pos, same.count.trans count,
    same.msgCycleTimer.trans timer⟩
  rw [← frames, ← triggered.frames]
  simp only [State.frames, State.emit_log, sentFrames_request]

theorem requested_entry (cfg : Config) (inv : Inv s) (requested : Requested m s) :
    mainFunction cfg m s = setState cfg m .repeatMessage (handlers cfg m s) := by
  have other : s.nmState ≠ .repeatMessage := by
    rcases requested.asleep with state | state <;> rw [state] <;> decide
  have next := (handlers_requested cfg inv requested).2.2.1
  rw [mainFunction, if_pos requested.runs, if_pos inv.initialized, changeState, next,
    if_pos other.symm]
  simp only [if_neg other, next]

theorem requested_phase (cfg : Config) (inv : Inv s) (requested : Requested m s) :
    Phase cfg s.frames 1 s.now (mainFunction cfg m s) := by
  obtain ⟨count, enabled, next, now⟩ := handlers_requested cfg inv requested
  have handled := handlers_handled cfg m s
  have initialized := handled.initialized.trans inv.initialized
  have stopped : s.msgCycleTimer.started = false := by
    rw [inv.cycle]
    rcases requested.asleep with state | state <;> rw [state] <;> rfl
  have frames : (handlers cfg m s).frames = s.frames :=
    congrArg List.length (handled.silent stopped)
  rw [requested_entry cfg inv requested, ← frames, ← now]
  generalize handlers cfg m s = t at count enabled next initialized
  simp only [setState]
  split
  · rename_i left
    rw [count] at left
    apply phase_opened
    · exact initialized
    · rfl
    · exact next
    · exact enabled
    · exact congrArg (· - 1) count
    · -- with a single immediate transmission none is left to follow after its time
      have first : followsAfter cfg 1 = cfg.immediateNmCycleTime := by
        by_cases one : cfg.immediateNmTransmissions.toNat = 1
        · rw [followsAfter, if_pos ⟨rfl, one⟩]
        · rw [followsAfter, if_neg (fun single => one single.2), cycleTime, if_neg (by omega)]
      rw [first]
      rfl
    · rfl
  · rename_i none
    rw [count] at none
    apply phase_opened
    · exact initialized
    · rfl
    · exact next
    · exact enabled
    · change t.immediateTransmissionCount = _
      omega
    · have first : followsAfter cfg 1 = cfg.msgCycleTime := by
        rw [followsAfter, if_neg (by omega), cycleTime, if_pos (by omega)]
      rw [first]
      rfl
    · rfl

def meantTime (cfg : Config) (sent : Nat) : Nat :=
  if sent < cfg.immediateNmTransmissions.toNat then cfg.immediateNmCycleTime
  else cfg.msgCycleTime

/-- The message cycle as it is meant to be, after the calls `later` from the entry `e` into the
repeat message state out of `s`. The next call sends a frame exactly if it is a main function
that does its work when the time of the last frame has passed; one that leaves the state does so
behind the frame, and not before the last immediate frame has gone out. -/
structure MeantCycle (cfg : Config) (s e : State) (later : List Op) : Prop where
  next : ∀ op, Stays cfg (run (step cfg) e later) op →
    (step cfg (run (step cfg) e later) op).frames = (run (step cfg) e later).frames +
      if Due (meantTime cfg (1 + (sentAt cfg e later).length))
        ((sentAt cfg e later).getLastD s.now) (run (step cfg) e later) op then 1 else 0
  leaving : ∀ m, ReadsClock (run (step cfg) e later) (.mainFunction m) →
    (mainFunction cfg m (run (step cfg) e later)).nmState ≠ .repeatMessage →
    (handlers cfg m (run (step cfg) e later)).frames = (run (step cfg) e later).frames +
      if Due (meantTime cfg (1 + (sentAt cfg e later).length))
        ((sentAt cfg e later).getLastD s.now) (run (step cfg) e later) (.mainFunction m)
      then 1 else 0
  complete : ∀ m, (mainFunction cfg m (run (step cfg) e later)).nmState ≠ .repeatMessage →
    s.frames + cfg.immediateNmTransmissions.toNat ≤
      (handlers cfg m (run (step cfg) e later)).frames

/-- Every network request that leads into the repeat message state sends the first frame at once
and goes on with the cycle. -/
def ImmediateSequence (cfg : Config) : Prop :=
  ∀ canFitted ops m, Requested m (after cfg canFitted ops) →
    (mainFunction cfg m (after cfg canFitted ops)).nmState = .repeatMessage ∧
    (mainFunction cfg m (after cfg canFitted ops)).frames = (after cfg canFitted ops).frames + 1 ∧
    ∀ later, Guarded (step cfg) (Stays cfg) (mainFunction cfg m (after cfg canFitted ops)) later →
      MeantCycle cfg (after cfg canFitted ops) (mainFunction cfg m (after cfg canFitted ops)) later

theorem Phase.meant {e : State} (phase : Phase cfg s.frames 1 s.now e)
    (times : ∀ sent, 0 < sent → followsAfter cfg sent = meantTime cfg sent) {later : List Op}
    (stays : Guarded (CanNm.step cfg) (Stays cfg) e later) : MeantCycle cfg s e later := by
  have now := phase.run stays
  have time := times _ now.some_sent
  refine ⟨?_, ?_, fun m leaves => (now.left m leaves).2⟩
  · intro op more
    have next := (now.step more).frames
    rw [time] at next
    rw [next, now.frames]
    split <;> omega
  · intro m reads leaves
    have runs := (now.left m leaves).1
    rw [now.handled reads, time]
    simp only [Due, runs, true_and]

def busyMoment (cycleDue : Bool) : Moment := ⟨true, cycleDue, false, false, false, false, .ok, .ok⟩

def entry (cfg : Config) : State :=
  mainFunction cfg (busyMoment false) (after cfg true [.networkRequest])

theorem entry_requested (cfg : Config) :
    Requested (busyMoment false) (after cfg true [.networkRequest]) :=
  ⟨Or.inl rfl, Or.inl rfl, rfl, rfl⟩

theorem entry_phase (cfg : Config) : Phase cfg 0 1 0 (entry cfg) :=
  requested_phase cfg (after_inv cfg true [.networkRequest]) (entry_requested cfg)

theorem entry_timed (cfg : Config) :
    (entry cfg).now = 0 ∧ (entry cfg).nmTimeoutTimer = .running ⟨0, cfg.repeatMessageTime⟩ := by
  have inv := after_inv cfg true [.networkRequest]
  have now := (handlers_requested cfg inv (entry_requested cfg)).2.2.2
  rw [entry, requested_entry cfg inv (entry_requested cfg)]
  generalize handlers cfg (busyMoment false) (after cfg true [.networkRequest]) = t at now
  have start : t.now = 0 := now
  simp only [setState]
  split
  all_goals
    refine ⟨(triggerTransmission_same _ _).now.trans start, ?_⟩
    refine (triggerTransmission_same _ _).nmTimeoutTimer.trans ?_
    rw [State.timerStart, ← start]

def waited (cfg : Config) (time : Nat) : State := run (step cfg) (entry cfg) [.tick time]

theorem waited_phase (cfg : Config) (time : Nat) :
    Phase cfg 0 1 0 (waited cfg time) ∧ (waited cfg time).now = time ∧
      (waited cfg time).nmTimeoutTimer = .running ⟨0, cfg.repeatMessageTime⟩ := by
  have phase := (entry_phase cfg).tick time
  obtain ⟨now, timeout⟩ := entry_timed cfg
  rw [waited, run_cons, run_nil]
  generalize entry cfg = e at phase now timeout
  refine ⟨phase, ?_, timeout⟩
  simp only [step, now, Nat.zero_add]

def secondCall (cfg : Config) (time : Nat) : Op :=
  .mainFunction (busyMoment (decide (cfg.immediateNmCycleTime ≤ time)))

theorem secondCall_due (limit time : Nat) :
    Due limit 0 (waited cfg time) (secondCall cfg time) ↔ limit ≤ time := by
  simp [secondCall, Due, Runs, busyMoment, (waited_phase cfg time).2.1]

theorem secondCall_stays (one : cfg.immediateNmTransmissions.toNat = 1) (time : Nat) :
    Stays cfg (waited cfg time) (secondCall cfg time) := by
  obtain ⟨phase, clock, timeout⟩ := waited_phase cfg time
  have runs : Runs (busyMoment (decide (cfg.immediateNmCycleTime ≤ time))) (waited cfg time) :=
    Or.inl rfl
  have state : (mainFunction cfg (busyMoment (decide (cfg.immediateNmCycleTime ≤ time)))
      (waited cfg time)).nmState = .repeatMessage := by
    rw [mainFunction_nmState runs phase.initialized, pending, phase.nmState, timeout]
    simp [busyMoment, Timer.update, phase.nextState]
  refine ⟨state, (phase.mainFunction runs state).txEnabled, ?_⟩
  intro start running
  rw [phase.timer, followsAfter, if_pos ⟨rfl, one⟩] at running
  cases running
  simp only [busyMoment, clock, Nat.zero_add]

/-- Were the cycle as it is meant to be, the second frame would follow a single immediate
transmission both after the short and after the long time. -/
theorem second_frame (sequence : ImmediateSequence cfg)
    (one : cfg.immediateNmTransmissions.toNat = 1) (time : Nat) :
    cfg.immediateNmCycleTime ≤ time ↔ cfg.msgCycleTime ≤ time := by
  have phase := entry_phase cfg
  have later := (waited_phase cfg time).1
  have stays := secondCall_stays one time
  have first : followsAfter cfg 1 = cfg.immediateNmCycleTime := if_pos ⟨rfl, one⟩
  have sent := (later.step stays).frames
  simp only [first, secondCall_due, Nat.zero_add] at sent
  have ticks : Guarded (step cfg) (Stays cfg) (entry cfg) [.tick time] :=
    ⟨phase.tick_stays time, trivial⟩
  have cycle := (sequence true [.networkRequest] (busyMoment false) (entry_requested cfg)).2.2 _
    ticks
  have quiet : sentAt cfg (entry cfg) [.tick time] = [] := by
    simp only [sentAt, sentIn, List.append_nil]
    exact if_neg (Nat.lt_irrefl _)
  have meant := cycle.next _ stays
  change (step cfg (waited cfg time) (secondCall cfg time)).frames = (waited cfg time).frames +
    if Due (meantTime cfg (1 + (sentAt cfg (entry cfg) [.tick time]).length))
      ((sentAt cfg (entry cfg) [.tick time]).getLastD 0) (waited cfg time) (secondCall cfg time)
    then 1 else 0 at meant
  rw [quiet, List.length_nil, Nat.add_zero, List.getLastD_nil, meantTime, one,
    if_neg (Nat.lt_irrefl _), later.frames, sent] at meant
  simp only [secondCall_due] at meant
  by_cases short : cfg.immediateNmCycleTime ≤ time <;>
    by_cases long : cfg.msgCycleTime ≤ time <;> simp [short, long] at meant ⊢

/-- The cycle is as it is meant to be exactly if there is not a single immediate transmission,
or the two times are the same. -/
theorem immediate_transmissions (cfg : Config) : ImmediateSequence cfg ↔
    cfg.immediateNmTransmissions ≠ 1 ∨ cfg.immediateNmCycleTime = cfg.msgCycleTime := by
  have single : cfg.immediateNmTransmissions = 1 ↔ cfg.immediateNmTransmissions.toNat = 1 :=
    UInt16.toNat_inj.symm
  rw [ne_eq, single]
  constructor
  · intro sequence
    by_cases one : cfg.immediateNmTransmissions.toNat = 1
    · have same := second_frame sequence one
      refine Or.inr (Nat.le_antisymm ?_ ?_)
      · exact (same _).mpr (Nat.le_refl _)
      · exact (same _).mp (Nat.le_refl _)
    · exact Or.inl one
  · intro config canFitted ops m requested
    have phase := requested_phase cfg (after_inv cfg canFitted ops) requested
    refine ⟨phase.nmState, phase.frames, fun later stays => phase.meant ?_ stays⟩
    intro sent some_sent
    rw [followsAfter, cycleTime, meantTime]
    rcases config with several | equal
    · rw [if_neg (by omega)]
      by_cases left : cfg.immediateNmTransmissions.toNat - sent = 0
      · rw [if_pos left, if_neg (by omega)]
      · rw [if_neg left, if_pos (by omega)]
    · rw [equal]
      simp only [ite_self]

def singleConfig : Config where
  timeoutTime := 1000
  waitBusSleepTime := 1500
  repeatMessageTime := 1600
  msgCycleTime := 200
  immediateNmCycleTime := 20
  immediateNmTransmissions := 1
  msgReducedTime _ := 0
  nodeId canIdx := canIdx

theorem single_transmission_early : ¬ ImmediateSequence singleConfig := by
  intro sequence
  exact absurd ((second_frame sequence rfl 20).mp (by decide)) (by decide)

end AnchorNode.CanNm
