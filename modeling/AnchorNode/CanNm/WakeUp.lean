import AnchorNode.CanNm.Invariant

/-! Wake-ups. Whatever wakes the node leaves its wish in the next state, where the handlers of
the main function find it and may put another wish in its place. -/

namespace AnchorNode.CanNm

open AnchorNode.Lib

variable {cfg : Config} {m : Moment} {s t : State}

/-- The calls that ask for the repeat message state. -/
def Wakes (s : State) : Op → Prop
  | .rxIndication sdu => WakesBy s sdu
  | .passiveStartUp => (passiveStartUp s).2 = .ok
  | _ => False

instance (s : State) : (op : Op) → Decidable (Wakes s op)
  | .rxIndication sdu => inferInstanceAs (Decidable (WakesBy s sdu))
  | .passiveStartUp => inferInstanceAs (Decidable ((passiveStartUp s).2 = .ok))
  | .networkRequest | .networkRelease | .setCanIdx _ | .txConfirmation | .mainFunction _
  | .tick _ => inferInstanceAs (Decidable False)

/-- Anything but a main function that does its work. -/
def Waits (s : State) : Op → Prop
  | .mainFunction m => ¬ Runs m s
  | _ => True

instance (s : State) : (op : Op) → Decidable (Waits s op)
  | .mainFunction m => inferInstanceAs (Decidable (¬ Runs m s))
  | .networkRequest | .networkRelease | .passiveStartUp | .rxIndication _ | .setCanIdx _
  | .txConfirmation | .tick _ => inferInstanceAs (Decidable True)

/-- The handlers leave a wish for the repeat message state alone: nothing overwrites it from
bus sleep, a timeout or a network state does from the other states. -/
def Undisturbed (m : Moment) (s : State) : Prop :=
  match s.nmState with
  | .busSleep | .repeatMessage => True
  | .prepareBusSleep =>
    s.networkState = .requested ∨ s.nmTimeoutTimer.update m.nmTimeoutDue ≠ .elapsed
  | .readySleep =>
    s.networkState = .released ∧ s.nmTimeoutTimer.update m.nmTimeoutDue ≠ .elapsed
  | .normalOperation => s.networkState = .requested

structure Waking (s : State) : Prop where
  initialized : s.initialized = true
  nextState : s.nextState = .repeatMessage
  other : s.nmState ≠ .repeatMessage

theorem passiveStartUp_ok (started : (passiveStartUp s).2 = .ok) :
    s.initialized = true ∧ (s.nmState = .busSleep ∨ s.nmState = .prepareBusSleep) ∧
      (passiveStartUp s).1 = { s with nextState := .repeatMessage } := by
  unfold passiveStartUp at started ⊢
  split at started
  · rename_i initialized
    split at started
    · rename_i asleep
      refine ⟨initialized, ?_, by simp [initialized, asleep]⟩
      cases state : s.nmState with
      | busSleep => exact Or.inl rfl
      | prepareBusSleep => exact Or.inr rfl
      | readySleep | normalOperation | repeatMessage => simp [NmState.mode, state] at asleep
    · cases started
  · cases started

theorem wakes_waking (cfg : Config) (initialized : s.initialized = true) {op : Op}
    (wakes : Wakes s op) : Waking (step cfg s op) := by
  cases op with
  | rxIndication sdu =>
      have received := rxIndication_received cfg sdu initialized
      have woken : WakesBy s sdu := wakes
      refine ⟨received.initialized.trans initialized, ?_, ?_⟩
      · rw [step, received.nextState, if_pos woken]
      · rw [step, received.nmState]
        rcases woken.2 with state | state | ⟨_, state | state⟩ <;> simp [state]
  | passiveStartUp =>
      obtain ⟨_, asleep, moved⟩ := passiveStartUp_ok wakes
      rw [step, moved]
      refine ⟨initialized, rfl, ?_⟩
      rcases asleep with state | state <;> simp [state]
  | networkRequest | networkRelease | setCanIdx canIdx | txConfirmation | mainFunction m
  | tick time => exact wakes.elim

theorem waits_waking (waking : Waking s) {op : Op} (waits : Waits s op) :
    Waking (step cfg s op) := by
  obtain ⟨initialized, nextState, other⟩ := waking
  cases op with
  | networkRequest =>
      simp only [step, networkRequest, if_pos initialized]
      exact ⟨initialized, nextState, other⟩
  | networkRelease =>
      simp only [step, networkRelease, if_pos initialized]
      exact ⟨initialized, nextState, other⟩
  | passiveStartUp =>
      simp only [step, passiveStartUp, if_pos initialized]
      split
      · exact ⟨initialized, rfl, other⟩
      · exact ⟨initialized, nextState, other⟩
  | rxIndication sdu =>
      have received := rxIndication_received cfg sdu initialized
      refine ⟨received.initialized.trans initialized, ?_, ?_⟩
      · rw [step, received.nextState, nextState]
        split <;> rfl
      · rw [step, received.nmState]
        exact other
  | setCanIdx canIdx => exact ⟨initialized, nextState, other⟩
  | tick time => exact ⟨initialized, nextState, other⟩
  | txConfirmation =>
      simp only [step, txConfirmation, if_pos initialized]
      exact ⟨initialized, nextState, other⟩
  | mainFunction m =>
      have idle : step cfg s (.mainFunction m) = s := if_neg waits
      rw [idle]
      exact ⟨initialized, nextState, other⟩

theorem mainFunction_nmState (runs : Runs m s) (initialized : s.initialized = true) :
    (mainFunction cfg m s).nmState = pending cfg m s := by
  have handled := handlers_handled cfg m s
  rw [mainFunction, if_pos runs, if_pos initialized]
  by_cases stays : pending cfg m s = s.nmState
  · rw [changeState_same (handled.nextState.trans stays), handled.nmState, stays]
  · have moves : (handlers cfg m s).nextState ≠ s.nmState := by
      rw [handled.nextState]
      exact stays
    rw [(changeState_entered moves).nmState, handled.nextState]

theorem waking_followed_iff (waking : Waking s) :
    pending cfg m s = .repeatMessage ↔ Undisturbed m s := by
  have next := waking.nextState
  cases state : s.nmState with
  | repeatMessage => exact absurd state waking.other
  | busSleep | prepareBusSleep | readySleep | normalOperation =>
      cases net : s.networkState <;> simp [pending, Undisturbed, state, net, next]

/-- Once something has woken the node, the next main function that does its work enters the
repeat message state if and only if no timeout and no network state is in the way. -/
theorem wakeup_followed_iff (cfg : Config) (canFitted : Bool) (ops : List Op) (wake : Op)
    (quiet : List Op) (m : Moment) (wakes : Wakes (after cfg canFitted ops) wake)
    (waits : Guarded (step cfg) Waits (after cfg canFitted (ops ++ [wake])) quiet)
    (runs : Runs m (after cfg canFitted (ops ++ wake :: quiet))) :
    (mainFunction cfg m (after cfg canFitted (ops ++ wake :: quiet))).nmState = .repeatMessage ↔
      Undisturbed m (after cfg canFitted (ops ++ wake :: quiet)) := by
  have inv := after_inv cfg canFitted ops
  have first : after cfg canFitted (ops ++ [wake]) = step cfg (after cfg canFitted ops) wake := by
    simp only [after, run_append, run_cons, run_nil]
  have whole : after cfg canFitted (ops ++ wake :: quiet) =
      run (step cfg) (after cfg canFitted (ops ++ [wake])) quiet := by
    simp only [after, run_append, run_cons, run_nil]
  have woken : Waking (after cfg canFitted (ops ++ [wake])) := by
    rw [first]
    exact wakes_waking cfg inv.initialized wakes
  have waking : Waking (after cfg canFitted (ops ++ wake :: quiet)) := by
    have preserved : ∀ s op, Waking s → Waits s op → Waking (step cfg s op) :=
      fun _ _ holds ok => waits_waking holds ok
    rw [whole]
    exact guarded_invariant preserved woken waits
  rw [mainFunction_nmState runs waking.initialized]
  exact waking_followed_iff waking

def sampleConfig : Config where
  timeoutTime := 1500
  waitBusSleepTime := 2000
  repeatMessageTime := 1600
  msgCycleTime := 500
  immediateNmCycleTime := 20
  immediateNmTransmissions := 1
  msgReducedTime := fun _ => 250
  nodeId := id

def moment (timeoutDue : Bool) : Moment where
  canSmOnline := true
  cycleDue := false
  nmTimeoutDue := timeoutDue
  repeatDue := false
  msgTimeoutDue := false
  restartDue := false
  cycleAccepted := .ok
  entryAccepted := .ok

def fallingAsleep : List Op :=
  [.networkRequest, .mainFunction (moment false), .networkRelease, .mainFunction (moment true),
    .mainFunction (moment true)]

theorem wakeup_followed_in_time :
    (mainFunction sampleConfig (moment false)
      (after sampleConfig true (fallingAsleep ++ [.rxIndication [1, 0]]))).nmState =
        .repeatMessage ↔
      Undisturbed (moment false)
        (after sampleConfig true (fallingAsleep ++ [.rxIndication [1, 0]])) :=
  wakeup_followed_iff sampleConfig true fallingAsleep (.rxIndication [1, 0]) [] (moment false)
    (by decide) (by decide) (by decide)

theorem wakeup_lost_to_timeout :
    Wakes (after sampleConfig true fallingAsleep) (.rxIndication [1, 0]) ∧
      (mainFunction sampleConfig (moment true)
        (after sampleConfig true (fallingAsleep ++ [.rxIndication [1, 0]]))).nmState =
          .busSleep := by
  decide

end AnchorNode.CanNm
