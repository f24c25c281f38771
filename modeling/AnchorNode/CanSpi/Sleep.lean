import AnchorNode.CanSpi.Ready

/-! The fast sleep. It needs the processor until the chip is asleep; the initialisation and the
health check release the processor for themselves, and with it for the fast sleep. -/

namespace AnchorNode.CanSpi

open AnchorNode.Lib Thread

variable {P Q R A : Type} {env : Env} {w w' : World} {log : List Event}

def isRelease (e : Event) : Bool := e == .releaseService

theorem isRelease_of_unnotable {e : Event} (call : e.isNotable = false) : isRelease e = false := by
  cases e <;> first | rfl | cases call

/-- The fast sleep has been asked for and is not complete, and the processor has not been released
since the log was as given. -/
structure Held (log : List Event) (w : World) : Prop where
  fast : w.fastSleep = .request
  requested : w.cpuRequested = true
  log : Logged isRelease log w.log

/-- The processor has been released at last, transceiver and controller having been put to sleep. -/
def Slept (log : List Event) (w : World) : Prop :=
  ∃ new accepted, w.log = log ++ new ++
      [.setTrcvMode .sleep accepted, .setControllerMode .sleep, .releaseService] ∧
    ∀ e ∈ new, isRelease e = false

theorem Held.quiet (held : Held log w) (quiet : Quiet w w') : Held log w' where
  fast := quiet.fastSleep.trans held.fast
  requested := quiet.cpuRequested.trans held.requested
  log := held.log.trans (quiet.log.weaken fun _ => isRelease_of_unnotable)

def Holds (t : Thread World P R) : Prop := ∀ log, Keeps (Held log) t

theorem Quietly.holds {t : Thread World P R} (quietly : Quietly t) : Holds t :=
  fun _ => quietly.keeps fun _ _ quiet held => held.quiet quiet

theorem awaitSupply_holds (env : Env) : Holds (awaitSupply env) := by
  intro log w held
  have asked : Held log (w.ask env.underVoltage .voltage).1 :=
    held.quiet (ask_quiet w fun _ => rfl)
  unfold awaitSupply
  rw [meets_asking]
  split
  · exact asked.quiet (emit_quiet _ rfl)
  · exact (asked.quiet (emit_quiet _ rfl)).quiet (emit_quiet _ rfl)

theorem beginReset_held (held : Held log w) : Held log (beginReset w) := by
  refine ⟨held.fast, rfl, held.log.trans ?_⟩
  exact ((((Logged.one _ rfl).trans (.one _ rfl)).trans (.one _ rfl)).trans (.one _ rfl)).trans
    (.one _ rfl)

theorem resetTcan_holds (env : Env) : Holds (resetTcan env) :=
  fun log w held => awaitSupply_holds env log (beginReset w) (beginReset_held held)

theorem resumeResetTcan_holds (env : Env) (p : ResetPoint) : Holds (resumeResetTcan env p) := by
  intro log w held
  have asked : Held log (w.ask env.expired .timer).1 := held.quiet (ask_quiet w fun _ => rfl)
  cases p with
  | supply =>
      simp only [resumeResetTcan]
      rw [meets_asking]
      split
      · exact awaitSupply_holds env log _ asked
      · exact asked
  | settle =>
      simp only [resumeResetTcan]
      rw [meets_asking]
      split <;> exact asked

def Sleeps (t : Thread World SleepPoint Unit) : Prop :=
  ∀ log w, Held log w → Meets t (fun _ => Held log) (fun _ => Slept log) w

theorem Holds.sleeps {place : Q → SleepPoint} {sub : Thread World Q A}
    {rest : A → Thread World SleepPoint Unit} (inner : Holds sub) (after : ∀ a, Sleeps (rest a)) :
    Sleeps (Thread.gosub place sub rest) := by
  intro log w held
  refine (inner log w held).gosub ?_ ?_
  · intro q w' kept
    exact kept
  · intro a w' kept
    exact after a log w' kept

theorem toSleep_sleeps (env : Env) : Sleeps (toSleep env) := by
  intro log w held
  obtain ⟨new, appended, unreleased⟩ := held.log
  refine ⟨new, env.trcvModeSet .sleep w.log, ?_, unreleased⟩
  show w.log ++ [_] ++ [_] ++ [_] = _
  rw [appended]
  simp

theorem afterSleepTest_sleeps (env : Env) (tries : Nat) (ok : Bool) :
    Sleeps (afterSleepTest env tries ok) := by
  unfold afterSleepTest
  split
  · exact toSleep_sleeps env
  · intro log w held
    exact held.quiet (emit_quiet w rfl)

theorem pollReset_sleeps (env : Env) (tries : Nat) : Sleeps (pollReset env tries) := by
  unfold pollReset
  split
  · exact toSleep_sleeps env
  · exact (commsTest_quietly env).holds.sleeps (afterSleepTest_sleeps env tries)

theorem fastSleep_sleeps (env : Env) : Sleeps (fastSleep env) := by
  intro log w held
  have stopped : Held log (w.emit (.setControllerMode .stopped)) := held.quiet (emit_quiet w rfl)
  exact (resetTcan_holds env).sleeps (fun _ => pollReset_sleeps env 0) log _ stopped

theorem resumeFastSleep_sleeps (env : Env) (p : SleepPoint) : Sleeps (resumeFastSleep env p) := by
  cases p with
  | reset p => exact (resumeResetTcan_holds env p).sleeps fun _ => pollReset_sleeps env 0
  | commsTest tries =>
      exact (commsTest_quietly env).holds.sleeps (afterSleepTest_sleeps env tries)
  | delay tries =>
      intro log w held
      have asked : Held log (w.ask env.expired .timer).1 := held.quiet (ask_quiet w fun _ => rfl)
      simp only [resumeFastSleep]
      rw [meets_asking]
      split
      · exact pollReset_sleeps env _ log _ asked
      · exact asked

/-- The thread goes from here to the fast sleep without completing an initialisation or a health
check: it is in its running loop, in the fast sleep or behind it, or a partial initialisation
has used up all attempts and only waits before it gives up. -/
def ripe : Option Point → Bool
  | some .running | some (.fastSleep _) | some .asleep => true
  | some (.health (.pwrOnInit (.initDelay (_ :: _) tries))) => tries + 1 == initRetriesMax
  | some (.health (.pwrOnInit (.devIdDelay tries))) => tries + 1 == devIdRetriesMax
  | _ => false

def Going (log : List Event) (p : Option Point) (w : World) : Prop :=
  ripe p = true ∧ Held log w ∨ p = some .asleep ∧ w.fastSleep = .complete ∧ Slept log w

theorem sleep_going {t : Thread World SleepPoint Unit}
    (sleeps : Meets t (fun _ => Held log) (fun _ => Slept log) w) :
    Meets (gosub .fastSleep t fun _ => sleepComplete) (fun p => Going log (some p))
      (fun _ => Going log none) w := by
  refine sleeps.gosub ?_ ?_
  · intro p w' held
    exact Or.inl ⟨rfl, held⟩
  · intro _ w' slept
    exact Or.inr ⟨rfl, rfl, slept⟩

theorem serveIsr_going (env : Env) (held : Held log w) :
    Meets (serveIsr env) (fun p => Going log (some p)) (fun _ => Going log none) w := by
  have asked : Held log (w.ask env.pendingIsr .pendingIsr).1 :=
    held.quiet (ask_quiet w fun _ => rfl)
  unfold serveIsr
  rw [meets_asking]
  split
  · exact Or.inl ⟨rfl, asked.quiet (emit_quiet _ rfl)⟩
  · exact Or.inl ⟨rfl, asked⟩

theorem resumeRunning_going (env : Env) (held : Held log w) :
    Meets (resumeRunning env) (fun p => Going log (some p)) (fun _ => Going log none) w := by
  have asked : Held log (w.ask env.expired .timer).1 := held.quiet (ask_quiet w fun _ => rfl)
  have fast : (w.ask env.expired .timer).1.fastSleep ≠ .none := by
    rw [asked.fast]
    decide
  unfold resumeRunning
  rw [meets_asking, meets_asking, if_pos fast]
  exact sleep_going (fastSleep_sleeps env log _ asked)

theorem lastDelay_going {p : InitPoint} (last : ripe (some (.health (.pwrOnInit p))) = true)
    (held : Held log w) :
    Meets (resumeCyclic env (.health (.pwrOnInit p))) (fun p => Going log (some p))
      (fun _ => Going log none) w := by
  have asked : Held log (w.ask env.expired .timer).1 := held.quiet (ask_quiet w fun _ => rfl)
  have gives_up : Meets (resumePwrOnInit env internalInit p)
      (fun q w' => ripe (some (.health (.pwrOnInit q))) = true ∧ Held log w')
      (fun _ => Held log) w := by
    cases p with
    | commsTest tries => cases last
    | version p => cases last
    | devIdDelay tries =>
        have used_up : tries + 1 = devIdRetriesMax := eq_of_beq last
        simp only [resumePwrOnInit]
        rw [meets_asking]
        split
        · unfold pollDevId
          rw [if_pos used_up]
          exact asked
        · exact ⟨last, asked⟩
    | initDelay rest tries =>
        cases rest with
        | nil => cases last
        | cons f rest =>
            have used_up : tries + 1 = initRetriesMax := eq_of_beq last
            simp only [resumePwrOnInit]
            rw [meets_asking]
            split
            · unfold callInit
              rw [if_pos used_up]
              exact asked.quiet (emit_quiet _ rfl)
            · exact ⟨last, asked⟩
  simp only [resumeCyclic, resumeChkHealth]
  rw [meets_gosub, meets_gosub]
  refine gives_up.mono ?_ ?_
  · intro q w' kept
    exact Or.inl kept
  · intro _ w' kept
    exact serveIsr_going env (kept.quiet (emit_quiet w' rfl))

theorem resumeCyclic_going (env : Env) (p : Point) (ready : ripe (some p) = true)
    (held : Held log w) :
    Meets (resumeCyclic env p) (fun p => Going log (some p)) (fun _ => Going log none) w := by
  cases p with
  | running => exact resumeRunning_going env held
  | fastSleep p => exact sleep_going (resumeFastSleep_sleeps env p log w held)
  | asleep => exact Or.inl ⟨rfl, held⟩
  | health p =>
      cases p with
      | pwrOnInit p => exact lastDelay_going ready held
      | wake => cases ready
      | commsTest => cases ready
      | faultFlags p => cases ready
  | pwrOnInit p => cases ready
  | initReset p => cases ready
  | healthReset p => cases ready

def Unasked (t : Thread World P R) : Prop := Keeps (fun w => w.fastSleep ≠ .request) t

theorem Quietly.unasked {t : Thread World P R} (quietly : Quietly t) : Unasked t := by
  apply quietly.keeps
  intro w w' quiet unasked
  rw [quiet.fastSleep]
  exact unasked

theorem done_unasked (r : R) : Unasked (done r : Thread World P R) := keeps_done r

theorem suspend_unasked (p : P) : Unasked (suspend p : Thread World P R) := keeps_suspend p

theorem Unasked.doing {f : World → World} {t : Thread World P R} (rest : Unasked t)
    (same : ∀ w, (f w).fastSleep = w.fastSleep) : Unasked (doing f t) :=
  Keeps.doing rest fun w unasked => (same w).symm ▸ unasked

theorem Unasked.asking {f : World → World × A} {t : A → Thread World P R}
    (rest : ∀ a, Unasked (t a)) (same : ∀ w, (f w).1.fastSleep = w.fastSleep) :
    Unasked (asking f t) :=
  Keeps.asking rest fun w unasked => (same w).symm ▸ unasked

theorem awaitSupply_unasked (env : Env) : Unasked (awaitSupply env) := by
  refine Unasked.asking ?_ fun _ => rfl
  intro under
  split
  · exact (suspend_unasked _).doing fun _ => rfl
  · exact (suspend_unasked _).doing fun _ => rfl

theorem resetTcan_unasked (env : Env) : Unasked (resetTcan env) :=
  (awaitSupply_unasked env).doing fun _ => rfl

theorem resumeResetTcan_unasked (env : Env) (p : ResetPoint) :
    Unasked (resumeResetTcan env p) := by
  cases p with
  | supply =>
      unfold resumeResetTcan
      refine Unasked.asking ?_ fun _ => rfl
      intro expired
      split
      · exact awaitSupply_unasked env
      · exact suspend_unasked _
  | settle =>
      unfold resumeResetTcan
      refine Unasked.asking ?_ fun _ => rfl
      intro expired
      split
      · exact done_unasked ()
      · exact suspend_unasked _

section Init
variable (env : Env) (functions : List InitFunction)

theorem callInit_unasked (tries : Nat) : Unasked (callInit env functions tries) := by
  induction functions generalizing tries with
  | nil => exact (done_unasked ()).doing fun _ => rfl
  | cons f rest ih =>
      unfold callInit
      split
      · exact (done_unasked ()).doing fun _ => rfl
      · refine Unasked.asking ?_ fun w => (f.call_same env w).2.1
        intro ok
        split
        · exact ih 0
        · exact (suspend_unasked _).doing fun _ => rfl

theorem initialise_unasked : Unasked (initialise env functions) :=
  (callInit_unasked env functions 0).doing fun _ => rfl

theorem afterCommsTest_unasked (tries : Nat) (ok : Bool) :
    Unasked (afterCommsTest env functions tries ok) := by
  unfold afterCommsTest
  split
  · refine Unasked.asking ?_ fun _ => rfl
    intro state
    split
    · exact Keeps.gosub (queryVersion_quietly env).unasked fun _ =>
        initialise_unasked env functions
    · exact initialise_unasked env functions
  · exact (suspend_unasked _).doing fun _ => rfl

theorem pollDevId_unasked (tries : Nat) : Unasked (pollDevId env functions tries) := by
  unfold pollDevId
  split
  · exact done_unasked ()
  · refine Unasked.asking ?_ fun _ => rfl
    intro under
    split
    · exact done_unasked ()
    · exact Keeps.gosub (commsTest_quietly env).unasked
        (afterCommsTest_unasked env functions tries)

theorem pwrOnInit_unasked : Unasked (pwrOnInit env functions) :=
  (pollDevId_unasked env functions 0).doing fun _ => rfl

theorem resumePwrOnInit_unasked (p : InitPoint) : Unasked (resumePwrOnInit env functions p) := by
  cases p with
  | commsTest tries =>
      exact Keeps.gosub (commsTest_quietly env).unasked
        (afterCommsTest_unasked env functions tries)
  | devIdDelay tries =>
      unfold resumePwrOnInit
      refine Unasked.asking ?_ fun _ => rfl
      intro expired
      split
      · exact pollDevId_unasked env functions _
      · exact suspend_unasked _
  | version p =>
      exact Keeps.gosub (resumeQueryVersion_quietly env p).unasked fun _ =>
        initialise_unasked env functions
  | initDelay rest tries =>
      unfold resumePwrOnInit
      refine Unasked.asking ?_ fun _ => rfl
      intro expired
      split
      · exact callInit_unasked env rest _
      · exact suspend_unasked _

end Init

theorem judgeHealth_unasked (env : Env) (devIdOk pwrOn thermErr : Bool) :
    Unasked (judgeHealth env devIdOk pwrOn thermErr) := by
  unfold judgeHealth
  split
  · exact done_unasked true
  · refine Unasked.doing ?_ fun _ => rfl
    refine Unasked.asking ?_ fun _ => rfl
    intro state
    split
    · exact (done_unasked false).doing fun _ => rfl
    · split
      · exact Keeps.gosub (pwrOnInit_unasked env internalInit) fun _ => done_unasked false
      · exact done_unasked false

theorem devIdTest_unasked (env : Env) :
    Unasked (gosub (fun _ => .commsTest) (commsTest env) (afterDevId env)) := by
  refine Keeps.gosub (commsTest_quietly env).unasked ?_
  intro ok
  unfold afterDevId
  split
  · exact Keeps.gosub (chkFaultFlags_quietly env).unasked fun _ => judgeHealth_unasked env _ _ _
  · exact judgeHealth_unasked env _ _ _

theorem chkHealth_unasked (env : Env) : Unasked (chkHealth env) := by
  refine Unasked.asking ?_ fun _ => rfl
  intro awake
  split
  · exact (devIdTest_unasked env).doing fun _ => rfl
  · exact suspend_unasked _

theorem resumeChkHealth_unasked (env : Env) (p : HealthPoint) :
    Unasked (resumeChkHealth env p) := by
  cases p with
  | wake => exact chkHealth_unasked env
  | commsTest => exact devIdTest_unasked env
  | faultFlags p =>
      exact Keeps.gosub (resumeChkFaultFlags_quietly env p).unasked fun _ =>
        judgeHealth_unasked env _ _ _
  | pwrOnInit p =>
      exact Keeps.gosub (resumePwrOnInit_unasked env internalInit p) fun _ => done_unasked false

theorem afterSleepTest_unasked (env : Env) (tries : Nat) (ok : Bool) :
    Unasked (afterSleepTest env tries ok) := by
  unfold afterSleepTest
  split
  · exact fun _ unasked => unasked
  · exact (suspend_unasked _).doing fun _ => rfl

theorem pollReset_unasked (env : Env) (tries : Nat) : Unasked (pollReset env tries) := by
  unfold pollReset
  split
  · exact fun _ unasked => unasked
  · exact Keeps.gosub (commsTest_quietly env).unasked (afterSleepTest_unasked env tries)

theorem resumeFastSleep_unasked (env : Env) (p : SleepPoint) :
    Unasked (resumeFastSleep env p) := by
  cases p with
  | reset p =>
      exact Keeps.gosub (resumeResetTcan_unasked env p) fun _ => pollReset_unasked env 0
  | commsTest tries =>
      exact Keeps.gosub (commsTest_quietly env).unasked (afterSleepTest_unasked env tries)
  | delay tries =>
      unfold resumeFastSleep
      refine Unasked.asking ?_ fun _ => rfl
      intro expired
      split
      · exact pollReset_unasked env _
      · exact suspend_unasked _

theorem sleepComplete_unasked : Unasked sleepComplete := by
  intro w _
  show FastSleep.complete ≠ .request
  decide

theorem serveIsr_unasked (env : Env) : Unasked (serveIsr env) := by
  refine Unasked.asking ?_ fun _ => rfl
  intro pending
  split
  · exact (suspend_unasked _).doing fun _ => rfl
  · exact suspend_unasked _

theorem runningLoop_unasked (env : Env) : Unasked (runningLoop env) :=
  (serveIsr_unasked env).doing fun _ => rfl

theorem afterHealth_unasked (env : Env) (restart : Bool) : Unasked (afterHealth env restart) := by
  unfold afterHealth
  split
  · exact Keeps.gosub (resetTcan_unasked env) fun _ => done_unasked ()
  · exact runningLoop_unasked env

theorem afterInit_unasked (env : Env) : Unasked (afterInit env) := by
  refine Unasked.asking ?_ fun _ => rfl
  intro state
  split
  · exact Keeps.gosub (resetTcan_unasked env) fun _ => done_unasked ()
  · exact runningLoop_unasked env

theorem startCyclic_unasked (env : Env) : Unasked (startCyclic env) :=
  Keeps.gosub (pwrOnInit_unasked env kafInit) fun _ => afterInit_unasked env

theorem resumeRunning_unasked (env : Env) : Unasked (resumeRunning env) := by
  refine Unasked.asking ?_ fun _ => rfl
  intro expired
  refine Unasked.asking ?_ fun _ => rfl
  intro fast
  split
  · have sleeps : Unasked (fastSleep env) :=
      Unasked.doing (Keeps.gosub (resetTcan_unasked env) fun _ => pollReset_unasked env 0)
        fun _ => rfl
    exact Keeps.gosub sleeps fun _ => sleepComplete_unasked
  · split
    · exact Keeps.gosub (chkHealth_unasked env) (afterHealth_unasked env)
    · exact serveIsr_unasked env

theorem resumeCyclic_unasked (env : Env) (p : Point) : Unasked (resumeCyclic env p) := by
  cases p with
  | pwrOnInit p =>
      exact Keeps.gosub (resumePwrOnInit_unasked env kafInit p) fun _ => afterInit_unasked env
  | initReset p => exact Keeps.gosub (resumeResetTcan_unasked env p) fun _ => done_unasked ()
  | running => exact resumeRunning_unasked env
  | health p => exact Keeps.gosub (resumeChkHealth_unasked env p) (afterHealth_unasked env)
  | healthReset p => exact Keeps.gosub (resumeResetTcan_unasked env p) fun _ => done_unasked ()
  | fastSleep p => exact Keeps.gosub (resumeFastSleep_unasked env p) fun _ => sleepComplete_unasked
  | asleep => exact suspend_unasked _

theorem cyclic_unasked (env : Env) {s : State} (unasked : s.fastSleep ≠ .request) :
    (cyclic env s).fastSleep ≠ .request :=
  again_preserves (I := fun _ (w : World) => w.fastSleep ≠ .request) (startCyclic_unasked env _)
    (fun p => resumeCyclic_unasked env p _) s.point unasked

def Safe (s : State) : Prop :=
  s.fastSleep = .request → ripe s.point = true ∧ s.cpuRequested = true

/-- The fast sleep is asked for at a ripe point only. -/
def Timely (s : State) : Op → Prop
  | .cyclic => True
  | .reqFastSleep => ripe s.point = true

theorem cyclic_going (env : Env) {s : State} (safe : Safe s) (asked : s.fastSleep = .request) :
    Going s.log (cyclic env s).point (cyclic env s).toWorld := by
  obtain ⟨ready, requested⟩ := safe asked
  have held : Held s.log s.toWorld := ⟨asked, requested, .refl _⟩
  obtain ⟨w, point⟩ := s
  cases point with
  | none => cases ready
  | some p =>
      have goes_on := resumeCyclic_going env p ready held
      unfold Meets at goes_on
      simp only [cyclic, again, Option.elim_some]
      rcases left : resumeCyclic env p w with ⟨w', q | _⟩
      · rw [left] at goes_on
        exact goes_on
      · rw [left] at goes_on
        exact goes_on

theorem step_safe (env : Env) {s : State} {op : Op} (safe : Safe s) (timely : Timely s op) :
    Safe (step env s op) := by
  cases op with
  | cyclic =>
      intro still
      by_cases asked : s.fastSleep = .request
      · rcases cyclic_going env safe asked with ⟨ready, held⟩ | ⟨_, complete, _⟩
        · exact ⟨ready, held.requested⟩
        · have ended : (step env s .cyclic).fastSleep = .complete := complete
          rw [ended] at still
          cases still
      · exact absurd still (cyclic_unasked env asked)
  | reqFastSleep => exact fun _ => ⟨timely, rfl⟩

theorem run_safe (env : Env) {s : State} {ops : List Op} (safe : Safe s)
    (guarded : Guarded (step env) Timely s ops) : Safe (run (step env) s ops) := by
  have preserved : ∀ s op, Safe s → Timely s op → Safe (step env s op) :=
    fun _ _ safe timely => step_safe env safe timely
  exact guarded_invariant preserved safe guarded

end AnchorNode.CanSpi
