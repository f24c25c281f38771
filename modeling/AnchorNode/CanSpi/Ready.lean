import AnchorNode.CanSpi.Quiet

/-! What it takes for the chip to be reported ready. A full initialisation follows every reset;
the one that leaves out the drivers follows a fault only, which they outlive. -/

namespace AnchorNode.CanSpi

open AnchorNode.Lib Thread

variable {P Q R A : Type} {env : Env} {w w' : World}

/-- A call has been made since the last mark of a kind. -/
def Since (mark : Event → Bool) (e : Event) (log : List Event) : Prop :=
  ∃ before after, log = before ++ e :: after ∧ ∀ x ∈ after, mark x = false

def isReset (e : Event) : Bool := e == .resetTcan

theorem isReset_of_call {e : Event} (call : e.isMark = false) : isReset e = false := by
  cases e <;> first | rfl | cases call

theorem Since.last (mark : Event → Bool) (e : Event) (log : List Event) :
    Since mark e (log ++ [e]) := ⟨log, [], rfl, by simp⟩

theorem Since.later {mark : Event → Bool} {e : Event} {log log' : List Event}
    (since : Since mark e log) (logged : Logged mark log log') : Since mark e log' := by
  obtain ⟨before, after, rfl, none⟩ := since
  obtain ⟨new, rfl, unmarked⟩ := logged
  refine ⟨before, after ++ new, by simp, ?_⟩
  intro x member
  rcases List.mem_append.mp member with old | fresh
  · exact none x old
  · exact unmarked x fresh

/-- The driver has been initialised since the last reset, and is. -/
structure DriverInit (w : World) : Prop where
  ready : w.driverState = canReady
  since : Since isReset (.canInit canReady) w.log

/-- The transceiver has been initialised since the last reset, and is. -/
structure TrcvInit (w : World) : Prop where
  init : w.trcvInitState = .init
  since : Since isReset (.trcvInit .init) w.log

/-- The transceiver has been set to its normal mode since the last reset or fault. -/
def NormalSet (w : World) : Prop := Since Event.isMark (.setTrcvMode .normal true) w.log

theorem DriverInit.carried (driver : DriverInit w) (state : w'.driverState = w.driverState)
    (log : Logged isReset w.log w'.log) : DriverInit w' :=
  ⟨state.trans driver.ready, driver.since.later log⟩

theorem TrcvInit.carried (trcv : TrcvInit w) (state : w'.trcvInitState = w.trcvInitState)
    (log : Logged isReset w.log w'.log) : TrcvInit w' :=
  ⟨state.trans trcv.init, trcv.since.later log⟩

/-- All but the given functions have been called with success. -/
structure Prepared (functions : List InitFunction) (w : World) : Prop where
  driver : .initTCAN ∉ functions → DriverInit w
  trcv : .initTrcv ∉ functions → TrcvInit w
  normal : .setTrcvNorm ∉ functions → NormalSet w

section Prepared
variable {functions rest : List InitFunction}

theorem Prepared.carried (prepared : Prepared functions w)
    (driver : w'.driverState = w.driverState) (trcv : w'.trcvInitState = w.trcvInitState)
    (log : Logged Event.isMark w.log w'.log) : Prepared functions w' where
  driver left := (prepared.driver left).carried driver (log.weaken fun _ => isReset_of_call)
  trcv left := (prepared.trcv left).carried trcv (log.weaken fun _ => isReset_of_call)
  normal left := (prepared.normal left).later log

theorem Prepared.quiet (prepared : Prepared functions w) (quiet : Quiet w w') :
    Prepared functions w' :=
  prepared.carried quiet.driverState quiet.trcvInitState
    (quiet.log.weaken fun _ => isMark_of_unnotable)

theorem Prepared.more (prepared : Prepared rest w) (among : rest ⊆ functions) :
    Prepared functions w where
  driver left := prepared.driver fun member => left (among member)
  trcv left := prepared.trcv fun member => left (among member)
  normal left := prepared.normal fun member => left (among member)

theorem prepared_all (w : World) : Prepared kafInit w :=
  ⟨fun left => absurd (by decide) left, fun left => absurd (by decide) left,
    fun left => absurd (by decide) left⟩

theorem InitFunction.call_same (env : Env) (f : InitFunction) (w : World) :
    (f.call env w).1.state = w.state ∧ (f.call env w).1.fastSleep = w.fastSleep ∧
      (f.call env w).1.cpuRequested = w.cpuRequested ∧
      Logged Event.isMark w.log (f.call env w).1.log := by
  cases f <;> exact ⟨rfl, rfl, rfl, .one _ rfl⟩

theorem call_prepared (env : Env) {f : InitFunction} (prepared : Prepared (f :: rest) w) :
    Prepared (f :: rest) (f.call env w).1 ∧
      ((f.call env w).2 = true → Prepared rest (f.call env w).1) := by
  have log := (f.call_same env w).2.2.2
  have log' : Logged isReset w.log (f.call env w).1.log := log.weaken fun _ => isReset_of_call
  cases f with
  | initTCAN =>
      have trcv : .initTrcv ∉ rest → TrcvInit (InitFunction.initTCAN.call env w).1 := by
        intro left
        exact (prepared.trcv (by simpa using left)).carried rfl log'
      have normal : .setTrcvNorm ∉ rest → NormalSet (InitFunction.initTCAN.call env w).1 := by
        intro left
        exact (prepared.normal (by simpa using left)).later log
      constructor
      · exact ⟨fun left => absurd (List.mem_cons_self ..) left,
          fun left => trcv (fun member => left (List.mem_cons_of_mem _ member)),
          fun left => normal (fun member => left (List.mem_cons_of_mem _ member))⟩
      · intro ok
        have ready : env.canInit w.log = canReady := eq_of_beq ok
        refine ⟨fun _ => ⟨ready, ?_⟩, trcv, normal⟩
        show Since isReset (.canInit canReady) (w.log ++ [.canInit (env.canInit w.log)])
        rw [ready]
        exact .last _ _ _
  | initTrcv =>
      have driver : .initTCAN ∉ rest → DriverInit (InitFunction.initTrcv.call env w).1 := by
        intro left
        exact (prepared.driver (by simpa using left)).carried rfl log'
      have normal : .setTrcvNorm ∉ rest → NormalSet (InitFunction.initTrcv.call env w).1 := by
        intro left
        exact (prepared.normal (by simpa using left)).later log
      constructor
      · exact ⟨fun left => driver (fun member => left (List.mem_cons_of_mem _ member)),
          fun left => absurd (List.mem_cons_self ..) left,
          fun left => normal (fun member => left (List.mem_cons_of_mem _ member))⟩
      · intro ok
        have init : env.trcvInit w.log = .init := eq_of_beq ok
        refine ⟨driver, fun _ => ⟨init, ?_⟩, normal⟩
        show Since isReset (.trcvInit .init) (w.log ++ [.trcvInit (env.trcvInit w.log)])
        rw [init]
        exact .last _ _ _
  | setTrcvNorm =>
      have driver : .initTCAN ∉ rest → DriverInit (InitFunction.setTrcvNorm.call env w).1 := by
        intro left
        exact (prepared.driver (by simpa using left)).carried rfl log'
      have trcv : .initTrcv ∉ rest → TrcvInit (InitFunction.setTrcvNorm.call env w).1 := by
        intro left
        exact (prepared.trcv (by simpa using left)).carried rfl log'
      constructor
      · exact ⟨fun left => driver (fun member => left (List.mem_cons_of_mem _ member)),
          fun left => trcv (fun member => left (List.mem_cons_of_mem _ member)),
          fun left => absurd (List.mem_cons_self ..) left⟩
      · intro ok
        have accepted : env.trcvModeSet .normal w.log = true := ok
        refine ⟨driver, trcv, fun _ => ?_⟩
        show Since Event.isMark (.setTrcvMode .normal true)
          (w.log ++ [.setTrcvMode .normal (env.trcvModeSet .normal w.log)])
        rw [accepted]
        exact .last _ _ _
  | startCtrl =>
      have kept : Prepared (.startCtrl :: rest) (InitFunction.startCtrl.call env w).1 :=
        prepared.carried rfl rfl log
      refine ⟨kept, fun _ => ⟨?_, ?_, ?_⟩⟩
      · intro left
        exact kept.driver (by simpa using left)
      · intro left
        exact kept.trcv (by simpa using left)
      · intro left
        exact kept.normal (by simpa using left)

end Prepared

structure Initialising (functions : List InitFunction) (p : InitPoint) (w : World) : Prop where
  unready : w.state ≠ .ready
  prepared : Prepared functions w
  rest : ∀ rest tries, p = .initDelay rest tries → rest ⊆ functions ∧ Prepared rest w

structure Initialised (functions : List InitFunction) (w : World) : Prop where
  prepared : Prepared functions w
  ready : w.state = .ready → Prepared [] w

section Init
variable {functions rest : List InitFunction}

theorem Initialising.early {p : InitPoint} (unready : w.state ≠ .ready)
    (prepared : Prepared functions w) (early : ∀ rest tries, p ≠ .initDelay rest tries) :
    Initialising functions p w :=
  ⟨unready, prepared, fun rest tries same => absurd same (early rest tries)⟩

theorem Initialised.failed (unready : w.state ≠ .ready) (prepared : Prepared functions w) :
    Initialised functions w := ⟨prepared, fun ready => absurd ready unready⟩

theorem callInit_meets (tries : Nat) (unready : w.state ≠ .ready) (among : rest ⊆ functions)
    (prepared : Prepared rest w) :
    Meets (callInit env rest tries) (Initialising functions) (fun _ => Initialised functions)
      w := by
  induction rest generalizing tries w with
  | nil =>
      have kept : Prepared [] (initComplete w) :=
        prepared.carried rfl rfl ((Logged.one _ rfl).trans (.one _ rfl))
      exact ⟨kept.more (List.nil_subset _), fun _ => kept⟩
  | cons f rest ih =>
      unfold callInit
      split
      · exact .failed unready ((prepared.quiet (emit_quiet w rfl)).more among)
      · obtain ⟨kept, succeeded⟩ := call_prepared env prepared
        have unready' : (f.call env w).1.state ≠ .ready := by
          rw [(f.call_same env w).1]
          exact unready
        rw [meets_asking]
        split
        · rename_i ok
          exact ih 0 unready' (fun _ member => among (List.mem_cons_of_mem _ member))
            (succeeded ok)
        · have delayed : Prepared (f :: rest) ((f.call env w).1.emit .timerStart) :=
            kept.quiet (emit_quiet _ rfl)
          refine ⟨unready', delayed.more among, ?_⟩
          intro _ _ same
          cases same
          exact ⟨among, delayed⟩

theorem initialise_meets (prepared : Prepared functions w) :
    Meets (initialise env functions) (Initialising functions) (fun _ => Initialised functions)
      w := by
  unfold initialise
  rw [meets_doing]
  apply callInit_meets 0 (by simp [World.setState]) (List.Subset.refl _)
  exact prepared.carried rfl rfl (.refl _)

theorem afterCommsTest_meets (tries : Nat) (ok : Bool) (unready : w.state ≠ .ready)
    (prepared : Prepared functions w) :
    Meets (afterCommsTest env functions tries ok) (Initialising functions)
      (fun _ => Initialised functions) w := by
  unfold afterCommsTest
  split
  · unfold chipFound
    rw [meets_asking]
    split
    · refine ((queryVersion_quietly env).here w).gosub ?_ ?_
      · intro p w' quiet
        exact .early (quiet.state ▸ unready) (prepared.quiet quiet) (by simp)
      · intro _ w' quiet
        exact initialise_meets (prepared.quiet quiet)
    · exact initialise_meets prepared
  · exact .early unready (prepared.quiet (emit_quiet w rfl)) (by simp)

theorem commsTest_meets (tries : Nat) (unready : w.state ≠ .ready)
    (prepared : Prepared functions w) :
    Meets (gosub (fun _ => .commsTest tries) (commsTest env) (afterCommsTest env functions tries))
      (Initialising functions) (fun _ => Initialised functions) w := by
  refine ((commsTest_quietly env).here w).gosub ?_ ?_
  · intro _ w' quiet
    exact .early (quiet.state ▸ unready) (prepared.quiet quiet) (by simp)
  · intro ok w' quiet
    exact afterCommsTest_meets tries ok (quiet.state ▸ unready) (prepared.quiet quiet)

theorem pollDevId_meets (tries : Nat) (unready : w.state ≠ .ready)
    (prepared : Prepared functions w) :
    Meets (pollDevId env functions tries) (Initialising functions)
      (fun _ => Initialised functions) w := by
  unfold pollDevId
  split
  · exact .failed unready prepared
  · have asked : Prepared functions (w.ask env.underVoltage .voltage).1 :=
      prepared.quiet (ask_quiet w fun _ => rfl)
    rw [meets_asking]
    split
    · exact .failed unready asked
    · exact commsTest_meets tries unready asked

theorem pwrOnInit_meets (unready : w.state ≠ .ready) (prepared : Prepared functions w) :
    Meets (pwrOnInit env functions) (Initialising functions) (fun _ => Initialised functions)
      w := by
  unfold pwrOnInit
  rw [meets_doing]
  exact pollDevId_meets 0 unready (prepared.carried rfl rfl (.one _ rfl))

theorem resumePwrOnInit_meets {p : InitPoint} (suspended : Initialising functions p w) :
    Meets (resumePwrOnInit env functions p) (Initialising functions)
      (fun _ => Initialised functions) w := by
  obtain ⟨unready, prepared, called⟩ := suspended
  have asked : Quiet w (w.ask env.expired .timer).1 := ask_quiet w fun _ => rfl
  cases p with
  | commsTest tries => exact commsTest_meets tries unready prepared
  | devIdDelay tries =>
      simp only [resumePwrOnInit]
      rw [meets_asking]
      split
      · exact pollDevId_meets (tries + 1) unready (prepared.quiet asked)
      · exact .early unready (prepared.quiet asked) (by simp)
  | version p =>
      refine ((resumeQueryVersion_quietly env p).here w).gosub ?_ ?_
      · intro p' w' quiet
        exact .early (quiet.state ▸ unready) (prepared.quiet quiet) (by simp)
      · intro _ w' quiet
        exact initialise_meets (prepared.quiet quiet)
  | initDelay rest tries =>
      obtain ⟨among, still⟩ := called rest tries rfl
      simp only [resumePwrOnInit]
      rw [meets_asking]
      split
      · exact callInit_meets (tries + 1) unready among (still.quiet asked)
      · refine ⟨unready, prepared.quiet asked, ?_⟩
        intro _ _ same
        cases same
        exact ⟨among, still.quiet asked⟩

end Init

def Unready (t : Thread World P R) : Prop := Keeps (fun w => w.state ≠ .ready) t

theorem Quietly.unready {t : Thread World P R} (quietly : Quietly t) : Unready t := by
  apply quietly.keeps
  intro w w' quiet unready
  rw [quiet.state]
  exact unready

theorem awaitSupply_unready (env : Env) : Unready (awaitSupply env) := by
  intro w unready
  unfold awaitSupply
  rw [meets_asking]
  split <;> exact unready

theorem resetTcan_unready (env : Env) (w : World) :
    Meets (resetTcan env) (fun _ w => w.state ≠ .ready) (fun _ w => w.state ≠ .ready) w := by
  unfold resetTcan
  rw [meets_doing]
  apply awaitSupply_unready
  simp [beginReset, setUnavailable, World.setState, World.emit]

theorem resumeResetTcan_unready (env : Env) (p : ResetPoint) : Unready (resumeResetTcan env p) := by
  intro w unready
  cases p with
  | supply =>
      simp only [resumeResetTcan]
      rw [meets_asking]
      split
      · exact awaitSupply_unready env _ unready
      · exact unready
  | settle =>
      simp only [resumeResetTcan]
      rw [meets_asking]
      split <;> exact unready

theorem toSleep_unready (env : Env) : Unready (toSleep env) := fun _ unready => unready

theorem afterSleepTest_unready (env : Env) (tries : Nat) (ok : Bool) :
    Unready (afterSleepTest env tries ok) := by
  unfold afterSleepTest
  split
  · exact toSleep_unready env
  · exact fun _ unready => unready

theorem pollReset_unready (env : Env) (tries : Nat) : Unready (pollReset env tries) := by
  unfold pollReset
  split
  · exact toSleep_unready env
  · exact Keeps.gosub (commsTest_quietly env).unready (afterSleepTest_unready env tries)

theorem fastSleep_unready (env : Env) (w : World) :
    Meets (fastSleep env) (fun _ w => w.state ≠ .ready) (fun _ w => w.state ≠ .ready) w := by
  unfold fastSleep
  rw [meets_doing]
  refine (resetTcan_unready env _).gosub ?_ ?_
  · intro p w' kept
    exact kept
  · intro _ w' kept
    exact pollReset_unready env 0 w' kept

theorem resumeFastSleep_unready (env : Env) (p : SleepPoint) : Unready (resumeFastSleep env p) := by
  cases p with
  | reset p => exact Keeps.gosub (resumeResetTcan_unready env p) fun _ => pollReset_unready env 0
  | commsTest tries =>
      exact Keeps.gosub (commsTest_quietly env).unready (afterSleepTest_unready env tries)
  | delay tries =>
      intro w unready
      simp only [resumeFastSleep]
      rw [meets_asking]
      split
      · exact pollReset_unready env _ _ unready
      · exact unready

/-- The thread is running: the drivers are initialised, and the transceiver is in its normal mode
if there is no fault. -/
abbrev Running (w : World) : Prop := Initialised internalInit w

theorem Initialised.quiet {functions : List InitFunction} (initialised : Initialised functions w)
    (quiet : Quiet w w') : Initialised functions w' where
  prepared := initialised.prepared.quiet quiet
  ready ready := (initialised.ready (quiet.state ▸ ready)).quiet quiet

def Checking : HealthPoint → World → Prop
  | .pwrOnInit p, w => Initialising internalInit p w
  | _, w => Running w

def Checked (restart : Bool) (w : World) : Prop := restart = false → Running w

theorem reinit_checked (env : Env) {p : InitPoint} (suspended : Initialising internalInit p w) :
    Meets (gosub .pwrOnInit (resumePwrOnInit env internalInit p) fun _ => done false)
      Checking Checked w := by
  refine (resumePwrOnInit_meets suspended).gosub ?_ ?_
  · intro p w' initialising
    exact initialising
  · intro _ w' initialised _
    exact initialised

theorem judgeFault_checked (thermErr : Bool) (running : Running w) :
    Meets (judgeFault env thermErr) Checking Checked w := by
  unfold judgeFault
  rw [meets_asking]
  split
  · intro _
    have log : Logged isReset w.log (setUnavailable .fault (w.emit .fault)).log :=
      ((Logged.one _ rfl).trans (.one _ rfl)).trans (.one _ rfl)
    have faulty : (setUnavailable .fault (w.emit .fault)).state ≠ .ready := by
      simp [setUnavailable, World.setState, World.emit]
    refine .failed faulty ⟨?_, ?_, fun left => absurd (by decide) left⟩
    · intro left
      exact (running.prepared.driver left).carried rfl log
    · intro left
      exact (running.prepared.trcv left).carried rfl log
  · split
    · rename_i cleared
      refine (pwrOnInit_meets cleared.2 running.prepared).gosub ?_ ?_
      · intro p w' initialising
        exact initialising
      · intro _ w' initialised _
        exact initialised
    · exact fun _ => running

theorem judgeHealth_checked (devIdOk pwrOn thermErr : Bool) (running : Running w) :
    Meets (judgeHealth env devIdOk pwrOn thermErr) Checking Checked w := by
  unfold judgeHealth
  split
  · intro stays
    cases stays
  · rw [meets_doing]
    apply judgeFault_checked
    have kept : Prepared internalInit w.release :=
      running.prepared.carried rfl rfl (.one _ rfl)
    exact ⟨kept, fun ready => (running.ready ready).carried rfl rfl (.one _ rfl)⟩

theorem afterDevId_checked (devIdOk : Bool) (running : Running w) :
    Meets (afterDevId env devIdOk) Checking Checked w := by
  unfold afterDevId
  split
  · refine ((chkFaultFlags_quietly env).here w).gosub ?_ ?_
    · intro p w' quiet
      exact running.quiet quiet
    · intro flags w' quiet
      exact judgeHealth_checked _ _ _ (running.quiet quiet)
  · exact judgeHealth_checked _ _ _ running

theorem devIdTest_checked (env : Env) (running : Running w) :
    Meets (gosub (fun _ => .commsTest) (commsTest env) (afterDevId env)) Checking Checked w := by
  refine ((commsTest_quietly env).here w).gosub ?_ ?_
  · intro _ w' quiet
    exact running.quiet quiet
  · intro ok w' quiet
    exact afterDevId_checked ok (running.quiet quiet)

theorem chkHealth_checked (env : Env) (running : Running w) :
    Meets (chkHealth env) Checking Checked w := by
  have asked : Running (w.ask env.canAwake .canHw).1 := running.quiet (ask_quiet w fun _ => rfl)
  unfold chkHealth
  rw [meets_asking]
  split
  · rw [meets_doing]
    apply devIdTest_checked
    exact ⟨asked.prepared.carried rfl rfl (.one _ rfl),
      fun ready => (asked.ready ready).carried rfl rfl (.one _ rfl)⟩
  · exact asked

theorem resumeChkHealth_checked {p : HealthPoint} (checking : Checking p w) :
    Meets (resumeChkHealth env p) Checking Checked w := by
  cases p with
  | wake => exact chkHealth_checked env checking
  | commsTest => exact devIdTest_checked env checking
  | faultFlags p =>
      refine ((resumeChkFaultFlags_quietly env p).here w).gosub ?_ ?_
      · intro p w' quiet
        exact Initialised.quiet checking quiet
      · intro flags w' quiet
        exact judgeHealth_checked _ _ _ (Initialised.quiet checking quiet)
  | pwrOnInit p => exact reinit_checked env checking

/-- What is known between two calls of `CanSpi_Cyclic`. -/
def Sound : Option Point → World → Prop
  | some (.pwrOnInit p), w => Initialising kafInit p w
  | some .running, w => Running w
  | some (.health p), w => Checking p w
  | _, w => w.state ≠ .ready

theorem serveIsr_sound (env : Env) (running : Running w) :
    Meets (serveIsr env) (fun p => Sound (some p)) (fun _ => Sound none) w := by
  have asked : Running (w.ask env.pendingIsr .pendingIsr).1 :=
    running.quiet (ask_quiet w fun _ => rfl)
  unfold serveIsr
  rw [meets_asking]
  split
  · exact asked.quiet (emit_quiet _ rfl)
  · exact asked

theorem runningLoop_sound (env : Env) (running : Running w) :
    Meets (runningLoop env) (fun p => Sound (some p)) (fun _ => Sound none) w :=
  serveIsr_sound env (running.quiet (emit_quiet w rfl))

theorem reset_sound {place : ResetPoint → Point} {t : Thread World ResetPoint Unit}
    (placed : ∀ p, place p = .initReset p ∨ place p = .healthReset p)
    (unready : Meets t (fun _ w => w.state ≠ .ready) (fun _ w => w.state ≠ .ready) w) :
    Meets (gosub place t fun _ => done ()) (fun p => Sound (some p)) (fun _ => Sound none) w := by
  refine unready.gosub ?_ ?_
  · intro p w' kept
    rcases placed p with same | same
    all_goals
      rw [same]
      exact kept
  · intro _ w' kept
    exact kept

theorem sleep_sound {t : Thread World SleepPoint Unit}
    (unready : Meets t (fun _ w => w.state ≠ .ready) (fun _ w => w.state ≠ .ready) w) :
    Meets (gosub .fastSleep t fun _ => sleepComplete) (fun p => Sound (some p))
      (fun _ => Sound none) w := by
  refine unready.gosub ?_ ?_
  · intro p w' kept
    exact kept
  · intro _ w' kept
    exact kept

theorem afterHealth_sound (restart : Bool) (checked : Checked restart w) :
    Meets (afterHealth env restart) (fun p => Sound (some p)) (fun _ => Sound none) w := by
  unfold afterHealth
  split
  · exact reset_sound (fun _ => Or.inr rfl) (resetTcan_unready env w)
  · rename_i stays
    exact runningLoop_sound env (checked (Bool.eq_false_iff.mpr stays))

theorem resumeRunning_sound (env : Env) (running : Running w) :
    Meets (resumeRunning env) (fun p => Sound (some p)) (fun _ => Sound none) w := by
  have asked : Running (w.ask env.expired .timer).1 := running.quiet (ask_quiet w fun _ => rfl)
  unfold resumeRunning
  rw [meets_asking, meets_asking]
  split
  · exact sleep_sound (fastSleep_unready env _)
  · split
    · refine (chkHealth_checked env asked).gosub ?_ ?_
      · intro p w' checking
        exact checking
      · intro restart w' checked
        exact afterHealth_sound restart checked
    · exact serveIsr_sound env asked

theorem afterInit_sound (env : Env) (initialised : Initialised kafInit w) :
    Meets (afterInit env) (fun p => Sound (some p)) (fun _ => Sound none) w := by
  unfold afterInit
  rw [meets_asking]
  split
  · exact reset_sound (fun _ => Or.inl rfl) (resetTcan_unready env w)
  · rename_i ready
    have all := initialised.ready (not_not.mp ready)
    exact runningLoop_sound env ⟨all.more (List.nil_subset _), fun _ => all⟩

theorem startCyclic_sound (env : Env) (unready : w.state ≠ .ready) :
    Meets (startCyclic env) (fun p => Sound (some p)) (fun _ => Sound none) w := by
  refine (pwrOnInit_meets unready (prepared_all w)).gosub ?_ ?_
  · intro p w' initialising
    exact initialising
  · intro _ w' initialised
    exact afterInit_sound env initialised

theorem resumeCyclic_sound (env : Env) (p : Point) (sound : Sound (some p) w) :
    Meets (resumeCyclic env p) (fun p => Sound (some p)) (fun _ => Sound none) w := by
  cases p with
  | pwrOnInit p =>
      refine (resumePwrOnInit_meets sound).gosub ?_ ?_
      · intro p w' initialising
        exact initialising
      · intro _ w' initialised
        exact afterInit_sound env initialised
  | initReset p => exact reset_sound (fun _ => Or.inl rfl) (resumeResetTcan_unready env p w sound)
  | running => exact resumeRunning_sound env sound
  | health p =>
      refine (resumeChkHealth_checked sound).gosub ?_ ?_
      · intro p w' checking
        exact checking
      · intro restart w' checked
        exact afterHealth_sound restart checked
  | healthReset p => exact reset_sound (fun _ => Or.inr rfl) (resumeResetTcan_unready env p w sound)
  | fastSleep p => exact sleep_sound (resumeFastSleep_unready env p w sound)
  | asleep => exact sound

theorem request_sound {point : Option Point} (sound : Sound point w) :
    Sound point { w with fastSleep := .request }.request := by
  have log : Logged Event.isMark w.log (w.log ++ [.requestService]) := .one _ rfl
  have initialised : ∀ {functions}, Initialised functions w →
      Initialised functions { w with fastSleep := .request }.request := by
    intro functions before
    exact ⟨before.prepared.carried rfl rfl log,
      fun ready => (before.ready ready).carried rfl rfl log⟩
  have initialising : ∀ {functions p}, Initialising functions p w →
      Initialising functions p { w with fastSleep := .request }.request := by
    intro functions p before
    refine ⟨before.unready, before.prepared.carried rfl rfl log, ?_⟩
    intro rest tries same
    obtain ⟨among, prepared⟩ := before.rest rest tries same
    exact ⟨among, prepared.carried rfl rfl log⟩
  match point with
  | none | some (.initReset _) | some (.healthReset _) | some (.fastSleep _) | some .asleep =>
      exact sound
  | some (.pwrOnInit p) => exact initialising sound
  | some .running => exact initialised sound
  | some (.health p) =>
      cases p with
      | pwrOnInit p => exact initialising sound
      | wake => exact initialised sound
      | commsTest => exact initialised sound
      | faultFlags p => exact initialised sound

theorem step_sound (env : Env) {s : State} (op : Op) (sound : Sound s.point s.toWorld) :
    Sound (step env s op).point (step env s op).toWorld := by
  cases op with
  | cyclic => exact again_preserves (startCyclic_sound env) (resumeCyclic_sound env) s.point sound
  | reqFastSleep => exact request_sound sound

theorem run_sound (env : Env) (start : World) (ops : List Op) :
    Sound (run (step env) (canSpiInit start) ops).point
      (run (step env) (canSpiInit start) ops).toWorld := by
  have preserved : ∀ s op, Sound s.point s.toWorld →
      Sound (step env s op).point (step env s op).toWorld := fun _ op => step_sound env op
  refine run_invariant preserved ops ?_
  show InitState.pwrOn ≠ .ready
  decide

/-- `nCANSPI_cFastSleep` has begun, and with it the reset it starts with. -/
def sleeping : Option Point → Bool
  | some (.fastSleep _) | some .asleep => true
  | _ => false

theorem sleep_sleeping (t : Thread World SleepPoint Unit) (w : World) :
    Meets (gosub .fastSleep t fun _ => sleepComplete)
      (fun p _ => sleeping (some p) = true) (fun _ _ => False) w := by
  rw [meets_gosub]
  unfold Meets
  rcases t w with ⟨w', p | _⟩
  · rfl
  · rfl

theorem cyclic_sleeping (env : Env) {s : State} (asleep : sleeping s.point = true) :
    sleeping (cyclic env s).point = true := by
  have begins : sleeping none = true → Meets (startCyclic env)
      (fun p _ => sleeping (some p) = true) (fun _ _ => sleeping none = true) s.toWorld := by
    intro none
    cases none
  have goes_on : ∀ p, sleeping (some p) = true → Meets (resumeCyclic env p)
      (fun p _ => sleeping (some p) = true) (fun _ _ => sleeping none = true) s.toWorld := by
    intro p asleep
    cases p with
    | fastSleep p => exact (sleep_sleeping _ _).mono (fun _ _ kept => kept) (fun _ _ => False.elim)
    | asleep => exact rfl
    | pwrOnInit p => cases asleep
    | initReset p => cases asleep
    | running => cases asleep
    | health p => cases asleep
    | healthReset p => cases asleep
  exact again_preserves (I := fun p _ => sleeping p = true) begins goes_on s.point asleep

theorem run_sleeping (env : Env) {s : State} (ops : List Op) (asleep : sleeping s.point = true) :
    sleeping (run (step env) s ops).point = true := by
  have preserved : ∀ s op, sleeping s.point = true → sleeping (step env s op).point = true := by
    intro s op asleep
    cases op with
    | cyclic => exact cyclic_sleeping env asleep
    | reqFastSleep => exact asleep
  exact run_invariant preserved ops asleep

/-- The module reports the chip ready only when both drivers have been initialised since its last
reset, and are, and the transceiver has been set to its normal mode since the last reset or
fault; it never does so again once the fast sleep has begun. -/
theorem ready_initialised (env : Env) (start : World) (ops : List Op) :
    (canHwReady (run (step env) (canSpiInit start) ops).toWorld = true →
      DriverInit (run (step env) (canSpiInit start) ops).toWorld ∧
      TrcvInit (run (step env) (canSpiInit start) ops).toWorld ∧
      NormalSet (run (step env) (canSpiInit start) ops).toWorld) ∧
    (sleeping (run (step env) (canSpiInit start) ops).point = true → ∀ later,
      canHwReady (run (step env) (canSpiInit start) (ops ++ later)).toWorld = false) := by
  constructor
  · intro reported
    have ready : (run (step env) (canSpiInit start) ops).state = .ready := eq_of_beq reported
    have sound := run_sound env start ops
    have all : Prepared [] (run (step env) (canSpiInit start) ops).toWorld := by
      generalize run (step env) (canSpiInit start) ops = s at ready sound
      obtain ⟨w, point⟩ := s
      match point with
      | none | some (.initReset _) | some (.healthReset _) | some (.fastSleep _) | some .asleep =>
          exact absurd ready sound
      | some (.pwrOnInit p) => exact absurd ready sound.unready
      | some .running => exact sound.ready ready
      | some (.health p) =>
          cases p with
          | pwrOnInit p => exact absurd ready sound.unready
          | wake => exact Initialised.ready sound ready
          | commsTest => exact Initialised.ready sound ready
          | faultFlags p => exact Initialised.ready sound ready
    exact ⟨all.driver (by simp), all.trcv (by simp), all.normal (by simp)⟩
  · intro asleep later
    have still := run_sleeping env later asleep
    rw [← run_append] at still
    have sound := run_sound env start (ops ++ later)
    generalize run (step env) (canSpiInit start) (ops ++ later) = s at still sound
    obtain ⟨w, point⟩ := s
    match point with
    | some (.fastSleep _) | some .asleep => exact beq_eq_false_iff_ne.mpr sound

def healthy : Env where
  detPrintf := true
  underVoltage _ := false
  spiGranted _ := true
  register r _ := match r with
    | .devId0 => kaczTCAN
    | .endn => 0x87654321
    | _ => 0
  expired _ := true
  canInit _ := canReady
  trcvInit _ := .init
  trcvModeSet _ _ := true
  canAwake _ := true
  pendingIsr _ := false

/-- The variables before `CanSpi_Init`. -/
def powerUp : World := ⟨.pwrOn, .none, canUninit, .uninit, false, []⟩

theorem ready_initialised_healthy :
    DriverInit (run (step healthy) (canSpiInit powerUp) [.cyclic]).toWorld ∧
      TrcvInit (run (step healthy) (canSpiInit powerUp) [.cyclic]).toWorld ∧
      NormalSet (run (step healthy) (canSpiInit powerUp) [.cyclic]).toWorld :=
  (ready_initialised healthy powerUp [.cyclic]).1 (by decide)

end AnchorNode.CanSpi
