import AnchorNode.CanSpi.Sleep

/-! When the fast sleep may be asked for. At every point but the ripe ones the same future is
enough for the processor to be released too early: that nothing goes wrong any more. -/

namespace AnchorNode.CanSpi

open AnchorNode.Lib Thread

variable {P Q R A : Type} {w w' : World}

def Straight (t : Thread World P R) : Prop :=
  ∀ w, Meets t (fun _ _ => False) (fun _ => Quiet w) w

theorem Straight.gosub {place : Q → P} {sub : Thread World Q A} {rest : A → Thread World P R}
    (inner : Straight sub) (after : ∀ a, Straight (rest a)) :
    Straight (gosub place sub rest) := by
  intro w
  refine (inner w).gosub ?_ ?_
  · intro q w' none
    exact none
  · intro a w' quiet
    exact (after a w').mono (fun _ _ none => none) (fun _ _ => quiet.trans)

theorem done_straight (r : R) : Straight (done r : Thread World P R) := Quiet.refl

theorem readRegister_straight (register : Register) : Straight (readRegister healthy register) :=
  fun w => (emit_quiet w rfl).trans (emit_quiet _ rfl)

theorem writeRegister_straight (register : Register) (word : UInt32) :
    Straight (writeRegister healthy register word) :=
  fun w => (emit_quiet w rfl).trans (emit_quiet _ rfl)

theorem commsTest_healthy (w : World) :
    Meets (commsTest healthy) (fun _ _ => False) (fun ok w' => ok = true ∧ Quiet w w') w :=
  ⟨rfl, (emit_quiet w rfl).trans (emit_quiet _ rfl)⟩

theorem clearFlags_straight (pwrOn : Bool) : Straight (clearFlags healthy pwrOn) :=
  (writeRegister_straight .irqFlags kuTxClrErr).gosub fun _ => done_straight _

theorem readEndian_straight (irq baud : UInt32) : Straight (readEndian healthy irq baud) := by
  apply (readRegister_straight .endn).gosub
  intro endian
  dsimp only
  split
  · exact clearFlags_straight _
  · exact done_straight _

theorem readBaudRate_straight (irq : UInt32) : Straight (readBaudRate healthy irq) :=
  (readRegister_straight .dbtp).gosub (readEndian_straight irq)

theorem chkFaultFlags_straight : Straight (chkFaultFlags healthy) :=
  (readRegister_straight .irqFlags).gosub readBaudRate_straight

theorem resumeChkFaultFlags_straight (p : FlagsPoint) :
    Straight (resumeChkFaultFlags healthy p) := by
  cases p with
  | irqFlags => exact chkFaultFlags_straight
  | baudRate irq => exact readBaudRate_straight irq
  | endian irq baud => exact readEndian_straight irq baud
  | clear pwrOn => exact clearFlags_straight pwrOn

theorem readMcanVersion_straight : Straight (readMcanVersion healthy) :=
  (readRegister_straight .crel).gosub fun _ => done_straight ()

theorem queryVersion_straight : Straight (queryVersion healthy) := by
  show Straight (gosub (fun _ => .tcan) (readRegister healthy .tcanVer) fun _ =>
    readMcanVersion healthy)
  exact (readRegister_straight .tcanVer).gosub fun _ => readMcanVersion_straight

theorem resumeQueryVersion_straight (p : VersionPoint) :
    Straight (resumeQueryVersion healthy p) := by
  cases p with
  | tcan => exact queryVersion_straight
  | mcan => exact readMcanVersion_straight

structure Released (w : World) : Prop where
  fast : w.fastSleep = .request
  unrequested : w.cpuRequested = false

theorem Released.quiet (released : Released w) (quiet : Quiet w w') : Released w' :=
  ⟨quiet.fastSleep.trans released.fast, quiet.cpuRequested.trans released.unrequested⟩

def Succeeds (t : Thread World P Unit) : Prop :=
  ∀ w, w.fastSleep = .request →
    Meets t (fun _ _ => False) (fun _ w => w.state = .ready ∧ Released w) w

theorem Straight.succeeds {place : Q → P} {sub : Thread World Q A} {rest : A → Thread World P Unit}
    (inner : Straight sub) (after : ∀ a, Succeeds (rest a)) :
    Succeeds (Thread.gosub place sub rest) := by
  intro w asked
  refine (inner w).gosub ?_ ?_
  · intro q w' none
    exact none
  · intro a w' quiet
    exact after a w' (quiet.fastSleep.trans asked)

theorem callInit_succeeds (functions : List InitFunction) :
    Succeeds (callInit healthy functions 0) := by
  induction functions with
  | nil => exact fun w asked => ⟨rfl, asked, rfl⟩
  | cons f rest ih =>
      intro w asked
      have ok : (f.call healthy w).2 = true := by cases f <;> rfl
      have asked' : (f.call healthy w).1.fastSleep = .request :=
        (f.call_same healthy w).2.1.trans asked
      unfold callInit
      rw [if_neg (by decide), meets_asking, ok]
      exact ih _ asked'

theorem initialise_succeeds (functions : List InitFunction) :
    Succeeds (initialise healthy functions) := fun w asked =>
  callInit_succeeds functions (w.setState .init) asked

theorem chipFound_succeeds (functions : List InitFunction) :
    Succeeds (chipFound healthy functions) := by
  intro w asked
  unfold chipFound
  rw [meets_asking]
  split
  · exact Straight.succeeds queryVersion_straight (fun _ => initialise_succeeds functions) w asked
  · exact initialise_succeeds functions w asked

theorem commsTest_succeeds (functions : List InitFunction) (tries : Nat) :
    Succeeds (gosub (fun _ => .commsTest tries) (commsTest healthy)
      (afterCommsTest healthy functions tries)) := by
  intro w asked
  refine (commsTest_healthy w).gosub ?_ ?_
  · intro _ w' none
    exact none
  · rintro ok w' ⟨rfl, quiet⟩
    exact chipFound_succeeds functions w' (quiet.fastSleep.trans asked)

theorem pollDevId_succeeds (functions : List InitFunction) {tries : Nat}
    (left : tries ≠ devIdRetriesMax) : Succeeds (pollDevId healthy functions tries) := by
  intro w asked
  unfold pollDevId
  rw [if_neg left, meets_asking]
  exact commsTest_succeeds functions tries _ asked

theorem pwrOnInit_succeeds (functions : List InitFunction) :
    Succeeds (pwrOnInit healthy functions) := by
  intro w asked
  have left : 0 ≠ devIdRetriesMax := by decide
  exact pollDevId_succeeds functions left w.request asked

theorem resumePwrOnInit_healthy (functions : List InitFunction) (p : InitPoint)
    (asked : w.fastSleep = .request) (unready : w.state ≠ .ready) :
    Meets (resumePwrOnInit healthy functions p) (fun _ _ => False)
      (fun _ w => w.state = .ready ∧ Released w ∨
        ripe (some (.health (.pwrOnInit p))) = true ∧ w.state ≠ .ready ∧ w.fastSleep = .request)
      w := by
  have success : Succeeds (resumePwrOnInit healthy functions p) → Meets
      (resumePwrOnInit healthy functions p) (fun _ _ => False)
      (fun _ w => w.state = .ready ∧ Released w ∨
        ripe (some (.health (.pwrOnInit p))) = true ∧ w.state ≠ .ready ∧ w.fastSleep = .request)
      w := fun succeeds => (succeeds w asked).mono (fun _ _ none => none) (fun _ _ => Or.inl)
  cases p with
  | commsTest tries => exact success (commsTest_succeeds functions tries)
  | version p =>
      exact success (Straight.succeeds (resumeQueryVersion_straight p) fun _ =>
        initialise_succeeds functions)
  | devIdDelay tries =>
      by_cases used_up : tries + 1 = devIdRetriesMax
      · unfold resumePwrOnInit
        rw [meets_asking]
        show Meets (pollDevId healthy functions (tries + 1)) _ _ _
        unfold pollDevId
        rw [if_pos used_up]
        exact Or.inr ⟨beq_iff_eq.mpr used_up, unready, asked⟩
      · exact success fun w asked => pollDevId_succeeds functions used_up _ asked
  | initDelay rest tries =>
      cases rest with
      | nil => exact success fun w asked => callInit_succeeds [] _ asked
      | cons f rest =>
          by_cases used_up : tries + 1 = initRetriesMax
          · unfold resumePwrOnInit
            rw [meets_asking]
            show Meets (callInit healthy (f :: rest) (tries + 1)) _ _ _
            unfold callInit
            rw [if_pos used_up]
            exact Or.inr ⟨beq_iff_eq.mpr used_up, unready, asked⟩
          · apply success
            intro w asked
            have ok : ∀ u, (f.call healthy u).2 = true := by
              intro u
              cases f <;> rfl
            have same := (f.call_same healthy (w.ask healthy.expired .timer).1).2.1
            unfold resumePwrOnInit
            rw [meets_asking]
            show Meets (callInit healthy (f :: rest) (tries + 1)) _ _ _
            unfold callInit
            rw [if_neg used_up, meets_asking, ok]
            exact callInit_succeeds rest _ (same.trans asked)

def HealthEnds (restart : Bool) (w : World) : Prop :=
  w.fastSleep = .request ∧ (restart = false → w.cpuRequested = false)

theorem judgeHealth_ends (devIdOk pwrOn thermErr : Bool) (asked : w.fastSleep = .request) :
    Meets (judgeHealth healthy devIdOk pwrOn thermErr) (fun _ _ => False) HealthEnds w := by
  unfold judgeHealth
  split
  · exact ⟨asked, fun stays => by cases stays⟩
  · unfold judgeFault
    rw [meets_doing, meets_asking]
    split
    · exact ⟨asked, fun _ => rfl⟩
    · split
      · refine (pwrOnInit_succeeds internalInit w.release asked).gosub ?_ ?_
        · intro p w' none
          exact none
        · rintro _ w' ⟨_, released⟩
          exact ⟨released.fast, fun _ => released.unrequested⟩
      · exact ⟨asked, fun _ => rfl⟩

theorem faultFlags_ends {t : Thread World FlagsPoint (Bool × Bool)} (straight : Straight t)
    (asked : w.fastSleep = .request) :
    Meets (gosub .faultFlags t fun flags => judgeHealth healthy true flags.1 flags.2)
      (fun _ _ => False) HealthEnds w := by
  refine (straight w).gosub ?_ ?_
  · intro p w' none
    exact none
  · intro flags w' quiet
    exact judgeHealth_ends true flags.1 flags.2 (quiet.fastSleep.trans asked)

theorem devIdTest_ends (asked : w.fastSleep = .request) :
    Meets (gosub (fun _ => .commsTest) (commsTest healthy) (afterDevId healthy))
      (fun _ _ => False) HealthEnds w := by
  refine (commsTest_healthy w).gosub ?_ ?_
  · intro _ w' none
    exact none
  · rintro ok w' ⟨rfl, quiet⟩
    exact faultFlags_ends chkFaultFlags_straight (quiet.fastSleep.trans asked)

theorem resumeChkHealth_ends {p : HealthPoint} (asked : w.fastSleep = .request)
    (checking : Checking p w) (early : ripe (some (.health p)) = false) :
    Meets (resumeChkHealth healthy p) (fun _ _ => False) HealthEnds w := by
  cases p with
  | wake =>
      have awake : (w.ask healthy.canAwake .canHw).2 = true := rfl
      unfold resumeChkHealth chkHealth
      rw [meets_asking, awake, if_pos rfl, meets_doing]
      exact devIdTest_ends asked
  | commsTest => exact devIdTest_ends asked
  | faultFlags p => exact faultFlags_ends (resumeChkFaultFlags_straight p) asked
  | pwrOnInit p =>
      refine (resumePwrOnInit_healthy internalInit p asked checking.unready).gosub ?_ ?_
      · intro p w' none
        exact none
      · rintro _ w' (⟨_, released⟩ | ⟨used_up, _⟩)
        · exact ⟨released.fast, fun _ => released.unrequested⟩
        · rw [early] at used_up
          cases used_up

def Nearer : Option Point → World → Prop
  | some .running, w => Released w
  | some (.initReset .settle), w | some (.healthReset .settle), w | none, w =>
    w.fastSleep = .request
  | _, _ => False

theorem reset_nearer {place : ResetPoint → Point} (asked : w.fastSleep = .request)
    (placed : place .settle = .initReset .settle ∨ place .settle = .healthReset .settle) :
    Meets (gosub place (resetTcan healthy) fun _ => done ()) (fun p => Nearer (some p))
      (fun _ => Nearer none) w := by
  show Nearer (some (place .settle)) (pulseReset ((beginReset w).ask _ _).1)
  rcases placed with same | same
  all_goals
    rw [same]
    exact asked

theorem resumeReset_nearer {place : ResetPoint → Point} (p : ResetPoint)
    (asked : w.fastSleep = .request)
    (placed : place .settle = .initReset .settle ∨ place .settle = .healthReset .settle) :
    Meets (gosub place (resumeResetTcan healthy p) fun _ => done ()) (fun p => Nearer (some p))
      (fun _ => Nearer none) w := by
  cases p with
  | settle => exact asked
  | supply =>
      show Nearer (some (place .settle)) (pulseReset ((w.ask _ _).1.ask _ _).1)
      rcases placed with same | same
      all_goals
        rw [same]
        exact asked

theorem afterInit_nearer (asked : w.fastSleep = .request)
    (ended : w.state = .ready → w.cpuRequested = false) :
    Meets (afterInit healthy) (fun p => Nearer (some p)) (fun _ => Nearer none) w := by
  unfold afterInit
  rw [meets_asking]
  split
  · exact reset_nearer asked (Or.inl rfl)
  · rename_i ready
    exact ⟨asked, ended (not_not.mp ready)⟩

theorem afterHealth_nearer {restart : Bool} (ends : HealthEnds restart w) :
    Meets (afterHealth healthy restart) (fun p => Nearer (some p)) (fun _ => Nearer none) w := by
  unfold afterHealth
  split
  · exact reset_nearer ends.1 (Or.inr rfl)
  · rename_i stays
    exact ⟨ends.1, ends.2 (Bool.eq_false_iff.mpr stays)⟩

theorem startCyclic_released (asked : w.fastSleep = .request) :
    Meets (startCyclic healthy) (fun p w => p = .running ∧ Released w) (fun _ _ => False) w := by
  refine (pwrOnInit_succeeds kafInit w asked).gosub ?_ ?_
  · intro p w' none
    exact none.elim
  · rintro _ w' ⟨ready, released⟩
    unfold afterInit
    rw [meets_asking, if_neg (not_not.mpr ready)]
    exact ⟨rfl, released.fast, released.unrequested⟩

theorem resumeCyclic_nearer {p : Point} (asked : w.fastSleep = .request)
    (sound : Sound (some p) w) (early : ripe (some p) = false) :
    Meets (resumeCyclic healthy p) (fun p => Nearer (some p)) (fun _ => Nearer none) w := by
  cases p with
  | running => cases early
  | fastSleep p => cases early
  | asleep => cases early
  | initReset p => exact resumeReset_nearer p asked (Or.inl rfl)
  | healthReset p => exact resumeReset_nearer p asked (Or.inr rfl)
  | pwrOnInit p =>
      refine (resumePwrOnInit_healthy kafInit p asked sound.unready).gosub ?_ ?_
      · intro p w' none
        exact none.elim
      · rintro _ w' (⟨_, released⟩ | ⟨_, unready, still⟩)
        · exact afterInit_nearer released.fast fun _ => released.unrequested
        · exact afterInit_nearer still fun ready => absurd ready unready
  | health p =>
      refine (resumeChkHealth_ends asked sound early).gosub ?_ ?_
      · intro p w' none
        exact none.elim
      · intro restart w' ends
        exact afterHealth_nearer ends

def ReleasesEarly (s : State) : Prop :=
  ∃ n, Released (run (step healthy) s (List.replicate n .cyclic)).toWorld

theorem ReleasesEarly.later {s : State} (releases : ReleasesEarly (cyclic healthy s)) :
    ReleasesEarly s := by
  obtain ⟨n, released⟩ := releases
  refine ⟨n + 1, ?_⟩
  rw [List.replicate_succ, run_cons]
  exact released

theorem start_releases {s : State} (asked : s.fastSleep = .request) (start : s.point = none) :
    ReleasesEarly s := by
  have meets := startCyclic_released asked
  refine ⟨1, ?_⟩
  show Released (cyclic healthy s).toWorld
  unfold Meets at meets
  simp only [cyclic, again, start, Option.elim_none]
  rcases left : startCyclic healthy s.toWorld with ⟨w', q | _⟩
  · rw [left] at meets
    exact meets.2
  · rw [left] at meets
    exact meets.elim

theorem settle_releases {s : State} (asked : s.fastSleep = .request)
    (settles : s.point = some (.initReset .settle) ∨ s.point = some (.healthReset .settle)) :
    ReleasesEarly s := by
  apply ReleasesEarly.later
  obtain ⟨w, point⟩ := s
  rcases settles with rfl | rfl
  all_goals exact start_releases asked rfl

theorem nearer_releases {s : State} (nearer : Nearer s.point s.toWorld) : ReleasesEarly s := by
  obtain ⟨w, point⟩ := s
  match point with
  | some .running => exact ⟨0, nearer⟩
  | some (.initReset .settle) => exact settle_releases nearer (Or.inl rfl)
  | some (.healthReset .settle) => exact settle_releases nearer (Or.inr rfl)
  | none => exact start_releases nearer rfl

theorem unripe_releases {s : State} (sound : Sound s.point s.toWorld)
    (asked : s.fastSleep = .request) (early : ripe s.point = false) : ReleasesEarly s := by
  obtain ⟨w, point⟩ := s
  cases point with
  | none => exact start_releases asked rfl
  | some p =>
      apply ReleasesEarly.later
      apply nearer_releases
      have meets := resumeCyclic_nearer asked sound early
      unfold Meets at meets
      simp only [cyclic, again, Option.elim_some]
      rcases left : resumeCyclic healthy p w with ⟨w', q | _⟩
      · rw [left] at meets
        exact meets
      · rw [left] at meets
        exact meets

/-- While the fast sleep is asked for and not complete, the processor is requested, and the next
call of the thread does not release it before it has put transceiver and controller to sleep. -/
def KeepsService (env : Env) (s : State) : Prop :=
  qryFastSleep s.toWorld = false → s.cpuRequested = true ∧
    ((cyclic env s).fastSleep = .request ∧ Logged isRelease s.log (cyclic env s).log ∨
      (cyclic env s).fastSleep = .complete ∧ Slept s.log (cyclic env s).toWorld)

theorem Safe.keepsService {s : State} (env : Env) (safe : Safe s) : KeepsService env s := by
  intro pending
  have asked : s.fastSleep = .request := by simpa [qryFastSleep] using pending
  refine ⟨(safe asked).2, ?_⟩
  rcases cyclic_going env safe asked with ⟨_, held⟩ | ⟨_, complete, slept⟩
  · exact Or.inl ⟨held.fast, held.log⟩
  · exact Or.inr ⟨complete, slept⟩

/-- Asked for at ripe points only, the fast sleep keeps the processor awake until it is done. At
a point that is not ripe it does not: whatever has been before, there is a future in which the
processor is released while the fast sleep is still to come. -/
theorem service_kept_iff (env : Env) (start : World) (unasked : start.fastSleep ≠ .request)
    (ops : List Op) (guarded : Guarded (step env) Timely (canSpiInit start) ops) :
    KeepsService env (run (step env) (canSpiInit start) ops) ∧
    (ripe (run (step env) (canSpiInit start) ops).point = true ↔
      ∀ future later,
        Guarded (step future) Timely (reqFastSleep (run (step env) (canSpiInit start) ops)) later →
        KeepsService future
          (run (step future) (reqFastSleep (run (step env) (canSpiInit start) ops)) later)) := by
  have safe : Safe (run (step env) (canSpiInit start) ops) :=
    run_safe env (fun asked => absurd asked unasked) guarded
  have sound := run_sound env start ops
  generalize run (step env) (canSpiInit start) ops = s at safe sound
  refine ⟨safe.keepsService env, ?_, ?_⟩
  · intro ready future later guarded'
    have asked : Safe (reqFastSleep s) := fun _ => ⟨ready, rfl⟩
    exact (run_safe future asked guarded').keepsService future
  · intro kept
    by_contra early
    -- with a chip without faults the thread releases the processor while the request is open
    obtain ⟨n, released⟩ := unripe_releases (s := reqFastSleep s) (request_sound sound) rfl
      (Bool.eq_false_iff.mpr early)
    have cyclics : ∀ n s, Guarded (step healthy) Timely s (List.replicate n .cyclic) := by
      intro n
      induction n with
      | zero => exact fun _ => trivial
      | succ n ih => exact fun s => ⟨trivial, ih _⟩
    have pending : qryFastSleep (run (step healthy) (reqFastSleep s)
        (List.replicate n .cyclic)).toWorld = false := by
      simp [qryFastSleep, released.fast]
    have requested := (kept healthy _ (cyclics n _) pending).1
    rw [released.unrequested] at requested
    cases requested

theorem service_kept_running :
    KeepsService healthy
      (run (step healthy) (canSpiInit powerUp) [.cyclic, .reqFastSleep, .cyclic]) := by
  apply (service_kept_iff healthy powerUp _ [.cyclic, .reqFastSleep, .cyclic] _).1
  · decide
  · refine ⟨trivial, ?_, trivial, trivial⟩
    show ripe (cyclic healthy (canSpiInit powerUp)).point = true
    decide

/-- Asked for during the initialisation: the call that completes it releases the processor, and
the fast sleep has not begun. -/
theorem initialisation_releases :
    qryFastSleep (run (step healthy) (canSpiInit powerUp) [.reqFastSleep, .cyclic]).toWorld =
        false ∧
      (run (step healthy) (canSpiInit powerUp) [.reqFastSleep, .cyclic]).cpuRequested = false ∧
      (run (step healthy) (canSpiInit powerUp) [.reqFastSleep, .cyclic]).point = some .running := by
  refine ⟨?_, ?_, ?_⟩ <;> decide

end AnchorNode.CanSpi
