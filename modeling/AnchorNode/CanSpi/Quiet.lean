import AnchorNode.CanSpi.Cyclic
import AnchorNode.Lib.Run

/-! What leaves the states of the module and of the drivers as they are: reading the registers of
the chip, and waiting for the bus. -/

namespace AnchorNode.CanSpi

open AnchorNode.Lib Thread

variable {P Q R A : Type} {env : Env} {w w' u : World}

def Event.isMark : Event → Bool
  | .resetTcan | .fault => true
  | _ => false

def Event.isNotable : Event → Bool
  | .resetTcan | .fault | .releaseService => true
  | _ => false

theorem isMark_of_unnotable {e : Event} (call : e.isNotable = false) : e.isMark = false := by
  cases e <;> first | rfl | cases call

def Logged (mark : Event → Bool) (log log' : List Event) : Prop :=
  ∃ new, log' = log ++ new ∧ ∀ e ∈ new, mark e = false

section Logs
variable {mark mark' : Event → Bool}

theorem Logged.refl (log : List Event) : Logged mark log log := ⟨[], by simp, by simp⟩

theorem Logged.one {e : Event} (log : List Event) (call : mark e = false) :
    Logged mark log (log ++ [e]) := ⟨[e], rfl, by simpa using call⟩

theorem Logged.trans {a b c : List Event} (first : Logged mark a b) (second : Logged mark b c) :
    Logged mark a c := by
  obtain ⟨early, rfl, unmarked⟩ := first
  obtain ⟨late, rfl, unmarked'⟩ := second
  refine ⟨early ++ late, List.append_assoc _ _ _, ?_⟩
  intro e member
  rcases List.mem_append.mp member with old | new
  · exact unmarked e old
  · exact unmarked' e new

theorem Logged.weaken {log log' : List Event} (logged : Logged mark log log')
    (fewer : ∀ e, mark e = false → mark' e = false) : Logged mark' log log' := by
  obtain ⟨new, rfl, unmarked⟩ := logged
  exact ⟨new, rfl, fun e member => fewer e (unmarked e member)⟩

end Logs

structure Quiet (w w' : World) : Prop where
  state : w'.state = w.state
  fastSleep : w'.fastSleep = w.fastSleep
  driverState : w'.driverState = w.driverState
  trcvInitState : w'.trcvInitState = w.trcvInitState
  cpuRequested : w'.cpuRequested = w.cpuRequested
  log : Logged Event.isNotable w.log w'.log

theorem Quiet.refl (w : World) : Quiet w w := ⟨rfl, rfl, rfl, rfl, rfl, .refl _⟩

theorem Quiet.trans (first : Quiet w w') (second : Quiet w' u) : Quiet w u where
  state := second.state.trans first.state
  fastSleep := second.fastSleep.trans first.fastSleep
  driverState := second.driverState.trans first.driverState
  trcvInitState := second.trcvInitState.trans first.trcvInitState
  cpuRequested := second.cpuRequested.trans first.cpuRequested
  log := first.log.trans second.log

theorem emit_quiet {e : Event} (w : World) (call : e.isNotable = false) : Quiet w (w.emit e) :=
  ⟨rfl, rfl, rfl, rfl, rfl, .one _ call⟩

def Quietly (t : Thread World P R) : Prop := ∀ u, Keeps (Quiet u) t

section Rules
variable {t : Thread World P R}

theorem done_quietly (r : R) : Quietly (done r : Thread World P R) := fun _ => keeps_done r

theorem suspend_quietly (p : P) : Quietly (suspend p : Thread World P R) :=
  fun _ => keeps_suspend p

theorem Quietly.doing {f : World → World} (rest : Quietly t) (quiet : ∀ w, Quiet w (f w)) :
    Quietly (doing f t) := fun u => (rest u).doing fun w before => before.trans (quiet w)

theorem Quietly.asking {f : World → World × A} {t : A → Thread World P R}
    (rest : ∀ a, Quietly (t a)) (quiet : ∀ w, Quiet w (f w).1) : Quietly (asking f t) :=
  fun u => Keeps.asking (fun a => rest a u) fun w before => before.trans (quiet w)

theorem Quietly.gosub {place : Q → P} {sub : Thread World Q A} {rest : A → Thread World P R}
    (inner : Quietly sub) (after : ∀ a, Quietly (rest a)) : Quietly (gosub place sub rest) :=
  fun u => (inner u).gosub fun a => after a u

theorem Quietly.here (quietly : Quietly t) (w : World) :
    Meets t (fun _ => Quiet w) (fun _ => Quiet w) w := quietly w w (.refl w)

theorem Quietly.keeps {K : World → Prop} (quietly : Quietly t)
    (closed : ∀ w w', Quiet w w' → K w → K w') : Keeps K t := by
  intro w before
  exact (quietly.here w).mono (fun _ w' quiet => closed w w' quiet before)
    (fun _ w' quiet => closed w w' quiet before)

end Rules

theorem ask_quiet {answer : List Event → A} {event : A → Event} (w : World)
    (call : ∀ a, (event a).isNotable = false) : Quiet w (w.ask answer event).1 :=
  emit_quiet w (call _)

theorem readRegister_quietly (env : Env) (register : Register) :
    Quietly (readRegister env register) := by
  refine Quietly.asking ?_ (fun w => ask_quiet w fun _ => rfl)
  intro granted
  split
  · exact Quietly.asking done_quietly (fun w => ask_quiet w fun _ => rfl)
  · exact suspend_quietly ()

theorem writeRegister_quietly (env : Env) (register : Register) (word : UInt32) :
    Quietly (writeRegister env register word) := by
  refine Quietly.asking ?_ (fun w => ask_quiet w fun _ => rfl)
  intro granted
  split
  · exact (done_quietly ()).doing fun w => emit_quiet w rfl
  · exact suspend_quietly ()

theorem commsTest_quietly (env : Env) : Quietly (commsTest env) :=
  (readRegister_quietly env .devId0).gosub fun _ => done_quietly _

theorem clearFlags_quietly (env : Env) (pwrOn : Bool) : Quietly (clearFlags env pwrOn) :=
  (writeRegister_quietly env .irqFlags kuTxClrErr).gosub fun _ => done_quietly _

theorem readEndian_quietly (env : Env) (irq baud : UInt32) :
    Quietly (readEndian env irq baud) := by
  apply (readRegister_quietly env .endn).gosub
  intro endian
  dsimp only
  split
  · exact clearFlags_quietly env _
  · exact done_quietly _

theorem readBaudRate_quietly (env : Env) (irq : UInt32) : Quietly (readBaudRate env irq) :=
  (readRegister_quietly env .dbtp).gosub (readEndian_quietly env irq)

theorem chkFaultFlags_quietly (env : Env) : Quietly (chkFaultFlags env) :=
  (readRegister_quietly env .irqFlags).gosub (readBaudRate_quietly env)

theorem resumeChkFaultFlags_quietly (env : Env) (p : FlagsPoint) :
    Quietly (resumeChkFaultFlags env p) := by
  cases p with
  | irqFlags => exact chkFaultFlags_quietly env
  | baudRate irq => exact readBaudRate_quietly env irq
  | endian irq baud => exact readEndian_quietly env irq baud
  | clear pwrOn => exact clearFlags_quietly env pwrOn

theorem readMcanVersion_quietly (env : Env) : Quietly (readMcanVersion env) :=
  (readRegister_quietly env .crel).gosub fun _ => done_quietly ()

theorem queryVersion_quietly (env : Env) : Quietly (queryVersion env) := by
  unfold queryVersion
  split
  · exact (readRegister_quietly env .tcanVer).gosub fun _ => readMcanVersion_quietly env
  · exact done_quietly ()

theorem resumeQueryVersion_quietly (env : Env) (p : VersionPoint) :
    Quietly (resumeQueryVersion env p) := by
  cases p with
  | tcan => exact queryVersion_quietly env
  | mcan => exact readMcanVersion_quietly env

end AnchorNode.CanSpi
