import AnchorNode.CanDrv.Moves
import AnchorNode.CanDrv.RamContract

/-! What the driver achieves in every run of contexts that preempt each other: frames are sent as
they were requested, confirmed in the order in which they were sent, and indicated in the order in
which they were received. -/

namespace AnchorNode.CanDrv

open AnchorNode.Lib

variable {D : Type} {cfg : Config} {chip : Chip D} {view : D → View} {s : State D}

/-- Nothing has been requested, sent or received yet. -/
structure Fresh (view : D → View) (s : State D) : Prop where
  requested : ∀ b, (view s.dev).requested b = false
  events : (view s.dev).events = []
  received : ∀ store, (view s.dev).received store = []
  completed : s.completed = []
  confirmed : s.confirmed = []
  arrived : ∀ store, s.arrived store = []
  indicated : ∀ store, s.indicated store = []

/-- No program is running. -/
def atRest (s : State D) : Threads Context Query Answer (State D) := ⟨s, fun _ => .done ()⟩

/-- From a task on the turns are possible and allowed, each where it is taken, and a context goes on
only when whoever has preempted it has ended. -/
def Permitted (cfg : Config) (chip : Chip D) (view : D → View) (s : State D)
    (turns : List (Turn Context Choice Happening Entry)) : Prop :=
  s.exCntxt = .task ∧ Guarded (Threads.turn (setting cfg chip view))
    (Threads.orderly (setting cfg chip view) Context.priority) (atRest s) turns

/-- The same with accesses over SPI that may fail and buffers that may be used at any time. -/
def Tolerated (cfg : Config) (chip : Chip D) (view : D → View) (s : State D)
    (turns : List (Turn Context Choice Happening Entry)) : Prop :=
  s.exCntxt = .task ∧ Guarded (Threads.turn (setting cfg chip view))
    (Threads.orderly (tolerant cfg chip view) Context.priority) (atRest s) turns

section Decidable
variable (turns : List (Turn Context Choice Happening Entry))

instance : Decidable (Permitted cfg chip view s turns) := inferInstanceAs (Decidable (_ ∧ _))

instance : Decidable (Tolerated cfg chip view s turns) := inferInstanceAs (Decidable (_ ∧ _))

end Decidable

theorem Permitted.tolerated {turns : List (Turn Context Choice Happening Entry)}
    (permitted : Permitted cfg chip view s turns) : Tolerated cfg chip view s turns := by
  refine ⟨permitted.1, permitted.2.mono fun w next orderly => ⟨?_, orderly.2⟩⟩
  have allowed := orderly.1
  cases next with
  | move m => trivial
  | start i b => exact allowed
  | step i c =>
      simp only [Threads.permitted] at allowed ⊢
      split at allowed
      · trivial
      · next q _ asks =>
          exact Allowed.checked cfg allowed

def after (cfg : Config) (chip : Chip D) (view : D → View) (s : State D)
    (turns : List (Turn Context Choice Happening Entry)) : Threads Context Query Answer (State D) :=
  run (Threads.turn (setting cfg chip view)) (atRest s) turns

section Start
variable (fresh : Fresh view s)
include fresh

theorem Fresh.calm (lane : Lane) :
    (inbox cfg view lane).Sound s ∧ (inbox cfg view lane).Calm s := by
  have arrived : (inbox cfg view lane).arrived s = [] := by
    cases lane with
    | tx => exact fresh.completed
    | rx store => exact fresh.arrived store
  have reported : (inbox cfg view lane).reported s = [] := by
    cases lane with
    | tx => exact fresh.confirmed
    | rx store => exact fresh.indicated store
  have queue : (inbox cfg view lane).queue s = [] := by
    cases lane with
    | tx => exact fresh.events
    | rx store => exact fresh.received store
  have settled : (inbox cfg view lane).Settled s := by
    rw [Inbox.Settled, Inbox.unreported, arrived, queue, List.drop_nil, List.map_nil]
  exact ⟨settled.sound (by rw [reported]; rfl), settled, Or.inl queue⟩

theorem Fresh.sane : Sane cfg view s := by
  have waiting : (txPart view s).waiting = [] := by
    show s.completed.drop s.confirmed.length = []
    rw [fresh.completed, List.drop_nil]
  have markers : (txPart view s).markers = [] := by rw [TxPart.markers, waiting, List.map_nil]
  have idle (b : Nat) : (txPart view s).requested b = false := fresh.requested b
  have completed : (txPart view s).completed = [] := fresh.completed
  refine ⟨fun lane => (fresh.calm lane).1, ?_, fun store => ?_, fun store => ?_⟩
  · refine ⟨fun b requested => ?_, by simp [waiting], by simp [markers], by simp [markers],
      by simp [completed], fun request => by simp [TxPart.uses, completed, idle]⟩
    exact Bool.noConfusion ((idle b).symm.trans requested)
  · rw [fresh.received store]
    exact Nat.zero_le _
  · rw [fresh.received store]
    exact List.forall_mem_nil _

end Start

section Bench

def benchStart : State (Tcan benchConfig) where
  dev := ⟨0#32, 0#32, fun _ => 0#32, Window.vacant _, fun _ => Window.vacant _⟩
  swPduHandle _ := 0
  hthMutex _ := none
  gComConfigId := 0
  exCntxt := .task
  rwDevState := .running
  controllerMode := .start
  requests := []
  requestedFor _ := ⟨0, ⟨0, 0, 0⟩, ⟨0, 0#32, []⟩⟩
  completed := []
  confirmed := []
  arrived _ := []
  indicated _ := []
  busOffs := 0
  reports := []

theorem bench_fresh : Fresh Tcan.view benchStart where
  requested _ := BitVec.getLsbD_zero
  events := rfl
  received _ := rfl
  completed := rfl
  confirmed := rfl
  arrived _ := rfl
  indicated _ := rfl

def benchSteps (context : Context) (count : Nat) : List (Turn Context Choice Happening Entry) :=
  List.replicate count (.step context ⟨none, []⟩)

def benchCall : WriteCall where
  hth := 3
  pdu := ⟨5, 0x40000123#32, [1, 2, 3, 4, 5, 6, 7, 8, 9]⟩
  residue _ := 0xEE

def benchFrame : RxFrame := ⟨0x48C00000#32, 0x00230007#32, [0x00332211#32]⟩

def benchTurns : List (Turn Context Choice Happening Entry) :=
  [.start .task (.write benchCall)] ++ benchSteps .task 4 ++
  [.move (.chip (.received .fifo0 benchFrame)), .start .mainFunction .mainRead] ++
  benchSteps .mainFunction 30 ++ benchSteps .task 10 ++
  [.move (.chip (.received (.buffer 1) benchFrame)), .start .mainFunction .mainRead] ++
  benchSteps .mainFunction 5 ++ [.move (.chip (.sent 0)), .start .isr .irq] ++
  benchSteps .isr 40 ++ benchSteps .mainFunction 30

theorem bench_permitted : Permitted benchConfig (tcan benchConfig) Tcan.view benchStart
    benchTurns := by decide +kernel

end Bench

section Runs
variable (configured : WellConfigured cfg) (contract : Contract cfg chip view)

include configured contract in
theorem cooperates : Cooperates (setting cfg chip view) (fun i => terms cfg view i (Mine cfg i))
    (Idle cfg view) (Sane cfg view) where
  others i j apart s s' _ guarantee := ⟨guarantee.sane, guarantee.others i apart,
    fun lane mine => guarantee.lanes lane fun theirs => apart (mine.symm.trans theirs)⟩
  kept _ _ _ sane guarantee := guarantee.sane sane
  moves _ _ m sane possible := happen_rely contract sane m possible
  moves_kept _ m sane possible := (happen_rely (i := .task) contract sane m possible).sane sane
  starts i b := by
    rintro s ⟨idle, sane, start⟩
    exact (does_entry configured contract b s start s ⟨sane, idle⟩).mono fun _ _ holds => holds.2

variable (fresh : Fresh view s) {turns : List (Turn Context Choice Happening Entry)}
  (permitted : Permitted cfg chip view s turns)

include configured contract fresh permitted in
theorem after_fine : (after cfg chip view s turns).Fine (setting cfg chip view)
    (fun i => terms cfg view i (Mine cfg i)) (Idle cfg view) (Sane cfg view) := by
  refine Threads.run_fine (cooperates configured contract) ⟨fresh.sane, fun i => ?_⟩
    (permitted.2.mono fun _ _ orderly => orderly.1)
  intro s' rely lane mine
  exact kept_idle s s' fresh.sane rely (fun lane _ => (fresh.calm lane).2) lane mine

include configured contract fresh permitted in
theorem after_calm (lane : Lane)
    (ended : (after cfg chip view s turns).programs (processor cfg lane) = .done ()) :
    (inbox cfg view lane).Calm (after cfg chip view s turns).shared :=
  (after_fine configured contract fresh permitted).ended ended lane rfl

def benchReuse : List (Turn Context Choice Happening Entry) :=
  let second : WriteCall := { benchCall with pdu := { benchCall.pdu with swPduHandle := 6 } }
  [.start .task (.write benchCall)] ++ benchSteps .task 8 ++ [.move (.chip (.sent 0)),
    .start .task (.write second)] ++ benchSteps .task 8 ++ [.move (.chip (.sent 0)),
    .start .isr .irq] ++ benchSteps .isr 40

example :
    let w := after benchConfig (tcan benchConfig) Tcan.view benchStart benchReuse
    w.shared.completed.map (fun sent => sent.1.pdu.swPduHandle) = [5, 6] ∧
      w.shared.confirmed = [6, 6] := by
  decide +kernel

end Runs

end AnchorNode.CanDrv
