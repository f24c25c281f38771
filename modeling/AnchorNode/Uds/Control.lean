import AnchorNode.Uds.Core

/-! The control block between two calls: the core is busy exactly while a service of the table
is pending, and what belongs to a request is gone when it is idle. -/

namespace AnchorNode.Uds

open AnchorNode.Lib

variable {cfg : Config} {s t : State} {c : Core}

/-- The service whose pending function is flagged. -/
def pendingEntry (cfg : Config) (c : Core) : Option Service := (serviceCfg cfg)[c.rcrrpSidIndex]?

/-- The control block between two calls. -/
structure Control (cfg : Config) (c : Core) : Prop where
  busy : c.isBusy = true ↔ ∃ svc, pendingEntry cfg c = some svc
  pending : ∀ svc, pendingEntry cfg c = some svc → svc.hasPending = true
  idle : c.isBusy = false →
    c.suppressPosResp = false ∧ c.respLen = 0 ∧ c.rcrrpTxConfirm = false

theorem serviceCfg_short (cfg : Config) : (serviceCfg cfg).length < invalidIndex := by
  unfold serviceCfg
  cases cfg.product <;> decide

theorem invalid_entry (cfg : Config) : (serviceCfg cfg)[invalidIndex]? = none :=
  List.getElem?_eq_none (Nat.le_of_lt (serviceCfg_short cfg))

theorem setIdle_control (cfg : Config) (c : Core) : Control cfg (setIdle c) := by
  have none : pendingEntry cfg (setIdle c) = none := invalid_entry cfg
  refine ⟨?_, ?_, fun _ => ⟨rfl, rfl, rfl⟩⟩
  · rw [none]
    simp [setIdle]
  · simp [none]

section Fields
variable (s : State) (f : Core → Core)

@[simp] theorem onCore_toCore : (s.onCore f).toCore = f s.toCore := rfl
@[simp] theorem coreStartS3_toCore : (coreStartS3 s).toCore = s.toCore := rfl

end Fields

theorem txConfirmation_toCore (cfg : Config) (s : State) :
    (txConfirmation cfg s).toCore =
      { s.toCore with rcrrpTxConfirm :=
        s.rcrrpTxConfirm || decide (s.rcrrpSidIndex < (serviceCfg cfg).length) } := by
  unfold txConfirmation
  split
  · rename_i outside
    simp [Nat.not_lt_of_le outside]
  · rename_i inside
    simp [Nat.lt_of_not_le inside]

theorem sendPositiveResponse_control (confirmed : Bool) (sid : UInt8) (s : State) :
    Control cfg (sendPositiveResponse cfg confirmed sid s).toCore := setIdle_control cfg _

theorem sendNegativeResponse_control (confirmed : Bool) (sid code : UInt8) (s : State) :
    Control cfg (sendNegativeResponse cfg confirmed sid code s).toCore := setIdle_control cfg _

theorem sendResponse_keeps (cfg : Config) (confirmed : Bool) (head : UInt8) (data : List UInt8)
    (suppress : Bool) (s : State) :
    (sendResponse cfg confirmed head data suppress s).isBusy = s.isBusy ∧
      (sendResponse cfg confirmed head data suppress s).rcrrpSidIndex = s.rcrrpSidIndex := by
  unfold sendResponse
  split
  · constructor
    · rw [confirm, txConfirmation_toCore]
      rfl
    · rw [confirm, txConfirmation_toCore]
      rfl
  · exact ⟨rfl, rfl⟩

theorem sendPendingResponse_control {confirmed : Bool} {sid : UInt8} {svc : Service}
    (busy : s.isBusy = true) (entry : pendingEntry cfg s.toCore = some svc)
    (pending : svc.hasPending = true) :
    Control cfg (sendPendingResponse cfg confirmed sid s).toCore := by
  have kept := sendResponse_keeps cfg confirmed sidNr [sid, responsePending] false
    (s.onCore (fillNegativeResponse sid responsePending))
  have busy' : (sendPendingResponse cfg confirmed sid s).isBusy = true := kept.1.trans busy
  have index : (sendPendingResponse cfg confirmed sid s).rcrrpSidIndex = s.rcrrpSidIndex := kept.2
  have entry' : pendingEntry cfg (sendPendingResponse cfg confirmed sid s).toCore = some svc := by
    rw [pendingEntry, index]
    exact entry
  refine ⟨?_, ?_, ?_⟩
  · simp [busy', entry']
  · intro other found
    rw [entry'] at found
    cases found
    exact pending
  · intro idle
    rw [busy'] at idle
    cases idle

theorem udsResponse_control {confirmed : Bool} {code : UInt8} {svc : Service} {index : Nat}
    (busy : s.isBusy = true) (entry : (serviceCfg cfg)[index]? = some svc) :
    Control cfg (udsResponse cfg confirmed code svc index s).toCore := by
  unfold udsResponse
  split
  · exact sendPositiveResponse_control _ _ _
  · split
    · simp only
      split
      · rename_i pending
        exact sendPendingResponse_control busy entry pending
      · exact sendNegativeResponse_control _ _ _ _
    · exact sendNegativeResponse_control _ _ _ _

def Event.isService : Event → Bool
  | .service _ _ => true
  | _ => false

structure Worked (suppresses : Prop) (c d : Core) : Prop where
  busy : d.isBusy = c.isBusy
  events : ∃ events, d.log = c.log ++ events ∧ ∀ e ∈ events, e.isService = true
  suppress : d.suppressPosResp = true → c.suppressPosResp = true ∨ suppresses

section Work
variable {p : Prop} {c d e : Core}

theorem Worked.refl : Worked p c c := ⟨rfl, ⟨[], by simp, by simp⟩, Or.inl⟩

theorem Worked.trans (first : Worked p c d) (second : Worked p d e) : Worked p c e := by
  obtain ⟨early, before, service⟩ := first.events
  obtain ⟨late, after, service'⟩ := second.events
  refine ⟨second.busy.trans first.busy, ⟨early ++ late, ?_, ?_⟩, ?_⟩
  · rw [after, before, List.append_assoc]
  · intro event member
    rcases List.mem_append.mp member with old | new
    · exact service event old
    · exact service' event new
  · intro set
    rcases second.suppress set with earlier | here
    · exact first.suppress earlier
    · exact Or.inr here

theorem Worked.answerLength (worked : Worked p c d) (n : Nat) : Worked p c (d.answerLength n) :=
  ⟨worked.busy, worked.events, worked.suppress⟩

theorem Worked.store (worked : Worked p c d) (offset : Nat) (bytes : List UInt8) :
    Worked p c (d.store offset bytes) :=
  ⟨worked.busy, worked.events, worked.suppress⟩

theorem Worked.settle (worked : Worked p c d) (accepted : Bool) (header : List UInt8)
    (respLen : Nat) : Worked p c (settle d accepted header respLen) := by
  unfold AnchorNode.Uds.settle
  split
  · exact (worked.store 1 header).answerLength _
  · exact worked.answerLength 0

theorem Worked.service (worked : Worked p c d) (svc : Service) (args : List Nat) :
    Worked p c (d.emit (.service svc args)) := by
  apply worked.trans
  exact ⟨rfl, ⟨[_], rfl, by simp [Event.isService]⟩, fun set => Or.inl set⟩

theorem extractSubFn_worked (svc : Service) (sub : svc.hasSubFn = true) (byte : UInt8) (c : Core) :
    Worked (svc.hasSubFn = true ∧ byte &&& 0x80 = 0x80) c (extractSubFn byte c).1 := by
  simp only [extractSubFn]
  split
  · rename_i bit
    exact ⟨rfl, ⟨[], by simp, by simp⟩, fun _ => Or.inr ⟨sub, bit⟩⟩
  · exact .refl

end Work

theorem handle_worked (req : Mem) (len : Nat) (a : Answer) (c : Core) (address : Nat)
    (svc : Service) :
    Worked (svc.hasSubFn = true ∧ req 0 &&& 0x80 = 0x80) c (handle req len a c address svc).1 := by
  have none : Worked (svc.hasSubFn = true ∧ req 0 &&& 0x80 = 0x80) c c := .refl
  cases svc with
  | dsc =>
      have sub := extractSubFn_worked .dsc rfl (req 0) c
      simp only [handle, coreDsc]
      split
      · exact none.answerLength 0
      · exact ((sub.service _ _).store _ _).settle _ _ _
  | er =>
      have sub := extractSubFn_worked .er rfl (req 0) c
      simp only [handle, coreEr]
      split
      · exact sub.answerLength 0
      · exact (sub.service _ _).settle _ _ _
  | cdtci =>
      simp only [handle, coreCdtci]
      split
      · exact none.answerLength 0
      · exact (none.service _ _).answerLength 0
  | rdtci =>
      have sub := extractSubFn_worked .rdtci rfl (req 0) c
      exact ((sub.service _ _).store _ _).settle _ _ _
  | rdbi =>
      simp only [handle, coreRdbi]
      split
      · exact none.answerLength 0
      · exact ((none.service _ _).store _ _).settle _ _ _
  | sa =>
      have sub := extractSubFn_worked .sa rfl (req 0) c
      exact ((sub.service _ _).store _ _).settle _ _ _
  | wdbi => exact ((none.service _ _).store _ _).settle _ _ _
  | rc =>
      have sub := extractSubFn_worked .rc rfl (req 0) c
      have moved : Worked (Service.rc.hasSubFn = true ∧ req 0 &&& 0x80 = 0x80) c
          { (extractSubFn (req 0) c).1 with req := address + 3, reqLen := u16 (len - 3) } :=
        ⟨sub.busy, sub.events, sub.suppress⟩
      exact ((moved.service _ _).store _ _).settle _ _ _
  | rd => exact (none.service _ _).answerLength 0
  | td =>
      simp only [handle, coreTd]
      split
      all_goals exact ((none.service _ _).store _ _).answerLength _
  | rte =>
      simp only [handle, coreRte]
      split
      all_goals exact ((none.service _ _).store _ _).answerLength _
  | tp =>
      have sub := extractSubFn_worked .tp rfl (req 0) c
      simp only [handle, coreTp]
      split
      · exact sub.answerLength 0
      · split
        · exact sub.answerLength 0
        · exact sub.settle true [(extractSubFn (req 0) c).2] 0

theorem findService_entry {sid : UInt8} {index : Nat} {svc : Service}
    (found : findService cfg sid = some (index, svc)) :
    (serviceCfg cfg)[index]? = some svc ∧ svc.sid = sid := by
  unfold findService at found
  obtain ⟨place, searched, rest⟩ := Option.bind_eq_some_iff.mp found
  obtain ⟨entry, at_place, pair⟩ := Option.map_eq_some_iff.mp rest
  cases pair
  refine ⟨at_place, ?_⟩
  obtain ⟨inside, matched, _⟩ := List.findIdx?_eq_some_iff_getElem.mp searched
  rw [List.getElem?_eq_getElem inside] at at_place
  cases at_place
  simpa using matched

theorem process_control (r : Request) (address : Nat) (i : Reception) (s : State) :
    Control cfg (process cfg r address i s).toCore := by
  simp only [process]
  split
  · exact sendNegativeResponse_control _ _ _ _
  · rename_i index svc found
    split
    · exact sendNegativeResponse_control _ _ _ _
    · split
      · exact sendNegativeResponse_control _ _ _ _
      · apply udsResponse_control
        · exact (handle_worked _ _ _ _ _ svc).busy
        · exact (findService_entry found).1

theorem apiDataIndication_control (r : Request) (i : Reception) (control : Control cfg s.toCore) :
    Control cfg (apiDataIndication cfg r i s).toCore := by
  unfold apiDataIndication
  split
  · exact sendNegativeResponse_control _ _ _ _
  · dsimp only
    split
    · exact sendNegativeResponse_control _ _ _ _
    · split
      · exact control
      · exact process_control r _ i _

theorem Control.of_flags {d : Core} (control : Control cfg c) (busy : d.isBusy = c.isBusy)
    (index : d.rcrrpSidIndex = c.rcrrpSidIndex)
    (idle : d.isBusy = false →
      d.suppressPosResp = false ∧ d.respLen = 0 ∧ d.rcrrpTxConfirm = false) : Control cfg d := by
  have entry : pendingEntry cfg d = pendingEntry cfg c := by rw [pendingEntry, index, pendingEntry]
  refine ⟨?_, ?_, idle⟩
  · rw [busy, entry]
    exact control.busy
  · rw [entry]
    exact control.pending

theorem confirm_control (control : Control cfg s.toCore) : Control cfg (confirm cfg s).toCore := by
  rw [confirm, txConfirmation_toCore]
  refine control.of_flags ?_ ?_ ?_
  · rfl
  · rfl
  intro idle
  obtain ⟨suppress, length, unconfirmed⟩ := control.idle idle
  refine ⟨suppress, length, ?_⟩
  have nothing : ¬ s.rcrrpSidIndex < (serviceCfg cfg).length := by
    intro inside
    have busy : s.isBusy = true := control.busy.mpr ⟨_, List.getElem?_eq_getElem inside⟩
    have idle' : s.isBusy = false := idle
    rw [busy] at idle'
    cases idle'
  simpa [Core.emit, nothing] using unconfirmed

theorem responsePendingTask_control {m : Cycle} {code : UInt8} {svc : Service}
    (control : Control cfg s.toCore) (busy : s.isBusy = true)
    (entry : pendingEntry cfg s.toCore = some svc) :
    Control cfg (responsePendingTask cfg m code svc s).toCore := by
  have pending := control.pending svc entry
  simp only [responsePendingTask]
  split
  · exact sendPositiveResponse_control _ _ _
  · split
    · split
      · exact sendPendingResponse_control busy entry pending
      · exact control.of_flags rfl rfl control.idle
    · exact sendNegativeResponse_control _ _ _ _

theorem timedOut_same (svc : Service) (code : UInt8) (c : Core) :
    ∃ log, (timedOut svc code c).1 = { c with log := log } := by
  cases svc <;> exact ⟨_, rfl⟩

theorem timedOut_control (svc : Service) (code : UInt8) (control : Control cfg c) :
    Control cfg (timedOut svc code c).1 := by
  obtain ⟨log, same⟩ := timedOut_same svc code c
  rw [same]
  exact control.of_flags rfl rfl control.idle

theorem timedOut_entry (svc : Service) (code : UInt8) (c : Core) :
    pendingEntry cfg (timedOut svc code c).1 = pendingEntry cfg c := by
  obtain ⟨log, same⟩ := timedOut_same svc code c
  rw [same]
  rfl

theorem timedOut_busy (svc : Service) (code : UInt8) (c : Core) :
    (timedOut svc code c).1.isBusy = c.isBusy := by
  obtain ⟨log, same⟩ := timedOut_same svc code c
  rw [same]

theorem responsePendingSubtask_control (m : Cycle) (control : Control cfg s.toCore) :
    Control cfg (responsePendingSubtask cfg m s).toCore := by
  unfold responsePendingSubtask
  split
  · exact control
  · rename_i svc entry
    have busy : s.isBusy = true := control.busy.mpr ⟨svc, entry⟩
    rw [if_pos (control.pending svc entry)]
    dsimp only
    split
    · apply responsePendingTask_control
      · split
        · exact timedOut_control svc _ (control.of_flags rfl rfl control.idle)
        · exact control.of_flags rfl rfl control.idle
      · split
        · exact (timedOut_busy svc _ _).trans busy
        · exact busy
      · split
        · exact (timedOut_entry svc _ _).trans entry
        · exact entry
    · split
      · exact setIdle_control cfg _
      · exact control.of_flags rfl rfl control.idle

theorem s3TimerSubtask_control (m : Cycle) (control : Control cfg s.toCore) :
    Control cfg (s3TimerSubtask cfg m s).toCore := by
  simp only [s3TimerSubtask]
  split
  · split
    · exact setIdle_control cfg _
    · exact control
  · exact control

theorem step_control (op : Op) (control : Control cfg s.toCore) :
    Control cfg (step cfg s op).toCore := by
  cases op with
  | dataIndication r i => exact apiDataIndication_control r i control
  | cyclic m => exact s3TimerSubtask_control m (responsePendingSubtask_control m control)
  | txConfirmation => exact confirm_control control
  | rxStarted due =>
      simp only [step, apiRxStarted]
      split <;> exact control
  | rxAborted => exact control
  | reset => exact setIdle_control cfg _

/-- From the reset on the control block is in order between any calls. -/
theorem control_block_runs (cfg : Config) (start : State) (ops : List Op) :
    Control cfg (run (step cfg) (coreReset start) ops).toCore := by
  have preserved : ∀ s op, Control cfg s.toCore → Control cfg (step cfg s op).toCore :=
    fun _ op control => step_control op control
  exact run_invariant preserved ops (setIdle_control cfg start.toCore)

end AnchorNode.Uds
