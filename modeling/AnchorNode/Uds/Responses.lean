import AnchorNode.Uds.Interference

/-! From a request to its final response. Everything that happens to a request after its
reception is a call of the cyclic task or a confirmation. -/

namespace AnchorNode.Uds

open AnchorNode.Lib

variable {cfg : Config} {r : Request} {s t : State}

structure Response where
  head : UInt8
  data : List UInt8
  suppress : Bool
  deriving DecidableEq, Repr

def responses (events : List Event) : List Response :=
  events.filterMap fun e => match e with
    | .response head data suppress => some ⟨head, data, suppress⟩
    | _ => none

def confirmations (events : List Event) : Nat := events.countP (· = .confirmation)

def since (s t : State) : List Event := t.log.drop s.log.length

def pendingResponse (sid : UInt8) : Response := ⟨sidNr, [sid, responsePending], false⟩

/-- The final responses to a request: positive, or negative with any other code. -/
inductive Final (sid : UInt8) : Response → Prop
  | positive (data : List UInt8) (suppress : Bool) : Final sid ⟨sid + sidPr, data, suppress⟩
  | negative (code : UInt8) (other : code ≠ responsePending) :
      Final sid ⟨sidNr, [sid, code], false⟩

/-- The request asks for its positive response to be suppressed. -/
def Request.Suppresses (cfg : Config) (r : Request) : Prop :=
  r.bytes 1 &&& 0x80 = 0x80 ∧ ∃ svc ∈ serviceCfg cfg, svc.sid = r.bytes 0 ∧ svc.hasSubFn = true

/-- A pending response waits for its confirmation. -/
def Outstanding (s t : State) : Prop :=
  confirmations (since s t) < (responses (since s t)).length

/-- The calls that may follow the reception of a request: while the core is busy a confirmation
is that of a pending response that has none yet, which comes before the timer of the pending
response elapses; neither the session expires nor is the controller reset. -/
def Timely (cfg : Config) (s t : State) : Op → Prop
  | .cyclic m =>
    (t.rcrrpTimer.update m.rcrrpDue = .elapsed → ¬ Outstanding s t) ∧
      ¬ Expires cfg t (.cyclic m) ∧ .performReset ∉ since t (coreCyclic cfg m t)
  | .txConfirmation => t.isBusy = true → Outstanding s t
  | _ => False

/-- What a service answers before its response is confirmed inside `Uds_CoreCfgSendResponse` is
not that it is pending. -/
def Unhurried : Op → Prop
  | .dataIndication _ i => i.confirmed = true → i.answer.code ≠ responsePending
  | .cyclic m => m.confirmed = true → m.answer.code ≠ responsePending
  | _ => True

/-- The request waits for its final response. -/
structure Waiting (cfg : Config) (r : Request) (s t : State) (n : Nat) : Prop where
  busy : t.isBusy = true
  entry : ∃ svc, pendingEntry cfg t.toCore = some svc ∧ svc.sid = r.bytes 0 ∧ svc.hasPending = true
  suppress : t.suppressPosResp = false
  some_sent : 0 < n
  log : ∃ new, t.log = s.log ++ new ∧
    responses new = List.replicate n (pendingResponse (r.bytes 0)) ∧
    confirmations new + (if t.rcrrpTxConfirm then 0 else 1) = n

/-- The request has its final response. -/
structure Answered (cfg : Config) (r : Request) (s t : State) (n : Nat) : Prop where
  idle : t.isBusy = false
  entry : pendingEntry cfg t.toCore = none
  log : ∃ new final, t.log = s.log ++ new ∧
    responses new = List.replicate n (pendingResponse (r.bytes 0)) ++ [final] ∧
    Final (r.bytes 0) final ∧ (final.suppress = true → n = 0 ∧ r.Suppresses cfg)

section Logs
variable (events more : List Event)

theorem responses_append : responses (events ++ more) = responses events ++ responses more :=
  List.filterMap_append

theorem confirmations_append :
    confirmations (events ++ more) = confirmations events + confirmations more :=
  List.countP_append

@[simp] theorem responses_service {events : List Event}
    (service : ∀ e ∈ events, e.isService = true) : responses events = [] := by
  apply List.filterMap_eq_nil_iff.mpr
  intro e member
  have kind := service e member
  cases e <;> first | rfl | cases kind

end Logs

/-- The confirmation that comes before `Uds_CoreCfgSendResponse` has returned. -/
def confirmedEvents (confirmed : Bool) : List Event := if confirmed then [.confirmation] else []

@[simp] theorem confirmedEvents_responses (confirmed : Bool) :
    responses (confirmedEvents confirmed) = [] := by
  cases confirmed <;> rfl

theorem txConfirmation_log (s : State) : (txConfirmation cfg s).log = s.log := by
  rw [txConfirmation_toCore]

theorem sendResponse_log (confirmed : Bool) (head : UInt8) (data : List UInt8) (suppress : Bool)
    (s : State) : (sendResponse cfg confirmed head data suppress s).log =
      s.log ++ .response head data suppress :: confirmedEvents confirmed := by
  cases confirmed with
  | true =>
      simp only [sendResponse, if_pos, confirm]
      rw [txConfirmation_log]
      simp [State.onCore, Core.emit, confirmedEvents]
  | false => rfl

theorem sendNegativeResponse_log (confirmed : Bool) (sid code : UInt8) (s : State) :
    (sendNegativeResponse cfg confirmed sid code s).log =
      s.log ++ .response sidNr [sid, code] false :: confirmedEvents confirmed :=
  sendResponse_log confirmed sidNr [sid, code] false (s.onCore (fillNegativeResponse sid code))

structure Begun (r : Request) (s t : State) (n : Nat) : Prop where
  log : ∃ new, t.log = s.log ++ new ∧
    responses new = List.replicate n (pendingResponse (r.bytes 0)) ∧ confirmations new = n

theorem setIdle_entry (cfg : Config) (c : Core) : pendingEntry cfg (setIdle c) = none :=
  invalid_entry cfg

theorem Begun.answered {n : Nat} {u : State} {head : UInt8} {data : List UInt8}
    {suppress confirmed : Bool} (begun : Begun r s t n) (idle : u.isBusy = false)
    (entry : pendingEntry cfg u.toCore = none)
    (log : u.log = t.log ++ .response head data suppress :: confirmedEvents confirmed)
    (final : Final (r.bytes 0) ⟨head, data, suppress⟩)
    (suppressed : suppress = true → n = 0 ∧ r.Suppresses cfg) : Answered cfg r s u n := by
  obtain ⟨new, earlier, sent, _⟩ := begun.log
  refine ⟨idle, entry, new ++ .response head data suppress :: confirmedEvents confirmed,
    ⟨head, data, suppress⟩, ?_, ?_, final, suppressed⟩
  · rw [log, earlier, List.append_assoc]
  · have last : responses (.response head data suppress :: confirmedEvents confirmed) =
        [⟨head, data, suppress⟩] := by
      cases confirmed <;> rfl
    rw [responses_append, sent, last]

theorem Begun.negative {n : Nat} {confirmed : Bool} {code : UInt8} (begun : Begun r s t n)
    (other : code ≠ responsePending) :
    Answered cfg r s (sendNegativeResponse cfg confirmed (r.bytes 0) code t) n := by
  apply begun.answered rfl (setIdle_entry cfg _)
    (sendNegativeResponse_log confirmed (r.bytes 0) code t) (.negative code other)
  intro suppressed
  cases suppressed

theorem Begun.positive {n : Nat} {confirmed : Bool} (begun : Begun r s t n)
    (suppressed : t.suppressPosResp = true → n = 0 ∧ r.Suppresses cfg) :
    Answered cfg r s (sendPositiveResponse cfg confirmed (r.bytes 0) t) n := by
  have log : ∃ data, (sendPositiveResponse cfg confirmed (r.bytes 0) t).log = t.log ++
      .response (r.bytes 0 + sidPr) data t.suppressPosResp :: confirmedEvents confirmed := by
    simp only [sendPositiveResponse]
    split
    · exact ⟨_, (txConfirmation_log _).trans (sendResponse_log _ _ _ _ _)⟩
    · exact ⟨_, sendResponse_log _ _ _ _ _⟩
  obtain ⟨data, log⟩ := log
  exact begun.answered rfl (setIdle_entry cfg _) log (.positive data _) suppressed

theorem Begun.pending {n : Nat} {svc : Service} (begun : Begun r s t n) (busy : t.isBusy = true)
    (entry : pendingEntry cfg t.toCore = some svc) (sid : svc.sid = r.bytes 0)
    (pending : svc.hasPending = true) :
    Waiting cfg r s (sendPendingResponse cfg false (r.bytes 0) t) (n + 1) := by
  obtain ⟨new, earlier, sent, confirmed⟩ := begun.log
  refine ⟨busy, ⟨svc, entry, sid, pending⟩, rfl, Nat.succ_pos n,
    new ++ [.response sidNr [r.bytes 0, responsePending] false], ?_, ?_, ?_⟩
  · show t.log ++ _ = _
    rw [earlier, List.append_assoc]
  · rw [responses_append, sent, List.replicate_succ']
    rfl
  · rw [confirmations_append, confirmed]
    rfl

theorem handle_code (req : Mem) (len : Nat) (a : Answer) (c : Core) (address : Nat)
    (svc : Service) (code : (handle req len a c address svc).2 = responsePending) :
    a.code = responsePending := by
  cases svc with
  | rdtci | sa | wdbi | rc | td | rte => exact code
  | dsc =>
      simp only [handle, coreDsc] at code
      split at code
      · cases code
      · exact code
  | er =>
      simp only [handle, coreEr] at code
      split at code
      · cases code
      · exact code
  | cdtci =>
      simp only [handle, coreCdtci] at code
      split at code
      · cases code
      · exact code
  | rdbi =>
      simp only [handle, coreRdbi] at code
      split at code
      · cases code
      · exact code
  | rd =>
      simp only [handle, coreRd] at code
      split at code
      · cases code
      · exact code
  | tp =>
      simp only [handle, coreTp] at code
      split at code
      · cases code
      · split at code <;> cases code

theorem confirmations_service {events : List Event}
    (service : ∀ e ∈ events, e.isService = true) : confirmations events = 0 := by
  apply List.countP_eq_zero.mpr
  intro e member same
  have kind := service e member
  rw [of_decide_eq_true same] at kind
  cases kind

theorem udsResponse_outcome {confirmed : Bool} {code : UInt8} {svc : Service} {index : Nat}
    {u : State} {c : Core} (log : c.log = s.log) (quiet : c.suppressPosResp = false)
    (worked : Worked (svc.hasSubFn = true ∧ r.bytes 1 &&& 0x80 = 0x80) c u.toCore)
    (busy : c.isBusy = true) (entry : (serviceCfg cfg)[index]? = some svc)
    (sid : svc.sid = r.bytes 0) (unhurried : code = responsePending → confirmed = false) :
    Waiting cfg r s (udsResponse cfg confirmed code svc index u) 1 ∨
      Answered cfg r s (udsResponse cfg confirmed code svc index u) 0 := by
  obtain ⟨events, appended, service⟩ := worked.events
  have begun : Begun r s u 0 :=
    ⟨events, by rw [appended, log], responses_service service, confirmations_service service⟩
  have busy' : u.isBusy = true := worked.busy.trans busy
  unfold udsResponse
  rw [sid]
  split
  · apply Or.inr (begun.positive ?_)
    intro suppressed
    rcases worked.suppress suppressed with before | ⟨sub, bit⟩
    · rw [quiet] at before
      cases before
    · exact ⟨rfl, bit, svc, List.mem_of_getElem? entry, sid, sub⟩
  · split
    · rename_i answered
      rw [unhurried answered]
      dsimp only
      split
      · rename_i pending
        have flagged : Begun r s ((u.onCore fun c => { c with
            rcrrpPendingTimer := .running rcrrpLimit }).onCore
              fun c => { c with rcrrpSidIndex := index }) 0 := ⟨begun.log⟩
        exact Or.inl (flagged.pending busy' entry sid pending)
      · have started : Begun r s (u.onCore fun c => { c with
            rcrrpPendingTimer := .running rcrrpLimit }) 0 := ⟨begun.log⟩
        exact Or.inr (started.negative (by decide))
    · rename_i other
      exact Or.inr (begun.negative other)

/-- The reception of a request on the idle core sends its final response, or the first pending
one. -/
theorem process_outcome {i : Reception} {u : State} (address : Nat)
    (quiet : u.suppressPosResp = false)
    (log : u.log = s.log) (unhurried : Unhurried (.dataIndication r i)) :
    Waiting cfg r s (process cfg r address i u) 1 ∨
      Answered cfg r s (process cfg r address i u) 0 := by
  have none : Begun r s (u.onCore fun c => { c with
      req := address, reqLen := r.length, respLen := 0 }) 0 :=
    ⟨[], by simp [State.onCore, log], rfl, rfl⟩
  simp only [process]
  split
  · exact Or.inr (none.negative (by decide))
  · rename_i index svc found
    obtain ⟨entry, sid⟩ := findService_entry found
    split
    · exact Or.inr (none.negative (by decide))
    · split
      · exact Or.inr (none.negative (by decide))
      · have worked := handle_worked (fun k => r.bytes (k + 1)) (r.length - 1) i.answer
          { u.toCore with isBusy := true, req := address, reqLen := r.length, respLen := 0 }
          (address + 1) svc
        have code := handle_code (fun k => r.bytes (k + 1)) (r.length - 1) i.answer
          { u.toCore with isBusy := true, req := address, reqLen := r.length, respLen := 0 }
          (address + 1) svc
        apply udsResponse_outcome (c := { u.toCore with
          isBusy := true, req := address, reqLen := r.length, respLen := 0 })
        · exact log
        · exact quiet
        · exact worked
        · rfl
        · exact entry
        · exact sid
        · intro answered
          rw [← Bool.not_eq_true]
          intro confirmed
          exact unhurried confirmed (code answered)

theorem since_eq {new : List Event} (log : t.log = s.log ++ new) : since s t = new := by
  rw [since, log, List.drop_left]

theorem Waiting.outstanding_iff {n : Nat} (waiting : Waiting cfg r s t n) :
    Outstanding s t ↔ t.rcrrpTxConfirm = false := by
  obtain ⟨new, log, sent, count⟩ := waiting.log
  rw [Outstanding, since_eq log, sent, List.length_replicate]
  cases flag : t.rcrrpTxConfirm with
  | false =>
      have missing : confirmations new + 1 = n := by simpa [flag] using count
      simp only [iff_true]
      omega
  | true =>
      have all : confirmations new = n := by simpa [flag] using count
      simp only [Bool.true_eq_false, iff_false]
      omega

theorem Waiting.begun {n : Nat} {u : State} {events : List Event} (waiting : Waiting cfg r s t n)
    (flag : t.rcrrpTxConfirm = true) (log : u.log = t.log ++ events)
    (silent : responses events = [] ∧ confirmations events = 0) : Begun r s u n := by
  obtain ⟨new, earlier, sent, count⟩ := waiting.log
  rw [flag] at count
  refine ⟨new ++ events, ?_, ?_, ?_⟩
  · rw [log, earlier, List.append_assoc]
  · rw [responses_append, sent, silent.1, List.append_nil]
  · rw [confirmations_append, silent.2]
    exact count

theorem responsePendingTask_outcome {n : Nat} {m : Cycle} {code : UInt8} {svc : Service}
    (begun : Begun r s t n) (busy : t.isBusy = true) (quiet : t.suppressPosResp = false)
    (flag : t.rcrrpTxConfirm = true) (some_sent : 0 < n)
    (entry : pendingEntry cfg t.toCore = some svc) (sid : svc.sid = r.bytes 0)
    (pending : svc.hasPending = true) (unhurried : code = responsePending → m.confirmed = false) :
    Answered cfg r s (responsePendingTask cfg m code svc t) n ∨
      code = responsePending ∧ ∃ k, Waiting cfg r s (responsePendingTask cfg m code svc t) k := by
  simp only [responsePendingTask]
  rw [sid]
  split
  · apply Or.inl
    have added : Begun r s ((t.onCore fun c => { c with
        rcrrpTimer := c.rcrrpTimer.update m.repeatDue }).onCore
          fun c => c.answerLength (c.respLen + m.answer.respLen)) n := ⟨begun.log⟩
    apply added.positive
    intro suppressed
    have unset : t.suppressPosResp = true := suppressed
    rw [quiet] at unset
    cases unset
  · split
    · rename_i again
      refine Or.inr ⟨again, ?_⟩
      split
      · have started : Begun r s (coreStartS3 (t.onCore fun c => { c with
            rcrrpTimer := c.rcrrpTimer.update m.repeatDue })) n := ⟨begun.log⟩
        rw [unhurried again]
        exact ⟨n + 1, started.pending busy entry sid pending⟩
      · obtain ⟨new, log, sent, count⟩ := begun.log
        have flagged : (t.onCore fun c => { c with
            rcrrpTimer := c.rcrrpTimer.update m.repeatDue }).rcrrpTxConfirm = true := flag
        exact ⟨n, busy, ⟨svc, entry, sid, pending⟩, quiet, some_sent, new, log, sent,
          by rw [flagged]; exact count⟩
    · rename_i other
      have read : Begun r s (t.onCore fun c => { c with
          rcrrpTimer := c.rcrrpTimer.update m.repeatDue }) n := ⟨begun.log⟩
      exact Or.inl (read.negative other)

theorem timedOut_code (svc : Service) (code : UInt8) (c : Core)
    (pending : (timedOut svc code c).2 = responsePending) : code = responsePending := by
  cases svc <;> first | exact pending | cases pending

theorem timedOut_events (svc : Service) (code : UInt8) (c : Core) :
    ∃ events, (timedOut svc code c).1 = { c with log := c.log ++ events } ∧
      responses events = [] ∧ confirmations events = 0 := by
  cases svc with
  | sa | dsc | er => exact ⟨[.performReset], rfl, rfl, rfl⟩
  | rc | rdbi | wdbi => exact ⟨[.clearStateInfo _], rfl, rfl, rfl⟩
  | cdtci | rdtci | rd | td | rte | tp => exact ⟨[], by simp [timedOut], rfl, rfl⟩

/-- A pending service has been called; `late` is what comes of it after its time limit has been
looked at. -/
theorem servedTask_outcome {n : Nat} {m : Cycle} {svc : Service} {u : State} {late : Core × UInt8}
    (waiting : Waiting cfg r s t n) (flag : t.rcrrpTxConfirm = true)
    (entry : pendingEntry cfg t.toCore = some svc) (unhurried : Unhurried (.cyclic m))
    (flags : u.isBusy = t.isBusy ∧ u.suppressPosResp = t.suppressPosResp ∧
      u.rcrrpTxConfirm = t.rcrrpTxConfirm ∧ u.rcrrpSidIndex = t.rcrrpSidIndex)
    (log : ∃ events, u.log = t.log ++ events ∧ responses events = [] ∧ confirmations events = 0)
    (same : ∃ events, late.1 = { u.toCore with log := u.log ++ events } ∧ responses events = [] ∧
      confirmations events = 0)
    (code : late.2 = responsePending → m.answer.code = responsePending) :
    Answered cfg r s (responsePendingTask cfg m late.2 svc { u with toCore := late.1 }) n ∨
      (Outstanding s t ∨ m.answer.code = responsePending) ∧
        ∃ k, Waiting cfg r s
          (responsePendingTask cfg m late.2 svc { u with toCore := late.1 }) k := by
  obtain ⟨svc', entry', sid, pending⟩ := waiting.entry
  rw [entry] at entry'
  cases entry'
  obtain ⟨early, before, silent, unconfirmed⟩ := log
  obtain ⟨events, changed, silent', unconfirmed'⟩ := same
  have appended : ({ u with toCore := late.1 } : State).log = t.log ++ (early ++ events) := by
    show late.1.log = _
    rw [changed, before, List.append_assoc]
  have begun : Begun r s { u with toCore := late.1 } n := by
    apply waiting.begun flag appended
    rw [responses_append, confirmations_append, silent, silent', unconfirmed, unconfirmed']
    exact ⟨rfl, rfl⟩
  have busy : late.1.isBusy = true := by
    rw [changed]
    exact flags.1.trans waiting.busy
  have quiet : late.1.suppressPosResp = false := by
    rw [changed]
    exact flags.2.1.trans waiting.suppress
  have set : late.1.rcrrpTxConfirm = true := by
    rw [changed]
    exact flags.2.2.1.trans flag
  have found : pendingEntry cfg late.1 = some svc := by
    rw [changed, pendingEntry, flags.2.2.2]
    exact entry
  have hurried : late.2 = responsePending → m.confirmed = false := by
    intro again
    rw [← Bool.not_eq_true]
    intro confirmed
    exact unhurried confirmed (code again)
  have outcome := responsePendingTask_outcome begun busy quiet set waiting.some_sent found sid
    pending hurried
  rcases outcome with answered | ⟨again, waits⟩
  · exact Or.inl answered
  · exact Or.inr ⟨Or.inr (code again), waits⟩

theorem responsePendingSubtask_outcome {n : Nat} {m : Cycle} (waiting : Waiting cfg r s t n)
    (prompt : t.rcrrpTimer.update m.rcrrpDue = .elapsed → ¬ Outstanding s t)
    (unhurried : Unhurried (.cyclic m)) :
    Answered cfg r s (responsePendingSubtask cfg m t) n ∨
      (Outstanding s t ∨ m.answer.code = responsePending) ∧
        ∃ k, Waiting cfg r s (responsePendingSubtask cfg m t) k := by
  obtain ⟨svc, entry, sid, pending⟩ := waiting.entry
  have found : (serviceCfg cfg)[t.rcrrpSidIndex]? = some svc := entry
  simp only [responsePendingSubtask]
  rw [found]
  simp only [pending, if_true]
  cases flag : t.rcrrpTxConfirm with
  | true =>
      have flagged : (t.onCore fun c => { c with
          rcrrpTimer := c.rcrrpTimer.update m.rcrrpDue
          rcrrpPendingTimer := c.rcrrpPendingTimer.update m.limitDue }).rcrrpTxConfirm = true :=
        flag
      rw [if_pos flagged]
      apply servedTask_outcome waiting flag entry unhurried
      · exact ⟨rfl, rfl, rfl, rfl⟩
      · exact ⟨[_], rfl, rfl, rfl⟩
      · split
        · exact timedOut_events svc _ _
        · exact ⟨[], by simp, rfl, rfl⟩
      · split
        · exact timedOut_code svc _ _
        · exact id
  | false =>
      have outstanding := waiting.outstanding_iff.mpr flag
      have flagged : ¬ (t.onCore fun c => { c with
          rcrrpTimer := c.rcrrpTimer.update m.rcrrpDue
          rcrrpPendingTimer := c.rcrrpPendingTimer.update m.limitDue }).rcrrpTxConfirm = true := by
        intro set
        have set' : t.rcrrpTxConfirm = true := set
        rw [flag] at set'
        cases set'
      rw [if_neg flagged]
      refine Or.inr ⟨Or.inl outstanding, n, ?_⟩
      split
      · rename_i elapsed
        exact absurd outstanding (prompt elapsed)
      · exact ⟨waiting.busy, ⟨svc, entry, sid, pending⟩, waiting.suppress, waiting.some_sent,
          waiting.log⟩

theorem coreCyclic_toCore {m : Cycle} (alive : ¬ Expires cfg t (.cyclic m)) :
    (coreCyclic cfg m t).toCore = (responsePendingSubtask cfg m t).toCore :=
  s3TimerSubtask_toCore m alive

theorem Waiting.of_toCore {n : Nat} {u : State} (waiting : Waiting cfg r s t n)
    (same : u.toCore = t.toCore) : Waiting cfg r s u n := by
  constructor
  · rw [same]
    exact waiting.busy
  · rw [same]
    exact waiting.entry
  · rw [same]
    exact waiting.suppress
  · exact waiting.some_sent
  · rw [same]
    exact waiting.log

theorem Answered.of_toCore {n : Nat} {u : State} (answered : Answered cfg r s t n)
    (same : u.toCore = t.toCore) : Answered cfg r s u n := by
  constructor
  · rw [same]
    exact answered.idle
  · rw [same]
    exact answered.entry
  · rw [same]
    exact answered.log

theorem cyclic_outcome {n : Nat} {m : Cycle} (waiting : Waiting cfg r s t n)
    (timely : Timely cfg s t (.cyclic m)) (unhurried : Unhurried (.cyclic m)) :
    Answered cfg r s (coreCyclic cfg m t) n ∨
      (Outstanding s t ∨ m.answer.code = responsePending) ∧
        ∃ k, Waiting cfg r s (coreCyclic cfg m t) k := by
  have same : (coreCyclic cfg m t).toCore = (responsePendingSubtask cfg m t).toCore :=
    coreCyclic_toCore timely.2.1
  rcases responsePendingSubtask_outcome waiting timely.1 unhurried with answered | ⟨why, k, waits⟩
  · exact Or.inl (answered.of_toCore same)
  · exact Or.inr ⟨why, k, waits.of_toCore same⟩

theorem confirm_log (s : State) : (confirm cfg s).log = s.log ++ [.confirmation] :=
  txConfirmation_log (s.onCore (·.emit .confirmation))

theorem confirm_waiting {n : Nat} (waiting : Waiting cfg r s t n) (outstanding : Outstanding s t) :
    Waiting cfg r s (confirm cfg t) n := by
  have flag := waiting.outstanding_iff.mp outstanding
  obtain ⟨svc, entry, sid, pending⟩ := waiting.entry
  obtain ⟨new, log, sent, count⟩ := waiting.log
  have inside : t.rcrrpSidIndex < (serviceCfg cfg).length := (List.getElem?_eq_some_iff.mp entry).1
  have core := txConfirmation_toCore cfg (t.onCore (·.emit .confirmation))
  have set : (confirm cfg t).rcrrpTxConfirm = true := by
    rw [confirm, core]
    simp [State.onCore, Core.emit, inside]
  refine ⟨?_, ⟨svc, ?_, sid, pending⟩, ?_, waiting.some_sent, new ++ [.confirmation], ?_, ?_, ?_⟩
  · rw [confirm, core]
    exact waiting.busy
  · rw [confirm, core]
    exact entry
  · rw [confirm, core]
    exact waiting.suppress
  · rw [confirm_log, log, List.append_assoc]
  · rw [responses_append, sent]
    exact List.append_nil _
  · rw [flag] at count
    rw [confirmations_append, set]
    exact count

theorem confirm_answered {n : Nat} (answered : Answered cfg r s t n) :
    Answered cfg r s (confirm cfg t) n := by
  obtain ⟨new, final, log, sent, rest⟩ := answered.log
  have core := txConfirmation_toCore cfg (t.onCore (·.emit .confirmation))
  refine ⟨?_, ?_, new ++ [.confirmation], final, ?_, ?_, rest⟩
  · rw [confirm, core]
    exact answered.idle
  · rw [confirm, core]
    exact answered.entry
  · rw [confirm_log, log, List.append_assoc]
  · rw [responses_append, sent]
    exact List.append_nil _

theorem cyclic_answered {n : Nat} {m : Cycle} (answered : Answered cfg r s t n)
    (timely : Timely cfg s t (.cyclic m)) : Answered cfg r s (coreCyclic cfg m t) n := by
  have found : (serviceCfg cfg)[t.rcrrpSidIndex]? = none := answered.entry
  have idle : responsePendingSubtask cfg m t = t := by
    simp only [responsePendingSubtask, found]
  apply answered.of_toCore
  rw [coreCyclic_toCore timely.2.1, idle]

def Attended (cfg : Config) (r : Request) (s t : State) : Prop :=
  ∃ n, Waiting cfg r s t n ∨ Answered cfg r s t n

theorem step_attended {op : Op} (attended : Attended cfg r s t) (timely : Timely cfg s t op)
    (unhurried : Unhurried op) : Attended cfg r s (step cfg t op) := by
  obtain ⟨n, waiting | answered⟩ := attended
  · cases op with
    | cyclic m =>
        rcases cyclic_outcome waiting timely unhurried with answered | ⟨_, k, waits⟩
        · exact ⟨n, Or.inr answered⟩
        · exact ⟨k, Or.inl waits⟩
    | txConfirmation => exact ⟨n, Or.inl (confirm_waiting waiting (timely waiting.busy))⟩
    | dataIndication r i => exact timely.elim
    | rxStarted due => exact timely.elim
    | rxAborted => exact timely.elim
    | reset => exact timely.elim
  · cases op with
    | cyclic m => exact ⟨n, Or.inr (cyclic_answered answered timely)⟩
    | txConfirmation => exact ⟨n, Or.inr (confirm_answered answered)⟩
    | dataIndication r i => exact timely.elim
    | rxStarted due => exact timely.elim
    | rxAborted => exact timely.elim
    | reset => exact timely.elim

/-- Every request given to the idle core is attended to until it is answered: it waits, having
been answered by pending responses only, or has one final response behind them and has left
the core idle; and the call of the cyclic task in which its service is done, with every
pending response confirmed, answers it. -/
theorem request_answered_once (cfg : Config) (start : State) (before : List Op) (r : Request)
    (i : Reception) (ops : List Op)
    (idle : (run (step cfg) (coreReset start) before).isBusy = false)
    (given : r.address ≠ none) (some_byte : 1 ≤ r.length)
    (unhurried : Unhurried (.dataIndication r i))
    (timely : Guarded (step cfg)
      (fun t op => Timely cfg (run (step cfg) (coreReset start) before) t op ∧ Unhurried op)
      (apiDataIndication cfg r i (run (step cfg) (coreReset start) before)) ops) :
    Attended cfg r (run (step cfg) (coreReset start) before)
        (run (step cfg) (coreReset start) (before ++ .dataIndication r i :: ops)) ∧
      ∀ m : Cycle,
        (run (step cfg) (coreReset start) (before ++ .dataIndication r i :: ops)).isBusy = true →
        ¬ Outstanding (run (step cfg) (coreReset start) before)
          (run (step cfg) (coreReset start) (before ++ .dataIndication r i :: ops)) →
        Timely cfg (run (step cfg) (coreReset start) before)
          (run (step cfg) (coreReset start) (before ++ .dataIndication r i :: ops)) (.cyclic m) →
        Unhurried (.cyclic m) → m.answer.code ≠ responsePending →
        ∃ n, Answered cfg r (run (step cfg) (coreReset start) before)
          (coreCyclic cfg m
            (run (step cfg) (coreReset start) (before ++ .dataIndication r i :: ops))) n := by
  have control := control_block_runs cfg start before
  have split : run (step cfg) (coreReset start) (before ++ .dataIndication r i :: ops) =
      run (step cfg) (apiDataIndication cfg r i (run (step cfg) (coreReset start) before)) ops := by
    rw [run_append, run_cons]
    rfl
  rw [split]
  generalize run (step cfg) (coreReset start) before = s at *
  obtain ⟨address, at_address⟩ := Option.ne_none_iff_exists'.mp given
  have received : apiDataIndication cfg r i s = process cfg r address i (coreStartS3 s) := by
    have free : (coreStartS3 s).isBusy = false := idle
    simp only [apiDataIndication, at_address, free, Bool.and_false,
      if_neg (Nat.not_lt_of_le some_byte)]
    rfl
  have first : Attended cfg r s (apiDataIndication cfg r i s) := by
    rw [received]
    have outcome : Waiting cfg r s (process cfg r address i (coreStartS3 s)) 1 ∨
        Answered cfg r s (process cfg r address i (coreStartS3 s)) 0 :=
      process_outcome address (control.idle idle).1 rfl unhurried
    rcases outcome with waits | done
    · exact ⟨1, Or.inl waits⟩
    · exact ⟨0, Or.inr done⟩
  have preserved : ∀ t op, Attended cfg r s t → Timely cfg s t op ∧ Unhurried op →
      Attended cfg r s (step cfg t op) := fun _ _ attended ok => step_attended attended ok.1 ok.2
  have attended := guarded_invariant preserved first timely
  refine ⟨attended, ?_⟩
  intro m busy confirmed now unhurried' done
  obtain ⟨n, waiting | answered⟩ := attended
  · rcases cyclic_outcome waiting now unhurried' with final | ⟨outstanding | pending, _⟩
    · exact ⟨n, final⟩
    · exact absurd outstanding confirmed
    · exact absurd pending done
  · rw [answered.idle] at busy
    cases busy

def cycle (code : UInt8) (rcrrpDue : Bool) : Cycle where
  session := 1
  answer := ⟨code, 0, []⟩
  confirmed := false
  rcrrpDue := rcrrpDue
  limitDue := false
  repeatDue := false
  s3Due := false

theorem request_answered_session :
    Attended sampleConfig sessionRequest (coreReset powerUp)
      (run (step sampleConfig) (coreReset powerUp)
        [.dataIndication sessionRequest (reception responsePending false), .txConfirmation,
          .cyclic (cycle positiveResponse false)]) := by
  apply (request_answered_once sampleConfig powerUp [] sessionRequest
    (reception responsePending false) [.txConfirmation, .cyclic (cycle positiveResponse false)]
    rfl (by decide) (by decide) _ _).1
  · intro early
    cases early
  · refine ⟨⟨fun _ => ?_, trivial⟩, ⟨⟨?_, fun expires => expires.1 rfl, ?_⟩, ?_⟩, trivial⟩
    · show _ < _
      decide
    · intro elapsed
      cases elapsed
    · decide
    · intro early
      cases early

/-- The confirmation of the pending response comes before `Uds_CoreCfgSendResponse` has
returned, and is overwritten: the timer of the pending response runs out, and the request is
dropped without a final response. -/
theorem early_confirmation_drops_request :
    Timely sampleConfig (coreReset powerUp)
        (apiDataIndication sampleConfig sessionRequest (reception responsePending true)
          (coreReset powerUp)) (.cyclic (cycle positiveResponse true)) ∧
      responses (since (coreReset powerUp) (run (step sampleConfig) (coreReset powerUp)
        [.dataIndication sessionRequest (reception responsePending true),
          .cyclic (cycle positiveResponse true)])) = [pendingResponse 0x10] ∧
      (run (step sampleConfig) (coreReset powerUp)
        [.dataIndication sessionRequest (reception responsePending true),
          .cyclic (cycle positiveResponse true)]).isBusy = false := by
  refine ⟨⟨fun _ => ?_, fun expires => expires.1 rfl, ?_⟩, ?_, rfl⟩
  · show ¬ _ < _
    decide
  · decide
  · decide

end AnchorNode.Uds
