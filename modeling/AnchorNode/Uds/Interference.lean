import AnchorNode.Uds.Control

/-! Requests that come while a service is pending. The session timer is restarted by every
reception; that the rest of the control block does not depend on it is what keeps a pending
service out of reach of other requests. -/

namespace AnchorNode.Uds

open AnchorNode.Lib

variable {cfg : Config} {s t : State}

theorem onCore_same (f : Core → Core) (same : s.toCore = t.toCore) :
    (s.onCore f).toCore = (t.onCore f).toCore := by
  rw [onCore_toCore, onCore_toCore, same]

theorem txConfirmation_same (same : s.toCore = t.toCore) :
    (txConfirmation cfg s).toCore = (txConfirmation cfg t).toCore := by
  rw [txConfirmation_toCore, txConfirmation_toCore, same]

theorem sendResponse_same (confirmed : Bool) (head : UInt8) (data : List UInt8) (suppress : Bool)
    (same : s.toCore = t.toCore) :
    (sendResponse cfg confirmed head data suppress s).toCore =
      (sendResponse cfg confirmed head data suppress t).toCore := by
  have sent := onCore_same (fun c => c.emit (.response head data suppress)) same
  unfold sendResponse
  split
  · exact txConfirmation_same (onCore_same (fun c => c.emit .confirmation) sent)
  · exact sent

theorem sendNegativeResponse_same (confirmed : Bool) (sid code : UInt8)
    (same : s.toCore = t.toCore) :
    (sendNegativeResponse cfg confirmed sid code s).toCore =
      (sendNegativeResponse cfg confirmed sid code t).toCore := by
  have filled := onCore_same (fillNegativeResponse sid code) same
  exact onCore_same setIdle (sendResponse_same confirmed sidNr [sid, code] false filled)

theorem sendPendingResponse_same (confirmed : Bool) (sid : UInt8) (same : s.toCore = t.toCore) :
    (sendPendingResponse cfg confirmed sid s).toCore =
      (sendPendingResponse cfg confirmed sid t).toCore := by
  have filled := onCore_same (fillNegativeResponse sid responsePending) same
  exact onCore_same _ (sendResponse_same confirmed sidNr [sid, responsePending] false filled)

theorem sendPositiveResponse_same (confirmed : Bool) (sid : UInt8) (same : s.toCore = t.toCore) :
    (sendPositiveResponse cfg confirmed sid s).toCore =
      (sendPositiveResponse cfg confirmed sid t).toCore := by
  have filled := onCore_same
    (fun c => (c.store 0 [sid + sidPr]).answerLength (c.respLen + 1)) same
  simp only [sendPositiveResponse]
  generalize s.onCore _ = u at filled ⊢
  generalize t.onCore _ = v at filled ⊢
  have sent : (sendResponse cfg confirmed (u.resp 0) (u.resp.read 1 (u.respLen - 1))
      u.suppressPosResp u).toCore = (sendResponse cfg confirmed (v.resp 0)
      (v.resp.read 1 (v.respLen - 1)) v.suppressPosResp v).toCore := by
    rw [filled]
    exact sendResponse_same confirmed _ _ _ filled
  rw [sent]
  split
  · exact onCore_same setIdle (txConfirmation_same sent)
  · exact onCore_same setIdle sent

theorem udsResponse_same (confirmed : Bool) (code : UInt8) (svc : Service) (index : Nat)
    (same : s.toCore = t.toCore) :
    (udsResponse cfg confirmed code svc index s).toCore =
      (udsResponse cfg confirmed code svc index t).toCore := by
  unfold udsResponse
  split
  · exact sendPositiveResponse_same confirmed svc.sid same
  · split
    · dsimp only
      split
      · exact sendPendingResponse_same confirmed svc.sid (onCore_same _ (onCore_same _ same))
      · exact sendNegativeResponse_same confirmed svc.sid _ (onCore_same _ same)
    · exact sendNegativeResponse_same confirmed svc.sid code same

theorem process_same (r : Request) (address : Nat) (i : Reception) (same : s.toCore = t.toCore) :
    (process cfg r address i s).toCore = (process cfg r address i t).toCore := by
  have begun := onCore_same
    (fun c => { c with req := address, reqLen := r.length, respLen := 0 }) same
  simp only [process]
  split
  · exact sendNegativeResponse_same _ _ _ begun
  · split
    · exact sendNegativeResponse_same _ _ _ begun
    · split
      · exact sendNegativeResponse_same _ _ _ begun
      · rw [begun]
        exact udsResponse_same _ _ _ _ rfl

theorem apiDataIndication_same (r : Request) (i : Reception) (same : s.toCore = t.toCore) :
    (apiDataIndication cfg r i s).toCore = (apiDataIndication cfg r i t).toCore := by
  have started : (coreStartS3 s).toCore = (coreStartS3 t).toCore := same
  simp only [apiDataIndication]
  split
  · exact sendNegativeResponse_same _ _ _ (onCore_same _ started)
  · split
    · exact sendNegativeResponse_same _ _ _ (onCore_same _ started)
    · rw [started]
      split
      · exact started
      · exact process_same r _ i started

theorem responsePendingTask_same (m : Cycle) (code : UInt8) (svc : Service)
    (same : s.toCore = t.toCore) :
    (responsePendingTask cfg m code svc s).toCore =
      (responsePendingTask cfg m code svc t).toCore := by
  have read := onCore_same (fun c => { c with rcrrpTimer := c.rcrrpTimer.update m.repeatDue }) same
  simp only [responsePendingTask]
  split
  · exact sendPositiveResponse_same _ _ (onCore_same _ read)
  · split
    · rw [read]
      split
      · exact sendPendingResponse_same _ _ read
      · exact read
    · exact sendNegativeResponse_same _ _ _ read

theorem responsePendingSubtask_same (m : Cycle) (same : s.toCore = t.toCore) :
    (responsePendingSubtask cfg m s).toCore = (responsePendingSubtask cfg m t).toCore := by
  have read := onCore_same (fun c => { c with
    rcrrpTimer := c.rcrrpTimer.update m.rcrrpDue
    rcrrpPendingTimer := c.rcrrpPendingTimer.update m.limitDue }) same
  simp only [responsePendingSubtask]
  rw [same]
  split
  · exact same
  · rename_i svc _
    split
    · rw [read]
      split
      · have served := onCore_same (fun c => (c.emit (.pendingService svc c.req c.reqLen)).store
          (pendingOffset svc c) m.answer.written) read
        rw [served]
        exact responsePendingTask_same m _ svc rfl
      · split
        · exact onCore_same _ read
        · exact read
    · exact onCore_same _ same

/-- The cyclic task finds the session expired and resets the core. -/
def Expires (cfg : Config) (s : State) : Op → Prop
  | .cyclic m => m.session ≠ cfg.sessionMaskDs ∧
      (responsePendingSubtask cfg m s).s3Timer.update m.s3Due = .elapsed
  | _ => False

theorem s3TimerSubtask_toCore (m : Cycle)
    (alive : ¬ (m.session ≠ cfg.sessionMaskDs ∧ s.s3Timer.update m.s3Due = .elapsed)) :
    (s3TimerSubtask cfg m s).toCore = s.toCore := by
  simp only [s3TimerSubtask]
  split
  · rename_i elapsed
    rw [if_neg fun other => alive ⟨other, elapsed⟩]
  · rfl

/-- Unless the session expires in one of them, a call leads from two states that differ in the
session timer only to two such states. -/
theorem step_same {op : Op} (same : s.toCore = t.toCore) (first : ¬ Expires cfg s op)
    (second : ¬ Expires cfg t op) : (step cfg s op).toCore = (step cfg t op).toCore := by
  cases op with
  | dataIndication r i => exact apiDataIndication_same r i same
  | cyclic m =>
      simp only [step, coreCyclic]
      rw [s3TimerSubtask_toCore m first, s3TimerSubtask_toCore m second]
      exact responsePendingSubtask_same m same
  | txConfirmation => exact txConfirmation_same (onCore_same _ same)
  | rxStarted due =>
      simp only [step, apiRxStarted]
      split <;> split <;> exact same
  | rxAborted => exact same
  | reset => exact onCore_same setIdle same

theorem run_same {ops : List Op} (same : s.toCore = t.toCore)
    (first : Guarded (step cfg) (fun s op => ¬ Expires cfg s op) s ops)
    (second : Guarded (step cfg) (fun s op => ¬ Expires cfg s op) t ops) :
    (run (step cfg) s ops).toCore = (run (step cfg) t ops).toCore := by
  induction ops generalizing s t with
  | nil => exact same
  | cons op ops ih => exact ih (step_same same first.1 second.1) first.2 second.2

/-- A request that comes while a service is pending changes nothing but the session timer if
and only if it has at least one byte; the later calls then answer as if it had not come, as
long as the session does not expire in either run. -/
theorem busy_request_ignored_iff (cfg : Config) (addressing : cfg.functionAddressing = true)
    (start : State) (ops : List Op)
    (busy : (run (step cfg) (coreReset start) ops).isBusy = true) (r : Request) (i : Reception) :
    ((apiDataIndication cfg r i (run (step cfg) (coreReset start) ops)).toCore =
        (run (step cfg) (coreReset start) ops).toCore ↔ r.address ≠ none ∧ 1 ≤ r.length) ∧
    (r.address ≠ none ∧ 1 ≤ r.length → ∀ later : List Op,
      Guarded (step cfg) (fun s op => ¬ Expires cfg s op)
        (apiDataIndication cfg r i (run (step cfg) (coreReset start) ops)) later →
      Guarded (step cfg) (fun s op => ¬ Expires cfg s op)
        (run (step cfg) (coreReset start) ops) later →
      (run (step cfg) (coreReset start) (ops ++ .dataIndication r i :: later)).toCore =
        (run (step cfg) (coreReset start) (ops ++ later)).toCore) := by
  generalize reached : run (step cfg) (coreReset start) ops = s at busy ⊢
  have ignored : r.address ≠ none ∧ 1 ≤ r.length →
      (apiDataIndication cfg r i s).toCore = s.toCore := by
    rintro ⟨given, some_byte⟩
    obtain ⟨address, at_address⟩ := Option.ne_none_iff_exists'.mp given
    simp [apiDataIndication, at_address, Nat.not_lt_of_le some_byte, addressing, busy]
  refine ⟨⟨?_, ignored⟩, ?_⟩
  · intro same
    have still : (apiDataIndication cfg r i s).isBusy = true := by rw [same, busy]
    constructor
    · intro null
      simp only [apiDataIndication, null] at still
      cases still
    · by_contra none
      have short : r.length < 1 := Nat.lt_of_not_le none
      simp only [apiDataIndication, if_pos short] at still
      split at still <;> cases still
  · intro given later first second
    simp only [run_append, run_cons, reached]
    exact run_same (ignored given) first second

def sampleConfig : Config where
  product := .app
  functionAddressing := true
  sessionMaskDs := 1
  sessionMaskPrgs := 2
  sessionMaskExtds := 4
  sessionAny := 0xFF

def powerUp : State where
  isBusy := false
  suppressPosResp := false
  rcrrpTxConfirm := false
  rcrrpSidIndex := 0
  rcrrpTimer := .idle
  rcrrpPendingTimer := .idle
  req := 0
  reqLen := 0
  respLen := 0
  resp := fun _ => 0
  negResp := []
  log := []
  s3Timer := .idle
  cpuHeld := false

def sessionRequest : Request := ⟨some 1000, fun i => [0x10, 0x01].getD i 0, 2⟩

def reception (code : UInt8) (confirmed : Bool) : Reception := ⟨1, ⟨code, 0, []⟩, confirmed⟩

theorem busy_request_ignored_tester :
    ((apiDataIndication sampleConfig ⟨some 2000, fun i => [0x3E, 0x80].getD i 0, 2⟩
        (reception 0 false) (run (step sampleConfig) (coreReset powerUp)
          [.dataIndication sessionRequest (reception responsePending false)])).toCore =
      (run (step sampleConfig) (coreReset powerUp)
        [.dataIndication sessionRequest (reception responsePending false)]).toCore ↔
      (some 2000 : Option Nat) ≠ none ∧ 1 ≤ 2) :=
  (busy_request_ignored_iff sampleConfig rfl powerUp
    [.dataIndication sessionRequest (reception responsePending false)] rfl
    ⟨some 2000, fun i => [0x3E, 0x80].getD i 0, 2⟩ (reception 0 false)).1

/-- A request without a byte ends the pending service: it is answered with a negative response
of its own, and the core is idle. -/
theorem empty_request_ends_pending :
    (run (step sampleConfig) (coreReset powerUp)
        [.dataIndication sessionRequest (reception responsePending false)]).isBusy = true ∧
      (run (step sampleConfig) (coreReset powerUp)
        [.dataIndication sessionRequest (reception responsePending false),
          .dataIndication ⟨some 2000, fun _ => 0, 0⟩ (reception 0 false)]).log =
        [.service .dsc [1], .response 0x7F [0x10, 0x78] false, .reportError .value,
          .response 0x7F [0x00, 0x10] false] ∧
      (run (step sampleConfig) (coreReset powerUp)
        [.dataIndication sessionRequest (reception responsePending false),
          .dataIndication ⟨some 2000, fun _ => 0, 0⟩ (reception 0 false)]).isBusy = false := by
  refine ⟨rfl, ?_, rfl⟩
  decide

end AnchorNode.Uds
