import AnchorNode.Uds.Responses
import AnchorNode.Uds.Checked

/-! A service that answers at once and one that is pending first send the same response. The
handler puts its header and its data side by side; the pending function finds its place behind
the header from the length of the response. -/

namespace AnchorNode.Uds

open AnchorNode.Lib

variable {cfg : Config} {s t : State} {c : Core}

/-- The services that may answer that they are pending and have a pending function. -/
def Service.mayDelay : Service → Bool
  | .dsc | .rdbi | .wdbi | .rc | .sa | .cdtci | .td | .rte => true
  | .er | .rdtci | .rd | .tp => false

def Service.header (req : Mem) : Service → List UInt8
  | .dsc | .sa | .er | .rdtci | .tp => [req 0 &&& 0x7F]
  | .rdbi | .wdbi => [req 0, req 1]
  | .rc => [req 0 &&& 0x7F, req 1, req 2]
  | .cdtci | .rd | .td | .rte => []

theorem header_short (req : Mem) (svc : Service) : (svc.header req).length ≤ 3 := by
  cases svc <;> simp [Service.header]

/-- The response buffer holds a header and `n` bytes are said to follow it. -/
structure Prepared (header : List UInt8) (n : Nat) (c : Core) : Prop where
  front : c.resp.read 1 header.length = header
  respLen : c.respLen = u16 (header.length + n)

def Filled (header written : List UInt8) (c : Core) : Prop :=
  c.resp.read (1 + header.length) written.length = written

theorem settle_prepared (c : Core) (header : List UInt8) (n : Nat) :
    Prepared header n (settle c true header n) :=
  ⟨read_write_same c.resp 1 header, rfl⟩

theorem settle_filled (c : Core) (header written : List UInt8) (n : Nat) :
    Filled header written (settle (c.store (1 + header.length) written) true header n) := by
  calc ((c.resp.write (1 + header.length) written).write 1 header).read (1 + header.length)
        written.length
      = (c.resp.write (1 + header.length) written).read (1 + header.length) written.length :=
        read_write_after _ _ _ 1 header (Nat.le_refl _)
    _ = written := read_write_same c.resp (1 + header.length) written

def Service.fitting (len : Nat) : Service → Bool
  | .dsc | .er | .tp => len == 1
  | .rdbi => len == 2
  | .cdtci => len == 3
  | .rdtci | .sa | .wdbi | .rc | .rd | .td | .rte => true

theorem handle_fitting {req : Mem} {len : Nat} {a : Answer} {address : Nat} {svc : Service}
    (code : (handle req len a c address svc).2 = positiveResponse) : svc.fitting len = true := by
  cases svc with
  | dsc =>
      simp only [handle, coreDsc] at code
      split at code
      · cases code
      · rename_i right
        exact beq_iff_eq.mpr (not_not.mp right)
  | er =>
      simp only [handle, coreEr] at code
      split at code
      · cases code
      · rename_i right
        exact beq_iff_eq.mpr (not_not.mp right)
  | tp =>
      simp only [handle, coreTp] at code
      split at code
      · cases code
      · rename_i right
        exact beq_iff_eq.mpr (not_not.mp right)
  | rdbi =>
      simp only [handle, coreRdbi] at code
      split at code
      · cases code
      · rename_i right
        exact beq_iff_eq.mpr (not_not.mp right)
  | cdtci =>
      simp only [handle, coreCdtci] at code
      split at code
      · cases code
      · rename_i right
        exact beq_iff_eq.mpr (not_not.mp right)
  | rdtci | sa | wdbi | rc | rd | td | rte => rfl

theorem handle_prepared (req : Mem) {len : Nat} {a : Answer} (address : Nat) {svc : Service}
    (delays : svc.mayDelay = true) (accepted : a.accepted = true)
    (empty : a.code = responsePending → a.respLen = 0)
    (bare : svc = .cdtci → a.written = [] ∧ a.respLen = 0)
    (fitting : svc.fitting len = true) :
    (handle req len a c address svc).2 = a.code ∧
      Prepared (svc.header req) a.respLen (handle req len a c address svc).1 ∧
      Filled (svc.header req) a.written (handle req len a c address svc).1 := by
  cases svc with
  | dsc =>
      have right : ¬ len ≠ 1 := not_not.mpr (beq_iff_eq.mp fitting)
      simp only [handle, coreDsc, if_neg right]
      rw [accepted]
      exact ⟨trivial, settle_prepared _ _ _, settle_filled _ _ _ _⟩
  | rdbi =>
      have right : ¬ len ≠ 2 := not_not.mpr (beq_iff_eq.mp fitting)
      have length : (if a.code = responsePending then 0 else a.respLen) = a.respLen := by
        split
        · rename_i pending
          exact (empty pending).symm
        · rfl
      simp only [handle, coreRdbi, if_neg right, length]
      rw [accepted]
      exact ⟨trivial, settle_prepared _ _ _, settle_filled _ _ _ _⟩
  | wdbi =>
      simp only [handle, coreWdbi]
      rw [accepted]
      exact ⟨trivial, settle_prepared _ _ _, settle_filled _ _ _ _⟩
  | rc =>
      simp only [handle, coreRc]
      rw [accepted]
      exact ⟨trivial, settle_prepared _ _ _, settle_filled _ _ _ _⟩
  | sa =>
      simp only [handle, coreSa]
      rw [accepted]
      exact ⟨trivial, settle_prepared _ _ _, settle_filled _ _ _ _⟩
  | cdtci =>
      have right : ¬ len ≠ 3 := not_not.mpr (beq_iff_eq.mp fitting)
      obtain ⟨nothing, none⟩ := bare rfl
      simp only [handle, coreCdtci, if_neg right, nothing, none]
      exact ⟨trivial, ⟨rfl, rfl⟩, rfl⟩
  | td | rte =>
      refine ⟨rfl, ⟨rfl, ?_⟩, ?_⟩
      · simp only [handle, coreTd, coreRte]
        split
        · exact congrArg u16 (Nat.zero_add _).symm
        · rename_i later
          have pending : a.code = responsePending := by
            have other : (a.code == positiveResponse) = false := Bool.eq_false_iff.mpr later
            rw [Answer.accepted, other, Bool.false_or] at accepted
            exact eq_of_beq accepted
          rw [empty pending]
          rfl
      · simp only [handle, coreTd, coreRte]
        split <;> exact read_write_same c.resp 1 a.written
  | er | rdtci | rd | tp => cases delays

def positiveBytes (header d : List UInt8) : List UInt8 :=
  (header ++ d).take (u16 (u16 (header.length + d.length) + 1) - 1)

theorem read_take (m : Mem) (offset length n : Nat) (shorter : n ≤ length) :
    m.read offset n = (m.read offset length).take n := by
  obtain ⟨rest, rfl⟩ := Nat.exists_eq_add_of_le shorter
  rw [read_add, List.take_left' (read_length m offset n)]

theorem sendPositiveResponse_responses {header d : List UInt8} (confirmed : Bool) (sid : UInt8)
    (prepared : Prepared header d.length s.toCore) (filled : Filled header d s.toCore) :
    ∃ events, (sendPositiveResponse cfg confirmed sid s).log = s.log ++ events ∧
      responses events = [⟨sid + sidPr, positiveBytes header d, s.suppressPosResp⟩] := by
  have log : (sendPositiveResponse cfg confirmed sid s).log = s.log ++
      .response (sid + sidPr) ((s.resp.write 0 [sid + sidPr]).read 1 (u16 (s.respLen + 1) - 1))
        s.suppressPosResp :: confirmedEvents confirmed := by
    simp only [sendPositiveResponse]
    split
    · exact (txConfirmation_log _).trans (sendResponse_log _ _ _ _ _)
    · exact sendResponse_log _ _ _ _ _
  have whole : s.resp.read 1 (header.length + d.length) = header ++ d := by
    rw [read_add, prepared.front, filled]
  have within : u16 (u16 (header.length + d.length) + 1) - 1 ≤ header.length + d.length := by
    have outer := Nat.mod_le (u16 (header.length + d.length) + 1) 65536
    have inner := Nat.mod_le (header.length + d.length) 65536
    simp only [u16] at *
    omega
  have bytes : (s.resp.write 0 [sid + sidPr]).read 1 (u16 (s.respLen + 1) - 1) =
      positiveBytes header d := by
    calc (s.resp.write 0 [sid + sidPr]).read 1 (u16 (s.respLen + 1) - 1)
        = s.resp.read 1 (u16 (s.respLen + 1) - 1) :=
          read_write_after s.resp 1 _ 0 _ (Nat.le_refl 1)
      _ = (s.resp.read 1 (header.length + d.length)).take
            (u16 (u16 (header.length + d.length) + 1) - 1) := by
          rw [prepared.respLen]
          exact read_take s.resp 1 _ _ within
      _ = positiveBytes header d := by rw [whole, positiveBytes]
  rw [bytes] at log
  refine ⟨_, log, ?_⟩
  cases confirmed <;> rfl

/-- The calls while a service is pending: it is called again and still is, the pending responses
are confirmed, and what comes from the tester meanwhile is ignored. -/
def Round (cfg : Config) (t : State) : Op → Prop
  | .cyclic m => m.answer.code = responsePending
  | .txConfirmation | .rxStarted _ | .rxAborted => True
  | .dataIndication r _ =>
    cfg.functionAddressing = true ∧ t.isBusy = true ∧ r.address ≠ none ∧ 1 ≤ r.length
  | .reset => False

structure Remains (index : Nat) (header : List UInt8) (c : Core) : Prop where
  prepared : c.rcrrpSidIndex = index → Prepared header 0 c
  dropped : c.rcrrpSidIndex = index ∨ c.rcrrpSidIndex = invalidIndex

section Rounds
variable {index : Nat} {header : List UInt8} {svc : Service}

theorem setIdle_remains (inside : index < invalidIndex) (c : Core) :
    Remains index header (setIdle c) := by
  refine ⟨?_, Or.inr rfl⟩
  intro same
  exact absurd same.symm (Nat.ne_of_lt inside)

theorem Remains.of_same {d : Core} (remains : Remains index header c)
    (number : d.rcrrpSidIndex = c.rcrrpSidIndex) (length : d.respLen = c.respLen)
    (bytes : d.resp.read 1 header.length = c.resp.read 1 header.length) :
    Remains index header d := by
  constructor
  · intro same
    rw [number] at same
    have prepared := remains.prepared same
    exact ⟨bytes.trans prepared.front, length.trans prepared.respLen⟩
  · rw [number]
    exact remains.dropped

theorem confirm_remains (remains : Remains index header s.toCore) :
    Remains index header (confirm cfg s).toCore := by
  rw [confirm, txConfirmation_toCore]
  exact remains.of_same rfl rfl rfl

theorem sendPendingResponse_remains {confirmed : Bool} {sid : UInt8}
    (remains : Remains index header s.toCore) :
    Remains index header (sendPendingResponse cfg confirmed sid s).toCore := by
  cases confirmed with
  | true =>
      have confirmed : Remains index header (confirm cfg (s.onCore fun c =>
          (fillNegativeResponse sid responsePending c).emit
            (.response sidNr [sid, responsePending] false))).toCore :=
        confirm_remains (remains.of_same rfl rfl rfl)
      exact confirmed.of_same rfl rfl rfl
  | false => exact remains.of_same rfl rfl rfl

theorem pendingOffset_behind (prepared : Prepared header 0 c)
    (rdbi : svc = .rdbi → header.length = 2) (short : header.length ≤ 3) :
    pendingOffset svc c = 1 + header.length := by
  have length : c.respLen = header.length := by
    have small : header.length < 65536 := by omega
    rw [prepared.respLen, Nat.add_zero]
    exact Nat.mod_eq_of_lt small
  unfold pendingOffset
  split
  · rename_i did
    rw [rdbi did]
  · rw [length]

theorem store_remains (remains : Remains index header c) (written : List UInt8)
    (behind : Prepared header 0 c → pendingOffset svc c = 1 + header.length)
    (number : c.rcrrpSidIndex = index) :
    Remains index header (c.store (pendingOffset svc c) written) := by
  rw [behind (remains.prepared number)]
  exact remains.of_same rfl rfl (read_write_before _ _ _ _ _ (Nat.le_refl _))

theorem responsePendingTask_remains {m : Cycle} {code : UInt8} (inside : index < invalidIndex)
    (remains : Remains index header s.toCore) (done : code ≠ positiveResponse) :
    Remains index header (responsePendingTask cfg m code svc s).toCore := by
  simp only [responsePendingTask, if_neg done]
  split
  · split
    · exact sendPendingResponse_remains (remains.of_same rfl rfl rfl)
    · exact remains.of_same rfl rfl rfl
  · exact setIdle_remains inside _

theorem timedOut_undone (svc : Service) (c : Core) :
    (timedOut svc responsePending c).2 ≠ positiveResponse := by
  have pending : responsePending ≠ positiveResponse := by decide
  have rejected : generalReject ≠ positiveResponse := by decide
  cases svc <;> first | exact pending | exact rejected

theorem cyclic_remains {m : Cycle} (entry : (serviceCfg cfg)[index]? = some svc)
    (rdbi : svc = .rdbi → header.length = 2) (short : header.length ≤ 3)
    (remains : Remains index header s.toCore) (round : m.answer.code = responsePending) :
    Remains index header (coreCyclic cfg m s).toCore := by
  have inside : index < invalidIndex :=
    Nat.lt_trans (List.getElem?_eq_some_iff.mp entry).1 (serviceCfg_short cfg)
  have served : Remains index header (responsePendingSubtask cfg m s).toCore := by
    unfold responsePendingSubtask
    split
    · exact remains
    · rename_i svc' found
      have number : s.rcrrpSidIndex = index := by
        rcases remains.dropped with same | invalid
        · exact same
        · rw [invalid, invalid_entry] at found
          cases found
      have same : svc' = svc := by
        rw [number, entry] at found
        exact (Option.some.inj found).symm
      subst same
      split
      · dsimp only
        split
        · have read : Remains index header { s.toCore with
              rcrrpTimer := s.rcrrpTimer.update m.rcrrpDue
              rcrrpPendingTimer := s.rcrrpPendingTimer.update m.limitDue
              log := s.log ++ [.pendingService svc' s.req s.reqLen] } :=
            remains.of_same rfl rfl rfl
          have stored := store_remains read m.answer.written
            (fun prepared => pendingOffset_behind prepared rdbi short) number
          split
          · rename_i late
            obtain ⟨log, changed⟩ := timedOut_same svc' m.answer.code _
            apply responsePendingTask_remains inside
            · show Remains index header (timedOut svc' m.answer.code _).1
              rw [changed]
              exact stored.of_same rfl rfl rfl
            · rw [round]
              exact timedOut_undone svc' _
          · apply responsePendingTask_remains inside stored
            have pending : responsePending ≠ positiveResponse := by decide
            exact round.symm ▸ pending
        · split
          · exact setIdle_remains inside _
          · exact remains.of_same rfl rfl rfl
      · exact setIdle_remains inside _
  unfold coreCyclic s3TimerSubtask
  dsimp only
  split
  · split
    · exact setIdle_remains inside _
    · exact served
  · exact served

theorem round_remains {op : Op} (entry : (serviceCfg cfg)[index]? = some svc)
    (rdbi : svc = .rdbi → header.length = 2) (short : header.length ≤ 3)
    (remains : Remains index header s.toCore) (round : Round cfg s op) :
    Remains index header (step cfg s op).toCore := by
  cases op with
  | cyclic m => exact cyclic_remains entry rdbi short remains round
  | txConfirmation => exact confirm_remains remains
  | rxStarted due =>
      simp only [step, apiRxStarted]
      split <;> exact remains
  | rxAborted => exact remains
  | dataIndication r i =>
      obtain ⟨addressing, busy, given, some_byte⟩ := round
      obtain ⟨address, at_address⟩ := Option.ne_none_iff_exists'.mp given
      have ignored : (apiDataIndication cfg r i s).toCore = s.toCore := by
        simp [apiDataIndication, at_address, Nat.not_lt_of_le some_byte, addressing, busy]
      exact ignored.symm ▸ remains
  | reset => exact round.elim

theorem s3TimerSubtask_log (m : Cycle) (s : State) : ∃ events,
    (s3TimerSubtask cfg m s).log = s.log ++ events ∧ responses events = [] := by
  simp only [s3TimerSubtask]
  split
  · split
    · exact ⟨[.sessionExpired], rfl, rfl⟩
    · exact ⟨[], (List.append_nil _).symm, rfl⟩
  · exact ⟨[], (List.append_nil _).symm, rfl⟩

theorem store_filled {n place : Nat} (prepared : Prepared header n c) (written : List UInt8)
    (behind : place = 1 + header.length) :
    Prepared header n (c.store place written) ∧ Filled header written (c.store place written) := by
  subst behind
  have front : (c.resp.write (1 + header.length) written).read 1 header.length = header := by
    calc (c.resp.write (1 + header.length) written).read 1 header.length
        = c.resp.read 1 header.length := read_write_before _ _ _ _ _ (Nat.le_refl _)
      _ = header := prepared.front
  exact ⟨⟨front, prepared.respLen⟩, read_write_same _ _ _⟩

theorem responsePendingTask_done {m : Cycle} {d : List UInt8} {before : State}
    {quiet : List Event} (small : header.length < 65536) (prepared : Prepared header 0 s.toCore)
    (filled : Filled header d s.toCore) (length : m.answer.respLen = d.length)
    (log : s.log = before.log ++ quiet) (silent : responses quiet = []) :
    ∃ events, (responsePendingTask cfg m positiveResponse svc s).log = before.log ++ events ∧
      responses events = [⟨svc.sid + sidPr, positiveBytes header d, s.suppressPosResp⟩] := by
  have added : Prepared header d.length ((s.onCore fun c => { c with
      rcrrpTimer := c.rcrrpTimer.update m.repeatDue }).onCore
        fun c => c.answerLength (c.respLen + m.answer.respLen)).toCore := by
    have header_only : s.respLen = header.length :=
      prepared.respLen.trans (Nat.mod_eq_of_lt small)
    refine ⟨prepared.front, ?_⟩
    show u16 (s.respLen + m.answer.respLen) = u16 (header.length + d.length)
    rw [header_only, length]
  obtain ⟨events, after, sent⟩ :=
    sendPositiveResponse_responses m.confirmed svc.sid added filled
  refine ⟨quiet ++ events, ?_, ?_⟩
  · simp only [responsePendingTask, if_pos]
    rw [after, ← List.append_assoc, ← log]
    rfl
  · rw [responses_append, silent, sent]
    rfl

theorem cyclic_positive {m : Cycle} {d : List UInt8} (entry : (serviceCfg cfg)[index]? = some svc)
    (pending : svc.hasPending = true) (rdbi : svc = .rdbi → header.length = 2)
    (short : header.length ≤ 3) (number : s.rcrrpSidIndex = index)
    (prepared : Prepared header 0 s.toCore) (confirmed : s.rcrrpTxConfirm = true)
    (done : m.answer = ⟨positiveResponse, d.length, d⟩)
    (in_time : s.rcrrpPendingTimer.update m.limitDue ≠ .elapsed) :
    responses (since s (coreCyclic cfg m s)) =
      [⟨svc.sid + sidPr, positiveBytes header d, s.suppressPosResp⟩] := by
  have found : (serviceCfg cfg)[s.rcrrpSidIndex]? = some svc := by rw [number, entry]
  have small : header.length < 65536 := by omega
  have stored := store_filled (c := { s.toCore with
      rcrrpTimer := s.rcrrpTimer.update m.rcrrpDue
      rcrrpPendingTimer := s.rcrrpPendingTimer.update m.limitDue
      log := s.log ++ [.pendingService svc s.req s.reqLen] })
    ⟨prepared.front, prepared.respLen⟩ d (pendingOffset_behind prepared rdbi short)
  obtain ⟨late, after, silent⟩ := s3TimerSubtask_log m (responsePendingSubtask cfg m s)
  have served : ∃ events, (responsePendingSubtask cfg m s).log = s.log ++ events ∧
      responses events = [⟨svc.sid + sidPr, positiveBytes header d, s.suppressPosResp⟩] := by
    simp only [responsePendingSubtask, found, if_pos pending]
    split
    · split
      · rename_i elapsed
        exact absurd elapsed in_time
      · rw [done]
        apply responsePendingTask_done small stored.1 stored.2 (congrArg Answer.respLen done)
        · rfl
        · rfl
    · rename_i unconfirmed
      exact absurd confirmed unconfirmed
  obtain ⟨events, before, sent⟩ := served
  have log : (coreCyclic cfg m s).log = s.log ++ (events ++ late) := by
    rw [coreCyclic, after, before, List.append_assoc]
  rw [since_eq log, responses_append, sent, silent]
  rfl

end Rounds

theorem hasPending_of_mayDelay {svc : Service} (delays : svc.mayDelay = true) :
    svc.hasPending = true := by
  cases svc <;> first | rfl | cases delays

/-- The service answers the request at once, with its data. -/
def immediate (session : UInt8) (d : List UInt8) (confirmed : Bool) : Reception :=
  ⟨session, ⟨positiveResponse, d.length, d⟩, confirmed⟩

/-- The service answers that it is pending; what it may have written does not count. -/
def postponed (session : UInt8) (scratch : List UInt8) (confirmed : Bool) : Reception :=
  ⟨session, ⟨responsePending, 0, scratch⟩, confirmed⟩

section Answers
variable {r : Request} {session : UInt8} {address index : Nat} {svc : Service}

theorem immediate_responses {d : List UInt8} {early : Bool} (given : r.address = some address)
    (delays : svc.mayDelay = true) (bare : svc = .cdtci → d = [])
    (admitted : Admitted cfg r (immediate session d early) s index svc)
    (fitting : svc.fitting (r.length - 1) = true) :
    ∃ suppress, responses (since s (apiDataIndication cfg r (immediate session d early) s)) =
      [⟨svc.sid + sidPr, positiveBytes (svc.header fun k => r.bytes (k + 1)) d, suppress⟩] := by
  have clear : svc = .cdtci → d = [] ∧ d.length = 0 := by
    intro same
    rw [bare same]
    exact ⟨rfl, rfl⟩
  obtain ⟨code, prepared, filled⟩ := handle_prepared (fun k => r.bytes (k + 1)) (address + 1)
    (a := (immediate session d early).answer)
    (c := { (begun r address s).toCore with isBusy := true }) delays rfl
    (fun again => by cases again) clear fitting
  obtain ⟨worked, log, service⟩ := (handle_worked (fun k => r.bytes (k + 1)) (r.length - 1)
    (immediate session d early).answer { (begun r address s).toCore with isBusy := true }
    (address + 1) svc).events
  rw [admitted.answered given]
  generalize handle _ _ _ _ _ svc = handled at code prepared filled log ⊢
  obtain ⟨events, after, sent⟩ := sendPositiveResponse_responses
    (s := { begun r address s with toCore := handled.1 }) early svc.sid prepared filled
  have whole : (udsResponse cfg early handled.2 svc index
      { begun r address s with toCore := handled.1 }).log = s.log ++ (worked ++ events) := by
    rw [code]
    calc (udsResponse cfg early positiveResponse svc index
          { begun r address s with toCore := handled.1 }).log
        = (sendPositiveResponse cfg early svc.sid
            { begun r address s with toCore := handled.1 }).log := by rw [udsResponse, if_pos rfl]
      _ = handled.1.log ++ events := after
      _ = s.log ++ (worked ++ events) := by
          rw [log, List.append_assoc]
          rfl
  refine ⟨handled.1.suppressPosResp, ?_⟩
  show responses (since s (udsResponse cfg early handled.2 svc index _)) = _
  rw [since_eq whole, responses_append, responses_service service, sent]
  rfl

theorem postponed_remains {scratch : List UInt8} {late : Bool} (given : r.address = some address)
    (delays : svc.mayDelay = true) (bare : svc = .cdtci → scratch = [])
    (admitted : Admitted cfg r (postponed session scratch late) s index svc)
    (fitting : svc.fitting (r.length - 1) = true) :
    Remains index (svc.header fun k => r.bytes (k + 1))
      (apiDataIndication cfg r (postponed session scratch late) s).toCore := by
  have clear : svc = .cdtci → scratch = [] ∧ 0 = 0 := fun same => ⟨bare same, rfl⟩
  obtain ⟨code, prepared, _⟩ := handle_prepared (fun k => r.bytes (k + 1)) (address + 1)
    (a := (postponed session scratch late).answer)
    (c := { (begun r address s).toCore with isBusy := true }) delays rfl (fun _ => rfl) clear
    fitting
  rw [admitted.answered given]
  generalize handle _ _ _ _ _ svc = handled at code prepared ⊢
  have again : (postponed session scratch late).answer.code = responsePending := rfl
  rw [code, again, udsResponse, if_neg (by decide), if_pos rfl]
  simp only [hasPending_of_mayDelay delays, if_true]
  apply sendPendingResponse_remains
  exact ⟨fun _ => ⟨prepared.front, prepared.respLen⟩, Or.inl rfl⟩

end Answers

/-- A service that has its data at once sends the response it sends when it is pending first, is
pending in any number of rounds, and then has the same data: the same bytes and as many. Only
the wish of the tester to suppress the response is forgotten once the service was pending. -/
theorem delayed_as_immediate (cfg : Config) (s t : State) (r : Request) (session : UInt8)
    {address index : Nat} {svc : Service} (given : r.address = some address)
    (delays : svc.mayDelay = true) (d scratch : List UInt8)
    (bare : svc = .cdtci → d = [] ∧ scratch = []) (early late : Bool)
    (admitted : Admitted cfg r (immediate session d early) s index svc)
    (at_once : (handle (fun k => r.bytes (k + 1)) (r.length - 1) (immediate session d early).answer
      { (begun r address s).toCore with isBusy := true } (address + 1) svc).2 = positiveResponse)
    (rounds : List Op)
    (guarded : Guarded (step cfg) (Round cfg)
      (apiDataIndication cfg r (postponed session scratch late) s) rounds)
    (reached :
      run (step cfg) (apiDataIndication cfg r (postponed session scratch late) s) rounds = t)
    (pending : pendingEntry cfg t.toCore = some svc) (confirmed : t.rcrrpTxConfirm = true)
    (m : Cycle) (done : m.answer = (immediate session d early).answer)
    (in_time : t.rcrrpPendingTimer.update m.limitDue ≠ .elapsed) :
    ∃ data suppress suppress',
      responses (since s (apiDataIndication cfg r (immediate session d early) s)) =
        [⟨svc.sid + sidPr, data, suppress⟩] ∧
      responses (since t (coreCyclic cfg m t)) = [⟨svc.sid + sidPr, data, suppress'⟩] := by
  have fitting := handle_fitting at_once
  have entry := (findService_entry admitted.entry).1
  have rdbi : svc = .rdbi → (svc.header fun k => r.bytes (k + 1)).length = 2 := by
    rintro rfl
    rfl
  have short := header_short (fun k => r.bytes (k + 1)) svc
  have admitted' : Admitted cfg r (postponed session scratch late) s index svc :=
    ⟨admitted.entry, admitted.taken, admitted.permitted, admitted.enough⟩
  have preserved : ∀ u op, Remains index (svc.header fun k => r.bytes (k + 1)) u.toCore →
      Round cfg u op → Remains index (svc.header fun k => r.bytes (k + 1)) (step cfg u op).toCore :=
    fun _ _ remains round => round_remains entry rdbi short remains round
  have remains := guarded_invariant preserved
    (postponed_remains given delays (fun same => (bare same).2) admitted' fitting) guarded
  rw [reached] at remains
  have number : t.rcrrpSidIndex = index := by
    rcases remains.dropped with same | invalid
    · exact same
    · rw [pendingEntry, invalid, invalid_entry] at pending
      cases pending
  obtain ⟨suppress, sent⟩ :=
    immediate_responses given delays (fun same => (bare same).1) admitted fitting
  exact ⟨_, suppress, t.suppressPosResp, sent, cyclic_positive entry (hasPending_of_mayDelay delays)
    rdbi short number (remains.prepared number) confirmed done in_time⟩

def readRequest : Request := ⟨some 1000, fun k => [0x22, 0xF1, 0x90].getD k 0, 3⟩

def readCycle : Cycle := { cycle positiveResponse false with
  answer := ⟨positiveResponse, 3, [0x41, 0x42, 0x43]⟩ }

theorem delayed_as_immediate_read : ∃ data suppress suppress',
    responses (since (coreReset powerUp) (apiDataIndication sampleConfig readRequest
        (immediate 1 [0x41, 0x42, 0x43] false) (coreReset powerUp))) =
      [⟨0x62, data, suppress⟩] ∧
    responses (since
        (run (step sampleConfig) (apiDataIndication sampleConfig readRequest
          (postponed 1 [0xEE] false) (coreReset powerUp))
          [.txConfirmation, .cyclic (cycle responsePending false)])
        (coreCyclic sampleConfig readCycle
          (run (step sampleConfig) (apiDataIndication sampleConfig readRequest
            (postponed 1 [0xEE] false) (coreReset powerUp))
            [.txConfirmation, .cyclic (cycle responsePending false)]))) =
      [⟨0x62, data, suppress'⟩] := by
  apply @delayed_as_immediate sampleConfig (coreReset powerUp) _ readRequest 1 1000 4 .rdbi rfl
    rfl [0x41, 0x42, 0x43] [0xEE] (fun same => by cases same) false false _ rfl
    [.txConfirmation, .cyclic (cycle responsePending false)] _ rfl rfl rfl readCycle rfl
  · decide
  · exact ⟨by decide, rfl, by decide, by decide⟩
  · exact ⟨trivial, rfl, trivial⟩

end AnchorNode.Uds
