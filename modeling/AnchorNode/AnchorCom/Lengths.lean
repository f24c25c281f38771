import AnchorNode.AnchorCom.Delivery

/-! The length of a received message, from its arrival to its delivery. -/

namespace AnchorNode.AnchorCom.Rx

open AnchorNode.Lib

section Subtractions
variable (cfg : Config) (env : Env) (j : Job)

/-! The subtractions on the `DataLen` of an entry that a part of the work makes: each with what
it subtracts from and what it subtracts. -/

/-- `rbdAnchorComTp_RxFormatForCmac`: the places of the two halves of the trailer, and the one
of the freshness value. -/
def formatSubtractions : List (Nat × Nat) :=
  if findIdx cfg (j.buffer chanIdLen) < cfg.numMsg then
    (if j.entry.dataLen > 4 then [(j.entry.dataLen, appendLen), (j.entry.dataLen, cmacLen)]
      else []) ++
      if (rxFormatForCmac cfg env j).2 = .ok then [(j.entry.dataLen, appendLen)] else []
  else []

/-- `rbdAnchorComTp_RxPart1`: a verified message loses its freshness value. -/
def part1Subtractions : List (Nat × Nat) :=
  (if j.entry.queueState = .queued then formatSubtractions cfg env j else []) ++
    let j := rxPrepare cfg env j
    if j.entry.queueState = .cmacReady ∧ (rxStartCmac env j).2 = .ok then
      [(j.entry.dataLen, freshLen)]
    else []

/-- `rbdAnchorComTp_RxStartDecryption` and `rbdAnchorComTp_RxPart2`, which removes the padding
that the flag byte names. -/
def part2Subtractions : List (Nat × Nat) :=
  if j.entry.queueState = .decReady then
    let started := rxStartDecryption env j
    (j.entry.dataLen, headerLen) ::
      if started.2 = .ok then [(j.entry.dataLen, (started.1.buffer 2 &&& 0x0F).toNat)] else []
  else []

/-- `rbdAnchorComTp_RxDistributeMsg`. -/
def part3Subtractions : List (Nat × Nat) :=
  if j.entry.queueState = .processReady ∧ (cfg.msgCfg j.entry.msgIdx).rxIndication = true then
    [(j.entry.dataLen, headerLen)]
  else []

def subtractions : List (Nat × Nat) :=
  part1Subtractions cfg env j ++ part2Subtractions env (rxPart1 cfg env j) ++
    part3Subtractions cfg (rxPart2 cfg env (rxPart1 cfg env j))

end Subtractions

/-- A message that has arrived, as an entry and its buffer, and what any number of calls of the
cyclic function make of the two, whatever the neighbouring modules answer. -/
inductive Served (cfg : Config) (bytes : List UInt8) : Entry → Mem → Prop
  | arrived {e : Entry} {buffer : Mem} (state : e.queueState = .queued)
      (dataLen : e.dataLen = bytes.length) (holds : buffer.read 0 bytes.length = bytes) :
      Served cfg bytes e buffer
  | again (env : Env) (log : List Event) {e : Entry} {buffer : Mem}
      (served : Served cfg bytes e buffer) :
      Served cfg bytes (process cfg env ⟨e, buffer, log⟩).entry
        (process cfg env ⟨e, buffer, log⟩).buffer

/-- Whatever is answered, no subtraction on the length of the message goes below zero and what
is delivered is no longer than the payload that was received. -/
def LengthsSound (cfg : Config) (bytes : List UInt8) : Prop :=
  ∀ e buffer, Served cfg bytes e buffer → ∀ env log,
    (∀ p ∈ subtractions cfg env ⟨e, buffer, log⟩, p.2 ≤ p.1) ∧
    ∀ events, (process cfg env ⟨e, buffer, log⟩).log = log ++ events →
      ∀ k i pduId payload, Event.delivered k i pduId payload ∈ events →
        payload.length ≤ bytes.length - (headerLen + appendLen)

section Message
variable (cfg : Config) (bytes : List UInt8)

def namedMsg : MsgCfg := cfg.msgCfg (findIdx cfg (headerPdu bytes))

def plainLen : Nat :=
  sub16 (bytes.length - appendLen)
    (if (namedMsg cfg bytes).encDecFlag then paddingLen bytes else 0)

def possibleSubtractions : List (Nat × Nat) :=
  if findIdx cfg (headerPdu bytes) < cfg.numMsg then
    [(bytes.length, appendLen), (bytes.length, cmacLen),
      (u16 (bytes.length + appendLen), freshLen)] ++
    (if (namedMsg cfg bytes).encDecFlag then
      [(bytes.length - appendLen, headerLen), (bytes.length - appendLen, paddingLen bytes)]
    else []) ++
    if (namedMsg cfg bytes).rxIndication then [(plainLen cfg bytes, headerLen)] else []
  else []

/-- A message that is known has room for the freshness value, and an encrypted one has as many
bytes as its header says are padding: of payload, if it is delivered. -/
def LengthsFit : Prop :=
  findIdx cfg (headerPdu bytes) < cfg.numMsg →
    bytes.length + appendLen < 65536 ∧
    ((namedMsg cfg bytes).encDecFlag = true → paddingLen bytes ≤ bytes.length - appendLen ∧
      ((namedMsg cfg bytes).rxIndication = true →
        paddingLen bytes ≤ bytes.length - (headerLen + appendLen)))

end Message

structure Named (cfg : Config) (bytes : List UInt8) (m : Nat) (buffer : Mem) : Prop where
  known : findIdx cfg (headerPdu bytes) < cfg.numMsg
  msgIdx : m = findIdx cfg (headerPdu bytes)
  flags : buffer 2 = bytes.getD 2 0

def Measured (cfg : Config) (bytes : List UInt8) (e : Entry) (buffer : Mem) : Prop :=
  match e.queueState with
  | .queued => e.dataLen = bytes.length ∧ buffer.read 0 bytes.length = bytes
  | .cmacReady | .cmacRunning =>
    Named cfg bytes e.msgIdx buffer ∧ e.dataLen = u16 (bytes.length + appendLen)
  | .decReady | .decRunning => Named cfg bytes e.msgIdx buffer ∧
      e.dataLen = bytes.length - appendLen ∧ (namedMsg cfg bytes).encDecFlag = true
  | .processReady | .processDone => Named cfg bytes e.msgIdx buffer ∧ e.dataLen = plainLen cfg bytes
  | .idle => False

def Job.Measured (cfg : Config) (bytes : List UInt8) (j : Job) : Prop :=
  Rx.Measured cfg bytes j.entry j.buffer

section Stages
variable {cfg : Config} {bytes : List UInt8} {j : Job} (env : Env)

omit env in
theorem Job.Measured.queued (measured : j.Measured cfg bytes)
    (state : j.entry.queueState = .queued) :
    j.entry.dataLen = bytes.length ∧ j.buffer.read 0 bytes.length = bytes := by
  simpa only [Job.Measured, Rx.Measured, state] using measured

omit env in
theorem Job.Measured.cmacReady (measured : j.Measured cfg bytes)
    (state : j.entry.queueState = .cmacReady) :
    Named cfg bytes j.entry.msgIdx j.buffer ∧ j.entry.dataLen = u16 (bytes.length + appendLen) := by
  simpa only [Job.Measured, Rx.Measured, state] using measured

omit env in
theorem Job.Measured.decReady (measured : j.Measured cfg bytes)
    (state : j.entry.queueState = .decReady) :
    Named cfg bytes j.entry.msgIdx j.buffer ∧ j.entry.dataLen = bytes.length - appendLen ∧
      (namedMsg cfg bytes).encDecFlag = true := by
  simpa only [Job.Measured, Rx.Measured, state] using measured

omit env in
theorem Job.Measured.processReady (measured : j.Measured cfg bytes)
    (state : j.entry.queueState = .processReady) :
    Named cfg bytes j.entry.msgIdx j.buffer ∧ j.entry.dataLen = plainLen cfg bytes := by
  simpa only [Job.Measured, Rx.Measured, state] using measured

theorem pdu_read {buffer : Mem} (long : headerLen + appendLen < bytes.length)
    (holds : buffer.read 0 bytes.length = bytes) : buffer chanIdLen = headerPdu bytes :=
  read_getD holds (by simp only [chanIdLen, headerLen, appendLen] at *; omega)

theorem Job.Measured.failure {running : RxQueueState} (measured : j.Measured cfg bytes)
    (goesOn : Rx.Measured cfg bytes { j.entry with queueState := running } j.buffer)
    (result : Result) :
    (j.setEntry (Rx.failure cfg running result j.entry)).Measured cfg bytes := by
  cases result with
  | pending => exact goesOn
  | _ => exact measured

theorem rxPrepare_measured (long : headerLen + appendLen < bytes.length)
    (measured : j.Measured cfg bytes) : (rxPrepare cfg env j).Measured cfg bytes := by
  have sizes : headerLen = 3 ∧ appendLen = 4 := ⟨rfl, rfl⟩
  unfold rxPrepare
  by_cases queued : j.entry.queueState = .queued
  · obtain ⟨dataLen, holds⟩ := measured.queued queued
    have pdu := pdu_read long holds
    -- what fails leaves the length and the buffer alone
    have again : ∀ e : Entry, e.queueState = .queued → e.dataLen = j.entry.dataLen →
        Rx.Measured cfg bytes e j.buffer := by
      intro e state same
      simp only [Rx.Measured, state]
      exact ⟨same.trans dataLen, holds⟩
    rw [if_pos queued]
    unfold rxFormatForCmac
    by_cases known : findIdx cfg (j.buffer chanIdLen) < cfg.numMsg
    · simp only [known, if_true, dataLen, show bytes.length > 4 by omega]
      split
      · simp only [ne_eq, not_true_eq_false, if_false]
        simp only [Job.Measured, Rx.Measured]
        refine ⟨⟨pdu ▸ known, by rw [pdu], ?_⟩, trivial⟩
        rw [write_outside _ _ _ _ (Or.inl (by omega)), write_outside _ _ _ _ (Or.inr (by simp))]
        exact read_getD holds (by omega)
      · simp only [ne_eq, reduceCtorEq, not_false_eq_true, if_true]
        exact again _ queued dataLen.symm
    · simp only [known, if_false, ne_eq, reduceCtorEq, not_false_eq_true, if_true]
      exact again _ queued rfl
  · rw [if_neg queued]
    exact measured

theorem rxPart1_measured (long : headerLen + appendLen < bytes.length)
    (short : bytes.length < 65536) (measured : j.Measured cfg bytes) :
    (rxPart1 cfg env j).Measured cfg bytes := by
  have prepared := rxPrepare_measured env long measured
  have sizes : headerLen = 3 ∧ appendLen = 4 ∧ freshLen = 8 := ⟨rfl, rfl, rfl⟩
  unfold rxPart1
  generalize rxPrepare cfg env j = j at prepared
  by_cases ready : j.entry.queueState = .cmacReady
  · obtain ⟨named, dataLen⟩ := prepared.cmacReady ready
    have started : (rxStartCmac env j).1.Measured cfg bytes := prepared
    simp only [ready, if_true]
    by_cases done : (rxStartCmac env j).2 = .ok
    · rw [if_pos done]
      have trimmed : sub16 j.entry.dataLen freshLen = bytes.length - appendLen := by
        rw [dataLen, sub16, u16]
        omega
      have message : cfg.msgCfg j.entry.msgIdx = namedMsg cfg bytes := by
        rw [named.msgIdx, namedMsg]
      simp only [Job.Measured, Rx.Measured, Job.setEntry, rxStartCmac, Job.emit, message, trimmed]
      by_cases encrypted : (namedMsg cfg bytes).encDecFlag = true
      · rw [if_pos encrypted]
        exact ⟨named, trivial, encrypted⟩
      · rw [if_neg encrypted]
        refine ⟨named, ?_⟩
        rw [plainLen, if_neg encrypted, sub16_of_le (by omega) (by omega), Nat.sub_zero]
    · rw [if_neg done]
      apply started.failure
      exact ⟨named, dataLen⟩
  · simp only [ready, if_false]
    exact prepared

theorem rxStartDecryption_flags (j : Job) : (rxStartDecryption env j).1.buffer 2 = j.buffer 2 := by
  simp only [rxStartDecryption, Job.emit]
  exact write_outside _ _ _ _ (Or.inl (by decide))

theorem rxPart2_measured (measured : j.Measured cfg bytes) :
    (rxPart2 cfg env j).Measured cfg bytes := by
  unfold rxPart2
  by_cases ready : j.entry.queueState = .decReady
  · obtain ⟨named, dataLen, encrypted⟩ := measured.decReady ready
    have flags := (rxStartDecryption_flags env j).trans named.flags
    have started : Named cfg bytes j.entry.msgIdx (rxStartDecryption env j).1.buffer :=
      ⟨named.known, named.msgIdx, flags⟩
    simp only [ready, if_true]
    by_cases done : (rxStartDecryption env j).2 = .ok
    · rw [if_pos done]
      refine ⟨started, ?_⟩
      show sub16 j.entry.dataLen _ = _
      rw [flags, dataLen, plainLen, if_pos encrypted, paddingLen]
    · rw [if_neg done]
      have kept : (rxStartDecryption env j).1.Measured cfg bytes := by
        simp only [Job.Measured, Rx.Measured, show (rxStartDecryption env j).1.entry = j.entry
          from rfl, ready]
        exact ⟨started, dataLen, encrypted⟩
      apply kept.failure
      exact ⟨started, dataLen, encrypted⟩
  · rw [if_neg ready]
    exact measured

omit env in
theorem rxPart3_measured (measured : j.Measured cfg bytes) :
    (rxPart3 cfg j).Measured cfg bytes := by
  have distributed : (rxDistributeMsg cfg j).1.entry = j.entry ∧
      (rxDistributeMsg cfg j).1.buffer = j.buffer := by
    unfold rxDistributeMsg
    simp only
    split
    · exact ⟨rfl, rfl⟩
    · exact ⟨rfl, rfl⟩
  obtain ⟨entry, buffer⟩ := distributed
  unfold rxPart3
  by_cases ready : j.entry.queueState = .processReady
  · obtain ⟨named, dataLen⟩ := measured.processReady ready
    simp only [ready, if_true]
    split
    · simp only [Job.Measured, Rx.Measured, Job.setEntry, entry, buffer]
      exact ⟨named, dataLen⟩
    · split
      · simp only [Job.Measured, Rx.Measured, Job.setEntry, entry, buffer, ready]
        exact ⟨named, dataLen⟩
      · simp only [Job.Measured, Rx.Measured, Job.setEntry, entry, buffer, ready]
        exact ⟨named, dataLen⟩
  · rw [if_neg ready]
    exact measured

theorem process_measured (long : headerLen + appendLen < bytes.length)
    (short : bytes.length < 65536) (measured : j.Measured cfg bytes) :
    (process cfg env j).Measured cfg bytes :=
  rxPart3_measured (rxPart2_measured env (rxPart1_measured env long short measured))

omit env in
theorem Served.measured {e : Entry} {buffer : Mem} (long : headerLen + appendLen < bytes.length)
    (short : bytes.length < 65536) (served : Served cfg bytes e buffer) :
    Rx.Measured cfg bytes e buffer := by
  induction served with
  | arrived state dataLen holds =>
      simp only [Rx.Measured, state]
      exact ⟨dataLen, holds⟩
  | again env log served ih => exact process_measured env (j := ⟨_, _, log⟩) long short ih

end Stages

section Values
variable {cfg : Config} {bytes : List UInt8} {j : Job} {p : Nat × Nat} (env : Env)

theorem formatSubtractions_possible (long : headerLen + appendLen < bytes.length)
    (measured : j.Measured cfg bytes) (queued : j.entry.queueState = .queued)
    (member : p ∈ formatSubtractions cfg env j) : p ∈ possibleSubtractions cfg bytes := by
  obtain ⟨dataLen, holds⟩ := measured.queued queued
  unfold formatSubtractions at member
  rw [dataLen, pdu_read long holds] at member
  split at member
  · rename_i known
    unfold possibleSubtractions
    rw [if_pos known]
    rcases List.mem_append.mp member with read | written
    · split at read
      · simp only [List.mem_cons, List.not_mem_nil, or_false] at read
        rcases read with rfl | rfl
        · simp
        · simp
      · cases read
    · split at written
      · rw [List.mem_singleton.mp written]
        simp
      · cases written
  · cases member

theorem part1Subtractions_possible (long : headerLen + appendLen < bytes.length)
    (measured : j.Measured cfg bytes) (member : p ∈ part1Subtractions cfg env j) :
    p ∈ possibleSubtractions cfg bytes := by
  have prepared := rxPrepare_measured env long measured
  rcases List.mem_append.mp member with format | verified
  · split at format
    · rename_i queued
      exact formatSubtractions_possible env long measured queued format
    · cases format
  · simp only at verified
    split at verified
    · rename_i ready
      obtain ⟨named, dataLen⟩ := prepared.cmacReady ready.1
      rw [List.mem_singleton.mp verified, dataLen]
      simp [possibleSubtractions, named.known]
    · cases verified

theorem part2Subtractions_possible (measured : j.Measured cfg bytes)
    (member : p ∈ part2Subtractions env j) : p ∈ possibleSubtractions cfg bytes := by
  unfold part2Subtractions at member
  split at member
  · rename_i ready
    obtain ⟨named, dataLen, encrypted⟩ := measured.decReady ready
    have flags := (rxStartDecryption_flags env j).trans named.flags
    simp only [dataLen, flags, List.mem_cons] at member
    rcases member with rfl | padding
    · simp [possibleSubtractions, named.known, encrypted]
    · split at padding
      · rw [List.mem_singleton.mp padding]
        simp [possibleSubtractions, named.known, encrypted, paddingLen]
      · cases padding
  · cases member

omit env in
theorem part3Subtractions_possible (measured : j.Measured cfg bytes)
    (member : p ∈ part3Subtractions cfg j) : p ∈ possibleSubtractions cfg bytes := by
  unfold part3Subtractions at member
  split at member
  · rename_i ready
    obtain ⟨named, dataLen⟩ := measured.processReady ready.1
    have listens : (namedMsg cfg bytes).rxIndication = true := by
      rw [namedMsg, ← named.msgIdx]
      exact ready.2
    rw [List.mem_singleton.mp member, dataLen]
    simp [possibleSubtractions, named.known, listens]
  · cases member

theorem subtractions_possible (long : headerLen + appendLen < bytes.length)
    (short : bytes.length < 65536) (measured : j.Measured cfg bytes)
    (member : p ∈ subtractions cfg env j) : p ∈ possibleSubtractions cfg bytes := by
  have first := rxPart1_measured env long short measured
  rcases List.mem_append.mp member with early | third
  · rcases List.mem_append.mp early with one | two
    · exact part1Subtractions_possible env long measured one
    · exact part2Subtractions_possible env first two
  · exact part3Subtractions_possible (rxPart2_measured env first) third

omit env in
theorem possibleSubtractions_sound_iff (long : headerLen + appendLen < bytes.length)
    (short : bytes.length < 65536) :
    (∀ p ∈ possibleSubtractions cfg bytes, p.2 ≤ p.1) ↔ LengthsFit cfg bytes := by
  have sizes : headerLen = 3 ∧ appendLen = 4 ∧ cmacLen = 3 ∧ freshLen = 8 := ⟨rfl, rfl, rfl, rfl⟩
  have few := paddingLen_le bytes
  have fresh : freshLen ≤ u16 (bytes.length + appendLen) ↔ bytes.length + appendLen < 65536 := by
    unfold u16
    omega
  unfold possibleSubtractions LengthsFit plainLen
  by_cases known : findIdx cfg (headerPdu bytes) < cfg.numMsg
  · simp only [known, if_true, forall_const, List.forall_mem_append, List.forall_mem_cons,
      fresh]
    cases (namedMsg cfg bytes).encDecFlag
    · cases (namedMsg cfg bytes).rxIndication
      · simp
        omega
      · simp
        unfold sub16
        omega
    · cases (namedMsg cfg bytes).rxIndication
      · simp
        omega
      · simp
        unfold sub16
        omega
  · simp [known]

theorem rxPart3_log (cfg : Config) (j : Job) :
    (rxPart3 cfg j).log = j.log ++
      if j.entry.queueState = .processReady ∧ (cfg.msgCfg j.entry.msgIdx).rxIndication = true then
        [.delivered j.entry.ticket j.entry.anchorId (cfg.msgCfg j.entry.msgIdx).pduId
          (j.buffer.read headerLen (sub16 j.entry.dataLen headerLen))]
      else [] := by
  unfold rxPart3 rxDistributeMsg
  by_cases ready : j.entry.queueState = .processReady
  · by_cases listens : (cfg.msgCfg j.entry.msgIdx).rxIndication = true
    · simp only [ready, listens, and_self, if_true]
      rfl
    · simp [ready, listens, Job.setEntry]
  · simp [ready]

theorem Undelivered.none {j' : Job} {events : List Event} (undelivered : Undelivered j j')
    (log : j'.log = j.log ++ events) (k i : Nat) (pduId : UInt8) (payload : List UInt8) :
    Event.delivered k i pduId payload ∉ events := by
  intro member
  have same := undelivered.delivered i
  rw [log, deliveredTo_append, List.append_right_eq_self] at same
  have absent := List.filterMap_eq_nil_iff.mp same _ member
  simp [Event.delivery] at absent

theorem process_delivered (long : headerLen + appendLen < bytes.length)
    (short : bytes.length < 65536) (measured : j.Measured cfg bytes) {events : List Event}
    (log : (process cfg env j).log = j.log ++ events) {k i : Nat} {pduId : UInt8}
    {payload : List UInt8} (member : Event.delivered k i pduId payload ∈ events) :
    findIdx cfg (headerPdu bytes) < cfg.numMsg ∧ (namedMsg cfg bytes).rxIndication = true ∧
      payload.length = sub16 (plainLen cfg bytes) headerLen := by
  have worked := rxPart2_measured env (rxPart1_measured env long short measured)
  obtain ⟨_, first, log1, _⟩ := rxPart1_extends cfg env j
  obtain ⟨_, second, log2, _⟩ := rxPart2_extends cfg env (rxPart1 cfg env j)
  have log3 := rxPart3_log cfg (rxPart2 cfg env (rxPart1 cfg env j))
  rw [process, log3, log2, log1, List.append_assoc, List.append_assoc,
    List.append_cancel_left_eq] at log
  rw [← log] at member
  rcases List.mem_append.mp member with one | later
  · exact absurd one ((rxPart1_undelivered cfg env j).none log1 k i pduId payload)
  · rcases List.mem_append.mp later with two | three
    · exact absurd two ((rxPart2_undelivered cfg env _).none log2 k i pduId payload)
    · split at three
      · rename_i ready
        obtain ⟨named, dataLen⟩ := worked.processReady ready.1
        simp only [List.mem_singleton, Event.delivered.injEq] at three
        obtain ⟨_, _, _, handed⟩ := three
        refine ⟨named.known, ?_, ?_⟩
        · rw [namedMsg, ← named.msgIdx]
          exact ready.2
        · rw [handed, read_length, dataLen]
      · cases three

end Values

section Open
variable {cfg : Config} {bytes : List UInt8} {j : Job}

def openEnv : Env where
  isCryptoFree := fun _ => true
  rxFreshness := fun _ _ => some fun _ => 0
  verify := fun _ _ _ => .ok
  decrypt := fun _ payload _ => (.ok, fun i => payload.getD i 0)

theorem rxFormatForCmac_open (known : findIdx cfg (j.buffer chanIdLen) < cfg.numMsg) :
    (rxFormatForCmac cfg openEnv j).2 = .ok ∧
      (rxFormatForCmac cfg openEnv j).1.entry.queueState = .cmacReady := by
  simp [rxFormatForCmac, known, openEnv]

theorem rxPrepare_open (queued : j.entry.queueState = .queued)
    (known : findIdx cfg (j.buffer chanIdLen) < cfg.numMsg) :
    (rxPrepare cfg openEnv j).entry.queueState = .cmacReady := by
  obtain ⟨done, state⟩ := rxFormatForCmac_open known
  simp only [rxPrepare, queued, if_true, done, ne_eq, not_true_eq_false, if_false]
  exact state

theorem rxPart1_open (ready : (rxPrepare cfg openEnv j).entry.queueState = .cmacReady) :
    (rxPart1 cfg openEnv j).entry.queueState =
      if (cfg.msgCfg (rxPrepare cfg openEnv j).entry.msgIdx).encDecFlag then .decReady
      else .processReady := by
  unfold rxPart1
  simp only [ready, if_true]
  rfl

theorem rxPart2_open (ready : j.entry.queueState = .decReady ∨ j.entry.queueState = .processReady) :
    (rxPart2 cfg openEnv j).entry.queueState = .processReady := by
  unfold rxPart2
  rcases ready with dec | process
  · rw [if_pos dec]
    rfl
  · rw [if_neg (by rw [process]; decide)]
    exact process

section Queued
variable (long : headerLen + appendLen < bytes.length) (short : bytes.length < 65536)
  (queued : j.entry.queueState = .queued) (measured : j.Measured cfg bytes)
  (known : findIdx cfg (headerPdu bytes) < cfg.numMsg)

include long queued measured known

theorem known_open : findIdx cfg (j.buffer chanIdLen) < cfg.numMsg := by
  rw [pdu_read long (measured.queued queued).2]
  exact known

theorem rxPart1_state_open : (rxPart1 cfg openEnv j).entry.queueState =
    if (namedMsg cfg bytes).encDecFlag then .decReady else .processReady := by
  have ready := rxPrepare_open queued (known_open long queued measured known)
  obtain ⟨named, -⟩ := (rxPrepare_measured openEnv long measured).cmacReady ready
  rw [rxPart1_open ready, named.msgIdx, namedMsg]

theorem rxPart2_state_open :
    (rxPart2 cfg openEnv (rxPart1 cfg openEnv j)).entry.queueState = .processReady := by
  apply rxPart2_open
  rw [rxPart1_state_open long queued measured known]
  split
  · exact Or.inl rfl
  · exact Or.inr rfl

theorem part1Subtractions_open : part1Subtractions cfg openEnv j =
    [(bytes.length, appendLen), (bytes.length, cmacLen), (bytes.length, appendLen),
      (u16 (bytes.length + appendLen), freshLen)] := by
  have sizes : headerLen = 3 ∧ appendLen = 4 := ⟨rfl, rfl⟩
  have known' := known_open long queued measured known
  have ready := rxPrepare_open queued known'
  have verified : (rxStartCmac openEnv (rxPrepare cfg openEnv j)).2 = .ok := rfl
  simp only [part1Subtractions, formatSubtractions, queued, if_true, known',
    (measured.queued queued).1, show bytes.length > 4 by omega, (rxFormatForCmac_open known').1,
    ready, verified, and_self, ((rxPrepare_measured openEnv long measured).cmacReady ready).2]
  rfl

include short

theorem part2Subtractions_open (encrypted : (namedMsg cfg bytes).encDecFlag = true) :
    part2Subtractions openEnv (rxPart1 cfg openEnv j) =
      [(bytes.length - appendLen, headerLen), (bytes.length - appendLen, paddingLen bytes)] := by
  have state := rxPart1_state_open long queued measured known
  rw [if_pos encrypted] at state
  have after := rxPart1_measured openEnv long short measured
  obtain ⟨named, length, -⟩ := after.decReady state
  have flags := (rxStartDecryption_flags openEnv (rxPart1 cfg openEnv j)).trans named.flags
  have done : (rxStartDecryption openEnv (rxPart1 cfg openEnv j)).2 = .ok := rfl
  simp only [part2Subtractions, state, if_true, length, flags, done, paddingLen]

theorem part3Subtractions_open (listens : (namedMsg cfg bytes).rxIndication = true) :
    part3Subtractions cfg (rxPart2 cfg openEnv (rxPart1 cfg openEnv j)) =
      [(plainLen cfg bytes, headerLen)] := by
  have state := rxPart2_state_open long queued measured known
  have after := rxPart2_measured openEnv (rxPart1_measured openEnv long short measured)
  obtain ⟨named, length⟩ := after.processReady state
  have listens' : (cfg.msgCfg (rxPart2 cfg openEnv
      (rxPart1 cfg openEnv j)).entry.msgIdx).rxIndication = true := by
    rw [named.msgIdx]
    exact listens
  rw [part3Subtractions, if_pos ⟨state, listens'⟩, length]

end Queued

theorem possible_open (long : headerLen + appendLen < bytes.length) (short : bytes.length < 65536)
    (queued : j.entry.queueState = .queued) (measured : j.Measured cfg bytes) {p : Nat × Nat}
    (member : p ∈ possibleSubtractions cfg bytes) : p ∈ subtractions cfg openEnv j := by
  unfold possibleSubtractions at member
  split at member
  · rename_i known
    unfold subtractions
    rw [List.mem_append, List.mem_append] at member ⊢
    rcases member with (format | decryption) | delivery
    · left; left
      rw [part1Subtractions_open long queued measured known]
      simp only [List.mem_cons, List.not_mem_nil, or_false] at format ⊢
      tauto
    · left; right
      split at decryption
      · rename_i encrypted
        rw [part2Subtractions_open long short queued measured known encrypted]
        exact decryption
      · cases decryption
    · right
      split at delivery
      · rename_i listens
        rw [part3Subtractions_open long short queued measured known listens]
        exact delivery
      · cases delivery
  · cases member

def arrivalJob (bytes : List UInt8) : Job where
  entry := ⟨0, 0, false, .queued, 0, bytes.length, 0, 0, [], 0⟩
  buffer := Mem.write (fun _ => 0) 0 bytes
  log := []

end Open

/-- A received message of at least the minimum length meets no subtraction below zero, and no
more than its payload is delivered, whatever the neighbouring modules answer, exactly when its
lengths fit: the minimum alone does not guarantee that an encrypted message has as many bytes
as its header says are padding. -/
theorem lengths_sound_iff (cfg : Config) (minimum : headerLen + 1 + appendLen ≤ cfg.minRxDataLen)
    (bytes : List UInt8) (long : cfg.minRxDataLen ≤ bytes.length) (short : bytes.length < 65536) :
    LengthsSound cfg bytes ↔ LengthsFit cfg bytes := by
  have sizes : headerLen = 3 ∧ appendLen = 4 := ⟨rfl, rfl⟩
  have long' : headerLen + appendLen < bytes.length := by omega
  constructor
  · intro sound
    apply (possibleSubtractions_sound_iff long' short).mp
    intro p member
    have holds : (arrivalJob bytes).buffer.read 0 bytes.length = bytes :=
      read_write_same (fun _ => 0) 0 bytes
    have served : Served cfg bytes (arrivalJob bytes).entry (arrivalJob bytes).buffer :=
      .arrived rfl rfl holds
    have taken := possible_open long' short (j := arrivalJob bytes) rfl
      (served.measured long' short) member
    exact (sound _ _ served openEnv []).1 p taken
  · intro fit e buffer served env log
    have measured : (Job.mk e buffer log).Measured cfg bytes := served.measured long' short
    have safe := (possibleSubtractions_sound_iff long' short).mpr fit
    constructor
    · intro p member
      exact safe p (subtractions_possible env long' short measured member)
    · intro events grown k i pduId payload member
      obtain ⟨known, listens, length⟩ := process_delivered env long' short measured grown member
      obtain ⟨_, padding⟩ := fit known
      rw [length, plainLen]
      cases encrypted : (namedMsg cfg bytes).encDecFlag
      · simp only [Bool.false_eq_true, if_false]
        unfold sub16
        omega
      · have few := (padding encrypted).2 listens
        simp only [if_true]
        unfold sub16
        omega

theorem lengths_sound_block :
    LengthsSound receiverConfig ([0, 0x10, 14] ++ List.replicate 16 9 ++ [1, 2, 3, 4]) :=
  (lengths_sound_iff receiverConfig (by decide) _ (by decide) (by decide)).mpr (by
    unfold LengthsFit
    decide)

def paddedOps : List Op :=
  [.startOfReception 0 7,
    .copyRxData 0 (some ⟨7, some fun i => [0x10, 15, 9, 1, 2, 3, 4].getD i 0⟩),
    .tpRxIndication 0 .ok]

/-- The padding is taken from the four bytes that are left, and far more than the message is
handed over. -/
theorem padding_below_zero :
    let s := run (step receiverConfig openEnv) (start receiverConfig emptyState) paddedOps
    s.log = [.arrived 0 0 0 [0, 0x10, 15, 9, 1, 2, 3, 4]] ∧
      (4, 15) ∈ subtractions receiverConfig openEnv
        ⟨s.front 0, (s.dataOf (s.front 0)).rxBuffer, s.log⟩ ∧
      (∃ payload, Event.delivered 0 0 0x10 payload ∈ (headJob receiverConfig openEnv s 0).log ∧
        payload.length = 65522) ∧
      ¬ LengthsSound receiverConfig [0, 0x10, 15, 9, 1, 2, 3, 4] := by
  intro s
  refine ⟨by decide +kernel, by decide +kernel, ?_, ?_⟩
  · let worked := rxPart2 receiverConfig openEnv (rxPart1 receiverConfig openEnv
      ⟨s.front 0, (s.dataOf (s.front 0)).rxBuffer, s.log⟩)
    have ready : worked.entry.queueState = .processReady ∧
        (receiverConfig.msgCfg worked.entry.msgIdx).rxIndication = true := by decide +kernel
    have named : worked.entry.ticket = 0 ∧ worked.entry.anchorId = 0 ∧
        (receiverConfig.msgCfg worked.entry.msgIdx).pduId = 0x10 := by decide +kernel
    have length : sub16 worked.entry.dataLen headerLen = 65522 := by decide +kernel
    refine ⟨worked.buffer.read headerLen 65522, ?_, read_length _ _ _⟩
    have log := rxPart3_log receiverConfig worked
    rw [if_pos ready, named.1, named.2.1, named.2.2, length] at log
    show _ ∈ (rxPart3 receiverConfig worked).log
    rw [log]
    exact List.mem_append_right _ (List.mem_singleton.mpr rfl)
  · intro sound
    let j := arrivalJob [0, 0x10, 15, 9, 1, 2, 3, 4]
    have served : Served receiverConfig [0, 0x10, 15, 9, 1, 2, 3, 4] j.entry j.buffer :=
      .arrived rfl rfl (by decide)
    have fits := (sound _ _ served openEnv []).1 (4, 15) (by decide +kernel)
    simp at fits

section Runs
variable {cfg : Config} {env : Env} {s t : State}

def AllServed (cfg : Config) (s : State) : Prop :=
  ∀ i < cfg.numLlRx, ∀ e ∈ s.entries i, ∃ bytes,
    Event.arrived e.ticket e.channel i bytes ∈ s.log ∧ cfg.minRxDataLen ≤ bytes.length ∧
      bytes.length < 65536 ∧ Served cfg bytes e (s.dataOf e).rxBuffer

theorem AllServed.still (served : AllServed cfg s) {i : Nat} (peer : i < cfg.numLlRx) {e : Entry}
    (member : e ∈ s.entries i) {events : List Event} (log : t.log = s.log ++ events)
    (data : (t.dataOf e).rxBuffer = (s.dataOf e).rxBuffer) :
    ∃ bytes, Event.arrived e.ticket e.channel i bytes ∈ t.log ∧ cfg.minRxDataLen ≤ bytes.length ∧
      bytes.length < 65536 ∧ Served cfg bytes e (t.dataOf e).rxBuffer := by
  obtain ⟨bytes, arrived, long, short, work⟩ := served i peer e member
  rw [data, log]
  exact ⟨bytes, List.mem_append_left _ arrived, long, short, work⟩

theorem Move.allServed (move : Move cfg env s t) (own : Owned cfg s) (owned : BuffersOwned cfg s)
    (served : AllServed cfg s) : AllServed cfg t := by
  cases move with
  | quiet events data queue next noise log =>
      intro i peer e member
      rw [State.entries, queue] at member
      exact served.still peer member log (by rw [State.dataOf, data]; rfl)
  | unbuffered c i channel peer enough busy =>
      intro i peer e member
      exact served.still peer member rfl rfl
  | unqueued id c i temp channel bound enough free full =>
      intro k peer e member
      have still := setData_still owned own channel bound free (s.filledData id c i temp false)
        peer member
      exact served.still peer member rfl (congrArg ChRxDataInfo.rxBuffer still)
  | queued id c i temp channel bound enough free room =>
      intro k peer e member
      have still : e ∈ s.entries k → ((s.setData temp c i (s.filledData id c i temp true)).dataOf
          e).rxBuffer = (s.dataOf e).rxBuffer := fun before => congrArg ChRxDataInfo.rxBuffer
        (setData_still owned own channel bound free (s.filledData id c i temp true) peer before)
      by_cases here : k = i
      · subst here
        rw [State.entries, State.setQueue_queue, Function.update_self, Ring.push_toList _ _ room,
          List.mem_append, List.mem_singleton] at member
        rcases member with before | rfl
        · exact served.still peer before rfl (still before)
        · have length : (s.message c k).length = (s.chRxInfo c k).rxOffset := read_length _ _ _
          refine ⟨s.message c k, by simp [newEntry], by omega,
            length ▸ (s.chRxInfo c k).rxOffset_lt, .arrived rfl length.symm ?_⟩
          simp only [State.dataOf, State.setQueue_chRxData, State.setData_chRxData, newEntry,
            and_self, if_true]
          exact read_write_same (s.chRxData temp c k).rxBuffer 0 (s.message c k)
      · rw [State.entries, State.setQueue_queue, Function.update_of_ne here] at member
        exact served.still peer member rfl (still member)
  | worked q bound filled anchor stays =>
      obtain ⟨channels, anchors, temps, ticket⟩ := Entry.key_eq (headJob_key cfg env s q)
      obtain ⟨events, log, _⟩ := headJob_log cfg env s q
      intro i peer e member
      rcases behind_replaced filled member with behind | ⟨rfl, rfl⟩
      · apply served.still peer behind.1 log
        have elsewhere := behind.elsewhere owned own filled peer
        simp [State.dataOf, elsewhere]
      · obtain ⟨bytes, arrived, long, short, work⟩ := served i bound _ (front_mem filled)
        refine ⟨bytes, ?_, long, short, ?_⟩
        · simp only [log, ticket, channels]
          exact List.mem_append_left _ arrived
        · simp only [State.dataOf, State.setQueue_chRxData, State.setData_chRxData, channels,
            anchors, temps, anchor, and_self, if_true]
          exact .again env s.log work
  | finished q bound filled anchor leaves =>
      obtain ⟨events, log, _⟩ := headJob_log cfg env s q
      intro i peer e member
      have behind := behind_removed filled member
      have elsewhere := behind.elsewhere owned own filled peer
      apply served.still peer behind.1
      · simp only [log, List.append_assoc]
        rfl
      · simp [State.dataOf, elsewhere]

theorem run_allServed (cfg : Config) (env : Env) (s₀ : State) (ops : List Op) :
    AllServed cfg (run (step cfg env) (start cfg s₀) ops) := by
  suffices both : BuffersOwned cfg (run (step cfg env) (start cfg s₀) ops) ∧
      AllServed cfg (run (step cfg env) (start cfg s₀) ops) from both.2
  apply run_moves fun s => BuffersOwned cfg s ∧ AllServed cfg s
  · intro u v move own ⟨owned, served⟩
    exact ⟨move.buffersOwned owned, move.allServed own owned served⟩
  · refine ⟨start_buffersOwned s₀, ?_⟩
    intro i peer e member
    rw [start_entries s₀ peer] at member
    cases member

/-- In every run the head of a queue is a message that arrived, and the work on it is sound when
the lengths of that message fit. -/
theorem run_head_sound (env : Env) (minimum : headerLen + 1 + appendLen ≤ cfg.minRxDataLen)
    (s₀ : State) (ops : List Op) :
    let s := run (step cfg env) (start cfg s₀) ops
    ∀ q < cfg.numLlRx, (s.queue q).isEmpty = false → ∃ bytes,
      Event.arrived (s.front q).ticket (s.front q).channel q bytes ∈ s.log ∧
      (LengthsFit cfg bytes → ∀ p ∈ subtractions cfg env
        ⟨s.front q, (s.dataOf (s.front q)).rxBuffer, s.log⟩, p.2 ≤ p.1) := by
  intro s q peer filled
  obtain ⟨bytes, arrived, long, short, work⟩ :=
    run_allServed cfg env s₀ ops q peer _ (front_mem filled)
  refine ⟨bytes, arrived, ?_⟩
  intro fit p member
  have sizes : headerLen = 3 ∧ appendLen = 4 := ⟨rfl, rfl⟩
  have long' : headerLen + appendLen < bytes.length := by omega
  apply (possibleSubtractions_sound_iff long' short).mpr fit
  exact subtractions_possible env long' short (work.measured long' short) member

end Runs

end AnchorNode.AnchorCom.Rx
